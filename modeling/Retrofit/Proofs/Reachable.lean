import Retrofit.Proofs.Cursor.Operation

/-!
Reachable bodies: those that operations make out of the empty body, directly or through cursors.
All of them are well-formed.
-/

namespace Retrofit.Body

/-- Bodies that can be made. Regions and plain data can be set to anything at any time. -/
inductive Reachable : Body → Prop where
  | empty : Reachable {}
  | edited (reached : Reachable body) (op : Op) : Reachable (op.after body)
  | atCursor (reached : Reachable cursor.body) (op : Cursor.Op) : Reachable (op.after cursor).body
  | dressed (reached : Reachable body) (regions : List Region) (maxStack : UInt16)
      (initLocals : Bool) (locals : List String) :
      Reachable { body with regions, maxStack, initLocals, locals }

theorem Reachable.wellFormed (reached : Reachable body) : body.WellFormed := by
  induction reached with
  | empty => exact wellFormed_empty
  | edited _ op ih => exact ih.changes (op.changes _)
  | atCursor _ op ih => exact ih.changes (op.changes _ ih)
  | dressed _ regions maxStack initLocals locals ih => exact ⟨ih.distinct, ih.issued, ih.held⟩

theorem Reachable.after (reached : Reachable body) (ops : List Op) :
    Reachable (body.after ops) := by
  induction ops generalizing body with
  | nil => exact reached
  | cons op rest ih => exact ih (reached.edited op)

end Retrofit.Body
