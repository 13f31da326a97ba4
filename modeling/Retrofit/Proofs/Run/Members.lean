import Retrofit.Proofs.Module.Tree
import Retrofit.Proofs.Run.Step

/-!
The loop of a run over types and their members. What holds of the members served so far, and goes on
to hold with each one more, holds of all members in the end (`Serving.types`).
-/

namespace Retrofit

open Edit (Ensures)

namespace Patcher

variable {patcher : Patcher ν} {origin : Module} {all served : List MemberId}
  {reached : List MemberId → Noted ν Progress → Prop}

/-- What a run has reached when some members have been served, as long as it takes all of them in the
given order. Types hold what they held at the start. -/
structure Serving (patcher : Patcher ν) (origin : Module) (all : List MemberId)
    (reached : List MemberId → Noted ν Progress → Prop) : Prop where
  parts : ∀ served noted, reached served noted →
    noted.state.workspace.module.types.map TypeDef.parts = origin.types.map TypeDef.parts
  member : ∀ served member, served ++ [member] <+: all →
    Ensures (reached served) (patcher.serveMember member) fun _ => reached (served ++ [member])

theorem Serving.members (serving : patcher.Serving origin all reached) (inject : ι → MemberId)
    (items : List ι) (within : served ++ items.map inject <+: all) :
    Ensures (reached served) (items.forM fun item => patcher.serveMember (inject item))
      fun _ => reached (served ++ items.map inject) := by
  induction items generalizing served with
  | nil =>
    rw [List.map_nil, List.append_nil]
    exact .pure fun _ held => held
  | cons item rest ih =>
    rw [List.map_cons, List.append_cons] at within ⊢
    have next : served ++ [inject item] <+: all := (List.prefix_append _ _).trans within
    exact .bind (serving.member served _ next) fun _ => ih within

theorem membersOf_eq {noted : Noted ν Progress} {id : TypeId} {type : TypeDef}
    (parts : noted.state.workspace.module.types.map TypeDef.parts =
      origin.types.map TypeDef.parts)
    (found : noted.state.workspace.module.typeAt id = .ok type) :
    origin.membersOf id = .type id :: (type.fields.map .field ++ type.methods.map .method) := by
  rw [← Module.membersOf_of_parts parts]
  rw [Module.typeAt] at found
  split at found
  · next listed =>
    cases found
    rw [Module.membersOf, Module.fieldsOf, Module.methodsOf, listed]
    rfl
  · cases found

theorem Serving.type (serving : patcher.Serving origin all reached) (id : TypeId)
    (within : served ++ origin.membersOf id <+: all) :
    Ensures (reached served) (patcher.serveType id)
      fun _ => reached (served ++ origin.membersOf id) := by
  have first : served ++ [.type id] <+: all := by
    rw [Module.membersOf, List.append_cons] at within
    exact (List.prefix_append _ _).trans within
  refine .bind (serving.member served _ first) fun _ => ?_
  refine Step.ensures_module_bind fun noted held => .demand_bind fun type found => ?_
  have holds := membersOf_eq (serving.parts _ noted held) found
  rw [holds, List.append_cons, ← List.append_assoc] at within ⊢
  have fields := serving.members MemberId.field type.fields ((List.prefix_append _ _).trans within)
  exact .bind (.at_state held fields) fun _ => serving.members MemberId.method type.methods within

theorem Serving.types (serving : patcher.Serving origin all reached) (order : List TypeId)
    (within : served ++ origin.membersAlong order <+: all) :
    Ensures (reached served) (order.forM patcher.serveType)
      fun _ => reached (served ++ origin.membersAlong order) := by
  induction order generalizing served with
  | nil =>
    rw [Module.membersAlong, List.flatMap_nil, List.append_nil]
    exact .pure fun _ held => held
  | cons id rest ih =>
    have split : origin.membersAlong (id :: rest) = origin.membersOf id ++ origin.membersAlong rest :=
      List.flatMap_cons
    rw [split, ← List.append_assoc] at within ⊢
    exact .bind (serving.type id ((List.prefix_append _ _).trans within)) fun _ => ih within

end Patcher
end Retrofit
