import Retrofit.Body.Region
import Retrofit.Instr.Basic

/-!
Method bodies: lines of code in the order in which they run, labels that branches jump to, and
exception regions. Labels and regions refer to lines by identity, so that lines can come and go
around them.
-/

namespace Retrofit

/-- An instruction with its identity. -/
structure Line where
  id : InstrId
  instr : Instr
deriving DecidableEq

/-- The place of a label: none yet, behind the last line, or at a line. -/
inductive LabelPlace where
  | unplaced
  | atEnd
  | line (id : InstrId)
deriving DecidableEq

/-- A method body. Identities below `nextId` have been given out, those of erased lines included. -/
structure Body where
  lines : Array Line := #[]
  nextId : Nat := 0
  labels : Array LabelPlace := #[]
  regions : List Region := []
  maxStack : UInt16 := 8
  initLocals : Bool := true
  locals : List String := []
deriving DecidableEq

namespace Body

def length (body : Body) : Nat := body.lines.size

def ids (body : Body) : List InstrId := body.lines.toList.map Line.id

def instrs (body : Body) : List Instr := body.lines.toList.map Line.instr

def idAt? (body : Body) (index : Nat) : Option InstrId :=
  body.lines[index]?.map Line.id

def instrAt? (body : Body) (index : Nat) : Option Instr :=
  body.lines[index]?.map Line.instr

def indexOf? (body : Body) (id : InstrId) : Option Nat :=
  body.lines.findIdx? fun line => line.id = id

def contains (body : Body) (id : InstrId) : Bool :=
  body.lines.any fun line => line.id = id

def get? (body : Body) (id : InstrId) : Option Instr :=
  (body.lines.find? fun line => line.id = id).map Line.instr

/-- The body with the instruction at an index changed; the line keeps its identity. -/
def changeAt (body : Body) (index : Nat) (change : Instr → Instr) : Body :=
  { body with
    lines := body.lines.modify index fun line => { line with instr := change line.instr } }

theorem contains_iff {body : Body} {id : InstrId} : body.contains id = true ↔ id ∈ body.ids := by
  simp [contains, ids, ← Array.any_toList]

theorem idAt?_eq (body : Body) (index : Nat) : body.idAt? index = body.ids[index]? := by
  simp [idAt?, ids]

theorem instrAt?_eq (body : Body) (index : Nat) : body.instrAt? index = body.instrs[index]? := by
  simp [instrAt?, instrs]

theorem indexOf?_eq (body : Body) (id : InstrId) :
    body.indexOf? id = body.ids.findIdx? fun found => found = id := by
  rcases body with ⟨⟨lines⟩⟩
  simp [indexOf?, ids, Function.comp_def]

theorem indexOf?_isSome {body : Body} {id : InstrId} :
    (body.indexOf? id).isSome = body.contains id := by
  rcases body with ⟨⟨lines⟩⟩
  simp [indexOf?, contains]

@[simp] theorem ids_changeAt (body : Body) (index : Nat) (change : Instr → Instr) :
    (body.changeAt index change).ids = body.ids := by
  apply List.ext_getElem?
  intro place
  simp only [ids, changeAt, Array.toList_modify, List.getElem?_map, List.getElem?_modify]
  cases body.lines.toList[place]? <;> simp
  split <;> rfl

end Body
end Retrofit
