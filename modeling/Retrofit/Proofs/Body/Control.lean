import Retrofit.Module.Member
import Retrofit.Proofs.Body.Execution

/-!
Control from line to line through a body, with the lines that it runs on its way; and an abstract
machine for loads, tests and calls.
-/

namespace Retrofit

namespace Body

/-- Runs the line at which control is. Yields the line and where control goes, with which stack. -/
def advance? (body : Body) (semantics : Semantics α) :
    LabelPlace × List α → Option (Line × LabelPlace × List α)
  | (.line id, stack) => do
    let index ← body.indexOf? id
    let line ← body.lines[index]?
    let exit ← body.leave? (body.idAt? (index + 1)) (← semantics line.instr stack)
    return (line, exit)
  | _ => none

/-- Control gets from one place and stack to another by running the lines in order. -/
inductive Leads (body : Body) (semantics : Semantics α) :
    LabelPlace × List α → List Line → LabelPlace × List α → Prop where
  | here (state : LabelPlace × List α) : Leads body semantics state [] state
  | step {state next last : LabelPlace × List α} {line : Line} {trace : List Line}
      (advances : body.advance? semantics state = some (line, next))
      (later : Leads body semantics next trace last) :
      Leads body semantics state (line :: trace) last

variable {body : Body} {semantics : Semantics α} {front code back : List Line} {line : Line}
  {stack left : List α}

theorem Leads.trans {state middle last : LabelPlace × List α} {first second : List Line}
    (leads : body.Leads semantics state first middle)
    (later : body.Leads semantics middle second last) :
    body.Leads semantics state (first ++ second) last := by
  induction leads with
  | here => exact later
  | step advances _ ih => exact .step advances (ih later)

section Lines

variable (distinct : body.ids.Nodup)

include distinct

theorem advance?_of_lines (lines : body.lines.toList = front ++ line :: back) (stack : List α) :
    body.advance? semantics (.line line.id, stack) =
      (semantics line.instr stack).bind fun stopped =>
        (body.leave? (back.head?.map Line.id) stopped).map fun exit => (line, exit) := by
  have here : body.lines[front.length]? = some line := by
    rw [← Array.getElem?_toList, lines]
    simp
  have found : body.indexOf? line.id = some front.length :=
    indexOf?_of_idAt? distinct (idAt?_of_line here)
  have behind : body.idAt? (front.length + 1) = back.head?.map Line.id := by
    rw [idAt?, ← Array.getElem?_toList, lines]
    simp [List.getElem?_append_right, List.head?_eq_getElem?]
  rw [advance?, found, Option.bind_eq_bind, Option.bind_some, here, Option.bind_eq_bind,
    Option.bind_some, behind]
  cases semantics line.instr stack with
  | none => rfl
  | some stopped =>
    show Option.bind (body.leave? _ stopped) _ = Option.map _ (body.leave? _ stopped)
    cases body.leave? (back.head?.map Line.id) stopped <;> rfl

/-- A line that jumps leads to the place of the label. -/
theorem Leads.jump (lines : body.lines.toList = front ++ line :: back) {label : LabelId}
    {place : LabelPlace} (jumps : semantics line.instr stack = some (some label, left))
    (placed : body.placeOf? label = some place) :
    body.Leads semantics (.line line.id, stack) [line] (place, left) := by
  refine .step ?_ (.here _)
  rw [advance?_of_lines distinct lines, jumps, Option.bind_some, leave?, placed]
  rfl

theorem Leads.fall (lines : body.lines.toList = front ++ line :: back)
    (falls : semantics line.instr stack = some (none, left)) :
    body.Leads semantics (.line line.id, stack) [line] (.before (back.head?.map Line.id), left) := by
  refine .step ?_ (.here _)
  rw [advance?_of_lines distinct lines, falls]
  rfl

theorem Leads.branch (lines : body.lines.toList = front ++ line :: back) {label : LabelId}
    {place : LabelPlace} {condition : Bool} (branches : semantics line.instr stack =
      some (if condition then some label else none, left))
    (placed : body.placeOf? label = some place) :
    body.Leads semantics (.line line.id, stack) [line]
      (if condition then place else .before (back.head?.map Line.id), left) := by
  cases condition with
  | true => exact .jump distinct lines branches placed
  | false => exact .fall distinct lines branches

/-- Code that does not jump is run from its first line to what is behind it. -/
theorem Leads.straight (lines : body.lines.toList = front ++ code ++ back)
    (ran : semantics.run (code.map Line.instr) stack = some (none, left)) :
    body.Leads semantics (.before ((code ++ back).head?.map Line.id), stack) code
      (.before (back.head?.map Line.id), left) := by
  induction code generalizing front stack with
  | nil =>
    cases ran
    exact .here _
  | cons line code ih =>
    rw [List.append_assoc, List.cons_append] at lines
    have rest_lines : body.lines.toList = (front ++ [line]) ++ code ++ back := by simp [lines]
    rw [List.map_cons, Semantics.run] at ran
    split at ran
    · next middle falls => exact (Leads.fall distinct lines falls).trans (ih rest_lines ran)
    · next stopped =>
      cases other : semantics line.instr stack with
      | none => rw [other] at ran; cases ran
      | some exit =>
        rw [other] at ran
        cases ran
        exact absurd other (stopped left)

end Lines
end Body

/-- How often a method is called on the way through some lines. -/
def timesCalled (ref : MemberRef) (trace : List Line) : Nat :=
  (trace.map Line.instr).countP fun instr => instr.opcode.isCall && instr.operand = .member ref

theorem timesCalled_append (ref : MemberRef) (trace more : List Line) :
    timesCalled ref (trace ++ more) = timesCalled ref trace + timesCalled ref more := by
  rw [timesCalled, List.map_append, List.countP_append]
  rfl

/-- An abstract machine: what the first argument, fields and constants hold, which values exceed others
and which are set, and which methods are called. -/
structure Machine (α : Type) where
  argument : α
  field : MemberRef → α → α
  shared : MemberRef → α
  constant : UInt32 → α
  exceeds : α → α → Bool
  isSet : α → Bool
  called : MemberRef → MethodDef
  result : MemberRef → List α → α

namespace MethodDef

/-- The slots that a call takes off the stack: the arguments, and the object if there is one. -/
def taken (method : MethodDef) : Nat :=
  method.params.length + if method.flags.isStatic then 0 else 1

/-- The slots that a call puts on the stack. -/
def given (method : MethodDef) : Nat := if method.returnType = "System.Void" then 0 else 1

end MethodDef

namespace Machine

variable {α : Type}

/-- What a call does. It fails if there is too little on the stack. -/
def call (machine : Machine α) (ref : MemberRef) (stack : List α) : Option (List α) :=
  let method := machine.called ref
  if method.taken ≤ stack.length then
    some (List.replicate method.given (machine.result ref (stack.take method.taken)) ++
      stack.drop method.taken)
  else
    none

/-- What loads, tests and calls do. A jump that skips unless something is exceeded is the negation of
the one that is taken if it is, so that for values which are not in order the first is taken and the
second is not. -/
def perform (machine : Machine α) : Semantics α
  | ⟨.ldarg0, _⟩, stack => some (none, machine.argument :: stack)
  | ⟨.ldfld, .member ref⟩, object :: stack => some (none, machine.field ref object :: stack)
  | ⟨.ldsfld, .member ref⟩, stack => some (none, machine.shared ref :: stack)
  | ⟨.ldcR4, .float32 bits⟩, stack => some (none, machine.constant bits :: stack)
  | ⟨.bleUn, .label label⟩, limit :: value :: stack
  | ⟨.bleUnS, .label label⟩, limit :: value :: stack =>
    some (if machine.exceeds value limit then none else some label, stack)
  | ⟨.bgt, .label label⟩, limit :: value :: stack
  | ⟨.bgtS, .label label⟩, limit :: value :: stack =>
    some (if machine.exceeds value limit then some label else none, stack)
  | ⟨.brfalseS, .label label⟩, value :: stack =>
    some (if machine.isSet value then none else some label, stack)
  | ⟨.call, .member ref⟩, stack => (machine.call ref stack).map fun left => (none, left)
  | _, _ => none

/-- The value along a path of fields. -/
def along (machine : Machine α) (path : List MemberRef) : α :=
  path.foldl (fun object ref => machine.field ref object) machine.argument

end Machine
end Retrofit
