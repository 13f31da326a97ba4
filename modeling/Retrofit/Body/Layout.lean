import Retrofit.Body.Labels

/-!
The layout of a body in bytes, and the choice between short and long branches that depends on it.
-/

namespace Retrofit

/-- How the forms of branches are chosen when a body is finished: all long, or short where the
distance allows. -/
inductive BranchPolicy where
  | allLong
  | fitting
deriving DecidableEq

def outOfReach (distance : Int) : Bool := distance < -128 || 127 < distance

def Line.widened (line : Line) : Line := { line with instr := line.instr.widened }

/-- Each line with its offset, the first at the given one. -/
def layoutFrom (offset : Nat) : List Line → List (Line × Nat)
  | [] => []
  | line :: rest => (line, offset) :: layoutFrom (offset + line.instr.size) rest

namespace Body

def layout (body : Body) : Array (Line × Nat) :=
  (body.lines.foldl
    (fun (entries, offset) line => (entries.push (line, offset), offset + line.instr.size))
    (#[], 0)).1

def offsets (body : Body) : List Nat := body.layout.toList.map Prod.snd

def offsetOf? (body : Body) (id : InstrId) : Option Nat :=
  (body.layout.find? fun entry => entry.1.id = id).map Prod.snd

def byteSize (body : Body) : Nat := body.instrs.foldl (fun size instr => size + instr.size) 0

/-- How far a branch jumps, counted from its end. A branch whose label has no line has no distance.
-/
def distance? (targets : Targets) (layout : Array (Line × Nat)) (entry : Line × Nat) :
    Option Int := do
  let label ← entry.1.instr.operand.label?
  let index ← targets.get? label
  let target ← layout[index]?
  return (target.2 : Int) - (entry.2 + entry.1.instr.size : Nat)

def holdsShortBranch (entry : Line × Nat) : Bool := entry.1.instr.opcode.isShortJump

/-- Whether a line holds a short branch that does not reach its target. -/
def isOverstretched (targets : Targets) (layout : Array (Line × Nat)) (entry : Line × Nat) : Bool :=
  holdsShortBranch entry && (distance? targets layout entry).any outOfReach

/-- The body with the branches at the chosen lines of its layout in their long form. -/
def widenedAt (body : Body) (chosen : Line × Nat → Bool) : Body :=
  { body with
    lines := body.layout.map fun entry => if chosen entry then entry.1.widened else entry.1 }

def widenAll : Edit Body Nat := do
  let body ← get
  set (body.widenedAt holdsShortBranch)
  return body.layout.countP holdsShortBranch

/-- Widens overstretched branches pass by pass, until a pass finds none. Widening moves code apart,
so one pass can call for the next; the targets serve all passes, since lines keep their order
(`targets_widenedAt`). -/
def widenFrom (targets : Targets) (limit : Nat) : Nat → Nat → Edit Body Nat
  | 0, _ => throw (.malformed (.fittingUnfinished limit))
  | passes + 1, count => do
    let body ← get
    let layout := body.layout
    let overstretched := isOverstretched targets layout
    match layout.countP overstretched with
    | 0 => return count
    | found => do
      set (body.widenedAt overstretched)
      widenFrom targets limit passes (count + found)

/-- Makes those branches long whose short form does not reach, in at most so many passes, and counts
them. -/
def widenAsNeeded (passes : Nat) : Edit Body Nat := do
  let body ← get
  widenFrom body.targets passes passes 0

/-- Chooses the forms of all branches, and counts those that become long. -/
def formBranches (policy : BranchPolicy) (passes : Nat) : Edit Body Nat :=
  match policy with
  | .allLong => widenAll
  | .fitting => widenAsNeeded passes

private theorem foldl_layoutFrom (lines : List Line) (entries : Array (Line × Nat)) (offset : Nat) :
    (lines.foldl
      (fun (entries, offset) line => (entries.push (line, offset), offset + line.instr.size))
      (entries, offset)).1.toList = entries.toList ++ layoutFrom offset lines := by
  induction lines generalizing entries offset with
  | nil => simp [layoutFrom]
  | cons line rest ih => simp [layoutFrom, ih]

theorem toList_layout (body : Body) : body.layout.toList = layoutFrom 0 body.lines.toList := by
  simpa [layout] using foldl_layoutFrom body.lines.toList #[] 0

@[simp] theorem map_fst_layoutFrom (offset : Nat) (lines : List Line) :
    (layoutFrom offset lines).map Prod.fst = lines := by
  induction lines generalizing offset with
  | nil => rfl
  | cons line rest ih => simp [layoutFrom, ih]

@[simp] theorem ids_widenedAt (body : Body) (chosen : Line × Nat → Bool) :
    (body.widenedAt chosen).ids = body.ids := by
  have kept : (Line.id ∘ fun entry => if chosen entry then entry.1.widened else entry.1) =
      Line.id ∘ Prod.fst := by
    funext entry
    simp only [Function.comp_apply]
    split <;> rfl
  simp only [Body.ids, widenedAt, Array.toList_map, List.map_map, toList_layout, kept]
  rw [← List.map_map, map_fst_layoutFrom]

@[simp] theorem targets_widenedAt (body : Body) (chosen : Line × Nat → Bool) :
    (body.widenedAt chosen).targets = body.targets := by
  simp only [targets, get?_positions, indexOf?_eq, ids_widenedAt]
  rfl

end Body
end Retrofit
