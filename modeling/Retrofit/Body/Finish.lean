import Retrofit.Body.Layout

/-!
Checking a body before it leaves the hands of the patcher, and bringing its branches into their
final form.
-/

namespace Retrofit.Body

/-- The first label, in reading order, that is jumped to and stands at no line. -/
def danglingLabel? (body : Body) : Option LabelId :=
  let targets := body.targets
  body.lines.findSome? fun line =>
    line.instr.operand.labels.find? fun label => (targets.get? label).isNone

/-- The index at which a block ends; without an end it is the length of the body. -/
def endIndex? (body : Body) : Option InstrId → Option Nat
  | some id => body.indexOf? id
  | none => some body.length

/-- What is wrong with a region: a boundary is gone, a block is empty, or the filter does not come
before the handler. -/
def regionFault? (body : Body) (method : String) (region : Region) (number : Nat) :
    Option Malformation :=
  match body.indexOf? region.tryStart, body.endIndex? region.tryEnd,
    body.indexOf? region.handlerStart, body.endIndex? region.handlerEnd with
  | some tryStart, some tryEnd, some handlerStart, some handlerEnd =>
    if tryEnd ≤ tryStart || handlerEnd ≤ handlerStart then
      some (.regionInverted number method)
    else
      match region.filterStart with
      | none => none
      | some filter =>
        if (body.indexOf? filter).any fun index => index < handlerStart then none
        else some (.filterMisplaced number method)
  | _, _, _, _ => some (.regionOnRemoved number method)

/-- Whether a body is fit to be encoded: every jump has a target and every region makes sense. -/
def check (body : Body) (method : String) : Except PatchError Unit :=
  match body.danglingLabel? with
  | some label => .error (.danglingLabel method label)
  | none =>
    match body.regions.zipIdx.findSome? fun entry => body.regionFault? method entry.1 entry.2 with
    | some fault => .error (.malformed fault)
    | none => .ok ()

/-- Checks a body and chooses the forms of its branches. Yields how many became long. -/
def finish (method : String) (policy : BranchPolicy) (passes : Nat) : Edit Body Nat := do
  let body ← get
  Edit.demand (body.check method)
  formBranches policy passes

end Retrofit.Body
