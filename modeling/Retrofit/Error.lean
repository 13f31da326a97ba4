import Retrofit.Instr.Id
import Retrofit.Opcode.Basic

/-!
Everything that can go wrong while a module is patched. An error names its cause; `message` words
it.
-/

namespace Retrofit

/-- The five places at which an exception region is tied to its body. -/
inductive Boundary where
  | tryStart | tryEnd | handlerStart | handlerEnd | filterStart
deriving DecidableEq

def Boundary.name : Boundary → String
  | .tryStart => "TryStart"
  | .tryEnd => "TryEnd"
  | .handlerStart => "HandlerStart"
  | .handlerEnd => "HandlerEnd"
  | .filterStart => "FilterStart"

/-- Why an instruction has to stay. -/
inductive Obstacle where
  | anchors (id : InstrId) (boundaries : List Boundary) (region : Nat)
  | stated (reason : String)

def Obstacle.message : Obstacle → String
  | .anchors id boundaries region =>
    id.text ++ " anchors [" ++ Text.commaSeparated (boundaries.map Boundary.name)
      ++ "] of exception region " ++ Text.natural region
  | .stated reason => reason

/-- The ways in which given data makes no sense. -/
inductive Malformation where
  | unsupportedHash (id : Nat)
  | shortToken (length : Nat)
  | versionFormat (version : String)
  | versionComponent (component : String)
  | unknownLabel (label : LabelId)
  | labelOnRemoved (label : LabelId) (id : InstrId)
  | labelsToRemoved (id : InstrId)
  | markOnRemoved (id : InstrId) (method : String)
  | regionOnRemoved (region : Nat) (method : String)
  | regionInverted (region : Nat) (method : String)
  | filterMisplaced (region : Nat) (method : String)
  | fittingUnfinished (passes : Nat)
  | unhandled (rule handler target : String)
  | stated (text : String)

def Malformation.message : Malformation → String
  | .unsupportedHash id =>
    "Unsupported hash algorithm: 0x" ++ (Text.paddedHex 8 id).toUpper
  | .shortToken length => "Public key token needs 8 bytes, got " ++ Text.natural length
  | .versionFormat version => "Invalid version format: " ++ version
  | .versionComponent component => "Invalid version component: " ++ component
  | .unknownLabel label => "Unknown label " ++ label.text
  | .labelOnRemoved label id =>
    "Cannot bind " ++ label.text ++ " to removed instruction " ++ id.text
  | .labelsToRemoved id => "Cannot retarget labels to removed instruction " ++ id.text
  | .markOnRemoved id method =>
    "Mark anchors removed instruction " ++ id.text ++ " in " ++ method
  | .regionOnRemoved region method =>
    "Exception region " ++ Text.natural region ++ " of " ++ method
      ++ " anchors on a removed instruction"
  | .regionInverted region method =>
    "Exception region " ++ Text.natural region ++ " of " ++ method ++ " is empty or inverted"
  | .filterMisplaced region method =>
    "Filter of exception region " ++ Text.natural region ++ " of " ++ method
      ++ " does not precede its handler"
  | .fittingUnfinished passes =>
    "Branch form fitting did not converge after " ++ Text.natural passes ++ " passes"
  | .unhandled rule handler target =>
    "Rule '" ++ rule ++ "' has no " ++ handler ++ " handler (requested on " ++ target ++ ")"
  | .stated text => text

/-- Why a patch could not be made. -/
inductive PatchError where
  /-- The instructions that a rule looks for are not there. -/
  | patternNotFound (method pattern : String)
  /-- A request names a rule that nobody registered. -/
  | unknownRule (rule member : String)
  /-- A finished body still jumps to a label without a place. -/
  | danglingLabel (method : String) (label : LabelId)
  /-- A cursor was sent to a label without a place. -/
  | unboundLabel (label : LabelId)
  /-- An instruction that an exception region needs was to be erased. -/
  | invalidRemoval (method : String) (index : Nat) (obstacle : Obstacle)
  /-- Two requests want different values of one thing. -/
  | conflict (member aspect existing requested : String)
  /-- An operand does not fit its operation. -/
  | invalidOperand (opcode : Opcode) (expected : OperandShape) (found : String)
  /-- A rule was requested on a member it cannot work on. -/
  | invalidTarget (rule member expected : String)
  /-- A request carries arguments that its rule cannot use. -/
  | invalidArgument (rule message : String)
  /-- No member goes by the name. -/
  | memberNotFound (name : String)
  /-- An index lies behind the end of the instructions. -/
  | outOfBounds (index length : Nat)
  /-- A rule or a pass failed on a member. -/
  | ruleFailed (member rule : String) (source : PatchError)
  /-- Given data makes no sense. -/
  | malformed (cause : Malformation)

/-- The causes of errors, apart from who reports them. -/
inductive ErrorKind where
  | patternNotFound | unknownRule | danglingLabel | unboundLabel | invalidRemoval | conflict
  | invalidOperand | invalidTarget | invalidArgument | memberNotFound | outOfBounds | malformed
deriving DecidableEq

def ErrorKind.all : List ErrorKind :=
  [.patternNotFound, .unknownRule, .danglingLabel, .unboundLabel, .invalidRemoval, .conflict,
   .invalidOperand, .invalidTarget, .invalidArgument, .memberNotFound, .outOfBounds, .malformed]

namespace PatchError

def message : PatchError → String
  | .patternNotFound method pattern => "Pattern not found in " ++ method ++ ": " ++ pattern
  | .unknownRule rule member => "Unknown patch rule '" ++ rule ++ "' requested by " ++ member
  | .danglingLabel method label =>
    "Label " ++ label.text ++ " is unbound at finalization of " ++ method
  | .unboundLabel label => "Label " ++ label.text ++ " is not bound to any instruction"
  | .invalidRemoval method index obstacle =>
    "Invalid removal at index " ++ Text.natural index ++ " in " ++ method ++ ": "
      ++ obstacle.message
  | .conflict member aspect existing requested =>
    "Conflicting " ++ aspect ++ " for " ++ member ++ ": '" ++ existing ++ "' vs '" ++ requested
      ++ "'"
  | .invalidOperand opcode expected found =>
    "Invalid operand for " ++ opcode.mnemonic ++ ": expected " ++ expected.name ++ ", found "
      ++ found
  | .invalidTarget rule member expected =>
    "Rule '" ++ rule ++ "' cannot be applied to " ++ member ++ ": expected a " ++ expected
  | .invalidArgument rule message =>
    "Invalid argument for rule '" ++ rule ++ "': " ++ message
  | .memberNotFound name => "Member not found - " ++ name
  | .outOfBounds index length =>
    "Cursor index " ++ Text.natural index ++ " is out of bounds (len " ++ Text.natural length
      ++ ")"
  | .ruleFailed member rule source =>
    "Rule '" ++ rule ++ "' failed on " ++ member ++ ": " ++ source.message
  | .malformed cause => "Malformed - " ++ cause.message

def root : PatchError → PatchError
  | .ruleFailed _ _ source => source.root
  | error => error

def kind : PatchError → ErrorKind
  | .patternNotFound .. => .patternNotFound
  | .unknownRule .. => .unknownRule
  | .danglingLabel .. => .danglingLabel
  | .unboundLabel .. => .unboundLabel
  | .invalidRemoval .. => .invalidRemoval
  | .conflict .. => .conflict
  | .invalidOperand .. => .invalidOperand
  | .invalidTarget .. => .invalidTarget
  | .invalidArgument .. => .invalidArgument
  | .memberNotFound .. => .memberNotFound
  | .outOfBounds .. => .outOfBounds
  | .ruleFailed _ _ source => source.kind
  | .malformed .. => .malformed

/-- A report of a failed rule has the kind of what it reports. -/
theorem kind_root (error : PatchError) : error.root.kind = error.kind := by
  induction error with
  | ruleFailed member rule source ih => simpa [root, kind] using ih
  | _ => rfl

end PatchError
end Retrofit
