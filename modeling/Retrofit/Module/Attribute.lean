import Retrofit.Decimal.Shortest
import Retrofit.Error
import Retrofit.Text.Quoted

/-!
Custom attributes with their arguments, and the requests for patches that are attached to members
in the same form.
-/

namespace Retrofit

/-- An argument of an attribute. Floating point numbers are kept as bits. -/
inductive Argument where
  | bool (value : Bool)
  | int32 (value : Int32)
  | int64 (value : Int64)
  | float32 (bits : UInt32)
  | float64 (bits : UInt64)
  | string (value : String)
  | type (name : String)
  | array (items : List Argument)
  | enum (type : String) (value : Argument)

namespace Argument

def sortName : Argument → String
  | .bool _ => "bool"
  | .int32 _ => "int32"
  | .int64 _ => "int64"
  | .float32 _ => "float32"
  | .float64 _ => "float64"
  | .string _ => "string"
  | .type _ => "type"
  | .array _ => "array"
  | .enum _ _ => "enum"

mutual

def text : Argument → String
  | .bool value => if value then "true" else "false"
  | .int32 value => Text.integer value.toInt
  | .int64 value => Text.integer value.toInt
  | .float32 bits => Decimal.Format.single.text bits.toNat
  | .float64 bits => Decimal.Format.double.text bits.toNat
  | .string value => Text.quoted value
  | .type name => "typeof(" ++ name ++ ")"
  | .array items => "[" ++ Text.commaSeparated (texts items) ++ "]"
  | .enum typeName value => "(" ++ typeName ++ ")" ++ text value

def texts : List Argument → List String
  | [] => []
  | item :: rest => text item :: texts rest

end

end Argument

/-- An attribute on a member or on the module. -/
structure Attribute where
  type : String
  args : List Argument := []

/-- A wish to have a rule applied to the member that carries it. -/
structure Request where
  rule : String
  args : List Argument := []

namespace Request

def ofStrings (rule : String) (args : List String) : Request :=
  ⟨rule, args.map .string⟩

/-- The argument at an index, which has to be a string or a type. -/
def textArg (request : Request) (index : Nat) : Except PatchError String :=
  match request.args[index]? with
  | some (.string value) => .ok value
  | some (.type name) => .ok name
  | some other =>
    .error (.invalidArgument request.rule
      ("argument " ++ Text.natural index ++ " must be a string, found " ++ other.sortName))
  | none => .error (.invalidArgument request.rule ("missing argument " ++ Text.natural index))

def text (request : Request) : String :=
  "[" ++ request.rule ++ "(" ++ Text.commaSeparated (Argument.texts request.args) ++ ")]"

end Request
end Retrofit
