import Retrofit.Module.Names

/-!
State machines: compilers move the code of iterators and asynchronous methods into the `MoveNext`
method of a nested type. This module finds it.
-/

namespace Retrofit.Module

/-- The attributes by which a compiler names the type it moved the code to. -/
def stateMachineAttributes : List String :=
  ["System.Runtime.CompilerServices.IteratorStateMachineAttribute",
   "System.Runtime.CompilerServices.AsyncStateMachineAttribute"]

/-- What iterators and asynchronous methods return, type arguments apart. -/
def stateMachineReturns : List String :=
  ["System.Collections.IEnumerator",
   "System.Collections.IEnumerable",
   "System.Collections.Generic.IEnumerator",
   "System.Collections.Generic.IEnumerable",
   "System.Collections.Generic.IAsyncEnumerable",
   "System.Collections.Generic.IAsyncEnumerator",
   "System.Threading.Tasks.Task",
   "System.Threading.Tasks.ValueTask"]

def moveNext : String := "MoveNext"

/-- How the names of the types begin that compilers make for a method. -/
def machineOpening (method : MethodDef) : String := "<" ++ method.name ++ ">d__"

def attributedMachine? (module : Module) (method : MethodDef) : Option TypeId :=
  (method.attributes.filter fun held => held.type ∈ stateMachineAttributes).findSome?
    fun held =>
      match held.args with
      | .type name :: _ => module.findType? name
      | _ => none

/-- The type of the right name that the body of the method makes an object of. -/
def constructedMachine? (module : Module) (method : MethodDef) : Option TypeId := do
  let body ← method.body
  body.instrs.findSome? fun instr =>
    match instr.opcode, instr.operand with
    | .newobj, .member constructor =>
      if constructor.name = ".ctor" &&
          Text.beginsWith (Text.behindLast '/' constructor.declaringType) (machineOpening method)
      then module.findType? constructor.declaringType
      else none
    | _, _ => none

/-- Whether a method that returns the type can be an iterator or asynchronous. -/
def returnsMachine (returnType : String) : Bool :=
  String.ofList (returnType.toList.takeWhile fun c => c ≠ '<' && c ≠ '\x60') ∈ stateMachineReturns

/-- The type of the right name beside the method, if what the method returns allows for one. -/
def nestedMachine? (module : Module) (method : MethodDef) : Option TypeId :=
  if returnsMachine method.returnType then
    (module.nestedIn method.declaringType).find? fun id =>
      (module.types[id.index]?).any fun type => Text.beginsWith type.name (machineOpening method)
  else
    none

/-- The method that holds the code of an iterator or asynchronous method. An attribute counts most,
then an object that the method makes, then a nested type of the right name. -/
def stateMachine? (module : Module) (id : MethodId) : Option MethodId := do
  let method ← module.methods[id.index]?
  let machine ← (module.attributedMachine? method).or <|
    (module.constructedMachine? method).or (module.nestedMachine? method)
  module.findMethod? machine moveNext

end Retrofit.Module
