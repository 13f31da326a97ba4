import Retrofit.Cursor.Search
import Retrofit.Pass.Basic

/-!
The pass that repairs enumerators: a decompiler writes virtual calls where the compiler had called
the helpers of an enumerator directly.
-/

namespace Retrofit

/-- Whether an instruction calls a helper of an enumerator virtually. -/
def Matcher.helperCallvirt : Matcher := fun instr =>
  instr.opcode = .callvirt && instr.operand.member?.any fun ref =>
    ref.name = "System.Collections.IEnumerable.GetEnumerator"
      || ref.name = "System.IDisposable.Dispose"
      || Text.beginsWith ref.name "<>m__Finally"

namespace Cursor

/-- Makes at most so many of the next calls of helpers direct, and adds their number to the count. -/
def callNextHelpers : Nat → Nat → Edit Cursor Nat
  | 0, count => return count
  | calls + 1, count => do
    if ← trySeek .next [Matcher.helperCallvirt] then
      modify fun cursor =>
        { cursor with
          body := cursor.body.changeAt cursor.index fun instr => { instr with opcode := .call } }
      callNextHelpers calls (count + 1)
    else
      return count

end Cursor

/-- Calls all helpers in a body directly, and counts them. A call made direct is found no more, so
there are at most as many steps as lines. -/
def Body.callHelpers (method : String) : Edit Body Nat := ExceptT.mk fun body =>
  let (count, cursor) := (Cursor.callNextHelpers (body.length + 1) 0).apply { body, method }
  (count, cursor.body)

/-- The methods of the enumerators that a compiler made, type by type. -/
def Module.enumeratorMethods (module : Module) : List MethodId :=
  module.typesInOrder.flatMap fun id =>
    match module.types[id.index]? with
    | some type => if type.isGeneratedEnumerator then type.methods else []
    | none => []

def Pass.repairEnumerators : Pass where
  name := "FixEnumeratorDecompile"
  description := "Replaces callvirt with call for compiler-generated enumerator helpers"
  apply _ := do
    let module ← get
    let repaired ← Edit.total <| module.enumeratorMethods.map fun id =>
      Module.editBody id (Body.callHelpers (module.methodName id))
    return 0 < repaired

end Retrofit
