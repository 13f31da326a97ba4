import Retrofit.Rule.Lookup

/-!
Reading a field directly: a call of a getter on an object that was itself read from a field becomes
the load of a field of `this`.
-/

namespace Retrofit.Rule

/-- The load of any field and a call of the getter on it. -/
def getterWindow (getter : String) : Window :=
  let (owner, name) := cutQualified getter
  [.anyLdfld, .anyCall owner name]

/-- Turns at most so many of the next reads through the getter into loads of the field, and adds
their number to the count. -/
def replaceNextReads (getter : String) (field : MemberRef) : Nat → Nat → Edit Cursor Nat
  | 0, count => return count
  | reads + 1, count => do
    if ← Cursor.trySeek .next (getterWindow getter) then
      Cursor.overwrite .ldfld (.member field)
      let cursor ← get
      Cursor.moveTo (cursor.index + 1)
      let _ ← Cursor.erase
      replaceNextReads getter field reads (count + 1)
    else
      return count

/-- Turns every read through the getter of the first argument into a load of the field of the
second. Each step removes a line, so there are at most as many steps as lines. -/
def loadFieldDirectly (task : BodyTask) : Edit Cursor Unit := do
  let getter ← Edit.demand (task.request.textArg 0)
  let name ← Edit.demand (task.request.textArg 1)
  let owner ← Edit.demand (task.module.ownerOf task.method)
  let field ← Edit.demand (task.module.fieldIn owner name)
  let ref ← Edit.demand (task.module.refToField field)
  let cursor ← get
  if (← replaceNextReads getter ref (cursor.body.length + 1) 0) = 0 then
    throw (.patternNotFound cursor.method ("ldfld; call " ++ getter))

def forFieldReads : List (Rule ν) :=
  [onBody "PatchFieldFromGetter"
     "Replaces getter reads through a field with a direct field load" loadFieldDirectly]

end Retrofit.Rule
