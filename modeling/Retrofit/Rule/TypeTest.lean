import Retrofit.Rule.Basic

/-!
Extending type tests: where code tests a field of `this` for one type, it shall also accept another.
Two shapes of test occur. In a chain the test follows a jump that is taken when an earlier test
succeeds; a guard jumps away when the test fails.
-/

namespace Retrofit.Rule

/-- The shapes of a type test. -/
inductive TestShape where
  | chain | guard
deriving DecidableEq

def chainWindow (anchor : String) : Window :=
  [.opcode .brtrueS, .opcode .ldarg0, .anyLdfld, .isinst anchor]

def guardWindow (anchor : String) : Window :=
  [.opcode .ldarg0, .anyLdfld, .isinst anchor, .opcode .brfalseS]

/-- The next test of either shape. A chain that begins no later than a guard goes first: its test
may be the guarded one. -/
def nextTest? (cursor : Cursor) (anchor : String) : Option (Nat × TestShape) :=
  let isChain := (chainWindow anchor).opensAt cursor.body
  let isGuard := (guardWindow anchor).opensAt cursor.body
  (cursor.nearest? .next fun index => isChain index || isGuard index).map fun start =>
    (start, if isChain start then .chain else .guard)

def operandOfLine (index : Nat) : Edit Cursor Operand := do
  let cursor ← get
  match cursor.body.instrAt? index with
  | some instr => return instr.operand
  | none => throw (.outOfBounds index cursor.body.length)

/-- Goes on behind the three instructions that are left of the window. -/
def skipWindowRest : Edit Cursor Unit := do
  let cursor ← get
  Cursor.moveTo (cursor.index + 3)

/-- Puts a test for the extra type into a chain, with a jump to where the chain succeeds. -/
def insertChainTest (start : Nat) (extra : String) : Edit Cursor Unit := do
  let success ← operandOfLine start
  let field ← operandOfLine (start + 2)
  Cursor.moveTo (start + 1)
  let _ ← Cursor.emit .ldarg0
  let _ ← Cursor.emit .ldfld field
  let _ ← Cursor.emit .isinst (.type extra)
  let _ ← Cursor.emit .brtrueS success
  skipWindowRest

/-- Puts a test for the extra type into a guard, with a jump to what is guarded. The object already
on the stack serves the new test, and is loaded again for the old one. -/
def insertGuardTest (start : Nat) (extra : String) : Edit Cursor Unit := do
  let field ← operandOfLine (start + 1)
  let success ← Cursor.newLabel
  Cursor.onBody (Body.placeLabel success (start + 4))
  Cursor.moveTo (start + 1)
  let _ ← Cursor.emit .ldfld field
  let _ ← Cursor.emit .isinst (.type extra)
  let _ ← Cursor.emit .brtrueS (.label success)
  let _ ← Cursor.emit .ldarg0
  skipWindowRest

/-- Extends at most so many of the next tests, and adds their number to the count. -/
def extendNextTests (anchor extra : String) : Nat → Nat → Edit Cursor Nat
  | 0, count => return count
  | tests + 1, count => do
    let cursor ← get
    match nextTest? cursor anchor with
    | none => return count
    | some (start, shape) =>
      match shape with
      | .chain => insertChainTest start extra
      | .guard => insertGuardTest start extra
      extendNextTests anchor extra tests (count + 1)

/-- Extends every test for the first argument to the second. Each step goes on behind at least one
line that was there before, so there are at most as many steps as lines. -/
def extendTypeTests (task : BodyTask) : Edit Cursor Unit := do
  let anchor ← Edit.demand (task.request.textArg 0)
  let extra ← Edit.demand (task.request.textArg 1)
  let cursor ← get
  if (← extendNextTests anchor extra (cursor.body.length + 1) 0) = 0 then
    throw (.patternNotFound cursor.method ("isinst " ++ anchor ++ " on a field of this"))

def forTypeTests : List (Rule ν) :=
  [onBody "PatchTypeCheck" "Extends isinst checks on a field to a second type" extendTypeTests]

end Retrofit.Rule
