import Retrofit.Body.Window
import Retrofit.Cursor.Basic

/-!
Moving a cursor to the next or the previous place where a window opens. A move ends its search at the
nearest such place, which is the first of all (`nearest?_eq`).
-/

namespace Retrofit

/-- Which way to look. -/
inductive Direction where
  | next | previous
deriving DecidableEq

def Direction.name : Direction → String
  | .next => "next"
  | .previous => "previous"

/-- Where to stop at a window: in front of it, behind it, or in front of it but behind the labels
that stand there. -/
inductive Landing where
  | before | behind | behindLabels
deriving DecidableEq

def firstFrom? (accepts : Nat → Bool) : Nat → Nat → Option Nat
  | 0, _ => none
  | count + 1, index =>
    if accepts index then some index else firstFrom? accepts count (index + 1)

def lastBelow? (accepts : Nat → Bool) : Nat → Option Nat
  | 0 => none
  | index + 1 => if accepts index then some index else lastBelow? accepts index

theorem firstFrom?_eq (accepts : Nat → Bool) (count index : Nat) :
    firstFrom? accepts count index = ((List.range' index count).filter accepts).head? := by
  induction count generalizing index with
  | zero => rfl
  | succ count ih =>
    rw [firstFrom?, List.range'_succ, List.filter_cons]
    split
    · rfl
    · exact ih (index + 1)

theorem lastBelow?_eq (accepts : Nat → Bool) (bound : Nat) :
    lastBelow? accepts bound = ((List.range bound).reverse.filter accepts).head? := by
  induction bound with
  | zero => rfl
  | succ index ih =>
    rw [lastBelow?, List.range_succ, List.reverse_append, List.reverse_singleton,
      List.singleton_append, List.filter_cons]
    split
    · rfl
    · exact ih

namespace Cursor

/-- The indices in the given direction, nearest first. The next ones include the cursor itself, the
previous ones do not. -/
def indices (cursor : Cursor) : Direction → List Nat
  | .next => List.range' cursor.index (cursor.body.length + 1 - cursor.index)
  | .previous => (List.range (min cursor.index (cursor.body.length + 1))).reverse

/-- Where the window opens in the given direction, nearest first. -/
def hits (cursor : Cursor) (direction : Direction) (window : Window) : List Nat :=
  (cursor.indices direction).filter (window.opensAt cursor.body)

def nearest? (cursor : Cursor) (direction : Direction) (accepts : Nat → Bool) : Option Nat :=
  match direction with
  | .next => firstFrom? accepts (cursor.body.length + 1 - cursor.index) cursor.index
  | .previous => lastBelow? accepts (min cursor.index (cursor.body.length + 1))

/-- The nearest accepted index comes first among all of them. -/
theorem nearest?_eq (cursor : Cursor) (direction : Direction) (accepts : Nat → Bool) :
    cursor.nearest? direction accepts = ((cursor.indices direction).filter accepts).head? := by
  cases direction
  · exact firstFrom?_eq ..
  · exact lastBelow?_eq ..

def landed (cursor : Cursor) (landing : Landing) (window : Window) (start : Nat) : Cursor :=
  match landing with
  | .before => cursor.placed start
  | .behind => cursor.placed (start + window.length)
  | .behindLabels => cursor.placed start true

def notFound (cursor : Cursor) (direction : Direction) (window : Window) : PatchError :=
  .patternNotFound cursor.method
    (Text.natural window.length ++ "-instruction window (" ++ direction.name ++ " from index "
      ++ Text.natural cursor.index ++ ")")

/-- Goes to the nearest place where the window opens. Yields whether there is one. -/
def trySeek (direction : Direction) (window : Window) (landing : Landing := .before) :
    Edit Cursor Bool := do
  let cursor ← get
  match cursor.nearest? direction (window.opensAt cursor.body) with
  | none => return false
  | some start =>
    set (cursor.landed landing window start)
    return true

def seek (direction : Direction) (window : Window) (landing : Landing := .before) :
    Edit Cursor Unit := do
  if !(← trySeek direction window landing) then
    throw ((← get).notFound direction window)

/-- Marks at all places where the window opens, nearest first. -/
def occurrences (cursor : Cursor) (direction : Direction) (window : Window) : List Mark :=
  (cursor.hits direction window).map fun start => ⟨cursor.body.idAt? start⟩

/-- Marks at all places where the window opens, at least one. -/
def demandOccurrences (direction : Direction) (window : Window) : Edit Cursor (List Mark) := do
  let cursor ← get
  match cursor.occurrences direction window with
  | [] => throw (cursor.notFound direction window)
  | marks => return marks

end Cursor
end Retrofit
