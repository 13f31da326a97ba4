import Retrofit.Proofs.Body.Reworking
import Retrofit.Proofs.Cursor.Between
import Retrofit.Proofs.Rule.Frame

/-!
Extending type tests, in closed form. The loop searches the body that it is changing anew in each
step. It comes to one pass over the lines from left to right (`Rule.extendTests`): what is put in
stands behind the first line of a test, and the search goes on behind the last one, so that no new
line is ever looked at.
-/

namespace Retrofit

theorem Cursor.apply_operandOfLine_between {front back : List Line} {cursor : Cursor} {index : Nat}
    {line : Line}
    (lines : cursor.body.lines.toList = front ++ line :: back) (here : index = front.length) :
    (Rule.operandOfLine index).apply cursor = (.ok line.instr.operand, cursor) := by
  subst here
  have here : cursor.body.instrAt? front.length = some line.instr := by
    rw [Body.instrAt?, ← Array.getElem?_toList, lines]
    simp
  rw [Rule.operandOfLine, Edit.apply_bind]
  simp only [Edit.apply_get, here]
  rfl

/-- What a pass over lines makes of them: the lines afterwards, the places of the labels that it
defines, and the tests that it extends, by the line that loads `this` for each. -/
structure Extension where
  lines : List Line
  places : List LabelPlace := []
  tests : List (InstrId × Rule.TestShape) := []

namespace Extension

/-- The extension with some lines in front that stay as they are. -/
def behind (front : List Line) (extension : Extension) : Extension :=
  { extension with lines := front ++ extension.lines }

/-- The body with its lines extended. For each test four new lines were numbered. -/
def onto (extension : Extension) (body : Body) : Body :=
  { body with
    lines := extension.lines.toArray
    nextId := body.nextId + 4 * extension.tests.length
    labels := body.labels ++ extension.places.toArray }

theorem behind_behind (first second : List Line) (extension : Extension) :
    (extension.behind second).behind first = extension.behind (first ++ second) := by
  simp [behind]

end Extension

namespace Rule

/-- The shape of the test with which lines begin. -/
def opening? (anchor : String) (lines : List Line) : Option TestShape :=
  let instrs := lines.map Line.instr
  if (chainWindow anchor).opens instrs then some .chain
  else if (guardWindow anchor).opens instrs then some .guard
  else none

/-- What comes behind the jump in front of a test in a chain: a test of the field for the extra type,
and the same jump. -/
def chainArm (extra : String) (jump field : Instr) : List Instr :=
  [⟨.ldarg0, .none⟩, ⟨.ldfld, field.operand⟩, ⟨.isinst, .type extra⟩, ⟨.brtrueS, jump.operand⟩]

/-- What comes behind the first line of a guard: a test of the field for the extra type, a jump over
the rest of the guard, and `this` once more for the rest. -/
def guardBypass (extra : String) (field : Instr) (success : LabelId) : List Instr :=
  [⟨.ldfld, field.operand⟩, ⟨.isinst, .type extra⟩, ⟨.brtrueS, .label success⟩, ⟨.ldarg0, .none⟩]

namespace TestShape

/-- The instructions that a test gets behind its first line. -/
def added (extra : String) (success : LabelId) (first second third : Instr) :
    TestShape → List Instr
  | .chain => chainArm extra first third
  | .guard => guardBypass extra second success

/-- The places of the labels that a test gets, with the lines behind it. The success of a guard goes on
there. -/
def places (rest : List Line) : TestShape → List LabelPlace
  | .chain => []
  | .guard => [.before (rest.head?.map Line.id)]

/-- The line that loads `this` for a test. -/
def load (first second : Line) : TestShape → InstrId
  | .chain => second.id
  | .guard => first.id

end TestShape

/-- One pass over lines from left to right, with the numbers of the next line and the next label. Of
a test the first line is copied, then come the new lines, then the other three. -/
def extendTests (anchor extra : String) (nextId nextLabel : Nat) : List Line → Extension
  | first :: second :: third :: fourth :: rest =>
    match opening? anchor (first :: second :: third :: fourth :: rest) with
    | some shape =>
      let new := numbered nextId
        (shape.added extra ⟨nextLabel⟩ first.instr second.instr third.instr)
      let later := extendTests anchor extra (nextId + 4) (nextLabel + (shape.places rest).length) rest
      { lines := first :: new ++ second :: third :: fourth :: later.lines
        places := shape.places rest ++ later.places
        tests := (shape.load first second, shape) :: later.tests }
    | none => (extendTests anchor extra nextId nextLabel (second :: third :: fourth :: rest)).behind
        [first]
  | lines => { lines }

theorem eq_of_ldarg0 {line : Line} (loads : line.instr.opcode = .ldarg0)
    (fits : line.instr.wellShaped = true) : line = ⟨line.id, .ldarg0, .none⟩ := by
  obtain ⟨id, opcode, operand⟩ := line
  subst loads
  cases operand <;> first | rfl | cases fits

theorem exists_of_ldfld {line : Line} (loads : line.instr.opcode = .ldfld)
    (fits : line.instr.wellShaped = true) :
    ∃ ref, ref.kind = .field ∧ line = ⟨line.id, .ldfld, .member ref⟩ := by
  obtain ⟨id, opcode, operand⟩ := line
  subst loads
  cases operand with
  | member ref => exact ⟨ref, of_decide_eq_true fits, rfl⟩
  | _ => cases fits

theorem exists_of_shortJump {line : Line} {opcode : Opcode} (jumps : line.instr.opcode = opcode)
    (short : opcode.operandShape = .shortBranch) (fits : line.instr.wellShaped = true) :
    ∃ label, line = ⟨line.id, opcode, .label label⟩ := by
  obtain ⟨id, opcode, operand⟩ := line
  subst jumps
  rw [Instr.wellShaped, short] at fits
  cases operand with
  | label target => exact ⟨target, rfl⟩
  | _ => cases fits

theorem eq_of_isinst {line : Line} {type : String} (tests : Matcher.isinst type line.instr = true) :
    line = ⟨line.id, .isinst, .type type⟩ := by
  obtain ⟨id, opcode, operand⟩ := line
  simp only [Matcher.isinst, Bool.and_eq_true, decide_eq_true_eq] at tests
  obtain ⟨rfl, tested⟩ := tests
  cases operand with
  | type name => cases tested; rfl
  | _ => cases tested

section Opening

variable {anchor : String} {lines : List Line}

theorem opening?_eq_none :
    opening? anchor lines = none ↔
      (chainWindow anchor).opens (lines.map Line.instr) = false ∧
        (guardWindow anchor).opens (lines.map Line.instr) = false := by
  unfold opening?
  dsimp only
  split
  · next opens => simp [opens]
  · next closed => split <;> simp_all

theorem opening?_of_short (short : lines.length < 4) : opening? anchor lines = none := by
  rcases lines with _ | ⟨first, _ | ⟨second, _ | ⟨third, _ | ⟨fourth, rest⟩⟩⟩⟩
  case cons.cons.cons.cons => simp at short; omega
  all_goals simp [opening?, chainWindow, guardWindow, Window.opens]

theorem exists_of_chain (opens : opening? anchor lines = some .chain)
    (shaped : ∀ line ∈ lines, line.instr.wellShaped = true) :
    ∃ jump this field test rest label ref, ref.kind = .field ∧
      lines = ⟨jump, .brtrueS, .label label⟩ :: ⟨this, .ldarg0, .none⟩ ::
        ⟨field, .ldfld, .member ref⟩ :: ⟨test, .isinst, .type anchor⟩ :: rest := by
  have chain : (chainWindow anchor).opens (lines.map Line.instr) = true := by
    unfold opening? at opens
    dsimp only at opens
    split at opens
    · assumption
    · split at opens <;> cases opens
  rcases lines with _ | ⟨first, _ | ⟨second, _ | ⟨third, _ | ⟨fourth, rest⟩⟩⟩⟩ <;>
    simp [chainWindow, Window.opens, Matcher.opcode, Matcher.anyLdfld] at chain
  obtain ⟨jumps, loads, reads, tests⟩ := chain
  simp only [List.mem_cons, forall_eq_or_imp] at shaped
  obtain ⟨label, jump⟩ := exists_of_shortJump jumps rfl shaped.1
  obtain ⟨ref, isField, field⟩ := exists_of_ldfld reads shaped.2.2.1
  refine ⟨first.id, second.id, third.id, fourth.id, rest, label, ref, isField, ?_⟩
  rw [← jump, ← eq_of_ldarg0 loads shaped.2.1, ← field, ← eq_of_isinst tests]

theorem exists_of_guard (opens : opening? anchor lines = some .guard)
    (shaped : ∀ line ∈ lines, line.instr.wellShaped = true) :
    ∃ this field test jump rest ref label, ref.kind = .field ∧
      lines = ⟨this, .ldarg0, .none⟩ :: ⟨field, .ldfld, .member ref⟩ ::
        ⟨test, .isinst, .type anchor⟩ :: ⟨jump, .brfalseS, .label label⟩ :: rest := by
  have guard : (guardWindow anchor).opens (lines.map Line.instr) = true := by
    unfold opening? at opens
    dsimp only at opens
    split at opens
    · cases opens
    · split at opens
      · assumption
      · cases opens
  rcases lines with _ | ⟨first, _ | ⟨second, _ | ⟨third, _ | ⟨fourth, rest⟩⟩⟩⟩ <;>
    simp [guardWindow, Window.opens, Matcher.opcode, Matcher.anyLdfld] at guard
  obtain ⟨loads, reads, tests, jumps⟩ := guard
  simp only [List.mem_cons, forall_eq_or_imp] at shaped
  obtain ⟨ref, isField, field⟩ := exists_of_ldfld reads shaped.2.1
  obtain ⟨label, jump⟩ := exists_of_shortJump jumps rfl shaped.2.2.2.1
  refine ⟨first.id, second.id, third.id, fourth.id, rest, ref, label, isField, ?_⟩
  rw [← eq_of_ldarg0 loads shaped.1, ← field, ← eq_of_isinst tests, ← jump]

end Opening

section Search

variable {anchor extra : String} {body : Body} {method : String} {front back : List Line}

theorem opening?_between (body : Body) (method : String) (front back : List Line) (place : Nat) :
    opening? anchor (back.drop place) =
      if (chainWindow anchor).opensAt (Cursor.between body method front back).body
        (front.length + place) then some .chain
      else if (guardWindow anchor).opensAt (Cursor.between body method front back).body
        (front.length + place) then some .guard
      else none := by
  rw [Cursor.opensAt_between, Cursor.opensAt_between]
  rfl

theorem opensEither_between (place : Nat) :
    ((chainWindow anchor).opensAt (Cursor.between body method front back).body
        (front.length + place) ||
      (guardWindow anchor).opensAt (Cursor.between body method front back).body
        (front.length + place)) = (opening? anchor (back.drop place)).isSome := by
  rw [opening?_between body method front]
  split
  · next chain => rw [chain]; rfl
  · next other => rw [Bool.not_eq_true] at other; rw [other]; split <;> simp_all

theorem opening?_of_nextTest?_none
    (absent : nextTest? (Cursor.between body method front back) anchor = none) (place : Nat) :
    opening? anchor (back.drop place) = none := by
  rw [nextTest?, Option.map_eq_none_iff] at absent
  by_cases inside : place ≤ back.length
  · have closed := Cursor.not_accepted_of_nearest?_none absent
      (show front.length ≤ front.length + place from Nat.le_add_right ..)
      (by rw [Cursor.length_between]; omega)
    rwa [opensEither_between, Option.isSome_eq_false_iff, Option.isNone_iff_eq_none] at closed
  · rw [List.drop_of_length_le (Nat.le_of_not_le inside)]
    rfl

/-- The search stops at the first test from the cursor on. -/
theorem split_of_nextTest? {start : Nat} {shape : TestShape}
    (found : nextTest? (Cursor.between body method front back) anchor = some (start, shape)) :
    ∃ skipped rest, back = skipped ++ rest ∧ start = (front ++ skipped).length ∧
      opening? anchor rest = some shape ∧
      ∀ place < skipped.length, opening? anchor (back.drop place) = none := by
  obtain ⟨index, nearest, same⟩ := Option.map_eq_some_iff.1 found
  obtain ⟨rfl, rfl⟩ := Prod.ext_iff.1 same
  obtain ⟨place, rfl⟩ := Nat.exists_eq_add_of_le (show front.length ≤ index from
    Cursor.le_of_nearest? nearest)
  have opens := Cursor.opensAt_of_nearest? nearest
  rw [opensEither_between] at opens
  have inside : place ≤ back.length := by
    by_contra outside
    rw [List.drop_of_length_le (Nat.le_of_not_le outside)] at opens
    cases opens
  refine ⟨back.take place, back.drop place, (List.take_append_drop ..).symm, ?_, ?_, ?_⟩
  · simp [inside]
  · have either := Cursor.opensAt_of_nearest? nearest
    rw [opening?_between body method front]
    dsimp only
    split
    · rfl
    · next other =>
      rw [if_pos]
      simpa [other] using either
  · intro earlier before
    have closed := Cursor.not_accepted_of_nearest? nearest
      (show front.length ≤ front.length + earlier from Nat.le_add_right ..)
      (by rw [List.length_take] at before; omega)
    rwa [opensEither_between, Option.isSome_eq_false_iff, Option.isNone_iff_eq_none] at closed

end Search

section Steps

variable {cursor : Cursor} {front rest : List Line} {label : LabelId}
  {ref : MemberRef}

theorem apply_skipWindowRest (body : Body) (method : String) (front rest : List Line)
    (second third fourth : Line) :
    skipWindowRest.apply (Cursor.between body method front (second :: third :: fourth :: rest)) =
      (.ok (), Cursor.between body method (front ++ [second, third, fourth]) rest) := by
  have passed : front ++ second :: third :: fourth :: rest =
      front ++ [second, third, fourth] ++ rest := by simp
  rw [skipWindowRest, Edit.apply_bind_of_ok (Edit.apply_get _),
    Cursor.apply_moveTo_between ((Cursor.lines_between ..).trans passed) (by simp [Cursor.between])]
  rfl

/-- Extending a chain puts four lines behind its jump and goes behind the test. -/
theorem apply_insertChainTest (extra : String) {start : Nat} {jump this field : InstrId} {test : Line}
    (lines : cursor.body.lines.toList = front ++ ⟨jump, .brtrueS, .label label⟩ ::
      ⟨this, .ldarg0, .none⟩ :: ⟨field, .ldfld, .member ref⟩ :: test :: rest)
    (isField : ref.kind = .field) (here : start = front.length) :
    (insertChainTest start extra).apply cursor =
      (.ok (), Cursor.between { cursor.body with nextId := cursor.body.nextId + 4 } cursor.method
        (front ++ ⟨jump, .brtrueS, .label label⟩ ::
          numbered cursor.body.nextId (chainArm extra ⟨.brtrueS, .label label⟩
            ⟨.ldfld, .member ref⟩) ++
          [⟨this, .ldarg0, .none⟩, ⟨field, .ldfld, .member ref⟩, test]) rest) := by
  have reads : (Operand.member ref).fits Opcode.ldfld.operandShape = true := decide_eq_true isField
  have entered := lines.trans (List.append_assoc front [_] _).symm
  have loaded := lines.trans (List.append_assoc front [_, _] _).symm
  rw [insertChainTest,
    Edit.apply_bind_of_ok (Cursor.apply_operandOfLine_between lines here),
    Edit.apply_bind_of_ok (Cursor.apply_operandOfLine_between loaded (by simp [here])),
    Edit.apply_bind_of_ok (Cursor.apply_moveTo_between entered (by simp [here])),
    Edit.apply_bind_of_ok (Cursor.apply_emit_between rfl),
    Edit.apply_bind_of_ok (Cursor.apply_emit_between reads),
    Edit.apply_bind_of_ok (Cursor.apply_emit_between rfl),
    Edit.apply_bind_of_ok (Cursor.apply_emit_between rfl),
    apply_skipWindowRest]
  simp [numbered, chainArm]

/-- Extending a guard defines a label behind it, puts four lines behind its first one and goes behind
the guard. -/
theorem apply_insertGuardTest (extra : String) {start : Nat} {this field : InstrId} {test jump : Line}
    (lines : cursor.body.lines.toList = front ++ ⟨this, .ldarg0, .none⟩ ::
      ⟨field, .ldfld, .member ref⟩ :: test :: jump :: rest)
    (isField : ref.kind = .field) (here : start = front.length) :
    (insertGuardTest start extra).apply cursor =
      (.ok (), Cursor.between
        { cursor.body with
          nextId := cursor.body.nextId + 4
          labels := cursor.body.labels.push (.before (rest.head?.map Line.id)) }
        cursor.method
        (front ++ ⟨this, .ldarg0, .none⟩ ::
          numbered cursor.body.nextId (guardBypass extra ⟨.ldfld, .member ref⟩
            ⟨cursor.body.labels.size⟩) ++
          [⟨field, .ldfld, .member ref⟩, test, jump]) rest) := by
  have reads : (Operand.member ref).fits Opcode.ldfld.operandShape = true := decide_eq_true isField
  have entered := lines.trans (List.append_assoc front [_] _).symm
  have defined : Cursor.newLabel.apply cursor =
    (.ok ⟨cursor.body.labels.size⟩, { cursor with body := cursor.body.withLabel }) := rfl
  let marked : Cursor := { cursor with
    body := { cursor.body with
      labels := cursor.body.labels.push (.before (rest.head?.map Line.id)) } }
  have placed : (Cursor.onBody (Body.placeLabel ⟨cursor.body.labels.size⟩ (start + 4))).apply
      { cursor with body := cursor.body.withLabel } = (.ok (), marked) := by
    have behind : cursor.body.idAt? (start + 4) = rest.head?.map Line.id := by
      rw [Body.idAt?, ← Array.getElem?_toList, lines, here]
      simp [List.getElem?_append_right, List.head?_eq_getElem?]
    have inside : start + 4 ≤ cursor.body.length := by
      rw [Body.length, ← Array.length_toList, lines, here]
      simp
    rw [Cursor.apply_onBody, Body.apply_placeLabel_withLabel inside, behind]
  rw [insertGuardTest,
    Edit.apply_bind_of_ok (Cursor.apply_operandOfLine_between entered (by simp [here])),
    Edit.apply_bind_of_ok defined,
    Edit.apply_bind_of_ok placed,
    Edit.apply_bind_of_ok (Cursor.apply_moveTo_between
      (show marked.body.lines.toList = _ from entered) (by simp [here])),
    Edit.apply_bind_of_ok (Cursor.apply_emit_between reads),
    Edit.apply_bind_of_ok (Cursor.apply_emit_between rfl),
    Edit.apply_bind_of_ok (Cursor.apply_emit_between rfl),
    Edit.apply_bind_of_ok (Cursor.apply_emit_between rfl),
    apply_skipWindowRest]
  simp [marked, numbered, guardBypass]

end Steps

section Pass

variable {anchor extra : String} {nextId nextLabel : Nat} {skipped lines rest : List Line}

theorem extendTests_of_some {first second third fourth : Line} {shape : TestShape}
    (opens : opening? anchor (first :: second :: third :: fourth :: rest) = some shape) :
    extendTests anchor extra nextId nextLabel (first :: second :: third :: fourth :: rest) =
      { lines := first :: numbered nextId (shape.added extra ⟨nextLabel⟩ first.instr second.instr
          third.instr) ++ second :: third :: fourth :: (extendTests anchor extra (nextId + 4)
            (nextLabel + (shape.places rest).length) rest).lines
        places := shape.places rest ++ (extendTests anchor extra (nextId + 4)
          (nextLabel + (shape.places rest).length) rest).places
        tests := (shape.load first second, shape) :: (extendTests anchor extra (nextId + 4)
          (nextLabel + (shape.places rest).length) rest).tests } := by
  rw [extendTests, opens]

theorem extendTests_of_none {first : Line} (closed : opening? anchor (first :: rest) = none) :
    extendTests anchor extra nextId nextLabel (first :: rest) =
      (extendTests anchor extra nextId nextLabel rest).behind [first] := by
  rcases rest with _ | ⟨second, _ | ⟨third, _ | ⟨fourth, rest⟩⟩⟩
  case cons.cons.cons => rw [extendTests, closed]
  all_goals rfl

theorem extendTests_skipped
    (closed : ∀ place < skipped.length, opening? anchor ((skipped ++ rest).drop place) = none) :
    extendTests anchor extra nextId nextLabel (skipped ++ rest) =
      (extendTests anchor extra nextId nextLabel rest).behind skipped := by
  induction skipped with
  | nil => rfl
  | cons first skipped ih =>
    have later := ih fun place inside => closed (place + 1) (Nat.succ_lt_succ inside)
    have first_closed : opening? anchor (first :: (skipped ++ rest)) = none :=
      closed 0 (Nat.succ_pos _)
    rw [List.cons_append, extendTests_of_none first_closed, later, Extension.behind_behind]
    rfl

theorem extendTests_of_closed (closed : ∀ place, opening? anchor (lines.drop place) = none) :
    extendTests anchor extra nextId nextLabel lines = { lines } := by
  induction lines with
  | nil => rfl
  | cons first rest ih =>
    rw [extendTests_of_none (closed 0), ih fun place => closed (place + 1)]
    rfl

theorem sublist_extendTests (anchor extra : String) (nextId nextLabel : Nat) (lines : List Line) :
    lines.Sublist (extendTests anchor extra nextId nextLabel lines).lines := by
  fun_induction extendTests anchor extra nextId nextLabel lines with
  | case1 nextId nextLabel first second third fourth rest shape opens new later ih =>
    have test := ((ih.cons_cons fourth).cons_cons third).cons_cons second
    exact (test.trans (List.sublist_append_right new _)).cons_cons first
  | case2 nextId nextLabel first second third fourth rest opens ih => exact ih.cons_cons first
  | case3 nextId nextLabel lines short => exact .refl lines

/-- The pass finds a test in at most every fourth line. -/
theorem length_tests_le (anchor extra : String) (nextId nextLabel : Nat) (lines : List Line) :
    4 * (extendTests anchor extra nextId nextLabel lines).tests.length ≤ lines.length := by
  fun_induction extendTests anchor extra nextId nextLabel lines with
  | case1 nextId nextLabel first second third fourth rest shape opens new later ih =>
    have few : 4 * later.tests.length ≤ rest.length := ih
    simp only [List.length_cons]
    omega
  | case2 nextId nextLabel first second third fourth rest opens ih => exact Nat.le_succ_of_le ih
  | case3 nextId nextLabel lines short => exact Nat.zero_le _

theorem tests_eq_nil_iff (anchor extra : String) (nextId nextLabel : Nat) (lines : List Line) :
    (extendTests anchor extra nextId nextLabel lines).tests = [] ↔
      ∀ place, opening? anchor (lines.drop place) = none := by
  refine ⟨fun nothing => ?_, fun closed => by rw [extendTests_of_closed closed]⟩
  fun_induction extendTests anchor extra nextId nextLabel lines with
  | case1 => cases nothing
  | case2 nextId nextLabel first second third fourth rest opens ih =>
    intro place
    cases place with
    | zero => exact opens
    | succ place => exact ih nothing place
  | case3 nextId nextLabel lines short =>
    intro place
    have few : lines.length < 4 := by
      rcases lines with _ | ⟨first, _ | ⟨second, _ | ⟨third, _ | ⟨fourth, rest⟩⟩⟩⟩
      case cons.cons.cons.cons => exact (short _ _ _ _ _ rfl).elim
      all_goals simp
    exact opening?_of_short (Nat.lt_of_le_of_lt (by simp) few)

end Pass

/-- A step of the loop extends the first test from the cursor on, as the pass does. -/
theorem step_of_nextTest? (extra : String) {anchor method : String} {body : Body}
    {front back : List Line} {start : Nat} {shape : TestShape}
    (found : nextTest? (Cursor.between body method front back) anchor = some (start, shape))
    (shaped : ∀ line ∈ back, line.instr.wellShaped = true) :
    ∃ next ahead later, later.length < back.length ∧ later ⊆ back ∧
      (match shape with
        | .chain => insertChainTest start extra
        | .guard => insertGuardTest start extra).apply (Cursor.between body method front back) =
          (.ok (), Cursor.between next method ahead later) ∧
      (extendTests anchor extra body.nextId body.labels.size back).tests.length =
        (extendTests anchor extra next.nextId next.labels.size later).tests.length + 1 ∧
      ((extendTests anchor extra body.nextId body.labels.size back).behind front).onto body =
        ((extendTests anchor extra next.nextId next.labels.size later).behind ahead).onto next := by
  obtain ⟨skipped, rest, rfl, here, opens, closed⟩ := split_of_nextTest? found
  rw [extendTests_skipped closed, Extension.behind_behind]
  have formed : ∀ line ∈ rest, line.instr.wellShaped = true :=
    fun line listed => shaped line (List.mem_append_right _ listed)
  have split := (Cursor.lines_between body method front (skipped ++ rest)).trans
    (List.append_assoc front skipped rest).symm
  have subset {first second third fourth : Line} {later : List Line} :
      later ⊆ skipped ++ first :: second :: third :: fourth :: later :=
    fun line listed => List.mem_append_right _ (by simp [listed])
  cases shape with
  | chain =>
    obtain ⟨jump, this, field, test, later, label, ref, isField, rfl⟩ := exists_of_chain opens formed
    refine ⟨_, _, later, ?_, subset, apply_insertChainTest extra split isField here, ?_, ?_⟩
    · simp only [List.length_append, List.length_cons]
      omega
    · rw [extendTests_of_some opens]
      rfl
    · rw [extendTests_of_some opens]
      simp [Extension.behind, Extension.onto, Cursor.between, TestShape.added, TestShape.places]
      omega
  | guard =>
    obtain ⟨this, field, test, jump, later, ref, label, isField, rfl⟩ := exists_of_guard opens formed
    refine ⟨_, _, later, ?_, subset, apply_insertGuardTest extra split isField here, ?_, ?_⟩
    · simp only [List.length_append, List.length_cons]
      omega
    · rw [extendTests_of_some opens]
      simp [Extension.behind, Cursor.between, TestShape.places]
    · rw [extendTests_of_some opens]
      simp [Extension.behind, Extension.onto, Cursor.between, TestShape.added, TestShape.places]
      omega

/-- The loop makes the pass over the lines from the cursor on. It ends because there is nothing left
to be found, however many steps it may make. -/
theorem apply_extendNextTests (anchor extra method : String) (back : List Line) (body : Body)
    (front : List Line) (shaped : ∀ line ∈ back, line.instr.wellShaped = true) :
    ∃ finish : Cursor,
      (∀ steps count,
        (extendTests anchor extra body.nextId body.labels.size back).tests.length < steps →
          (extendNextTests anchor extra steps count).apply
            (Cursor.between body method front back) =
              (.ok (count + (extendTests anchor extra body.nextId body.labels.size back).tests.length),
                finish)) ∧
      nextTest? finish anchor = none ∧
      finish.body =
        ((extendTests anchor extra body.nextId body.labels.size back).behind front).onto body := by
  induction size : back.length using Nat.strong_induction_on generalizing back body front with
  | _ size ih =>
    cases found : nextTest? (Cursor.between body method front back) anchor with
    | none =>
      rw [extendTests_of_closed (opening?_of_nextTest?_none found)]
      refine ⟨_, fun steps count more => ?_, found, ?_⟩
      · obtain ⟨steps, rfl⟩ := Nat.exists_eq_succ_of_ne_zero (Nat.ne_zero_of_lt more)
        rw [extendNextTests, Edit.apply_bind_of_ok (Edit.apply_get _), found]
        rfl
      · simp [Extension.behind, Extension.onto, Cursor.between]
    | some test =>
      obtain ⟨start, shape⟩ := test
      obtain ⟨next, ahead, later, shorter, subset, step, counted, same⟩ :=
        step_of_nextTest? extra found shaped
      obtain ⟨finish, runs, ended, reached⟩ := ih later.length (size ▸ shorter) later next ahead
        (fun line listed => shaped line (subset listed)) rfl
      refine ⟨finish, fun steps count more => ?_, ended, reached.trans same.symm⟩
      obtain ⟨steps, rfl⟩ := Nat.exists_eq_succ_of_ne_zero (Nat.ne_zero_of_lt more)
      rw [extendNextTests, Edit.apply_bind_of_ok (Edit.apply_get _), found]
      dsimp only
      rw [counted] at more ⊢
      have rest_runs := runs steps (count + 1) (Nat.lt_of_succ_lt_succ more)
      rw [Nat.add_assoc, Nat.add_comm 1] at rest_runs
      cases shape with
      | chain => exact (Edit.apply_bind_of_ok step).trans rest_runs
      | guard => exact (Edit.apply_bind_of_ok step).trans rest_runs

/-- What the pass makes of a body. -/
abbrev extended (anchor extra : String) (body : Body) : Body :=
  (extendTests anchor extra body.nextId body.labels.size body.lines.toList).onto body

/-- The rule makes the pass and fails if there is no test. -/
theorem apply_extendTypeTests (task : BodyTask) {body : Body} (method : String)
    {anchor extra : String} (shaped : body.Shaped) (given : task.request.textArg 0 = .ok anchor)
    (wanted : task.request.textArg 1 = .ok extra) :
    let pass := extendTests anchor extra body.nextId body.labels.size body.lines.toList
    ∃ finish : Cursor,
      (∀ steps, body.length < steps → (extendNextTests anchor extra steps 0).apply
        { body, method } = (.ok pass.tests.length, finish)) ∧
      nextTest? finish anchor = none ∧
      (extendTypeTests task).apply { body, method } =
        (if pass.tests = [] then
          .error (.patternNotFound method ("isinst " ++ anchor ++ " on a field of this"))
        else .ok (), finish) ∧
      finish.body = pass.onto body := by
  intro pass
  obtain ⟨finish, runs, ended, reached⟩ := apply_extendNextTests anchor extra method
    body.lines.toList body [] fun line listed => shaped _ (List.mem_map_of_mem listed)
  have few : pass.tests.length ≤ body.length := by
    have quarter : 4 * pass.tests.length ≤ body.lines.toList.length := length_tests_le ..
    rw [Body.length, ← Array.length_toList]
    omega
  have loop (steps : Nat) (more : body.length < steps) :
      (extendNextTests anchor extra steps 0).apply { body, method } =
        (.ok pass.tests.length, finish) := by
    rw [Cursor.eq_between, runs steps 0 (Nat.lt_of_le_of_lt few more), Nat.zero_add]
  refine ⟨finish, loop, ended, ?_, reached⟩
  rw [extendTypeTests, Edit.apply_bind_of_ok (by rw [Edit.apply_demand, given]),
    Edit.apply_bind_of_ok (by rw [Edit.apply_demand, wanted]),
    Edit.apply_bind_of_ok (Edit.apply_get _),
    Edit.apply_bind_of_ok (loop _ (Nat.lt_succ_self _))]
  simp only [List.length_eq_zero_iff]
  split <;> rfl

/-- Extending type tests makes one pass over the lines from left to right. The loop always ends, with
nothing left to be found. It fails exactly if neither window opens anywhere, and then changes nothing;
the lines that were there stay in any case. -/
theorem extendTypeTests_eq_pass (task : BodyTask) (body : Body) (method : String)
    {anchor extra : String} (shaped : body.Shaped) (given : task.request.textArg 0 = .ok anchor)
    (wanted : task.request.textArg 1 = .ok extra) :
    let pass := extendTests anchor extra body.nextId body.labels.size body.lines.toList
    ∃ finish : Cursor,
      (∀ steps, body.length < steps → (extendNextTests anchor extra steps 0).apply
        { body, method } = (.ok pass.tests.length, finish)) ∧
      nextTest? finish anchor = none ∧
      (extendTypeTests task).apply { body, method } =
        (if pass.tests = [] then
          .error (.patternNotFound method ("isinst " ++ anchor ++ " on a field of this"))
        else .ok (), finish) ∧
      finish.body = pass.onto body ∧
      body.lines.toList.Sublist pass.lines ∧
      (pass.tests = [] ↔ ∀ index, (chainWindow anchor).opensAt body index = false ∧
        (guardWindow anchor).opensAt body index = false) ∧
      (pass.tests = [] → finish.body = body) := by
  intro pass
  obtain ⟨finish, loop, ended, result, reached⟩ :=
    apply_extendTypeTests task method shaped given wanted
  have closed (index : Nat) : opening? anchor (body.lines.toList.drop index) = none ↔
      (chainWindow anchor).opensAt body index = false ∧
        (guardWindow anchor).opensAt body index = false := by
    rw [opening?_eq_none, Window.opensAt_eq, Window.opensAt_eq, Body.instrs, List.map_drop]
  refine ⟨finish, loop, ended, result, reached, sublist_extendTests .., ?_, fun nothing => ?_⟩
  · rw [tests_eq_nil_iff]
    exact forall_congr' closed
  · rw [reached, extendTests_of_closed ((tests_eq_nil_iff ..).1 nothing)]
    simp [Extension.onto]

/-- A body that goes back to its start unless a field passes two tests, of which the first follows a
jump. -/
def twiceTested : Body :=
  Body.after {} [.newLabel, .append ⟨.ldarg1, .none⟩, .append ⟨.brtrueS, .label ⟨0⟩⟩,
    .append ⟨.ldarg0, .none⟩, .append ⟨.ldfld, .member (.field "Game" "item" "Item")⟩,
    .append ⟨.isinst, .type "Sword"⟩, .append ⟨.brfalseS, .label ⟨0⟩⟩, .append ⟨.ldarg0, .none⟩,
    .append ⟨.ldfld, .member (.field "Game" "item" "Item")⟩, .append ⟨.isinst, .type "Sword"⟩,
    .append ⟨.brfalseS, .label ⟨0⟩⟩, .placeLabel ⟨0⟩ 0]

/-- The first test is taken for one of a chain, the second for a guard. -/
theorem pass_of_twiceTested :
    ∃ finish, (extendTypeTests admitAxe).apply { body := twiceTested, method := "Game::Use" } =
        (.ok (), finish) ∧
      finish.body.ids = [⟨0⟩, ⟨1⟩, ⟨10⟩, ⟨11⟩, ⟨12⟩, ⟨13⟩, ⟨2⟩, ⟨3⟩, ⟨4⟩, ⟨5⟩, ⟨6⟩, ⟨14⟩, ⟨15⟩, ⟨16⟩,
        ⟨17⟩, ⟨7⟩, ⟨8⟩, ⟨9⟩] ∧
      finish.body.labels = #[.line ⟨0⟩, .atEnd] := by
  have shaped : twiceTested.Shaped := by unfold Body.Shaped; decide +kernel
  obtain ⟨finish, _, _, result, reached, _⟩ :=
    extendTypeTests_eq_pass admitAxe twiceTested "Game::Use" shaped rfl rfl
  have found : (extendTests "Sword" "Axe" twiceTested.nextId twiceTested.labels.size
      twiceTested.lines.toList).tests ≠ [] := by decide +kernel
  refine ⟨finish, result.trans (by rw [if_neg found]), ?_, ?_⟩
  · rw [reached]
    decide +kernel
  · rw [reached]
    decide +kernel

end Rule
end Retrofit
