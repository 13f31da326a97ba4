import Retrofit.Proofs.Body.Execution
import Retrofit.Proofs.Rule.TestPass

/-!
What an extended type test decides (`Rule.pass?_extendTypeTests`), on an abstract machine for the few
instructions of a test. The pass puts the new test behind the first line of the old one. In a guard
that is inside the test. In a chain it is between the jump in front and the test, and whether what
follows agrees with that jump is not looked at.
-/

namespace Retrofit

/-- Objects as code sees them: which one is `this`, what their fields hold, and whether they have a
type. The null reference is `none`. -/
structure World (α : Type) where
  this : Option α
  held : MemberRef → α → Option α
  isA : String → α → Bool

namespace World

variable {α : Type} {ref : MemberRef} {type : String}

/-- What the instructions of a type test do. There is no result for others, nor where a field of the
null reference is read. -/
def perform (world : World α) : Semantics (Option α)
  | ⟨.ldarg0, _⟩, stack => some (none, world.this :: stack)
  | ⟨.ldfld, .member ref⟩, some object :: stack => some (none, world.held ref object :: stack)
  | ⟨.isinst, .type type⟩, value :: stack => some (none, value.filter (world.isA type) :: stack)
  | ⟨.brtrueS, .label label⟩, value :: stack => some (if value.isSome then label else none, stack)
  | ⟨.brfalseS, .label label⟩, value :: stack => some (if value.isSome then none else label, stack)
  | _, _ => none

/-- The field of `this` holds an object of the type. -/
def passes (world : World α) (ref : MemberRef) (type : String) : Bool :=
  (world.this.bind (world.held ref)).any (world.isA type)

variable {world : World α}

theorem run_brtrueS (label : LabelId) (code : List Instr) (stack : List (Option α)) :
    world.perform.run (⟨.ldfld, .member ref⟩ :: ⟨.isinst, .type type⟩ ::
        ⟨.brtrueS, .label label⟩ :: code) (world.this :: stack) =
      if world.passes ref type then some (some label, stack)
      else if world.this.isSome then world.perform.run code stack else none := by
  cases found : world.this with
  | none => simp [Semantics.run, perform, passes, found]
  | some object =>
    cases passed : (world.held ref object).any (world.isA type) <;>
      simp [Semantics.run, perform, passes, found, passed]

theorem run_brfalseS (label : LabelId) (code : List Instr) (stack : List (Option α)) :
    world.perform.run (⟨.ldfld, .member ref⟩ :: ⟨.isinst, .type type⟩ ::
        ⟨.brfalseS, .label label⟩ :: code) (world.this :: stack) =
      if world.passes ref type then world.perform.run code stack
      else if world.this.isSome then some (some label, stack) else none := by
  cases found : world.this with
  | none => simp [Semantics.run, perform, passes, found]
  | some object =>
    cases passed : (world.held ref object).any (world.isA type) <;>
      simp [Semantics.run, perform, passes, found, passed]

end World

namespace Rule

section Pass

variable {anchor extra : String} {nextId nextLabel : Nat} {lines rest : List Line}
  {added : InstrId → Bool}

/-- The pass gets to each of its tests, and the line in front of it is the one that was there. -/
theorem split_of_mem_tests {test : InstrId × TestShape}
    (listed : test ∈ (extendTests anchor extra nextId nextLabel lines).tests) :
    ∃ front rest ahead places number label, lines = front ++ rest ∧ nextId ≤ number ∧
      nextLabel + places.length = label ∧ ahead.getLast? = front.getLast? ∧
      (extendTests anchor extra nextId nextLabel lines).lines =
        ahead ++ (extendTests anchor extra number label rest).lines ∧
      (extendTests anchor extra nextId nextLabel lines).places =
        places ++ (extendTests anchor extra number label rest).places ∧
      opening? anchor rest = some test.2 ∧
      (extendTests anchor extra number label rest).tests.head? = some test := by
  fun_induction extendTests anchor extra nextId nextLabel lines with
  | case1 nextId nextLabel first second third fourth rest shape opens new later ih =>
    rcases List.mem_cons.1 listed with rfl | listed
    · exact ⟨[], _, [], [], nextId, nextLabel, rfl, Nat.le_refl _, rfl, rfl,
        by simp [extendTests, opens, new, later]⟩
    · obtain ⟨front, rest, ahead, places, number, label, rfl, enough, counted, last, lines, placed,
        found⟩ := ih listed
      exact ⟨first :: second :: third :: fourth :: front, rest,
        first :: new ++ second :: third :: fourth :: ahead, shape.places (front ++ rest) ++ places,
        number, label, rfl, by omega, by rw [List.length_append]; omega,
        by simp [List.getLast?_cons, last],
        by simp [later, lines], by simp [later, placed], found⟩
  | case2 nextId nextLabel first second third fourth rest opens ih =>
    obtain ⟨front, rest, ahead, places, number, label, same, enough, counted, last, lines, placed,
      found⟩ := ih listed
    exact ⟨first :: front, rest, first :: ahead, places, number, label, congrArg (first :: ·) same,
      enough, counted, by rw [List.getLast?_cons, last, List.getLast?_cons],
      congrArg (first :: ·) lines, placed, found⟩
  | case3 => cases listed

theorem filter_numbered (fresh : ∀ number, nextId ≤ number → added ⟨number⟩ = true)
    (instrs : List Instr) :
    (numbered nextId instrs).filter (fun line => !added line.id) = [] := by
  refine List.filter_eq_nil_iff.2 fun line listed => ?_
  simp [fresh line.id.index (le_of_mem_numbered listed)]

/-- Without the added lines the pass leaves the lines that it was given. -/
theorem filter_extendTests (old : ∀ line ∈ lines, added line.id = false)
    (fresh : ∀ number, nextId ≤ number → added ⟨number⟩ = true) :
    (extendTests anchor extra nextId nextLabel lines).lines.filter (fun line => !added line.id) =
      lines := by
  fun_induction extendTests anchor extra nextId nextLabel lines with
  | case1 nextId nextLabel first second third fourth rest shape opens new later ih =>
    simp only [List.forall_mem_cons] at old
    obtain ⟨one, two, three, four, others⟩ := old
    have kept : later.lines.filter (fun line => !added line.id) = rest :=
      ih others fun number enough => fresh number (by omega)
    have dropped : new.filter (fun line => !added line.id) = [] := filter_numbered fresh _
    simp [dropped, one, two, three, four, kept]
  | case2 nextId nextLabel first second third fourth rest opens ih =>
    obtain ⟨one, others⟩ := List.forall_mem_cons.1 old
    simp [Extension.behind, one, ih others fresh]
  | case3 nextId nextLabel lines =>
    exact List.filter_eq_self.2 fun line listed => by simp [old line listed]

theorem head?_extendTests (anchor extra : String) (nextId nextLabel : Nat) (lines : List Line) :
    (extendTests anchor extra nextId nextLabel lines).lines.head? = lines.head? := by
  fun_induction extendTests anchor extra nextId nextLabel lines <;> rfl

end Pass

section Around

variable {anchor extra : String} {body : Body} {id : InstrId} {index : Nat} {consumer : Line}

/-- The code of a test, with the instruction that consumes what it leaves. -/
def oldTest (anchor : String) (ref : MemberRef) (consumer : Instr) : List Instr :=
  [⟨.ldarg0, .none⟩, ⟨.ldfld, .member ref⟩, ⟨.isinst, .type anchor⟩, consumer]

/-- The code of a test that has been put in front of another. In a chain and in a guard it is the same
code, put in at different lines. -/
def newTest (extra : String) (ref : MemberRef) (success : LabelId) : List Instr :=
  [⟨.ldarg0, .none⟩, ⟨.ldfld, .member ref⟩, ⟨.isinst, .type extra⟩, ⟨.brtrueS, .label success⟩]

/-- The lines that are new in a later state of the body. -/
abbrev isNew (body : Body) (id : InstrId) : Bool := body.nextId ≤ id.index

/-- The labels of the body stay where they are. -/
theorem placeOf?_extended {label : LabelId} {place : LabelPlace}
    (here : body.placeOf? label = some place) :
    (extended anchor extra body).placeOf? label = some place := by
  have inside := (Array.getElem?_eq_some_iff.1 here).1
  show (body.labels ++ _)[label.index]? = _
  rw [Array.getElem?_append_left inside]
  exact here

theorem leave?_extended {next : Option InstrId} {stopped : Option LabelId × List α}
    {exit : LabelPlace × List α} (left : body.leave? next stopped = some exit) :
    (extended anchor extra body).leave? next stopped = some exit := by
  obtain ⟨_ | label, stack⟩ := stopped
  · exact left
  · obtain ⟨place, here, rfl⟩ := Option.map_eq_some_iff.1 left
    rw [Body.leave?, placeOf?_extended here]
    rfl

/-- What ends in the body without the new tests, ends there in the same way with them. -/
theorem bind_leave?_extended {next : Option InstrId} {run : Option (Option LabelId × List α)}
    {exit : LabelPlace × List α} (left : run.bind (body.leave? next) = some exit) :
    run.bind ((extended anchor extra body).leave? next) = some exit := by
  obtain ⟨stopped, ended, left⟩ := Option.bind_eq_some_iff.1 left
  exact Option.bind_eq_some_iff.2 ⟨stopped, ended, leave?_extended left⟩

theorem getElem?_behind {front back : List Line} (lines : body.lines.toList = front ++ back)
    (place : Nat) : body.lines[front.length + place]? = back[place]? := by
  rw [← Array.getElem?_toList, lines, List.getElem?_append_right (Nat.le_add_right ..),
    Nat.add_sub_cancel_left]

private theorem find?_of_filter {lines kept : List Line} {added : InstrId → Bool}
    (same : lines.filter (fun line => !added line.id) = kept) :
    (lines.map Line.id).find? (fun id => !added id) = kept.head?.map Line.id := by
  rw [← same, List.head?_filter, List.find?_map]
  rfl

section Formed

variable (formed : body.WellFormed)

include formed

theorem old_of_mem {line : Line} (listed : line ∈ body.lines.toList) : isNew body line.id = false :=
  decide_eq_false (Nat.not_le.2 (formed.issued line.id (List.mem_map_of_mem listed)))

theorem filter_old {lines : List Line} (old : lines ⊆ body.lines.toList) :
    lines.filter (fun line => !isNew body line.id) = lines :=
  List.filter_eq_self.2 fun line listed => by rw [old_of_mem formed (old listed)]; rfl

theorem eq_index {front back : List Line} {line : Line}
    (lines : body.lines.toList = front ++ line :: back) (here : body.indexOf? line.id = some index) :
    index = front.length := by
  have there : body.idAt? front.length = some line.id := by
    rw [Body.idAt?_eq, Body.ids, lines]
    simp
  exact Option.some.inj (here.symm.trans (Body.indexOf?_of_idAt? formed.distinct there))

/-- In the body itself nothing is new, so that a stretch of it is run however control comes. -/
theorem pass?_within {front : List Line} (first : Line) (middle : List Line) (last : Line)
    {rest : List Line} (lines : body.lines.toList = front ++ (first :: middle ++ last :: rest))
    (semantics : Semantics α) (entry : Entry) (stack : List α) :
    body.pass? semantics (isNew body) entry first.id last.id stack =
      (semantics.run ((first :: middle ++ [last]).map Line.instr) stack).bind
        (body.leave? (rest.head?.map Line.id)) := by
  have front_old : ∀ line ∈ front.getLast?, isNew body line.id = false := fun line present =>
    old_of_mem formed (lines ▸ List.mem_append_left _ (List.mem_of_getLast? present))
  have rest_old : rest ⊆ body.lines.toList := fun line present => by simp [lines, present]
  rw [Body.pass?_eq_of_nothing_added front first middle last rest formed.distinct lines front_old,
    find?_of_filter (filter_old formed rest_old)]

/-- Around each of its tests the pass has put the new lines behind the first one. What follows is what
followed before, but for new lines, of which none comes first; there the new label of a guard stands. -/
theorem exists_around {shape : TestShape} (listed : (id, shape) ∈
      (extendTests anchor extra body.nextId body.labels.size body.lines.toList).tests) :
    ∃ front first second third fourth rest ahead number label back,
      body.lines.toList = front ++ first :: second :: third :: fourth :: rest ∧
      opening? anchor (first :: second :: third :: fourth :: rest) = some shape ∧
      shape.load first second = id ∧ body.nextId ≤ number ∧ ahead.getLast? = front.getLast? ∧
      (extended anchor extra body).lines.toList = ahead ++ first ::
        numbered number (shape.added extra label first.instr second.instr third.instr) ++
          second :: third :: fourth :: back ∧
      back.filter (fun line => !isNew body line.id) = rest ∧ back.head? = rest.head? ∧
      (shape = .guard →
        (extended anchor extra body).placeOf? label = some (.before (rest.head?.map Line.id))) := by
  obtain ⟨front, rest, ahead, places, number, label, lines, enough, counted, last, passed, placed,
    opens, found⟩ := split_of_mem_tests listed
  rcases rest with _ | ⟨first, _ | ⟨second, _ | ⟨third, _ | ⟨fourth, rest⟩⟩⟩⟩
  case cons.cons.cons.cons =>
    rw [extendTests_of_some opens] at found passed placed
    have present {line : Line} (mem : line ∈ rest) : line ∈ body.lines.toList := by
      rw [lines]
      simp [mem]
    refine ⟨front, first, second, third, fourth, rest, ahead, number, ⟨label⟩,
      (extendTests anchor extra (number + 4) (label + (shape.places rest).length) rest).lines, lines,
      opens, congrArg Prod.fst (Option.some.inj found), enough, last,
      passed.trans (List.append_assoc ..).symm,
      filter_extendTests (fun line mem => old_of_mem formed (present mem))
        (fun later less => decide_eq_true (by show body.nextId ≤ later; omega)),
      head?_extendTests .., ?_⟩
    rintro rfl
    show (body.labels ++ _)[label]? = _
    rw [Array.getElem?_append_right (by omega), placed]
    simp [← counted, TestShape.places]
  all_goals
    rw [opening?_of_short (by simp)] at opens
    cases opens

/-- A test in a chain is entered by the new test if control falls into it, and past the new test if
control jumps to it. -/
theorem pass?_chain (shaped : body.Shaped)
    (distinct : (extended anchor extra body).ids.Nodup)
    (listed : (id, .chain) ∈
      (extendTests anchor extra body.nextId body.labels.size body.lines.toList).tests)
    (here : body.indexOf? id = some index) (consumes : body.lines[index + 3]? = some consumer) :
    ∃ label ref next, body.instrAt? (index - 1) = some ⟨.brtrueS, .label label⟩ ∧
      body.instrAt? (index + 1) = some ⟨.ldfld, .member ref⟩ ∧
      ∀ {α : Type} (semantics : Semantics α) (entry : Entry) (stack : List α),
        body.pass? semantics (isNew body) entry id consumer.id stack =
          (semantics.run (oldTest anchor ref consumer.instr) stack).bind (body.leave? next) ∧
        (extended anchor extra body).pass? semantics (isNew body) entry id consumer.id stack =
          (semantics.run (entry.through (newTest extra ref label) ++
              oldTest anchor ref consumer.instr) stack).bind
            ((extended anchor extra body).leave? next) := by
  obtain ⟨front, first, second, third, fourth, rest, ahead, number, label, back, lines, opens, rfl,
    enough, last, after, filtered, head, -⟩ := exists_around formed listed
  have fits : ∀ line ∈ first :: second :: third :: fourth :: rest, line.instr.wellShaped = true :=
    fun line present => shaped _ (List.mem_map_of_mem (lines ▸ List.mem_append_right front present))
  obtain ⟨jump, this, field, test, _, target, ref, isField, same⟩ := exists_of_chain opens fits
  cases same
  have split : body.lines.toList = (front ++ [⟨jump, .brtrueS, .label target⟩]) ++
      ⟨this, .ldarg0, .none⟩ :: ⟨field, .ldfld, .member ref⟩ :: ⟨test, .isinst, .type anchor⟩ ::
        rest := by simp [lines]
  obtain rfl := eq_index formed split here
  rw [getElem?_behind split] at consumes
  -- the window ends before the line that consumes the test; in both bodies it is the next one
  obtain ⟨rest, rfl⟩ : ∃ behind, rest = consumer :: behind := by
    rcases rest with _ | ⟨next, behind⟩ <;> cases consumes
    exact ⟨behind, rfl⟩
  obtain ⟨back, rfl⟩ : ∃ behind, back = consumer :: behind := by
    rcases back with _ | ⟨next, behind⟩ <;> cases head
    exact ⟨behind, rfl⟩
  have kept : back.filter (fun line => !isNew body line.id) = rest := by
    rw [List.filter_cons_of_pos (by rw [old_of_mem formed (by simp [lines])]; rfl)] at filtered
    exact (List.cons.inj filtered).2
  have jump_old : ∀ line ∈ (ahead ++ [(⟨jump, .brtrueS, .label target⟩ : Line)]).getLast?,
      isNew body line.id = false := by
    rw [List.getLast?_concat]
    rintro _ ⟨⟩
    exact old_of_mem formed (by simp [lines])
  refine ⟨target, ref, rest.head?.map Line.id, ?_, ?_, fun semantics entry stack => ⟨?_, ?_⟩⟩
  · rw [List.length_append, List.length_singleton, Nat.add_sub_cancel, Body.instrAt?,
      ← Nat.add_zero front.length, getElem?_behind lines]
    rfl
  · rw [Body.instrAt?, getElem?_behind split]
    rfl
  · exact pass?_within formed ⟨this, .ldarg0, .none⟩
      [⟨field, .ldfld, .member ref⟩, ⟨test, .isinst, .type anchor⟩] consumer split semantics entry
      stack
  · have passes := Body.pass?_eq (ahead ++ [⟨jump, .brtrueS, .label target⟩])
      (numbered number (chainArm extra ⟨.brtrueS, .label target⟩ ⟨.ldfld, .member ref⟩))
      ⟨this, .ldarg0, .none⟩ [⟨field, .ldfld, .member ref⟩, ⟨test, .isinst, .type anchor⟩] consumer
      back distinct (by simp [after, TestShape.added]) jump_old
      (fun line new => decide_eq_true (enough.trans (le_of_mem_numbered new))) semantics entry stack
    rw [find?_of_filter kept, List.append_assoc, List.map_append, Entry.map_through,
      map_instr_numbered] at passes
    exact passes

/-- A guard is entered by the line that it begins with, and the new test comes behind that. -/
theorem pass?_guard (shaped : body.Shaped) (distinct : (extended anchor extra body).ids.Nodup)
    (listed : (id, .guard) ∈
      (extendTests anchor extra body.nextId body.labels.size body.lines.toList).tests)
    (here : body.indexOf? id = some index) (consumes : body.lines[index + 3]? = some consumer) :
    ∃ failure success ref next, consumer.instr = ⟨.brfalseS, .label failure⟩ ∧
      (extended anchor extra body).placeOf? success = some (.before next) ∧
      body.instrAt? (index + 1) = some ⟨.ldfld, .member ref⟩ ∧
      ∀ {α : Type} (semantics : Semantics α) (entry : Entry) (stack : List α),
        body.pass? semantics (isNew body) entry id consumer.id stack =
          (semantics.run (oldTest anchor ref consumer.instr) stack).bind (body.leave? next) ∧
        (extended anchor extra body).pass? semantics (isNew body) entry id consumer.id stack =
          (semantics.run (newTest extra ref success ++ oldTest anchor ref consumer.instr) stack).bind
            ((extended anchor extra body).leave? next) := by
  obtain ⟨front, first, second, third, fourth, rest, ahead, number, label, back, lines, opens, rfl,
    enough, last, after, filtered, -, defined⟩ := exists_around formed listed
  have fits : ∀ line ∈ first :: second :: third :: fourth :: rest, line.instr.wellShaped = true :=
    fun line present => shaped _ (List.mem_map_of_mem (lines ▸ List.mem_append_right front present))
  obtain ⟨this, field, test, jump, _, ref, failure, isField, same⟩ := exists_of_guard opens fits
  cases same
  obtain rfl := eq_index formed lines here
  rw [getElem?_behind lines] at consumes
  cases consumes
  have front_old : ∀ line ∈ ahead.getLast?, isNew body line.id = false := fun line present =>
    old_of_mem formed (lines ▸ List.mem_append_left _ (List.mem_of_getLast? (last ▸ present)))
  refine ⟨failure, label, ref, rest.head?.map Line.id, rfl, defined rfl, ?_,
    fun semantics entry stack => ⟨?_, ?_⟩⟩
  · rw [Body.instrAt?, getElem?_behind lines]
    rfl
  · exact pass?_within formed ⟨this, .ldarg0, .none⟩
      [⟨field, .ldfld, .member ref⟩, ⟨test, .isinst, .type anchor⟩]
      ⟨jump, .brfalseS, .label failure⟩ lines semantics entry stack
  · have passes := Body.pass?_eq_of_nothing_added ahead ⟨this, .ldarg0, .none⟩
      (numbered number (guardBypass extra ⟨.ldfld, .member ref⟩ label) ++
        [⟨field, .ldfld, .member ref⟩, ⟨test, .isinst, .type anchor⟩])
      ⟨jump, .brfalseS, .label failure⟩ back distinct (by simp [after, TestShape.added]) front_old
      semantics entry stack
    rw [find?_of_filter filtered] at passes
    refine passes.trans ?_
    simp [newTest, oldTest, guardBypass]

end Formed

end Around

section Decision

variable {α : Type} {world : World α} {ref : MemberRef} {anchor extra : String} {body : Body}
  {label : LabelId} {next : Option InstrId} {consumer : Instr} {stack : List (Option α)}

/-- The new test jumps away if it is passed, and makes no difference if not: where `this` is the null
reference the old test fails as well. -/
theorem run_newTest (label : LabelId) (consumer : Instr) (stack : List (Option α)) :
    world.perform.run (newTest extra ref label ++ oldTest anchor ref consumer) stack =
      if world.passes ref extra then some (some label, stack)
      else world.perform.run (oldTest anchor ref consumer) stack := by
  refine (World.run_brtrueS label _ stack).trans ?_
  split
  · rfl
  · split
    · rfl
    · next absent =>
      have null : world.this = none := by simpa using absent
      simp [oldTest, Semantics.run, World.perform, null]

theorem run_oldTest_of_passes (failure : LabelId) (stack : List (Option α))
    (passed : world.passes ref anchor = true) :
    world.perform.run (oldTest anchor ref ⟨.brfalseS, .label failure⟩) stack = some (none, stack) :=
  (World.run_brfalseS failure [] stack).trans (by rw [if_pos passed]; rfl)

theorem run_oldTest_brtrueS (target : LabelId) (stack : List (Option α))
    (passed : world.passes ref anchor = true) :
    world.perform.run (oldTest anchor ref ⟨.brtrueS, .label target⟩) stack =
      some (some target, stack) :=
  (World.run_brtrueS target [] stack).trans (if_pos passed)

/-- Objects without the extra type leave an extended test as they left the old one. -/
theorem leave?_of_fails {exit : LabelPlace × List (Option α)} (fails : world.passes ref extra = false)
    (left : (world.perform.run (oldTest anchor ref consumer) stack).bind (body.leave? next) =
      some exit) :
    (world.perform.run (newTest extra ref label ++ oldTest anchor ref consumer) stack).bind
      ((extended anchor extra body).leave? next) = some exit := by
  rw [run_newTest, fails]
  exact bind_leave?_extended left

/-- Objects with the extra type leave it for the place of the label, with the stack they came with. -/
theorem leave?_of_passes {place : LabelPlace} (passed : world.passes ref extra = true)
    (there : (extended anchor extra body).placeOf? label = some place) :
    (world.perform.run (newTest extra ref label ++ oldTest anchor ref consumer) stack).bind
      ((extended anchor extra body).leave? next) = some (place, stack) := by
  rw [run_newTest, passed]
  simp [Body.leave?, there]

theorem body_of_served (task : BodyTask) (method : String) (formed : body.WellFormed)
    (shaped : body.Shaped) (given : task.request.textArg 0 = .ok anchor)
    (wanted : task.request.textArg 1 = .ok extra) {finish : Cursor}
    (served : (extendTypeTests task).apply { body, method } = (.ok (), finish)) :
    finish.body = extended anchor extra body ∧ (extended anchor extra body).ids.Nodup := by
  obtain ⟨last, _, _, result, reached⟩ := apply_extendTypeTests task method shaped given wanted
  obtain rfl : finish = last := congrArg Prod.snd (served.symm.trans result)
  have same : finish.body = extended anchor extra body := reached
  have start : Cursor.Framing (fun _ => False) none body { body, method } :=
    .refl { body, method } formed
  have framing := (ensures_extendTypeTests task).of_eq_ok served start
  exact ⟨same, same ▸ framing.frame.formed.distinct⟩

/-- What an extended test decides. Objects without the extra type leave it as they did before. For
those with the extra type a guard decides what it decided for the anchor. A chain sends them where its
jump in front of the test goes, if they come by that jump: that is where the anchor went if the test
is followed by a jump to the same place. Those that jump to the test itself miss the new one, and leave
as they did before. -/
theorem pass?_extendTypeTests (α : Type) (task : BodyTask) {body : Body} (method : String)
    {anchor extra : String} (reachable : body.Reachable) (shaped : body.Shaped)
    (given : task.request.textArg 0 = .ok anchor) (wanted : task.request.textArg 1 = .ok extra)
    {finish : Cursor} (served : (extendTypeTests task).apply { body, method } = (.ok (), finish))
    {id : InstrId} {shape : TestShape} (listed : (id, shape) ∈
      (extendTests anchor extra body.nextId body.labels.size body.lines.toList).tests)
    {index : Nat} {consumer : Line} (here : body.indexOf? id = some index)
    (consumes : body.lines[index + 3]? = some consumer) (entry : Entry) :
    let before (world : World α) := body.pass? world.perform (isNew body) entry id consumer.id
    let after (world : World α) := finish.body.pass? world.perform (isNew body) entry id consumer.id
    ∃ ref, body.instrAt? (index + 1) = some ⟨.ldfld, .member ref⟩ ∧
      (∀ world stack exit, world.passes ref extra = false → before world stack = some exit →
        after world stack = some exit) ∧
      (shape = .guard → ∀ world other stack, world.passes ref extra = true →
        other.passes ref anchor = true → after world stack = before other stack) ∧
      (shape = .chain → entry = .falling →
        ∃ label, body.instrAt? (index - 1) = some ⟨.brtrueS, .label label⟩ ∧
          ∀ world stack place, world.passes ref extra = true → body.placeOf? label = some place →
            after world stack = some (place, stack) ∧
            ∀ other target, other.passes ref anchor = true →
              consumer.instr = ⟨.brtrueS, .label target⟩ → body.placeOf? target = some place →
                after world stack = before other stack) ∧
      (shape = .chain → entry = .jumping → ∀ world stack exit, before world stack = some exit →
        after world stack = some exit) := by
  have formed := reachable.wellFormed
  obtain ⟨reached, distinct⟩ := body_of_served task method formed shaped given wanted served
  rw [reached]
  intro before after
  cases shape with
  | chain =>
    obtain ⟨label, ref, next, jumps, reads, passes⟩ :=
      pass?_chain formed shaped distinct listed here consumes
    have old (world : World α) (stack : List (Option α)) := (passes world.perform entry stack).1
    have new (world : World α) (stack : List (Option α)) := (passes world.perform entry stack).2
    cases entry with
    | falling =>
      refine ⟨ref, reads, fun world stack exit fails left => ?_, nofun,
        fun _ _ => ⟨label, jumps, fun world stack place passed here => ?_⟩, nofun⟩
      · exact (new world stack).trans (leave?_of_fails fails ((old world stack).symm.trans left))
      · have sent : after world stack = some (place, stack) :=
          (new world stack).trans (leave?_of_passes passed (placeOf?_extended here))
        refine ⟨sent, fun other target accepted jumping there => ?_⟩
        refine sent.trans (((old other stack).trans ?_).symm)
        rw [jumping, run_oldTest_brtrueS target stack accepted]
        simp [Body.leave?, there]
    | jumping =>
      have missed (world : World α) (stack : List (Option α)) (exit : LabelPlace × List (Option α))
          (left : before world stack = some exit) : after world stack = some exit :=
        (new world stack).trans (bind_leave?_extended ((old world stack).symm.trans left))
      exact ⟨ref, reads, fun world stack exit _ => missed world stack exit, nofun, nofun,
        fun _ _ => missed⟩
  | guard =>
    obtain ⟨failure, success, ref, next, rejects, placed, reads, passes⟩ :=
      pass?_guard formed shaped distinct listed here consumes
    have old (world : World α) (stack : List (Option α)) := (passes world.perform entry stack).1
    have new (world : World α) (stack : List (Option α)) := (passes world.perform entry stack).2
    refine ⟨ref, reads, fun world stack exit fails left => ?_,
      fun _ world other stack passed accepted => ?_, nofun, nofun⟩
    · exact (new world stack).trans (leave?_of_fails fails ((old world stack).symm.trans left))
    · have sent : after world stack = some (.before next, stack) :=
        (new world stack).trans (leave?_of_passes passed placed)
      refine sent.trans (((old other stack).trans ?_).symm)
      rw [rejects, run_oldTest_of_passes failure stack accepted]
      rfl

end Decision

/-- A world in which all fields hold one object, which has one type. -/
def holding (type : String) : World String where
  this := some "Game"
  held _ _ := some type
  isA tested object := object = tested

/-- Behind the guard of the second test, an axe goes where a sword went. -/
theorem decision_of_twiceTested :
    ∃ finish, (extendTypeTests admitAxe).apply { body := twiceTested, method := "Game::Use" } =
        (.ok (), finish) ∧
      finish.body.pass? (holding "Axe").perform (isNew twiceTested) .falling ⟨6⟩ ⟨9⟩ [] =
        twiceTested.pass? (holding "Sword").perform (isNew twiceTested) .falling ⟨6⟩ ⟨9⟩ [] ∧
      twiceTested.pass? (holding "Sword").perform (isNew twiceTested) .falling ⟨6⟩ ⟨9⟩ [] =
        some (.atEnd, []) := by
  have shaped : twiceTested.Shaped := by unfold Body.Shaped; decide +kernel
  have served : ((extendTypeTests admitAxe).apply
      { body := twiceTested, method := "Game::Use" }).1 = .ok () := by cbv
  have listed : (⟨6⟩, .guard) ∈ (extendTests "Sword" "Axe" twiceTested.nextId
      twiceTested.labels.size twiceTested.lines.toList).tests := by decide +kernel
  have here : twiceTested.indexOf? ⟨6⟩ = some 6 := by decide +kernel
  have consumes : twiceTested.lines[6 + 3]? = some ⟨⟨9⟩, .brfalseS, .label ⟨0⟩⟩ := by
    decide +kernel
  obtain ⟨ref, _, _, accepts, _⟩ := pass?_extendTypeTests String admitAxe "Game::Use"
    (.after .empty _) shaped rfl rfl (Prod.ext served rfl) listed here consumes .falling
  exact ⟨_, Prod.ext served rfl, accepts rfl (holding "Axe") (holding "Sword") []
    (by simp [holding, World.passes]) (by simp [holding, World.passes]), by decide +kernel⟩

/-- A body that tells whether its argument is null and a field has a type. -/
def bothRequired : Body :=
  Body.after {} [.newLabel, .append ⟨.ldarg1, .none⟩, .append ⟨.brtrueS, .label ⟨0⟩⟩,
    .append ⟨.ldarg0, .none⟩,
    .append ⟨.ldfld, .member (.field "Game.FileSelect" "submenu" "Game.Menu")⟩,
    .append ⟨.isinst, .type "Game.AssistMode"⟩, .append ⟨.brfalseS, .label ⟨0⟩⟩,
    .append ⟨.ldcI41, .none⟩, .append ⟨.ret, .none⟩, .append ⟨.ldcI40, .none⟩,
    .append ⟨.ret, .none⟩, .placeLabel ⟨0⟩ 8]

/-- The request to let slots pass as well. -/
def admitSlot : BodyTask :=
  { admitAxe with
    request := ⟨"PatchTypeCheck", [.string "Game.AssistMode", .string "Game.Slot"]⟩ }

/-- The test is taken for one of a chain, so that a slot is sent to the failure. -/
theorem misled_bothRequired :
    ((extendTypeTests admitSlot).apply { body := bothRequired, method := "Check" }).1 = .ok () ∧
      bothRequired.pass? (holding "Game.AssistMode").perform (isNew bothRequired) .falling ⟨2⟩ ⟨5⟩
        [] = some (.line ⟨6⟩, []) ∧
      ((extendTypeTests admitSlot).apply
          { body := bothRequired, method := "Check" }).2.body.pass?
        (holding "Game.Slot").perform (isNew bothRequired) .falling ⟨2⟩ ⟨5⟩ [] =
          some (.line ⟨8⟩, []) := by
  refine ⟨by cbv, by decide +kernel, by decide +kernel⟩

end Rule
end Retrofit
