import Retrofit.Proofs.Cursor.Between
import Retrofit.Proofs.Edit
import Retrofit.Rule.FieldRead

/-!
Reading fields directly, in closed form. Each step of the loop overwrites a load and takes out the call
of the getter behind it; all of them come to one pass over the lines from left to right
(`Rule.readDirectly`). A label at a call that is taken out goes to the line behind it, so that jumps
there miss the read.
-/

namespace Retrofit

/-- What a pass over lines makes of them: the lines afterwards, and the lines that it has taken out,
each with the one that was behind it. -/
structure Contraction where
  lines : List Line
  gone : List (InstrId × Option InstrId) := []

/-- The contraction with some lines in front that stay as they are. -/
def Contraction.behind (front : List Line) (contraction : Contraction) : Contraction :=
  { contraction with lines := front ++ contraction.lines }

namespace LabelPlace

/-- A label at a line that has gone goes to the one behind it. -/
def relocated (gone : List (InstrId × Option InstrId)) : LabelPlace → LabelPlace
  | .line id => ((gone.find? fun entry => entry.1 = id).map fun entry => before entry.2).getD (.line id)
  | place => place

theorem relocated_of_mem {gone : List (InstrId × Option InstrId)} {id : InstrId}
    {next : Option InstrId} (distinct : (gone.map Prod.fst).Nodup) (listed : (id, next) ∈ gone) :
    (line id).relocated gone = before next := by
  have found : (gone.find? fun entry => entry.1 = id).isSome = true :=
    List.find?_isSome.2 ⟨_, listed, decide_eq_true rfl⟩
  obtain ⟨entry, found⟩ := Option.isSome_iff_exists.1 found
  have named : entry.1 = id := by simpa using List.find?_some found
  have same : entry = (id, next) :=
    List.inj_on_of_nodup_map distinct (List.mem_of_find?_eq_some found) listed named
  rw [relocated, found, same]
  rfl

theorem relocated_of_not_mem {gone : List (InstrId × Option InstrId)} {place : LabelPlace}
    (stays : ∀ entry ∈ gone, place ≠ line entry.1) : place.relocated gone = place := by
  cases place with
  | line id =>
    have absent : gone.find? (fun entry => entry.1 = id) = none := by
      rw [List.find?_eq_none]
      intro entry listed found
      exact stays entry listed (congrArg line (of_decide_eq_true found).symm)
    rw [relocated, absent]
    rfl
  | atEnd => rfl
  | unplaced => rfl

theorem relocated_nil (place : LabelPlace) : place.relocated [] = place := by
  cases place <;> rfl

theorem relocated_cons {gone : List (InstrId × Option InstrId)} {id : InstrId}
    {next : Option InstrId} (stays : ∀ entry ∈ gone, next ≠ some entry.1) (place : LabelPlace) :
    place.relocated ((id, next) :: gone) = (place.moved id next).relocated gone := by
  cases place with
  | line held =>
    by_cases same : id = held
    · subst same
      cases next with
      | none => simp [relocated, before]
      | some next =>
        have absent : gone.find? (fun entry => entry.1 = next) = none := by
          rw [List.find?_eq_none]
          intro entry listed found
          exact stays entry listed (congrArg some (of_decide_eq_true found).symm)
        simp [relocated, before, absent]
    · have apart : held ≠ id := Ne.symm same
      simp [relocated, same, apart]
  | atEnd => rfl
  | unplaced => rfl

end LabelPlace

/-- The body with the lines that are left, and all labels at lines that are. -/
def Contraction.onto (contraction : Contraction) (body : Body) : Body :=
  { body with
    lines := contraction.lines.toArray
    labels := body.labels.map (·.relocated contraction.gone) }

namespace Rule

/-- One pass over lines from left to right. A load of a field with a call of the getter behind it
becomes the load of the given field, in its own line. -/
def readDirectly (getter : String) (field : MemberRef) : List Line → Contraction
  | load :: call :: rest =>
    if (getterWindow getter).opens [load.instr, call.instr] then
      let later := readDirectly getter field rest
      { lines := ⟨load.id, .ldfld, .member field⟩ :: later.lines
        gone := (call.id, rest.head?.map Line.id) :: later.gone }
    else
      (readDirectly getter field (call :: rest)).behind [load]
  | lines => { lines }

section Pass

variable {getter : String} {field : MemberRef} {load call : Line} {skipped lines rest : List Line}

theorem getterWindow_ne_nil (getter : String) : getterWindow getter ≠ [] := List.cons_ne_nil _ _

theorem exists_of_opens (opens : (getterWindow getter).opens (lines.map Line.instr) = true) :
    ∃ load call rest, lines = load :: call :: rest ∧
      (getterWindow getter).opens [load.instr, call.instr] = true := by
  rcases lines with _ | ⟨load, _ | ⟨call, rest⟩⟩
  · cases opens
  · cases ((Bool.and_eq_true ..).mp opens).2
  · exact ⟨load, call, rest, rfl, opens⟩

/-- A call of the getter is no load. -/
theorem closed_behind (opens : (getterWindow getter).opens [load.instr, call.instr] = true)
    (instrs : List Instr) : (getterWindow getter).opens (call.instr :: instrs) = false := by
  have loadOpens : Matcher.anyLdfld load.instr = true ∧
      (Matcher.anyCall (cutQualified getter).1 (cutQualified getter).2 call.instr && true) = true :=
    (Bool.and_eq_true ..).mp opens
  have isCall := ((Bool.and_eq_true ..).mp ((Bool.and_true _).symm.trans loadOpens.2)).1
  have noLoad : Matcher.anyLdfld call.instr = false := by
    refine decide_eq_false fun loads => ?_
    rw [loads] at isCall
    cases isCall
  show (Matcher.anyLdfld call.instr && _) = false
  rw [noLoad, Bool.false_and]

theorem readDirectly_of_open (opens : (getterWindow getter).opens [load.instr, call.instr] = true) :
    readDirectly getter field (load :: call :: rest) =
      { lines := ⟨load.id, .ldfld, .member field⟩ :: (readDirectly getter field rest).lines
        gone := (call.id, rest.head?.map Line.id) :: (readDirectly getter field rest).gone } := by
  rw [readDirectly, if_pos opens]

theorem readDirectly_of_closed {first : Line}
    (closed : (getterWindow getter).opens ((first :: rest).map Line.instr) = false) :
    readDirectly getter field (first :: rest) = (readDirectly getter field rest).behind [first] := by
  cases rest with
  | nil => rfl
  | cons second rest =>
    have shut : (getterWindow getter).opens [first.instr, second.instr] = false := closed
    rw [readDirectly, if_neg (by simp [shut])]

theorem readDirectly_skipped (closed : ∀ place < skipped.length,
      (getterWindow getter).opens (((skipped ++ rest).drop place).map Line.instr) = false) :
    readDirectly getter field (skipped ++ rest) =
      (readDirectly getter field rest).behind skipped := by
  induction skipped with
  | nil => rfl
  | cons first skipped ih =>
    have later := ih fun place inside => closed (place + 1) (Nat.succ_lt_succ inside)
    have shut : (getterWindow getter).opens ((first :: (skipped ++ rest)).map Line.instr) = false :=
      closed 0 (Nat.succ_pos _)
    rw [List.cons_append, readDirectly_of_closed shut, later]
    rfl

theorem readDirectly_of_none (closed : ∀ place,
      (getterWindow getter).opens ((lines.drop place).map Line.instr) = false) :
    readDirectly getter field lines = { lines } := by
  induction lines with
  | nil => rfl
  | cons first rest ih =>
    rw [readDirectly_of_closed (closed 0), ih fun place => closed (place + 1)]
    rfl

theorem sublist_gone (getter : String) (field : MemberRef) (lines : List Line) :
    ((readDirectly getter field lines).gone.map Prod.fst).Sublist (lines.tail.map Line.id) := by
  fun_induction readDirectly getter field lines with
  | case1 load call rest opens later ih =>
    exact (ih.trans ((List.tail_sublist rest).map _)).cons_cons call.id
  | case2 load call rest closed ih => exact ih.cons call.id
  | case3 lines short => exact List.nil_sublist _

theorem head_not_gone (getter : String) (field : MemberRef) (distinct : (lines.map Line.id).Nodup) :
    ∀ entry ∈ (readDirectly getter field lines).gone, lines.head?.map Line.id ≠ some entry.1 := by
  intro entry listed first
  have behind := (sublist_gone getter field lines).subset (List.mem_map_of_mem listed)
  cases lines with
  | nil => cases first
  | cons head rest =>
    have same : head.id = entry.1 := Option.some.inj first
    rw [← same] at behind
    exact (List.nodup_cons.1 distinct).1 behind

theorem length_gone_le (getter : String) (field : MemberRef) (lines : List Line) :
    (readDirectly getter field lines).gone.length ≤ lines.length := by
  have few := (sublist_gone getter field lines).length_le
  simp only [List.length_map, List.length_tail] at few
  omega

/-- The lines taken out are the calls in all places where the window opens. -/
theorem mem_gone {id : InstrId} {next : Option InstrId} :
    (id, next) ∈ (readDirectly getter field lines).gone ↔
      ∃ index, (getterWindow getter).opens ((lines.drop index).map Line.instr) = true ∧
        lines[index + 1]?.map Line.id = some id ∧ next = lines[index + 2]?.map Line.id := by
  fun_induction readDirectly getter field lines with
  | case1 load call rest opens later ih =>
    rw [List.mem_cons, ih]
    constructor
    · rintro (same | ⟨index, found⟩)
      · obtain ⟨rfl, rfl⟩ := Prod.mk.inj same
        exact ⟨0, opens, rfl, by rw [List.head?_eq_getElem?]; rfl⟩
      · exact ⟨index + 2, found⟩
    · rintro ⟨_ | _ | index, opensThere, here, behind⟩
      · refine .inl (Prod.ext (Option.some.inj here).symm ?_)
        rw [behind, List.head?_eq_getElem?]
        rfl
      · rw [List.drop_succ_cons, List.drop_zero, List.map_cons, closed_behind opens] at opensThere
        cases opensThere
      · exact .inr ⟨index, opensThere, here, behind⟩
  | case2 load call rest closed ih =>
    refine Iff.trans ih ⟨fun ⟨index, found⟩ => ⟨index + 1, found⟩, ?_⟩
    rintro ⟨_ | index, opens, found⟩
    · exact absurd opens closed
    · exact ⟨index, opens, found⟩
  | case3 lines short =>
    refine iff_of_false (List.not_mem_nil) ?_
    rintro ⟨index, _, here, _⟩
    obtain ⟨line, found, _⟩ := Option.map_eq_some_iff.1 here
    have inside := (List.getElem?_eq_some_iff.1 found).1
    rcases lines with _ | ⟨first, _ | ⟨second, rest⟩⟩
    · cases inside
    · simp at inside
    · exact short first second rest rfl

end Pass

section Loop

variable {getter : String} {field : MemberRef} {body : Body} {method : String}
  {front skipped rest : List Line} {load call : Line}

/-- A step of the loop. It fails at a call that bounds a region. -/
theorem apply_replaceNextReads_of_found (isField : field.kind = .field)
    (found : (Cursor.between body method front (skipped ++ load :: call :: rest)).nearest? .next
      ((getterWindow getter).opensAt
        (Cursor.between body method front (skipped ++ load :: call :: rest)).body) =
          some (front ++ skipped).length) (steps count : Nat) :
    let ahead := front ++ skipped ++ [⟨load.id, .ldfld, .member field⟩]
    (replaceNextReads getter field (steps + 1) count).apply
        (Cursor.between body method front (skipped ++ load :: call :: rest)) =
      match body.tie? call.id with
      | some obstacle =>
        (.error (.invalidRemoval method ahead.length obstacle),
          Cursor.between body method ahead (call :: rest))
      | none =>
        (replaceNextReads getter field steps (count + 1)).apply (Cursor.between
          { body with labels := body.labels.map (·.moved call.id (rest.head?.map Line.id)) } method
          ahead rest) := by
  intro ahead
  have fits : (Operand.member field).fits Opcode.ldfld.operandShape = true := decide_eq_true isField
  have sought : (Cursor.trySeek .next (getterWindow getter)).apply
      (Cursor.between body method front (skipped ++ load :: call :: rest)) =
        (.ok true, Cursor.between body method (front ++ skipped) (load :: call :: rest)) := by
    rw [Cursor.apply_trySeek, found]
    exact congrArg _ (Cursor.placed_between ..)
  let overwritten := Cursor.between body method (front ++ skipped)
    (⟨load.id, .ldfld, .member field⟩ :: call :: rest)
  have moved : (Cursor.moveTo (overwritten.index + 1)).apply overwritten =
      (.ok (), Cursor.between body method ahead (call :: rest)) :=
    Cursor.apply_moveTo_between (List.append_assoc (front ++ skipped) [_] _).symm
      (by simp [overwritten, ahead, Cursor.between]; omega)
  rw [replaceNextReads, Edit.apply_bind_of_ok sought, if_pos rfl,
    Edit.apply_bind_of_ok (Cursor.apply_overwrite_between fits),
    Edit.apply_bind_of_ok (Edit.apply_get _), Edit.apply_bind_of_ok moved, Edit.apply_bind,
    Cursor.apply_erase_between]
  cases body.tie? call.id <;> rfl

/-- The loop makes the pass over the lines from the cursor on. It ends because there is nothing left
to be found, or because a call of the getter bounds a region, however many steps it may make. -/
theorem apply_replaceNextReads (getter : String) (isField : field.kind = .field) (method : String)
    (back : List Line) (body : Body) (front : List Line) (distinct : (back.map Line.id).Nodup) :
    let pass := readDirectly getter field back
    (∃ finish : Cursor,
      (∀ steps count, pass.gone.length < steps → (replaceNextReads getter field steps count).apply
        (Cursor.between body method front back) = (.ok (count + pass.gone.length), finish)) ∧
      finish.nearest? .next ((getterWindow getter).opensAt finish.body) = none ∧
      finish.body = (pass.behind front).onto body) ∨
    ∃ error finish, ∀ steps count, pass.gone.length < steps →
      (replaceNextReads getter field steps count).apply (Cursor.between body method front back) =
        (.error error, finish) := by
  intro pass
  induction size : back.length using Nat.strong_induction_on generalizing back body front with
  | _ size ih =>
    cases found : (Cursor.between body method front back).nearest? .next
        ((getterWindow getter).opensAt (Cursor.between body method front back).body) with
    | none =>
      have same : pass = { lines := back } :=
        readDirectly_of_none (Cursor.closed_of_nearest?_none (getterWindow_ne_nil getter) found)
      refine .inl ⟨_, fun steps count more => ?_, found, ?_⟩
      · obtain ⟨steps, rfl⟩ := Nat.exists_eq_succ_of_ne_zero (Nat.ne_zero_of_lt more)
        rw [replaceNextReads, Edit.apply_bind, Cursor.apply_trySeek, found, same]
        rfl
      · simp [same, Contraction.behind, Contraction.onto, Cursor.between,
          LabelPlace.relocated_nil]
    | some start =>
      obtain ⟨skipped, others, rfl, rfl, opens, closed⟩ :=
        Cursor.split_of_nearest? (getterWindow_ne_nil getter) found
      obtain ⟨load, call, rest, rfl, opens⟩ := exists_of_opens opens
      have step := apply_replaceNextReads_of_found isField found
      have same : pass = (readDirectly getter field (load :: call :: rest)).behind skipped :=
        readDirectly_skipped closed
      rw [readDirectly_of_open opens] at same
      have counted : pass.gone.length = (readDirectly getter field rest).gone.length + 1 := by
        rw [same]
        rfl
      rw [counted]
      cases tied : body.tie? call.id with
      | some obstacle =>
        let ahead := front ++ skipped ++ [⟨load.id, .ldfld, .member field⟩]
        refine .inr ⟨.invalidRemoval method ahead.length obstacle,
          Cursor.between body method ahead (call :: rest), fun steps count more => ?_⟩
        obtain ⟨steps, rfl⟩ := Nat.exists_eq_succ_of_ne_zero (Nat.ne_zero_of_lt more)
        rw [step, tied]
      | none =>
        have shorter : rest.length < (skipped ++ load :: call :: rest).length := by
          rw [List.length_append, List.length_cons, List.length_cons]
          omega
        have kept : (rest.map Line.id).Nodup := by
          simp only [List.map_append, List.map_cons, List.nodup_append, List.nodup_cons] at distinct
          exact distinct.2.1.2.2
        obtain ⟨finish, runs, ended, reached⟩ | ⟨error, finish, runs⟩ :=
          ih rest.length (size ▸ shorter) rest
            { body with labels := body.labels.map (·.moved call.id (rest.head?.map Line.id)) }
            (front ++ skipped ++ [⟨load.id, .ldfld, .member field⟩]) kept rfl
        · refine .inl ⟨finish, fun steps count more => ?_, ended, reached.trans ?_⟩
          · obtain ⟨steps, rfl⟩ := Nat.exists_eq_succ_of_ne_zero (Nat.ne_zero_of_lt more)
            rw [step, tied]
            dsimp only
            rw [runs steps (count + 1) (Nat.lt_of_succ_lt_succ more), Nat.add_assoc, Nat.add_comm 1]
          · have relocated (place : LabelPlace) : place.relocated
                ((call.id, rest.head?.map Line.id) :: (readDirectly getter field rest).gone) =
                  (place.moved call.id (rest.head?.map Line.id)).relocated
                    (readDirectly getter field rest).gone :=
              LabelPlace.relocated_cons (head_not_gone getter field kept) place
            rw [same]
            simp [Contraction.behind, Contraction.onto, relocated, Function.comp_def]
        · refine .inr ⟨error, finish, fun steps count more => ?_⟩
          obtain ⟨steps, rfl⟩ := Nat.exists_eq_succ_of_ne_zero (Nat.ne_zero_of_lt more)
          rw [step, tied]
          exact runs steps (count + 1) (Nat.lt_of_succ_lt_succ more)

end Loop

theorem kind_refToField {module : Module} {id : FieldId} {ref : MemberRef}
    (referred : module.refToField id = .ok ref) : ref.kind = .field := by
  rw [Module.refToField] at referred
  cases found : module.fieldAt id with
  | error => rw [found] at referred; cases referred
  | ok field => rw [found] at referred; cases referred; rfl

section Served

variable {getter : String} {field : MemberRef} {body : Body} {label : LabelId} {index : Nat}
  {id : InstrId} {next : Option InstrId}

theorem mem_gone_of_body :
    (id, next) ∈ (readDirectly getter field body.lines.toList).gone ↔
      ∃ index, (getterWindow getter).opensAt body index = true ∧ body.idAt? (index + 1) = some id ∧
        next = body.idAt? (index + 2) := by
  rw [mem_gone]
  simp only [Window.opensAt_eq, Body.instrs, List.map_drop, Body.idAt?, ← Array.getElem?_toList]

theorem placeOf?_onto (contraction : Contraction) (body : Body) (label : LabelId) :
    (contraction.onto body).placeOf? label =
      (body.placeOf? label).map (·.relocated contraction.gone) := by
  simp [Contraction.onto, Body.placeOf?]

/-- A label at a call of the getter behind a load goes to the line behind the call. -/
theorem placeOf?_of_call (distinct : body.ids.Nodup)
    (opens : (getterWindow getter).opensAt body index = true) (here : body.idAt? (index + 1) = some id)
    (stands : body.placeOf? label = some (.line id)) :
    ((readDirectly getter field body.lines.toList).onto body).placeOf? label =
      some (.before (body.idAt? (index + 2))) := by
  have listed : (id, body.idAt? (index + 2)) ∈
      (readDirectly getter field body.lines.toList).gone := mem_gone_of_body.2 ⟨index, opens, here, rfl⟩
  have once := distinct.sublist ((sublist_gone getter field body.lines.toList).trans
    ((List.tail_sublist _).map _))
  rw [placeOf?_onto, stands, Option.map_some, LabelPlace.relocated_of_mem once listed]

theorem placeOf?_of_no_call (elsewhere : ∀ index id, (getterWindow getter).opensAt body index = true →
      body.idAt? (index + 1) = some id → body.placeOf? label ≠ some (.line id)) :
    ((readDirectly getter field body.lines.toList).onto body).placeOf? label =
      body.placeOf? label := by
  rw [placeOf?_onto]
  cases stands : body.placeOf? label with
  | none => rfl
  | some place =>
    refine congrArg some (LabelPlace.relocated_of_not_mem fun (id, next) listed same => ?_)
    obtain ⟨index, opens, here, _⟩ := mem_gone_of_body.1 listed
    exact elsewhere index id opens here (stands.trans (congrArg some same))

/-- The labels all stay exactly if none stands at such a call. -/
theorem labels_onto_eq_iff (distinct : body.ids.Nodup) :
    ((readDirectly getter field body.lines.toList).onto body).labels = body.labels ↔
      ∀ label index id, (getterWindow getter).opensAt body index = true →
        body.idAt? (index + 1) = some id → body.placeOf? label ≠ some (.line id) := by
  constructor
  · intro same label index id opens here stands
    have moved : ((readDirectly getter field body.lines.toList).onto body).placeOf? label =
      some (.before (body.idAt? (index + 2))) := placeOf?_of_call distinct opens here stands
    rw [Body.placeOf?, same, ← Body.placeOf?, stands] at moved
    -- The line behind the call is another one.
    cases behind : body.idAt? (index + 2) with
    | none => simp [behind, LabelPlace.before] at moved
    | some next =>
      rw [behind] at moved
      obtain rfl : id = next := by simpa [LabelPlace.before] using moved
      have one := Body.indexOf?_of_idAt? distinct here
      rw [Body.indexOf?_of_idAt? distinct behind] at one
      exact absurd (Option.some.inj one) (by omega)
  · intro elsewhere
    have same (label : LabelId) : ((readDirectly getter field body.lines.toList).onto body).placeOf?
        label = body.placeOf? label := placeOf?_of_no_call (elsewhere label)
    exact Array.ext_getElem? fun number => same ⟨number⟩

end Served

/-- Reading fields directly makes one pass over the lines from left to right: every load of a field
with a call of the getter behind it becomes the load of the field that the request names, in its own
line, and nothing else changes. The loop ends because there is nothing left to be found. A label at
such a call goes to the line behind it, past the read that jumps there used to make; all other labels
stay. -/
theorem loadFieldDirectly_eq_pass (task : BodyTask) {body : Body} (method : String)
    (distinct : body.ids.Nodup) {finish : Cursor}
    (served : (loadFieldDirectly task).apply { body, method } = (.ok (), finish)) :
    ∃ getter name owner field ref,
      task.request.textArg 0 = .ok getter ∧ task.request.textArg 1 = .ok name ∧
      task.module.ownerOf task.method = .ok owner ∧ task.module.fieldIn owner name = .ok field ∧
      task.module.refToField field = .ok ref ∧
      let pass := readDirectly getter ref body.lines.toList
      (∀ steps, pass.gone.length < steps →
        (replaceNextReads getter ref steps 0).apply { body, method } =
          (.ok pass.gone.length, finish)) ∧
      finish.nearest? .next ((getterWindow getter).opensAt finish.body) = none ∧
      0 < pass.gone.length ∧
      finish.body = { body with lines := pass.lines.toArray, labels := finish.body.labels } ∧
      (∀ label index id, (getterWindow getter).opensAt body index = true →
        body.idAt? (index + 1) = some id → body.placeOf? label = some (.line id) →
        finish.body.placeOf? label = some (.before (body.idAt? (index + 2)))) ∧
      (∀ label, (∀ index id, (getterWindow getter).opensAt body index = true →
          body.idAt? (index + 1) = some id → body.placeOf? label ≠ some (.line id)) →
        finish.body.placeOf? label = body.placeOf? label) ∧
      (finish.body.labels = body.labels ↔
        ∀ label index id, (getterWindow getter).opensAt body index = true →
          body.idAt? (index + 1) = some id → body.placeOf? label ≠ some (.line id)) := by
  obtain ⟨getter, first, served⟩ := Edit.demand_bind_eq_ok.1 served
  obtain ⟨name, second, served⟩ := Edit.demand_bind_eq_ok.1 served
  obtain ⟨owner, owned, served⟩ := Edit.demand_bind_eq_ok.1 served
  obtain ⟨field, found, served⟩ := Edit.demand_bind_eq_ok.1 served
  obtain ⟨ref, referred, served⟩ := Edit.demand_bind_eq_ok.1 served
  rw [Edit.apply_bind_of_ok (Edit.apply_get _), Edit.apply_bind] at served
  refine ⟨getter, name, owner, field, ref, first, second, owned, found, referred, ?_⟩
  intro pass
  have enough : pass.gone.length < body.length + 1 := by
    have few : pass.gone.length ≤ body.lines.toList.length := length_gone_le ..
    rw [Body.length, ← Array.length_toList]
    omega
  obtain ⟨left, runs, ended, reached⟩ | ⟨error, left, runs⟩ :=
    apply_replaceNextReads getter (kind_refToField referred) method body.lines.toList body [] distinct
  · have loop (steps : Nat) (more : pass.gone.length < steps) :
        (replaceNextReads getter ref steps 0).apply { body, method } =
          (.ok pass.gone.length, left) := by
      rw [Cursor.eq_between, runs steps 0 more, Nat.zero_add]
    rw [loop _ enough] at served
    dsimp only at served
    split at served
    · cases served
    next counted =>
    obtain rfl : left = finish := congrArg Prod.snd served
    have whole : left.body = pass.onto body := reached
    refine ⟨loop, ended, Nat.pos_of_ne_zero counted, ?_, ?_, ?_, ?_⟩
    · rw [whole]
      rfl
    · rw [whole]
      exact fun label index id opens here stands => placeOf?_of_call distinct opens here stands
    · rw [whole]
      exact fun label elsewhere => placeOf?_of_no_call elsewhere
    · rw [whole]
      exact labels_onto_eq_iff distinct
  · have loop := runs (body.length + 1) 0 enough
    rw [← Cursor.eq_between] at loop
    rw [loop] at served
    cases served

/-- The request to read a total from a field of `this` instead of the statistics. -/
def readTotal : BodyTask where
  module :=
    { name := "Game"
      types :=
        [{ name := "Counter", space := "Game", flags := TypeDef.publicFlag, fields := [⟨0⟩],
           methods := [⟨0⟩] }]
      fields := [{ name := "total", type := "System.Int32", flags := FieldDef.privateFlag,
                   declaringType := ⟨0⟩ }]
      methods := [{ name := "Count", returnType := "System.Int32", declaringType := ⟨0⟩ }]
      topLevel := [⟨0⟩] }
  method := ⟨0⟩
  target := ⟨0⟩
  request := ⟨"PatchFieldFromGetter", [.string "Game.Stats::get_Total", .string "total"]⟩

def getTotal : Operand := .member (.method "Game.Stats" "get_Total" "System.Int32 get_Total()")

/-- A body that reads a total twice, and jumps to the second load. -/
def twiceRead : Body :=
  Body.after {} [.newLabel, .append ⟨.ldarg0, .none⟩,
    .append ⟨.ldfld, .member (.field "Game.Counter" "backup" "Game.Stats")⟩,
    .append ⟨.callvirt, getTotal⟩, .append ⟨.ldarg0, .none⟩, .append ⟨.brS, .label ⟨0⟩⟩,
    .append ⟨.ldfld, .member (.field "Game.Counter" "current" "Game.Stats")⟩,
    .append ⟨.call, getTotal⟩, .append ⟨.add, .none⟩, .append ⟨.ret, .none⟩, .placeLabel ⟨0⟩ 5]

/-- Both reads become loads, and the jump still goes to the second. -/
theorem pass_of_twiceRead :
    ∃ finish, (loadFieldDirectly readTotal).apply { body := twiceRead, method := "Count" } =
        (.ok (), finish) ∧
      finish.body.ids = [⟨0⟩, ⟨1⟩, ⟨3⟩, ⟨4⟩, ⟨5⟩, ⟨7⟩, ⟨8⟩] ∧
      finish.body.placeOf? ⟨0⟩ = some (.line ⟨5⟩) := by
  have served : ((loadFieldDirectly readTotal).apply
      { body := twiceRead, method := "Count" }).1 = .ok () := by cbv
  have distinct : twiceRead.ids.Nodup := by decide +kernel
  obtain ⟨getter, name, owner, field, ref, first, second, owned, found, referred, loop, _, _, same, _,
    stay, _⟩ := loadFieldDirectly_eq_pass readTotal "Count" distinct (Prod.ext served rfl)
  cases first
  cases second
  cases owned
  cases found
  cases referred
  refine ⟨_, Prod.ext served rfl, ?_, ?_⟩
  · rw [same]
    decide +kernel
  · rw [stay ⟨0⟩ ?_]
    · decide +kernel
    · intro index id opens here stands
      have placed : twiceRead.placeOf? ⟨0⟩ = some (.line ⟨5⟩) := by decide +kernel
      obtain rfl : ⟨5⟩ = id := by simpa using placed.symm.trans stands
      have behind : twiceRead.indexOf? ⟨5⟩ = some 5 := by decide +kernel
      obtain rfl : index = 4 := by
        simpa using behind.symm.trans (Body.indexOf?_of_idAt? distinct here)
      have closed : (getterWindow "Game.Stats::get_Total").opensAt twiceRead 4 = false := by
        decide +kernel
      exact absurd (opens.symm.trans closed) (by decide)

/-- A body that reads the total of one of two objects. The getter is called in one place for both. -/
def eitherRead : Body :=
  Body.after {} [.newLabel, .newLabel, .append ⟨.ldarg1, .none⟩, .append ⟨.brtrueS, .label ⟨1⟩⟩,
    .append ⟨.ldarg0, .none⟩,
    .append ⟨.ldfld, .member (.field "Game.Counter" "backup" "Game.Stats")⟩,
    .append ⟨.brS, .label ⟨0⟩⟩, .append ⟨.ldarg0, .none⟩,
    .append ⟨.ldfld, .member (.field "Game.Counter" "current" "Game.Stats")⟩,
    .append ⟨.callvirt, getTotal⟩, .append ⟨.ret, .none⟩, .placeLabel ⟨0⟩ 7, .placeLabel ⟨1⟩ 5]

/-- The jump from the first load went to the call of the getter, and goes past it afterwards. -/
theorem unread_eitherRead :
    ((loadFieldDirectly readTotal).apply { body := eitherRead, method := "Count" }).1 = .ok () ∧
      (getterWindow "Game.Stats::get_Total").opensAt eitherRead 6 = true ∧
      eitherRead.placeOf? ⟨0⟩ = some (.line ⟨7⟩) ∧
      ((loadFieldDirectly readTotal).apply
        { body := eitherRead, method := "Count" }).2.body.placeOf? ⟨0⟩ = some (.line ⟨8⟩) := by
  refine ⟨by cbv, by decide +kernel, by decide +kernel, by decide +kernel⟩

end Rule
end Retrofit
