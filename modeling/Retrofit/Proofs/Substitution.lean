import Retrofit.Proofs.Body.DirectCalls
import Retrofit.Proofs.Body.Reworking
import Retrofit.Proofs.Module.Nesting
import Retrofit.Proofs.Module.Width
import Retrofit.Rule.Substitution

/-!
Two loops that change lines in place: one puts operations in place of calls of a placeholder, the
other makes the calls of helpers of enumerators direct. Neither goes on behind a line it has changed,
so each ends because what it writes is not what it looks for.
-/

namespace Retrofit

namespace Instr

/-- Whether an instruction calls the placeholder, which may be given by its name or by its signature.
-/
def calls (placeholder : String) (instr : Instr) : Bool :=
  instr.opcode = .call &&
    instr.operand.member?.any fun ref => ref.name = placeholder || ref.signature = placeholder

/-- The instruction, or the bare operation if it calls the placeholder. -/
def substituted (placeholder : String) (opcode : Opcode) : Instr → Instr :=
  changedIf (calls placeholder) fun _ => ⟨opcode, .none⟩

variable {placeholder : String} {instr : Instr}

theorem wellShaped_call (operand : Operand) :
    (⟨.call, operand⟩ : Instr).wellShaped =
      operand.member?.any fun ref => ref.kind = .method := by
  cases operand <;> rfl

theorem wellShaped_of_call (called : Matcher.call "" placeholder instr = true) :
    instr.wellShaped = true := by
  obtain ⟨opcode, operand⟩ := instr
  obtain ⟨isCall, named⟩ := (Bool.and_eq_true ..).mp called
  cases List.mem_singleton.1 (of_decide_eq_true isCall)
  rw [wellShaped_call]
  obtain ⟨ref, has, method⟩ := (Option.any_eq_true ..).mp named
  exact (Option.any_eq_true ..).mpr ⟨ref, has, ((Bool.and_eq_true ..).mp method).1⟩

theorem call_eq_calls (shaped : instr.wellShaped = true) :
    Matcher.call "" placeholder instr = instr.calls placeholder := by
  obtain ⟨opcode, operand⟩ := instr
  by_cases called : opcode = .call
  · subst called
    rw [wellShaped_call] at shaped
    obtain ⟨ref, has, method⟩ := (Option.any_eq_true ..).mp shaped
    have isMethod : ref.kind = .method := by simpa using method
    simp [Matcher.call, Matcher.memberAccess, MemberRef.isNamed, calls, has, isMethod]
  · simp [Matcher.call, Matcher.memberAccess, calls, called]

end Instr

section Substituting

open Rule

variable {placeholder : String} {opcode : Opcode} {body : Body} {cursor left : Cursor}

theorem Matcher.call_of_bare (type name : String) (opcode : Opcode) :
    call type name ⟨opcode, .none⟩ = false := by
  simp [call, memberAccess, Operand.member?]

namespace Cursor

/-- The loop puts the operation in place of a call in each step, as long as there is one. -/
theorem apply_substituteNext (bare : opcode.operandShape = .none)
    (passed : cursor.Passed (Matcher.call "" placeholder)) (calls count : Nat) :
    ∃ left : Cursor,
      (substituteNext placeholder opcode calls count).apply cursor =
        (.ok (count + min calls (cursor.body.instrs.countP (Matcher.call "" placeholder))), left) ∧
      cursor.Changing (Matcher.call "" placeholder) (fun _ => ⟨opcode, .none⟩) calls left := by
  induction calls generalizing cursor count with
  | zero => exact ⟨cursor, by rw [Nat.zero_min]; rfl, .refl cursor⟩
  | succ calls ih =>
    rw [substituteNext, Edit.apply_bind, apply_trySeek, placeholderCall]
    cases found : cursor.nearest? .next
        (Window.opensAt cursor.body [Matcher.call "" placeholder]) with
    | none =>
      have none := passed.countP_eq_zero found
      exact ⟨cursor, by rw [none, Nat.min_zero]; rfl, .of_none none _⟩
    | some start =>
      have leaves (instr : Instr) (_ : Matcher.call "" placeholder instr = true) :
          Matcher.call "" placeholder ⟨opcode, .none⟩ = false := Matcher.call_of_bare ..
      obtain ⟨further, fewer, _⟩ := passed.changingAt leaves found
      obtain ⟨left, went, changing⟩ := ih further (count + 1)
      refine ⟨left, ?_, .step passed leaves found changing⟩
      have made : Instr.of opcode .none = .ok ⟨opcode, .none⟩ := by
        rw [Instr.of, bare]
        rfl
      have inside : ¬ cursor.body.length ≤ start := by
        have whole := Window.length_of_opensAt (opensAt_of_nearest? found) (List.cons_ne_nil _ _)
        rw [List.length_singleton] at whole
        omega
      have overwritten : (Cursor.overwrite opcode).apply (cursor.placed start) =
          (.ok (), cursor.changingAt start fun _ => ⟨opcode, .none⟩) := by
        rw [apply_overwrite, made]
        exact if_neg inside
      dsimp only
      rw [if_pos rfl, Edit.apply_bind, landed, overwritten]
      refine went.trans ?_
      rw [← fewer, Nat.add_min_add_right, Nat.add_right_comm, Nat.add_assoc]

end Cursor

namespace Body

theorem Shaped.changing (shaped : cursor.body.Shaped) (bare : opcode.operandShape = .none)
    {calls : Nat} (changing : cursor.Changing (Matcher.call "" placeholder)
      (fun _ => ⟨opcode, .none⟩) calls left) : left.body.Shaped := by
  intro instr listed
  cases called : Matcher.call "" placeholder instr with
  | true => exact Instr.wellShaped_of_call called
  | false =>
    obtain ⟨old, wasListed, rfl⟩ := changing.exists_of_mem listed called
    rw [Instr.changedIf]
    split
    · rw [Instr.wellShaped, bare]
      rfl
    · exact shaped old wasListed

theorem Shaped.countP_calls (shaped : body.Shaped) (placeholder : String) :
    body.instrs.countP (Matcher.call "" placeholder) =
      body.instrs.countP (Instr.calls placeholder) :=
  List.countP_congr fun instr listed => by rw [Instr.call_eq_calls (shaped instr listed)]

theorem Shaped.mapInstrs_substituted (shaped : body.Shaped) (placeholder : String)
    (opcode : Opcode) :
    body.mapInstrs (.changedIf (Matcher.call "" placeholder) fun _ => ⟨opcode, .none⟩) =
      body.mapInstrs (.substituted placeholder opcode) :=
  mapInstrs_congr fun instr listed => by
    rw [Instr.changedIf, Instr.call_eq_calls (shaped instr listed)]
    rfl

/-- Each step of the loop puts the operation in place of one call, until there is no call left. -/
theorem Shaped.apply_substituteNext (shaped : body.Shaped) (bare : opcode.operandShape = .none)
    (method : String) (steps : Nat) :
    ∃ left : Cursor,
      (substituteNext placeholder opcode steps 0).apply { body, method } =
        (.ok (min steps (body.instrs.countP (Instr.calls placeholder))), left) ∧
      left.body.instrs.countP (Instr.calls placeholder) =
        body.instrs.countP (Instr.calls placeholder) - steps ∧
      (body.instrs.countP (Instr.calls placeholder) ≤ steps →
        left.body = body.mapInstrs (.substituted placeholder opcode) ∧
        left.nearest? .next (Window.opensAt left.body (placeholderCall placeholder)) = none) := by
  have passed : Cursor.Passed (Matcher.call "" placeholder) { body, method } := nofun
  obtain ⟨left, went, changing⟩ := Cursor.apply_substituteNext bare passed steps 0
  rw [Nat.zero_add, shaped.countP_calls] at went
  have shapedLeft : left.body.Shaped := .changing shaped bare changing
  refine ⟨left, went, ?_, fun enough => ?_⟩
  · rw [← shapedLeft.countP_calls, changing.remaining, shaped.countP_calls]
  · rw [← shaped.countP_calls] at enough
    rw [← shaped.mapInstrs_substituted]
    exact changing.whole enough

theorem Shaped.apply_substituteAll (shaped : body.Shaped) (bare : opcode.operandShape = .none)
    (method : String) :
    ((substituteAll placeholder opcode).apply { body, method }).map id Cursor.body =
      (.ok (body.instrs.countP (Instr.calls placeholder)),
        body.mapInstrs (.substituted placeholder opcode)) := by
  obtain ⟨left, went, _, whole⟩ :=
    @Shaped.apply_substituteNext placeholder opcode body shaped bare method (body.length + 1)
  have enough : body.instrs.countP (Instr.calls placeholder) ≤ body.length + 1 := by
    have most := List.countP_le_length (p := Instr.calls placeholder) (l := body.instrs)
    rw [length_eq_instrs]
    omega
  rw [substituteAll, Edit.apply_bind, Edit.apply_get]
  dsimp only
  rw [went, Nat.min_eq_right enough]
  exact congrArg _ (whole enough).1

theorem Shaped.apply_substituteNamed (shaped : body.Shaped) (bare : opcode.operandShape = .none)
    {task : BodyTask} {mnemonic : String} (first : task.request.textArg 0 = .ok placeholder)
    (second : task.request.textArg 1 = .ok mnemonic)
    (names : Opcode.ofMnemonic? mnemonic = some opcode) (method : String) :
    ((substituteNamed task).apply { body, method }).map id Cursor.body =
      (.ok (body.instrs.countP (Instr.calls placeholder)),
        body.mapInstrs (.substituted placeholder opcode)) := by
  have accepted : bareOpcode task.request mnemonic = .ok opcode := by
    rw [bareOpcode, names]
    exact if_pos bare
  rw [← shaped.apply_substituteAll bare method, substituteNamed]
  simp only [Edit.apply_bind, Edit.apply_demand, first, second, accepted]

end Body

end Substituting

namespace Module

variable {module : Module}

/-- The module with the bodies of the chosen methods changed. -/
def withBodies (module : Module) (chosen : MethodId → Bool) (change : Body → Body) : Module :=
  { module with
    methods := module.methods.mapIdx fun index method =>
      if chosen ⟨index⟩ then { method with body := method.body.map change } else method }

/-- What is counted in the body of a method; where there is none, nothing. -/
def countAt (module : Module) (count : Body → Nat) (id : MethodId) : Nat :=
  ((module.bodyOf? id).map count).getD 0

theorem getElem?_withBodies (module : Module) (chosen : MethodId → Bool) (change : Body → Body)
    (id : MethodId) :
    (module.withBodies chosen change).methods[id.index]? =
      (module.methods[id.index]?).map fun method =>
        if chosen id then { method with body := method.body.map change } else method :=
  List.getElem?_mapIdx

theorem bodyOf?_withBodies (module : Module) (chosen : MethodId → Bool) (change : Body → Body)
    (id : MethodId) :
    (module.withBodies chosen change).bodyOf? id =
      if chosen id then (module.bodyOf? id).map change else module.bodyOf? id := by
  rw [bodyOf?, getElem?_withBodies, bodyOf?]
  cases module.methods[id.index]? <;> cases chosen id <;> rfl

/-- Where no chosen method has a body, nothing changes. -/
theorem withBodies_of_none {chosen : MethodId → Bool}
    (none : ∀ id, chosen id = true → module.bodyOf? id = none) (change : Body → Body) :
    module.withBodies chosen change = module := by
  refine eq_of_methods (fun id => ?_) rfl
  rw [getElem?_withBodies]
  cases listed : module.methods[id.index]? with
  | none => rfl
  | some method =>
    cases picked : chosen id with
    | false => simp
    | true =>
      have lacks : method.body = Option.none := by simpa [bodyOf?, listed] using none id picked
      rw [Option.map_some, if_pos rfl, lacks, Option.map_none, ← lacks]

theorem withBodies_withBodies {chosen later : MethodId → Bool} {change : Body → Body}
    (apart : ∀ id, chosen id = true → later id = false) :
    (module.withBodies chosen change).withBodies later change =
      module.withBodies (fun id => chosen id || later id) change := by
  refine eq_of_methods (fun id => ?_) rfl
  rw [getElem?_withBodies, getElem?_withBodies, Option.map_map]
  rw [getElem?_withBodies]
  congr 1
  funext method
  cases first : chosen id with
  | false => simp
  | true => simp [apart id first]

theorem apply_editBody_of_ok {edit : Edit Body Nat} {count : Body → Nat} {change : Body → Body}
    (succeeds : ∀ body, edit.apply body = (.ok (count body), change body)) (module : Module)
    (id : MethodId) :
    (editBody id edit).apply module =
      (.ok (module.countAt count id), module.withBodies (fun other => other = id) change) := by
  rw [apply_editBody, countAt]
  cases found : module.bodyOf? id with
  | none =>
    have same : module.withBodies (fun other => other = id) change = module :=
      withBodies_of_none (fun other picked => by rw [of_decide_eq_true picked, found]) change
    rw [same]
    rfl
  | some body =>
    obtain ⟨method, listed, has⟩ := Option.bind_eq_some_iff.1 found
    dsimp only
    rw [succeeds]
    refine Prod.ext rfl (eq_of_methods (fun other => ?_) rfl)
    rw [getElem?_withBodies, withMethod, List.getElem?_modify]
    by_cases same : other = id
    · subst same
      simp [listed, has]
    · have apart : id.index ≠ other.index := fun equal => same (congrArg MethodId.mk equal.symm)
      simp [apart, same]

/-- Edits of different bodies that always succeed change all of them. -/
theorem apply_total_editBody {edits : MethodId → Edit Body Nat} {count : Body → Nat}
    {change : Body → Body}
    (succeeds : ∀ id body, (edits id).apply body = (.ok (count body), change body))
    {ids : List MethodId} (distinct : ids.Nodup) (module : Module) :
    (Edit.total (ids.map fun id => editBody id (edits id))).apply module =
      (.ok ((ids.map (module.countAt count)).sum),
        module.withBodies (fun id => id ∈ ids) change) := by
  induction ids generalizing module with
  | nil =>
    have same : module.withBodies (fun id => id ∈ []) change = module :=
      withBodies_of_none (fun id picked => by simp at picked) change
    rw [same]
    rfl
  | cons id rest ih =>
    obtain ⟨fresh, distinct⟩ := List.nodup_cons.1 distinct
    have counts : rest.map ((module.withBodies (fun other => other = id) change).countAt count) =
        rest.map (module.countAt count) := by
      refine List.map_congr_left fun other listed => ?_
      have apart : other ≠ id := fun same => fresh (same ▸ listed)
      rw [countAt, bodyOf?_withBodies, countAt]
      simp [apart]
    rw [List.map_cons, Edit.total, Edit.apply_bind, apply_editBody_of_ok (succeeds id)]
    dsimp only
    rw [Edit.apply_bind, ih distinct, counts, withBodies_withBodies]
    · simp
    · simpa using fresh

/-- Whether a method belongs to an enumerator that a compiler made. -/
def isOfEnumerator (module : Module) (id : MethodId) : Bool :=
  module.types.any fun type => type.isGeneratedEnumerator && id ∈ type.methods

private theorem flatMap_sublist (items : List α) {f g : α → List β}
    (each : ∀ item, (f item).Sublist (g item)) : (items.flatMap f).Sublist (items.flatMap g) := by
  induction items with
  | nil => exact .slnil
  | cons first rest ih => exact (each first).append ih

theorem Forest.nodup_enumeratorMethods (forest : module.Forest) :
    module.enumeratorMethods.Nodup := by
  have all := forest.perm_of_depthFirst forest.depthFirst
  have distinct := (forest.perm_methodsAlong all).nodup_iff.2 module.nodup_methodIds
  refine distinct.sublist (flatMap_sublist _ fun id => ?_)
  rw [methodsOf]
  cases module.types[id.index]? with
  | none => exact .slnil
  | some type =>
    dsimp only [Option.map_some, Option.getD_some]
    split
    · exact .refl _
    · exact List.nil_sublist _

/-- The pass comes to the methods of these types and to no others. -/
theorem Forest.mem_enumeratorMethods (forest : module.Forest) {id : MethodId} :
    id ∈ module.enumeratorMethods ↔ module.isOfEnumerator id = true := by
  have all := forest.perm_of_depthFirst forest.depthFirst
  rw [enumeratorMethods, List.mem_flatMap, isOfEnumerator, List.any_eq_true]
  constructor
  · rintro ⟨owner, _, held⟩
    split at held
    · next type found =>
      split at held
      · next generated =>
        exact ⟨type, List.mem_of_getElem? found, by simp [generated, held]⟩
      · cases held
    · cases held
  · rintro ⟨type, listed, held⟩
    obtain ⟨index, found⟩ := List.mem_iff_getElem?.1 listed
    obtain ⟨generated, held⟩ := (Bool.and_eq_true ..).mp held
    have known := (List.getElem?_eq_some_iff.1 found).1
    refine ⟨⟨index⟩, all.mem_iff.2 (mem_typeIds.2 known), ?_⟩
    dsimp only
    rw [found]
    dsimp only
    rw [if_pos generated]
    exact of_decide_eq_true held

/-- The virtual calls of helpers in all methods of enumerators. -/
def helperCalls (module : Module) : Nat :=
  ((module.methodIds.filter module.isOfEnumerator).map
    (module.countAt fun body => body.instrs.countP Matcher.helperCallvirt)).sum

/-- The pass makes all virtual calls of helpers direct that are in methods of enumerators. -/
theorem Forest.apply_repairEnumerators (forest : module.Forest) (config : Config) :
    (Pass.repairEnumerators.apply config).apply module =
      (.ok (0 < module.helperCalls),
        module.withBodies module.isOfEnumerator fun body =>
          body.mapInstrs Instr.calledDirectly) := by
  have distinct := forest.nodup_enumeratorMethods
  have succeeds (id : MethodId) (body : Body) : (Body.callHelpers (module.methodName id)).apply body =
      (.ok (body.instrs.countP Matcher.helperCallvirt), body.mapInstrs Instr.calledDirectly) :=
    body.apply_callHelpers (module.methodName id)
  have repaired := apply_total_editBody succeeds distinct module
  have chosen : (fun id => decide (id ∈ module.enumeratorMethods)) = module.isOfEnumerator := by
    funext id
    exact Bool.eq_iff_iff.2 (by rw [decide_eq_true_iff, forest.mem_enumeratorMethods])
  have whole : module.enumeratorMethods.Perm (module.methodIds.filter module.isOfEnumerator) := by
    refine (List.perm_ext_iff_of_nodup distinct (module.nodup_methodIds.filter _)).2 fun id => ?_
    rw [forest.mem_enumeratorMethods, List.mem_filter]
    refine (and_iff_right_of_imp fun held => ?_).symm
    obtain ⟨type, listed, held⟩ := List.any_eq_true.1 held
    obtain ⟨_, held⟩ := (Bool.and_eq_true ..).mp held
    refine forest.methods.subset (List.mem_flatMap.2 ⟨type, listed, of_decide_eq_true held⟩)
  rw [chosen, (whole.map _).sum_eq, ← helperCalls] at repaired
  show Edit.apply (do
    let module ← get
    let repaired ← Edit.total <| module.enumeratorMethods.map fun id =>
      editBody id (Body.callHelpers (module.methodName id))
    return decide (0 < repaired)) module = _
  rw [Edit.apply_bind, Edit.apply_get]
  dsimp only
  rw [Edit.apply_bind, repaired]
  rfl

end Module

open Rule Cursor in
/-- The loops that change lines in place come to changing all lines at once. The one that puts a bare
operation in place of the calls of a placeholder, and the one that makes calls of helpers direct,
rewrite one line in each step they are given, for as long as there is a line to rewrite, and count
it; then their search finds no more. What they leave is the body with exactly these instructions
changed. The pass does so in all methods of the enumerators that a compiler made, and in no others. -/
theorem in_place_loops_eq_map {placeholder : String} {opcode : Opcode}
    (bare : opcode.operandShape = .none) {body : Body} (shaped : body.Shaped) {module : Module}
    (built : module.Built) (method : String) (config : Config) :
    (∀ steps, ∃ left : Cursor,
      (substituteNext placeholder opcode steps 0).apply { body, method } =
        (.ok (min steps (body.instrs.countP (Instr.calls placeholder))), left) ∧
      left.body.instrs.countP (Instr.calls placeholder) =
        body.instrs.countP (Instr.calls placeholder) - steps ∧
      (body.instrs.countP (Instr.calls placeholder) ≤ steps →
        left.body = body.mapInstrs (.substituted placeholder opcode) ∧
        left.nearest? .next (Window.opensAt left.body (placeholderCall placeholder)) = none)) ∧
    ((substituteAll placeholder opcode).apply { body, method }).map id Cursor.body =
      (.ok (body.instrs.countP (Instr.calls placeholder)),
        body.mapInstrs (.substituted placeholder opcode)) ∧
    (∀ (task : BodyTask) (mnemonic : String), task.request.textArg 0 = .ok placeholder →
      task.request.textArg 1 = .ok mnemonic → Opcode.ofMnemonic? mnemonic = some opcode →
      ((substituteNamed task).apply { body, method }).map id Cursor.body =
        (.ok (body.instrs.countP (Instr.calls placeholder)),
          body.mapInstrs (.substituted placeholder opcode))) ∧
    ((substituteAll "_initblk" .initblk).apply { body, method }).map id Cursor.body =
      (.ok (body.instrs.countP (Instr.calls "_initblk")),
        body.mapInstrs (.substituted "_initblk" .initblk)) ∧
    (∀ steps, ∃ left : Cursor,
      (callNextHelpers steps 0).apply { body, method } =
        (.ok (min steps (body.instrs.countP Matcher.helperCallvirt)), left) ∧
      left.body.instrs.countP Matcher.helperCallvirt =
        body.instrs.countP Matcher.helperCallvirt - steps ∧
      (body.instrs.countP Matcher.helperCallvirt ≤ steps →
        left.body = body.mapInstrs Instr.calledDirectly ∧
        left.nearest? .next (Window.opensAt left.body [Matcher.helperCallvirt]) = none)) ∧
    (Body.callHelpers method).apply body =
      (.ok (body.instrs.countP Matcher.helperCallvirt), body.mapInstrs Instr.calledDirectly) ∧
    (Pass.repairEnumerators.apply config).apply module =
      (.ok (0 < module.helperCalls),
        module.withBodies module.isOfEnumerator fun body =>
          body.mapInstrs Instr.calledDirectly) := by
  refine ⟨shaped.apply_substituteNext bare method, shaped.apply_substituteAll bare method,
    fun task mnemonic first second names => shaped.apply_substituteNamed bare first second names
      method, shaped.apply_substituteAll rfl method, fun steps => ?_, body.apply_callHelpers method,
    built.forest.apply_repairEnumerators config⟩
  have passed : Passed Matcher.helperCallvirt { body, method } := nofun
  obtain ⟨left, called, changing⟩ := apply_callNextHelpers passed steps 0
  rw [Nat.zero_add] at called
  exact ⟨left, called, changing.remaining, changing.whole⟩

/-- Two calls of a placeholder, one behind the other, and a virtual call of a helper. -/
def filling : Body :=
  Body.after {} [.append ⟨.call, .member (.method "T" "Fill" "void Fill()")⟩,
    .append ⟨.call, .member (.method "U" "Fill" "void Fill()")⟩,
    .append ⟨.callvirt, .member (.method "T" "System.IDisposable.Dispose" "void Dispose()")⟩,
    .append ⟨.ret, .none⟩]

/-- A module with an enumerator that a compiler made and a type beside it, whose methods have the same
body. -/
def fillingModule : Module where
  name := "Lib"
  types :=
    [{ name := "T", space := "", flags := TypeDef.publicFlag, methods := [⟨0⟩],
       interfaces := ["System.Collections.IEnumerator"],
       attributes := [{ type := "System.Runtime.CompilerServices.CompilerGeneratedAttribute" }] },
     { name := "U", space := "", flags := TypeDef.publicFlag, methods := [⟨1⟩] }]
  topLevel := [⟨0⟩, ⟨1⟩]
  methods :=
    [{ name := "M", returnType := "void", declaringType := ⟨0⟩, body := some filling },
     { name := "N", returnType := "void", declaringType := ⟨1⟩, body := some filling }]

theorem built_fillingModule : fillingModule.Built := by
  have types := (Module.Built.empty "Lib").type "" "T" |>.type "" "U"
  have methods := types.method ⟨0⟩ { name := "M", returnType := "void", declaringType := ⟨0⟩ }
    |>.method ⟨1⟩ { name := "N", returnType := "void", declaringType := ⟨1⟩ }
  exact .dressed methods fillingModule rfl rfl rfl rfl

/-- Both calls become the operation, and the call of the helper becomes direct in the enumerator only.
-/
theorem in_place_filling :
    ((Rule.substituteAll "Fill" .nop).apply { body := filling, method := "M" }).2.body.instrs.map
        Instr.opcode = [.nop, .nop, .callvirt, .ret] ∧
      ((Pass.repairEnumerators.apply {}).apply fillingModule).1 = .ok true ∧
      ((Pass.repairEnumerators.apply {}).apply fillingModule).2.methods.map
          (fun method => method.body.map fun body => body.instrs.map Instr.opcode) =
        [some [.call, .call, .call, .ret], some [.call, .call, .callvirt, .ret]] := by
  have shaped : ∀ instr ∈ filling.instrs, instr.wellShaped = true := by decide +kernel
  obtain ⟨_, substituted, _, _, _, _, repaired⟩ := @in_place_loops_eq_map "Fill" .nop rfl
    filling shaped fillingModule built_fillingModule "M" {}
  refine ⟨?_, ?_, ?_⟩
  · have left : ((Rule.substituteAll "Fill" .nop).apply { body := filling, method := "M" }).2.body =
        filling.mapInstrs (.substituted "Fill" .nop) := congrArg Prod.snd substituted
    rw [left]
    decide +kernel
  · have calls : 0 < fillingModule.helperCalls := by decide +kernel
    rw [repaired]
    exact congrArg Except.ok (decide_eq_true calls)
  · rw [repaired]
    decide +kernel

end Retrofit
