import Retrofit.Pass.Basic

/-!
What can be said of edits without looking into them: that a property of the state outlives them, under
which condition they succeed, and that one of them follows another.
-/

namespace Retrofit.Edit

/-- A sequence succeeds where both its parts do. -/
theorem bind_eq_ok {edit : Edit σ ι} {next : ι → Edit σ α} {state final : σ} {value : α} :
    (edit >>= next).apply state = (.ok value, final) ↔
      ∃ middle between, edit.apply state = (.ok middle, between) ∧
        (next middle).apply between = (.ok value, final) := by
  rw [apply_bind]
  rcases edit.apply state with ⟨_ | middle, between⟩
  · simp
  · refine ⟨fun done => ⟨middle, between, rfl, done⟩, ?_⟩
    rintro ⟨_, _, ⟨⟩, done⟩
    exact done

theorem apply_bind_of_ok {edit : Edit σ ι} {next : ι → Edit σ α} {state between : σ} {value : ι}
    (done : edit.apply state = (.ok value, between)) :
    (edit >>= next).apply state = (next value).apply between := by
  rw [apply_bind, done]

theorem demand_bind_eq_ok {check : Except PatchError ι} {next : ι → Edit σ α} {state final : σ}
    {value : α} :
    (demand check >>= next).apply state = (.ok value, final) ↔
      ∃ passed, check = .ok passed ∧ (next passed).apply state = (.ok value, final) := by
  rw [apply_bind, apply_demand]
  cases check <;> simp

theorem both_eq_ok {one : Edit σ α} {two : Edit σ β} {result : α → β → γ} {state final : σ}
    {value : γ} :
    (do let outcome ← one
        let another ← two
        return result outcome another).apply state = (.ok value, final) ↔
      ∃ outcome another, (one.apply state).1 = .ok outcome ∧
        (two.apply (one.apply state).2).1 = .ok another ∧ value = result outcome another ∧
        final = (two.apply (one.apply state).2).2 := by
  rw [apply_bind]
  rcases one.apply state with ⟨error | outcome, between⟩
  · simp
  · dsimp only
    rw [apply_bind]
    rcases two.apply between with ⟨error | another, last⟩
    · simp
    · simp [eq_comm]

/-- The edit, where it succeeds, keeps a property of the state. -/
def Keeps (property : σ → Prop) (edit : Edit σ α) : Prop :=
  ∀ state, property state → ∀ value, (edit.apply state).1 = .ok value →
    property (edit.apply state).2

theorem Keeps.pure {property : σ → Prop} (value : α) :
    (Pure.pure value : Edit σ α).Keeps property :=
  fun _ held _ _ => held

theorem Keeps.get {property : σ → Prop} : (MonadState.get : Edit σ σ).Keeps property :=
  fun _ held _ _ => held

theorem Keeps.of_eq_ok {property : σ → Prop} {edit : Edit σ α} {state final : σ} {value : α}
    (kept : edit.Keeps property) (ran : edit.apply state = (.ok value, final))
    (held : property state) : property final := by
  have reached := kept state held value
  rw [ran] at reached
  exact reached rfl

theorem Keeps.bind {property : σ → Prop} {edit : Edit σ α} {next : α → Edit σ β}
    (first : edit.Keeps property) (rest : ∀ value, (next value).Keeps property) :
    (edit >>= next).Keeps property := by
  intro state held value done
  have kept := first state held
  rw [apply_bind] at done ⊢
  rcases ran : edit.apply state with ⟨_ | middle, after⟩ <;> rw [ran] at done kept
  · cases done
  · exact rest middle after (kept middle rfl) value done

theorem keeps_total {property : σ → Prop} {edits : List (Edit σ Nat)}
    (each : ∀ edit ∈ edits, edit.Keeps property) : (total edits).Keeps property := by
  induction edits with
  | nil => exact .pure 0
  | cons edit rest ih =>
    have later := ih fun other listed => each other (List.mem_cons_of_mem _ listed)
    exact (each edit List.mem_cons_self).bind fun count => later.bind fun more => .pure _

/-- From a state with the first property, the edit, where it succeeds, gets to one with the second.
-/
def Ensures (before : σ → Prop) (edit : Edit σ α) (after : α → σ → Prop) : Prop :=
  ∀ state, before state → ∀ value, (edit.apply state).1 = .ok value →
    after value (edit.apply state).2

section Ensures

variable {before : σ → Prop} {after : α → σ → Prop}

theorem ensures_of_eq_ok {edit : Edit σ α}
    (reaches : ∀ state, before state → ∀ value final, edit.apply state = (.ok value, final) →
      after value final) : Ensures before edit after :=
  fun state given value done => reaches state given value _ (Prod.ext done rfl)

theorem Ensures.of_eq_ok {edit : Edit σ α} {state final : σ} {value : α}
    (ensured : Ensures before edit after) (ran : edit.apply state = (.ok value, final))
    (given : before state) : after value final := by
  have reached := ensured state given value
  rw [ran] at reached
  exact reached rfl

theorem Ensures.pure {value : α} (held : ∀ state, before state → after value state) :
    Ensures before (Pure.pure value) after := by
  intro state given _ done
  cases done
  exact held state given

theorem Ensures.throw {error : PatchError} :
    Ensures before (MonadExcept.throw error : Edit σ α) after :=
  nofun

theorem Ensures.bind {edit : Edit σ ι} {next : ι → Edit σ α} {between : ι → σ → Prop}
    (first : Ensures before edit between) (rest : ∀ value, Ensures (between value) (next value) after) :
    Ensures before (edit >>= next) after := by
  intro state given value done
  have reached := first state given
  rw [apply_bind] at done ⊢
  rcases ran : edit.apply state with ⟨_ | middle, later⟩ <;> rw [ran] at done reached
  · cases done
  · exact rest middle later (reached middle rfl) value done

theorem Ensures.get_bind {next : σ → Edit σ α}
    (rest : ∀ state, before state → Ensures (· = state) (next state) after) :
    Ensures before (MonadState.get >>= next) after := by
  intro state given value done
  rw [apply_bind, apply_get] at done ⊢
  exact rest state given state rfl value done

theorem Ensures.demand_bind {check : Except PatchError ι} {next : ι → Edit σ α}
    (rest : ∀ value, check = .ok value → Ensures before (next value) after) :
    Ensures before (demand check >>= next) after := by
  intro state given value done
  rw [apply_bind, apply_demand] at done ⊢
  cases check with
  | error error => cases done
  | ok passed => exact rest passed rfl state given value done

theorem Ensures.mono {weaker : σ → Prop} {stronger : α → σ → Prop} {edit : Edit σ α}
    (given : ∀ state, before state → weaker state) (ensured : Ensures weaker edit stronger)
    (enough : ∀ value state, stronger value state → after value state) :
    Ensures before edit after :=
  fun state held value done => enough value _ (ensured state (given state held) value done)

theorem Ensures.discard {edit : Edit σ ι} {reached : σ → Prop}
    (ensured : Ensures before edit fun _ => reached) :
    Ensures before (discard edit) fun _ => reached :=
  ensured.bind fun _ => .pure fun _ held => held

theorem Ensures.of_each {edit : Edit σ α}
    (each : ∀ state, before state → Ensures (· = state) edit after) : Ensures before edit after :=
  fun state given => each state given state rfl

theorem Ensures.at_state {edit : Edit σ α} {state : σ} (held : before state)
    (ensured : Ensures before edit after) : Ensures (· = state) edit after :=
  ensured.mono (fun _ same => same ▸ held) fun _ _ done => done

/-- What is known besides the state can be used. -/
theorem Ensures.of_known {known : Prop} {edit : Edit σ α}
    (rest : known → Ensures before edit after) :
    Ensures (fun state => known ∧ before state) edit after :=
  fun state given => rest given.1 state given.2

/-- What every step of a loop keeps, the loop keeps. -/
theorem Ensures.forM {items : List ι} {each : ι → Edit σ PUnit}
    (step : ∀ item ∈ items, Ensures before (each item) fun _ => before) :
    Ensures before (items.forM each) fun _ => before := by
  induction items with
  | nil => exact .pure fun _ held => held
  | cons item rest ih =>
    have later := ih fun other listed => step other (List.mem_cons_of_mem _ listed)
    exact .bind (step item List.mem_cons_self) fun _ => later

end Ensures

/-- From a state with the first two properties, the edit gets to one with the first again, whether it
succeeds or fails, and where it succeeds also to one with the last. -/
def Secures (kept before : σ → Prop) (edit : Edit σ α) (after : α → σ → Prop) : Prop :=
  ∀ state, kept state → before state →
    kept (edit.apply state).2 ∧
      ∀ value, (edit.apply state).1 = .ok value → after value (edit.apply state).2

/-- The edit keeps the property, whether it succeeds or fails. -/
abbrev Maintains (kept : σ → Prop) (edit : Edit σ α) : Prop :=
  Secures kept (fun _ => True) edit fun _ _ => True

section Secures

variable {kept before : σ → Prop} {after : α → σ → Prop}

theorem Secures.pure {value : α} (held : ∀ state, kept state → before state → after value state) :
    Secures kept before (Pure.pure value) after := by
  intro state keeps given
  refine ⟨keeps, ?_⟩
  rintro _ ⟨⟩
  exact held state keeps given

theorem Secures.throw {error : PatchError} :
    Secures kept before (MonadExcept.throw error : Edit σ α) after :=
  fun _ keeps _ => ⟨keeps, nofun⟩

theorem Secures.bind {edit : Edit σ ι} {next : ι → Edit σ α} {between : ι → σ → Prop}
    (first : Secures kept before edit between)
    (rest : ∀ value, Secures kept (between value) (next value) after) :
    Secures kept before (edit >>= next) after := by
  intro state keeps given
  obtain ⟨halfway, reached⟩ := first state keeps given
  rw [apply_bind]
  rcases ran : edit.apply state with ⟨_ | middle, later⟩ <;> rw [ran] at halfway reached
  · exact ⟨halfway, nofun⟩
  · exact rest middle later halfway (reached middle rfl)

theorem Secures.get_bind {next : σ → Edit σ α}
    (rest : ∀ state, kept state → before state → Secures kept (· = state) (next state) after) :
    Secures kept before (MonadState.get >>= next) after := by
  intro state keeps given
  rw [apply_bind, apply_get]
  exact rest state keeps given state keeps rfl

theorem Secures.demand_bind {check : Except PatchError ι} {next : ι → Edit σ α}
    (rest : ∀ value, check = .ok value → Secures kept before (next value) after) :
    Secures kept before (demand check >>= next) after := by
  intro state keeps given
  rw [apply_bind, apply_demand]
  cases check with
  | error error => exact ⟨keeps, nofun⟩
  | ok passed => exact rest passed rfl state keeps given

theorem Secures.mono {weaker : σ → Prop} {stronger : α → σ → Prop} {edit : Edit σ α}
    (given : ∀ state, kept state → before state → weaker state)
    (secured : Secures kept weaker edit stronger)
    (enough : ∀ value state, stronger value state → after value state) :
    Secures kept before edit after := by
  intro state keeps held
  obtain ⟨still, done⟩ := secured state keeps (given state keeps held)
  exact ⟨still, fun value ran => enough value _ (done value ran)⟩

theorem Secures.of_each {edit : Edit σ α}
    (each : ∀ state, kept state → before state → Secures kept (· = state) edit after) :
    Secures kept before edit after :=
  fun state keeps given => each state keeps given state keeps rfl

theorem Secures.at_state {edit : Edit σ α} {state : σ} (held : before state)
    (secured : Secures kept before edit after) : Secures kept (· = state) edit after :=
  secured.mono (fun _ _ same => same ▸ held) fun _ _ done => done

theorem Maintains.within {edit : Edit σ α} (maintains : Maintains kept edit) :
    Secures kept before edit fun _ _ => True :=
  maintains.mono (fun _ _ _ => trivial) fun _ _ _ => trivial

theorem Maintains.secures {edit : Edit σ α} (maintains : Maintains kept edit)
    (ensures : Ensures before edit after) : Secures kept before edit after :=
  fun state held given => ⟨(maintains state held trivial).1, ensures state given⟩

theorem Maintains.of_apply {edit : Edit σ α}
    (keeps : ∀ state, kept state → kept (edit.apply state).2) : Maintains kept edit :=
  fun state held _ => ⟨keeps state held, fun _ _ => trivial⟩

theorem Maintains.discard {edit : Edit σ α} (maintains : Maintains kept edit) :
    Maintains kept (discard edit) :=
  maintains.bind fun _ => .pure fun _ _ _ => trivial

theorem Maintains.forM {items : List ι} {each : ι → Edit σ PUnit}
    (step : ∀ item ∈ items, Maintains kept (each item)) : Maintains kept (items.forM each) := by
  induction items with
  | nil => exact .pure fun _ _ _ => trivial
  | cons item rest ih =>
    have later := ih fun other listed => step other (List.mem_cons_of_mem _ listed)
    exact .bind (step item List.mem_cons_self) fun _ => later

theorem Maintains.ensures {edit : Edit σ α} (maintains : Maintains kept edit) :
    Ensures kept edit fun _ => kept :=
  fun state held _ _ => (maintains state held trivial).1

end Secures

/-- From a state with the first property, the edit succeeds just under the condition, and then gets to
a state with the last. -/
def Decides (before : σ → Prop) (condition : Prop) (edit : Edit σ α) (after : α → σ → Prop) : Prop :=
  ∀ state, before state →
    (∀ value final, edit.apply state = (.ok value, final) → condition ∧ after value final) ∧
      (condition → ∃ value final, edit.apply state = (.ok value, final))

section Decides

variable {before : σ → Prop} {condition : Prop} {after : α → σ → Prop}

theorem Decides.pure {value : α} (always : ∀ state, before state → condition)
    (held : ∀ state, before state → after value state) :
    Decides before condition (Pure.pure value) after := by
  intro state given
  refine ⟨?_, fun _ => ⟨value, state, rfl⟩⟩
  rintro _ _ ⟨⟩
  exact ⟨always state given, held state given⟩

/-- A sequence is decided by its second part, where the first one asks for less. -/
theorem Decides.bind {edit : Edit σ ι} {next : ι → Edit σ α} {between : ι → σ → Prop}
    {earlier : Prop} (first : Decides before earlier edit between)
    (rest : ∀ value, Decides (between value) condition (next value) after)
    (weaker : condition → earlier) : Decides before condition (edit >>= next) after := by
  intro state given
  obtain ⟨sound, progress⟩ := first state given
  constructor
  · intro value final done
    obtain ⟨middle, halfway, ran, went⟩ := bind_eq_ok.1 done
    exact (rest middle halfway (sound middle halfway ran).2).1 value final went
  · intro holds
    obtain ⟨middle, halfway, ran⟩ := progress (weaker holds)
    obtain ⟨value, final, went⟩ := (rest middle halfway (sound middle halfway ran).2).2 holds
    exact ⟨value, final, bind_eq_ok.2 ⟨middle, halfway, ran, went⟩⟩

theorem Decides.demand_bind {check : Except PatchError ι} {next : ι → Edit σ α} {passed : ι}
    (passes : check = .ok passed) (rest : Decides before condition (next passed) after) :
    Decides before condition (demand check >>= next) after := by
  intro state given
  rw [apply_bind, apply_demand, passes]
  exact rest state given

theorem Decides.at_state {edit : Edit σ α} {state : σ} (held : before state)
    (decides : Decides before condition edit after) : Decides (· = state) condition edit after :=
  fun _ same => decides _ (same ▸ held)

end Decides

variable {related : σ → τ → Prop}

/-- How an edit takes a state, or none where an earlier edit has failed, to the next. -/
inductive Reaches (edit : Edit σ α) (value : α) : Option σ → Option σ → Prop where
  | failed : Reaches edit value none none
  | succeeds {state final : σ} (ran : edit.apply state = (.ok value, final)) :
      Reaches edit value (some state) (some final)
  | fails {state final : σ} {error : PatchError} (ran : edit.apply state = (.error error, final)) :
      Reaches edit value (some state) none

/-- The second edit follows the first: from related states, wherever the first succeeds, the second
comes to the same result or fails, and the states are related again. A relation to no state says what
holds where the second has failed. -/
def Follows (before : σ → Option τ → Prop) (edit : Edit σ α) (other : Edit τ α)
    (after : σ → Option τ → Prop) : Prop :=
  ∀ left right, before left right → ∀ value final, edit.apply left = (.ok value, final) →
    ∃ reached, Reaches other value right reached ∧ after final reached

/-- Wherever the first edit succeeds from a related state, so does the second, whatever their
results, and the states are related again. -/
def KeepsUp (related : σ → τ → Prop) (edit : Edit σ α) (other : Edit τ β) : Prop :=
  ∀ left right, related left right → ∀ value final, edit.apply left = (.ok value, final) →
    ∃ again reached, other.apply right = (.ok again, reached) ∧ related final reached

theorem KeepsUp.total {edits : ι → Edit σ Nat} {others : ι → Edit τ Nat} {items : List ι}
    (each : ∀ item ∈ items, KeepsUp related (edits item) (others item)) :
    KeepsUp related (Edit.total (items.map edits)) (Edit.total (items.map others)) := by
  induction items with
  | nil =>
    rintro left right held _ _ ⟨⟩
    exact ⟨0, right, rfl, held⟩
  | cons item rest ih =>
    intro left right held value final done
    obtain ⟨count, halfway, ran, went⟩ := bind_eq_ok.1 done
    obtain ⟨more, last, followed, ended⟩ := bind_eq_ok.1 went
    cases ended
    have later := ih fun other listed => each other (List.mem_cons_of_mem _ listed)
    obtain ⟨again, between, first, near⟩ :=
      each item List.mem_cons_self left right held count halfway ran
    obtain ⟨further, reached, second, close⟩ := later halfway between near more _ followed
    refine ⟨again + further, reached, bind_eq_ok.2 ⟨again, between, first, ?_⟩, close⟩
    exact bind_eq_ok.2 ⟨further, reached, second, rfl⟩

/-- Related states of two runs that both go on. -/
def Both (related : σ → τ → Prop) (left : σ) (right : Option τ) : Prop :=
  ∃ state, right = some state ∧ related left state

section Follows

variable {before between after : σ → Option τ → Prop}

theorem Reaches.bind {edit : Edit σ ι} {next : ι → Edit σ α} {middle : ι} {value : α}
    {start halfway final : Option σ} (first : Reaches edit middle start halfway)
    (rest : Reaches (next middle) value halfway final) :
    Reaches (edit >>= next) value start final := by
  cases first with
  | failed =>
    cases rest
    exact .failed
  | succeeds ran =>
    cases rest with
    | succeeds done => exact .succeeds (bind_eq_ok.2 ⟨middle, _, ran, done⟩)
    | fails done => exact .fails (by rw [apply_bind, ran]; exact done)
  | fails ran =>
    cases rest
    exact .fails (by rw [apply_bind, ran])

/-- One edit follows another that never fails where that succeeds. -/
theorem Follows.both {related reachable : σ → τ → Prop} {edit : Edit σ α} {other : Edit τ α}
    (step : ∀ left right, related left right → ∀ value final, edit.apply left = (.ok value, final) →
      ∃ reached, other.apply right = (.ok value, reached) ∧ reachable final reached) :
    Follows (Both related) edit other (Both reachable) := by
  rintro left _ ⟨right, rfl, held⟩ value final done
  obtain ⟨reached, ran, related⟩ := step left right held value final done
  exact ⟨some reached, .succeeds ran, reached, rfl, related⟩

theorem Reaches.pure (value : α) (state : Option σ) :
    Reaches (Pure.pure value : Edit σ α) value state state := by
  cases state with
  | none => exact .failed
  | some state => exact .succeeds rfl

theorem Reaches.of_not_ok {edit : Edit σ α} {state : σ} (value : α)
    (never : ∀ value final, edit.apply state ≠ (.ok value, final)) :
    Reaches edit value (some state) none := by
  rcases ran : edit.apply state with ⟨error | other, final⟩
  · exact .fails ran
  · exact absurd ran (never other final)

theorem Follows.pure {value : α} (held : ∀ left right, before left right → after left right) :
    Follows before (Pure.pure value : Edit σ α) (Pure.pure value : Edit τ α) after := by
  rintro left right given _ _ ⟨⟩
  exact ⟨right, .pure value right, held left right given⟩

theorem Follows.throw {error : PatchError} {other : Edit τ α} :
    Follows before (MonadExcept.throw error : Edit σ α) other after :=
  nofun

theorem Follows.bind {edit : Edit σ ι} {other : Edit τ ι} {next : ι → Edit σ α}
    {otherNext : ι → Edit τ α} (first : Follows before edit other between)
    (rest : ∀ value, Follows between (next value) (otherNext value) after) :
    Follows before (edit >>= next) (other >>= otherNext) after := by
  intro left right given value final done
  obtain ⟨middle, halfway, ran, went⟩ := bind_eq_ok.1 done
  obtain ⟨reached, follows, related⟩ := first left right given middle halfway ran
  obtain ⟨last, ended, held⟩ := rest middle halfway reached related value final went
  exact ⟨last, follows.bind ended, held⟩

theorem Follows.discard {edit : Edit σ α} {other : Edit τ α}
    (follows : Follows before edit other after) :
    Follows before (discard edit) (discard other) after :=
  follows.bind fun _ => .pure fun _ _ held => held

theorem Follows.get_bind {related : σ → τ → Prop} {next : σ → Edit σ α} {otherNext : τ → Edit τ α}
    (rest : ∀ left right, related left right →
      Follows (Both related) (next left) (otherNext right) after) :
    Follows (Both related) (MonadState.get >>= next) (MonadState.get >>= otherNext) after := by
  rintro left _ ⟨right, rfl, held⟩ value final done
  obtain ⟨reached, follows, related⟩ :=
    rest left right held left (some right) ⟨right, rfl, held⟩ value final
      (by rwa [apply_bind, apply_get] at done)
  exact ⟨reached, .bind (.succeeds (apply_get right)) follows, related⟩

theorem Follows.demand_bind {check : Except PatchError ι} {next : ι → Edit σ α}
    {otherNext : ι → Edit τ α}
    (rest : ∀ value, check = .ok value → Follows before (next value) (otherNext value) after) :
    Follows before (demand check >>= next) (demand check >>= otherNext) after := by
  cases check with
  | error error =>
    intro left right given value final done
    obtain ⟨_, _, passed, _⟩ := bind_eq_ok.1 done
    cases passed
  | ok passed => exact rest passed rfl

theorem Follows.ite {condition : Prop} [Decidable condition] {edit yet : Edit σ α}
    {other otherYet : Edit τ α} (holds : Follows before edit other after)
    (fails : Follows before yet otherYet after) :
    Follows before (if condition then edit else yet) (if condition then other else otherYet)
      after := by
  split
  · exact holds
  · exact fails

theorem Follows.forM {items : List ι} {each : ι → Edit σ PUnit} {otherEach : ι → Edit τ PUnit}
    (step : ∀ item ∈ items, Follows before (each item) (otherEach item) before) :
    Follows before (items.forM each) (items.forM otherEach) before := by
  induction items with
  | nil => exact .pure fun _ _ held => held
  | cons item rest ih =>
    have later := ih fun other listed => step other (List.mem_cons_of_mem _ listed)
    exact (step item List.mem_cons_self).bind fun _ => later

end Follows

end Retrofit.Edit
