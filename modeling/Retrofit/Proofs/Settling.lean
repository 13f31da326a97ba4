import Retrofit.Proofs.Module.Bodies
import Retrofit.Proofs.Modification

/-!
Edits that seek a goal. They rest where it holds, and wherever else they succeed they get to it and
say that they changed something. What they say is then exact, and done twice they do nothing more.
-/

namespace Retrofit

namespace Edit

/-- The edit rests where the goal holds, with a result that says so. From everywhere else it gets to
the goal with another result, or fails. -/
structure Seeks (goal : σ → Prop) (edit : Edit σ α) (resting : α) : Prop where
  rests : ∀ {state}, goal state → edit.apply state = (.ok resting, state)
  reaches : ∀ {state value after}, edit.apply state = (.ok value, after) → ¬ goal state →
    value ≠ resting ∧ goal after

section Seeks

variable {goal : σ → Prop} {edit : Edit σ α} {resting value : α} {state after : σ}

/-- The goal holds wherever the edit has succeeded. -/
theorem Seeks.arrives (seeks : edit.Seeks goal resting)
    (done : edit.apply state = (.ok value, after)) : goal after := by
  by_cases held : goal state
  · cases (seeks.rests held).symm.trans done
    exact held
  · exact (seeks.reaches done held).2

/-- The result says whether the edit has changed the state. -/
theorem Seeks.changed_iff (seeks : edit.Seeks goal resting)
    (done : edit.apply state = (.ok value, after)) : value ≠ resting ↔ after ≠ state := by
  by_cases held : goal state
  · cases (seeks.rests held).symm.trans done
    simp
  · obtain ⟨told, arrived⟩ := seeks.reaches done held
    exact iff_of_true told fun same => held (same ▸ arrived)

theorem Seeks.eq_of_rests (seeks : edit.Seeks goal resting)
    (done : edit.apply state = (.ok resting, after)) : after = state :=
  Classical.byContradiction fun moved => (seeks.changed_iff done).2 moved rfl

theorem Seeks.rests_iff (seeks : edit.Seeks goal resting) :
    edit.apply state = (.ok resting, state) ↔ goal state :=
  ⟨seeks.arrives, seeks.rests⟩

theorem Seeks.keeps (seeks : edit.Seeks goal resting) : edit.Keeps goal :=
  fun _ _ _ done => seeks.arrives (Prod.ext done rfl)

end Seeks

/-- Edits that each seek a goal and keep the goals of the others seek them all together. -/
theorem Seeks.total {items : List ι} {goal : ι → σ → Prop} {edits : ι → Edit σ Nat}
    (each : ∀ item ∈ items, (edits item).Seeks (goal item) 0)
    (apart : ∀ item ∈ items, ∀ other ∈ items, (edits item).Keeps (goal other)) :
    (total (items.map edits)).Seeks (fun state => ∀ item ∈ items, goal item state) 0 := by
  induction items with
  | nil => exact ⟨fun _ => rfl, fun _ unmet => absurd (by simp) unmet⟩
  | cons item rest ih =>
    have later := ih (fun other listed => each other (List.mem_cons_of_mem _ listed))
      fun other listed another also =>
        apart other (List.mem_cons_of_mem _ listed) another (List.mem_cons_of_mem _ also)
    have first := each item List.mem_cons_self
    have kept : (Edit.total (rest.map edits)).Keeps (goal item) := by
      refine keeps_total fun edit listed => ?_
      obtain ⟨other, also, rfl⟩ := List.mem_map.1 listed
      exact apart other (List.mem_cons_of_mem _ also) item List.mem_cons_self
    refine ⟨fun {state} met => ?_, fun {state count after} done unmet => ?_⟩
    · obtain ⟨here, there⟩ := List.forall_mem_cons.1 met
      exact bind_eq_ok.2 ⟨0, state, first.rests here,
        bind_eq_ok.2 ⟨0, state, later.rests there, rfl⟩⟩
    · obtain ⟨one, between, ran, went⟩ := bind_eq_ok.1 done
      obtain ⟨more, _, followed, ended⟩ := bind_eq_ok.1 went
      cases ended
      have here : goal item after := by
        have held := kept between (first.arrives ran) more
        rw [followed] at held
        exact held rfl
      refine ⟨fun none => ?_, List.forall_mem_cons.2 ⟨here, later.arrives followed⟩⟩
      -- If neither part counts anything, each has rested, so the goals held from the start.
      obtain ⟨rfl, rfl⟩ := Nat.add_eq_zero_iff.1 none
      obtain rfl := first.eq_of_rests ran
      obtain rfl := later.eq_of_rests followed
      exact unmet (List.forall_mem_cons.2 ⟨here, later.arrives followed⟩)

end Edit

namespace Module

variable {goal : Body → Prop} {edit : Edit Body Nat}

/-- Where a method has a body, it has the property. -/
def AllAt (property : Body → Prop) (id : MethodId) (module : Module) : Prop :=
  ∀ body, module.bodyOf? id = some body → property body

/-- What an edit of bodies seeks, it seeks in the body of each method. -/
theorem seeks_editBody (seeks : edit.Seeks goal 0) (id : MethodId) :
    (editBody id edit).Seeks (AllAt goal id) 0 where
  rests {module} met := by
    rw [apply_editBody]
    cases found : module.bodyOf? id with
    | none => rfl
    | some body =>
      dsimp only
      rw [seeks.rests (met body found)]
      refine congrArg _ (withMethod_of_same fun method listed => ?_)
      have has : method.body = some body := by simpa [bodyOf?, listed] using found
      rw [← has]
  reaches {module count after} done unmet := by
    rw [apply_editBody] at done
    cases found : module.bodyOf? id with
    | none => exact absurd (fun body has => by simp [found] at has) unmet
    | some body =>
      rw [found] at done
      obtain ⟨counted, rfl⟩ := Prod.mk.inj done
      have open_ : ¬ goal body := fun met => unmet fun other has => by
        cases found.symm.trans has
        exact met
      obtain ⟨told, met⟩ := seeks.reaches (Prod.ext counted rfl) open_
      refine ⟨told, fun other has => ?_⟩
      obtain ⟨method, listed, _⟩ := Option.bind_eq_some_iff.1 found
      cases (by simpa [bodyOf?_withMethod, listed] using has : (edit.apply body).2 = other)
      exact met

theorem keeps_allAt_editBody (kept : edit.Keeps goal) (edited id : MethodId) :
    (editBody edited edit).Keeps (AllAt goal id) := by
  intro module held count done body has
  rw [apply_editBody] at done has
  cases found : module.bodyOf? edited with
  | none =>
    rw [found] at has
    exact held body has
  | some old =>
    rw [found] at done has
    by_cases same : edited = id
    · subst same
      obtain ⟨method, listed, _⟩ := Option.bind_eq_some_iff.1 found
      cases (by simpa [bodyOf?_withMethod, listed] using has : (edit.apply old).2 = body)
      exact kept old (held old found) count done
    · dsimp only at has
      rw [bodyOf?_withMethod] at has
      simp only [same, ↓reduceIte] at has
      exact held body has

/-- Edits of the bodies of some methods that seek the same in each seek it in all. -/
theorem seeks_editBodies {edits : MethodId → Edit Body Nat} (each : ∀ id, (edits id).Seeks goal 0)
    (ids : List MethodId) :
    (Edit.total (ids.map fun id => editBody id (edits id))).Seeks
      (fun module => ∀ id ∈ ids, AllAt goal id module) 0 :=
  .total (fun id _ => seeks_editBody (each id) id) fun id _ other _ =>
    keeps_allAt_editBody (each id).keeps id other

end Module

end Retrofit
