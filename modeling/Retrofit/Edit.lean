import Retrofit.Error

/-!
Edits: changes to a state that may fail. A failed edit still says which state it leaves, so that
"nothing happened" is a statement about it and not an assumption.
-/

namespace Retrofit

/-- A change to a state that yields a result or an error, and in both cases a state. -/
abbrev Edit (σ : Type) (α : Type) := ExceptT PatchError (StateM σ) α

namespace Edit

def apply (edit : Edit σ α) (state : σ) : Except PatchError α × σ :=
  edit.run.run state

def demand (check : Except PatchError α) : Edit σ α :=
  ExceptT.mk (pure check)

/-- An edit of a part of the state. The focus takes the part out of the state, together with how to
close the gap again. -/
@[inline] def within (focus : σ → ρ × (ρ → σ)) (edit : Edit ρ α) : Edit σ α :=
  ExceptT.mk fun state =>
    let (part, close) := focus state
    let (outcome, part) := edit.apply part
    (outcome, close part)

@[simp] theorem apply_pure (value : α) (state : σ) :
    apply (pure value : Edit σ α) state = (.ok value, state) := rfl

@[simp] theorem apply_throw (error : PatchError) (state : σ) :
    apply (throw error : Edit σ α) state = (.error error, state) := rfl

@[simp] theorem apply_get (state : σ) : apply (get : Edit σ σ) state = (.ok state, state) := rfl

@[simp] theorem apply_set (next state : σ) :
    apply (set next : Edit σ PUnit) state = (.ok ⟨⟩, next) := rfl

@[simp] theorem apply_modify (change : σ → σ) (state : σ) :
    apply (modify change : Edit σ PUnit) state = (.ok ⟨⟩, change state) := rfl

@[simp] theorem apply_demand (check : Except PatchError α) (state : σ) :
    apply (demand check : Edit σ α) state = (check, state) := rfl

/-- A sequence goes on in the state that its first step leaves, and stops where that fails. -/
theorem apply_bind (first : Edit σ α) (next : α → Edit σ β) (state : σ) :
    apply (first >>= next) state =
      match apply first state with
      | (.ok value, after) => apply (next value) after
      | (.error error, after) => (.error error, after) := by
  show apply (ExceptT.mk (first.run >>= ExceptT.bindCont next)) state = _
  simp only [apply, ExceptT.run_mk, StateT.run_bind]
  show StateT.run (ExceptT.bindCont next (first.run.run state).1) (first.run.run state).2 = _
  rcases first.run.run state with ⟨_ | _, _⟩ <;> rfl

@[simp] theorem apply_map (f : α → β) (edit : Edit σ α) (state : σ) :
    apply (f <$> edit) state = ((edit.apply state).1.map f, (edit.apply state).2) := by
  show apply (edit >>= fun value => pure (f value)) state = _
  rw [apply_bind]
  rcases edit.apply state with ⟨_ | _, _⟩ <;> rfl

@[simp] theorem apply_discard (edit : Edit σ α) (state : σ) :
    apply (discard edit) state = ((edit.apply state).1.map fun _ => (), (edit.apply state).2) :=
  apply_map (fun _ => ()) edit state

@[simp] theorem apply_within (focus : σ → ρ × (ρ → σ)) (edit : Edit ρ α) (state : σ) :
    apply (within focus edit) state =
      ((edit.apply (focus state).1).1, (focus state).2 (edit.apply (focus state).1).2) := rfl

end Edit
end Retrofit
