import Retrofit.Proofs.Body.Width
import Retrofit.Proofs.Settling

/-!
Choosing the forms of branches seeks a body whose branches have the form of the policy, and counts
what it takes to get there.
-/

namespace Retrofit

namespace Body

variable {body after : Body}

/-- The branches have the form of the policy, and there are the passes to find this out. -/
def Settled (policy : BranchPolicy) (passes : Nat) (body : Body) : Prop :=
  body.Formed policy ∧ (policy = .fitting → 0 < passes)

theorem countP_holdsShortBranch_eq_zero :
    body.layout.countP holdsShortBranch = 0 ↔ body.AllLong := by
  have listed : body.layout.toList.map Prod.fst = body.lines.toList := by
    rw [toList_layout, map_fst_layoutFrom]
  rw [Array.countP_eq_zero]
  constructor
  · intro none instr present
    obtain ⟨line, held, rfl⟩ := List.mem_map.1 present
    rw [← listed] at held
    obtain ⟨entry, here, rfl⟩ := List.mem_map.1 held
    simpa [holdsShortBranch] using none entry (Array.mem_toList_iff.1 here)
  · intro long entry here
    have held := List.mem_map_of_mem (f := Prod.fst) (Array.mem_toList_iff.2 here)
    rw [listed] at held
    simpa [holdsShortBranch] using long _ (List.mem_map_of_mem held)

theorem Settled.apply_formBranches {policy : BranchPolicy} {passes : Nat}
    (settled : body.Settled policy passes) :
    (formBranches policy passes).apply body = (.ok 0, body) := by
  obtain ⟨formed, able⟩ := settled
  cases policy with
  | allLong =>
    rw [apply_formBranches_allLong, countP_holdsShortBranch_eq_zero.2 formed]
    exact congrArg _ (AllLong.lengthened_eq formed)
  | fitting =>
    obtain ⟨fewer, rfl⟩ := Nat.exists_eq_succ_of_ne_zero (able rfl).ne'
    rw [formBranches, apply_widenAsNeeded, widenFrom, Edit.apply_bind]
    simp only [Edit.apply_get, countP_isOverstretched_eq_zero.2 formed]
    rfl

theorem le_of_widenFrom {targets : Targets} {limit passes count total : Nat}
    (done : (widenFrom targets limit passes count).apply body = (.ok total, after)) :
    count ≤ total := by
  induction passes generalizing body count with
  | zero => cases done
  | succ passes ih =>
    rw [widenFrom, Edit.apply_bind] at done
    simp only [Edit.apply_get] at done
    split at done
    · cases done
      exact Nat.le_refl _
    · rw [Edit.apply_bind] at done
      exact Nat.le_trans (Nat.le_add_right _ _) (ih done)

/-- Choosing forms counts something, unless the body has them already. -/
theorem formed_of_count {policy : BranchPolicy} {passes : Nat}
    (done : (formBranches policy passes).apply body = (.ok 0, after)) : body.Formed policy := by
  cases policy with
  | allLong =>
    rw [apply_formBranches_allLong] at done
    exact countP_holdsShortBranch_eq_zero.1 (Except.ok.inj (congrArg Prod.fst done))
  | fitting =>
    obtain ⟨fewer, rfl⟩ := exists_of_formBranches done
    rw [formBranches, apply_widenAsNeeded, widenFrom, Edit.apply_bind] at done
    simp only [Edit.apply_get] at done
    split at done
    · next none => exact countP_isOverstretched_eq_zero.1 none
    · next found some =>
      rw [Edit.apply_bind] at done
      have counted := le_of_widenFrom done
      exact absurd counted (by simpa using some)

theorem seeks_formBranches (policy : BranchPolicy) (passes : Nat) :
    (formBranches policy passes).Seeks (Settled policy passes) 0 where
  rests := Settled.apply_formBranches
  reaches {body count after} done unmet := by
    have able (fitting : policy = .fitting) : 0 < passes := by
      subst fitting
      obtain ⟨fewer, rfl⟩ := exists_of_formBranches done
      exact Nat.succ_pos fewer
    refine ⟨fun none => unmet ⟨?_, able⟩, formed_formBranches done, able⟩
    subst none
    exact formed_of_count done

end Body
end Retrofit
