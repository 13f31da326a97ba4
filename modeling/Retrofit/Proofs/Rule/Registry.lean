import Mathlib.Data.List.Forall2
import Retrofit.Rule.BuiltIn

/-!
Looking rules up: registries of rules that are related one by one, and the rules that are there from
the start.
-/

namespace Retrofit

theorem Rule.rel_find? {related : Rule ν → Rule μ → Prop} {rules : List (Rule ν)}
    {others : List (Rule μ)} (named : ∀ rule other, related rule other → rule.name = other.name)
    (same : List.Forall₂ related rules others) (name : String) :
    Option.Rel related (rules.find? fun rule => rule.name = name)
      (others.find? fun rule => rule.name = name) := by
  induction same with
  | nil => exact .none
  | cons first _ ih =>
    rw [List.find?_cons, List.find?_cons, named _ _ first]
    split
    · exact .some first
    · exact ih

namespace Registry

private theorem rules_entered (registry : Registry ν) {rules : List (Rule ν)}
    (distinct : ((registry.rules ++ rules).map Rule.name).Nodup) :
    (rules.foldl insert registry).rules = registry.rules ++ rules := by
  induction rules generalizing registry with
  | nil => simp
  | cons rule rest ih =>
    have new : registry.contains rule.name = false := by
      rw [contains, get?, Bool.eq_false_iff, ne_eq, List.find?_isSome]
      rintro ⟨held, listed, same⟩
      rw [List.map_append, List.nodup_append] at distinct
      refine distinct.2.2 held.name (List.mem_map_of_mem listed) rule.name (by simp) ?_
      simpa using same
    have entered : (registry.insert rule).rules = registry.rules ++ [rule] := by
      simp [insert, new]
    rw [List.foldl_cons, ih, entered, List.append_assoc]
    · rfl
    · rwa [entered, List.append_assoc]

/-- Rules with names of their own are all entered, in order. -/
theorem rules_ofRules {rules : List (Rule ν)} (distinct : (rules.map Rule.name).Nodup) :
    (ofRules rules).rules = rules :=
  rules_entered {} distinct

theorem rules_builtIn : (builtIn : Registry ν).rules = Rule.builtIn := by
  refine rules_ofRules ?_
  have names : (Rule.builtIn : List (Rule ν)).map Rule.name =
      ["MakeEntryPoint", "PatchInterface", "ForceName", "PatchInitblk", "SubstituteOpcode",
        "PatchTypeCheck", "PatchOrCondition", "PatchFieldFromGetter", "PatchGuardedCall"] := rfl
  rw [names]
  decide

theorem builtIn_eq : (builtIn : Registry ν) = ⟨Rule.builtIn⟩ := by
  have rules : (builtIn : Registry ν).rules = Rule.builtIn := rules_builtIn
  generalize (builtIn : Registry ν) = registry at rules ⊢
  cases registry
  exact congrArg Registry.mk rules

end Registry
end Retrofit
