import Retrofit.Rule.Basic

/-!
Registries: the rules that a run can draw on, by name.
-/

namespace Retrofit

/-- Rules under different names. -/
structure Registry (ν : Type) where
  rules : List (Rule ν) := []

namespace Registry

def size (registry : Registry ν) : Nat := registry.rules.length

def get? (registry : Registry ν) (name : String) : Option (Rule ν) :=
  registry.rules.find? fun rule => rule.name = name

def contains (registry : Registry ν) (name : String) : Bool := (registry.get? name).isSome

/-- Enters a rule, in place of the one that had its name. -/
def insert (registry : Registry ν) (rule : Rule ν) : Registry ν :=
  if registry.contains rule.name then
    ⟨registry.rules.map fun held => if held.name = rule.name then rule else held⟩
  else
    ⟨registry.rules ++ [rule]⟩

def ofRules (rules : List (Rule ν)) : Registry ν := rules.foldl insert {}

def names (registry : Registry ν) : List String :=
  (registry.rules.map Rule.name).mergeSort fun left right => !decide (right < left)

private theorem find?_replaced (rules : List (Rule ν)) (rule : Rule ν)
    (held : (rules.find? fun other => other.name = rule.name).isSome = true) :
    ((rules.map fun other => if other.name = rule.name then rule else other).find?
      fun other => other.name = rule.name) = some rule := by
  induction rules with
  | nil => simp at held
  | cons first rest ih =>
    by_cases same : first.name = rule.name
    · simp [same]
    · simp only [List.find?_cons, same, decide_false] at held
      simpa [same] using ih held

theorem get?_insert (registry : Registry ν) (rule : Rule ν) :
    (registry.insert rule).get? rule.name = some rule := by
  unfold insert contains get?
  split
  next held => exact find?_replaced registry.rules rule held
  next absent =>
    simp only [Option.not_isSome_iff_eq_none] at absent
    simp [List.find?_append, absent]

end Registry
end Retrofit
