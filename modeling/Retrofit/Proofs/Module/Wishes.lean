import Mathlib.Data.List.Basic
import Retrofit.Module.Member

/-!
What the requests on the members of a module ask for together, where they call for the rules for
declarations: an entry point, names, and methods that implement interfaces. Whether all of it can be
done depends on which wishes there are and not on their order.
-/

namespace Retrofit

def MemberId.method? : MemberId → Option MethodId
  | .method id => some id
  | _ => none

/-- The name for which a request asks. -/
def Request.newName? (request : Request) : Option String :=
  if request.rule = "ForceName" then (request.textArg 0).toOption else none

theorem Request.newName?_eq_some_iff {request : Request} {name : String} :
    request.newName? = some name ↔ request.rule = "ForceName" ∧ request.textArg 0 = .ok name := by
  rw [newName?]
  cases request.textArg 0 <;> simp [Except.toOption]

theorem Request.newName?_of_ne {request : Request} (other : request.rule ≠ "ForceName") :
    request.newName? = none :=
  if_neg other

/-- Requests, each behind the member that carries it. -/
abbrev Wishes := List (MemberId × Request)

namespace Wishes

/-- The name that a member is to have, if it is to have another one. -/
def newName? (wishes : Wishes) (member : MemberId) : Option String :=
  wishes.findSome? fun wish => if wish.1 = member then wish.2.newName? else none

/-- The method that is to be the entry point, if there is to be another one. -/
def entryPoint? (wishes : Wishes) : Option MethodId :=
  wishes.findSome? fun wish => if wish.2.rule = "MakeEntryPoint" then wish.1.method? else none

/-- Whether a method is to implement an interface. -/
def implements (wishes : Wishes) (id : MethodId) : Bool :=
  wishes.any fun wish => wish.1 = .method id && wish.2.rule = "PatchInterface"

/-- Wishes that can all be met. Those for methods are on methods, only one method is to be the entry
point, names are given as such and are not empty, and no member is to have two. -/
structure Consistent (wishes : Wishes) : Prop where
  onMethods : ∀ wish ∈ wishes, wish.2.rule = "MakeEntryPoint" ∨ wish.2.rule = "PatchInterface" →
    ∃ id, wish.1 = .method id
  oneEntryPoint : ∀ wish ∈ wishes, ∀ other ∈ wishes,
    wish.2.rule = "MakeEntryPoint" → other.2.rule = "MakeEntryPoint" → wish.1 = other.1
  named : ∀ wish ∈ wishes, wish.2.rule = "ForceName" →
    ∃ name, wish.2.textArg 0 = .ok name ∧ name ≠ ""
  oneName : ∀ wish ∈ wishes, ∀ other ∈ wishes, wish.1 = other.1 →
    wish.2.rule = "ForceName" → other.2.rule = "ForceName" → wish.2.textArg 0 = other.2.textArg 0

variable {wishes others : Wishes} {member : MemberId} {request : Request} {name : String}
  {id : MethodId}

theorem Consistent.nil : Consistent [] := ⟨nofun, nofun, nofun, nofun⟩

theorem Consistent.of_subset (consistent : others.Consistent)
    (within : ∀ wish ∈ wishes, wish ∈ others) : wishes.Consistent where
  onMethods wish listed := consistent.onMethods wish (within wish listed)
  oneEntryPoint wish listed other also :=
    consistent.oneEntryPoint wish (within wish listed) other (within other also)
  named wish listed := consistent.named wish (within wish listed)
  oneName wish listed other also :=
    consistent.oneName wish (within wish listed) other (within other also)

theorem Consistent.of_append (consistent : Consistent (wishes ++ others)) : wishes.Consistent :=
  consistent.of_subset fun _ => List.mem_append_left _

private theorem findSome?_eq_some_of_agree {items : List α} {find : α → Option β} {found : β}
    (agree : ∀ item ∈ items, ∀ value, find item = some value → value = found)
    (listed : item ∈ items) (finds : find item = some found) : items.findSome? find = some found := by
  cases searched : items.findSome? find with
  | none => rw [List.findSome?_eq_none_iff.1 searched item listed] at finds; cases finds
  | some value =>
    obtain ⟨other, also, finds⟩ := List.exists_of_findSome?_eq_some searched
    rw [agree other also value finds]

theorem Consistent.newName?_eq_some_iff (consistent : wishes.Consistent) :
    wishes.newName? member = some name ↔
      ∃ request, (member, request) ∈ wishes ∧ request.newName? = some name := by
  constructor
  · intro found
    obtain ⟨⟨carrier, request⟩, listed, finds⟩ := List.exists_of_findSome?_eq_some found
    obtain ⟨rfl, asks⟩ := Option.ite_none_right_eq_some.1 finds
    exact ⟨request, listed, asks⟩
  · rintro ⟨request, listed, asks⟩
    refine findSome?_eq_some_of_agree ?_ listed (by simpa using asks)
    rintro ⟨carrier, other⟩ also value finds
    obtain ⟨rfl, asksToo⟩ := Option.ite_none_right_eq_some.1 finds
    obtain ⟨renames, given⟩ := Request.newName?_eq_some_iff.1 asks
    obtain ⟨renamesToo, givenToo⟩ := Request.newName?_eq_some_iff.1 asksToo
    have same := consistent.oneName _ also _ listed rfl renamesToo renames
    exact Except.ok.inj (givenToo.symm.trans (same.trans given))

theorem implements_eq_true_iff : wishes.implements id = true ↔
    ∃ request, (.method id, request) ∈ wishes ∧ request.rule = "PatchInterface" := by
  simp only [implements, List.any_eq_true, Prod.exists, Bool.and_eq_true, decide_eq_true_eq]
  constructor
  · rintro ⟨_, request, listed, rfl, implementing⟩
    exact ⟨request, listed, implementing⟩
  · rintro ⟨request, listed, implementing⟩
    exact ⟨_, request, listed, rfl, implementing⟩

theorem newName?_concat (wishes : Wishes) (carrier : MemberId) (request : Request)
    (member : MemberId) : newName? (wishes ++ [(carrier, request)]) member =
      (wishes.newName? member).or (if carrier = member then request.newName? else none) := by
  rw [newName?, List.findSome?_append, List.findSome?_singleton]
  rfl

theorem entryPoint?_concat (wishes : Wishes) (carrier : MemberId) (request : Request) :
    entryPoint? (wishes ++ [(carrier, request)]) =
      wishes.entryPoint?.or
        (if request.rule = "MakeEntryPoint" then carrier.method? else none) := by
  rw [entryPoint?, List.findSome?_append, List.findSome?_singleton]
  rfl

theorem implements_concat (wishes : Wishes) (carrier : MemberId) (request : Request)
    (id : MethodId) : implements (wishes ++ [(carrier, request)]) id =
      (wishes.implements id || (carrier = .method id && request.rule = "PatchInterface")) := by
  rw [implements, List.any_append, List.any_cons, List.any_nil, Bool.or_false]
  rfl

theorem newName?_concat_of_ne (wishes : Wishes) (carrier : MemberId) {request : Request}
    (other : request.rule ≠ "ForceName") :
    newName? (wishes ++ [(carrier, request)]) = wishes.newName? := by
  funext member
  rw [newName?_concat, Request.newName?_of_ne other, ite_self, Option.or_none]

theorem entryPoint?_concat_of_ne (wishes : Wishes) (carrier : MemberId) {request : Request}
    (other : request.rule ≠ "MakeEntryPoint") :
    entryPoint? (wishes ++ [(carrier, request)]) = wishes.entryPoint? := by
  rw [entryPoint?_concat, if_neg other, Option.or_none]

theorem implements_concat_of_ne (wishes : Wishes) (carrier : MemberId) {request : Request}
    (other : request.rule ≠ "PatchInterface") :
    implements (wishes ++ [(carrier, request)]) = wishes.implements := by
  funext id
  rw [implements_concat, decide_eq_false other, Bool.and_false, Bool.or_false]

section Reordered

variable (same : ∀ wish, wish ∈ others ↔ wish ∈ wishes)

include same

variable (consistent : wishes.Consistent)

include consistent

omit consistent in
theorem implements_congr (id : MethodId) : others.implements id = wishes.implements id := by
  rw [Bool.eq_iff_iff, implements_eq_true_iff, implements_eq_true_iff]
  simp only [same]

end Reordered

end Wishes

end Retrofit
