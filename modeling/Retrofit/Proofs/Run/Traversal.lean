import Retrofit.Proofs.Edit
import Retrofit.Proofs.Module.Outline
import Retrofit.Proofs.Run.Step

/-!
Two runs on modules with the same outline take up the same requests in the same order, so one follows
the other as soon as it does so for every single request and every pass (`Tracks.steps`).
-/

namespace Retrofit

open Edit (Follows)

/-- The modules of related states differ in their bodies at most. -/
def SameOutlines (related : Noted ν Progress → Option (Noted μ Progress) → Prop) : Prop :=
  ∀ left right, related left (some right) →
    right.state.workspace.module.outline = left.state.workspace.module.outline

variable {before after : Noted ν Progress → Option (Noted μ Progress) → Prop}

theorem Step.follows_module_bind {next : Module → Step ν α} {other : Module → Step μ α}
    (outlines : SameOutlines before)
    (rest : ∀ module seen : Module, seen.outline = module.outline →
      Follows before (next module) (other seen) after) :
    Follows before (Step.module >>= next) (Step.module >>= other) after := by
  intro left right given value final done
  obtain ⟨_, _, looked, went⟩ := Edit.bind_eq_ok.1 done
  cases looked
  cases right with
  | none =>
    obtain ⟨reached, follows, held⟩ := rest _ _ rfl left none given value final went
    exact ⟨reached, .bind .failed follows, held⟩
  | some right =>
    obtain ⟨reached, follows, held⟩ :=
      rest _ _ (outlines left right given) left (some right) given value final went
    exact ⟨reached, .bind (.succeeds (Step.apply_module right)) follows, held⟩

namespace Patcher

variable {related later : Noted ν Progress → Option (Noted μ Progress) → Prop}
  {first : Patcher ν} {second : Patcher μ}

/-- The second patcher follows the first in serving a request and in taking the requests of a member
away. -/
structure Tracks (related : Noted ν Progress → Option (Noted μ Progress) → Prop)
    (first : Patcher ν) (second : Patcher μ) : Prop where
  outlines : SameOutlines related
  dropServed : second.config.dropServed = first.config.dropServed
  serves : ∀ member request,
    Follows related (first.serveRequest member request) (second.serveRequest member request) related
  drops : ∀ member,
    Follows related (Step.onModule (Module.dropRequests member) : Step ν Unit)
      (Step.onModule (Module.dropRequests member)) related

theorem Tracks.serveMember (tracks : Tracks related first second) (member : MemberId) :
    Follows related (first.serveMember member) (second.serveMember member) related := by
  refine Step.follows_module_bind tracks.outlines fun module seen same => ?_
  have requests : seen.requests member = module.requests member := by
    rw [← Module.requests_outline, same, Module.requests_outline]
  rw [requests, tracks.dropServed]
  refine .demand_bind fun requests _ => .ite ?_ (.pure fun _ _ held => held)
  have served := Follows.forM fun request (_ : request ∈ requests) => tracks.serves member request
  exact served.bind fun _ => .ite (tracks.drops member) (.pure fun _ _ held => held)

theorem Tracks.serveType (tracks : Tracks related first second) (id : TypeId) :
    Follows related (first.serveType id) (second.serveType id) related := by
  refine (tracks.serveMember (.type id)).bind fun _ => ?_
  refine Step.follows_module_bind tracks.outlines fun module seen same => ?_
  have found : seen.typeAt id = module.typeAt id :=
    congrArg (fun outline => outline.typeAt id) same
  rw [found]
  refine .demand_bind fun type _ => ?_
  have fields := Follows.forM fun field (_ : field ∈ type.fields) =>
    tracks.serveMember (.field field)
  have methods := Follows.forM fun method (_ : method ∈ type.methods) =>
    tracks.serveMember (.method method)
  exact fields.bind fun _ => methods

/-- One run follows another if the requests are served so and the passes are made so, these under a
relation that may be weaker. -/
theorem Tracks.steps (tracks : Tracks related first second)
    (weaker : ∀ left right, related left right → later left right)
    (samePasses : second.passes = first.passes)
    (makes : ∀ pass ∈ first.passes,
      Follows later (makePass first.config pass) (makePass second.config pass) later) :
    Follows related first.steps second.steps later := by
  refine Step.follows_module_bind tracks.outlines fun module seen same => ?_
  have order : seen.typesInOrder = module.typesInOrder := by
    rw [← Module.typesInOrder_outline, same, Module.typesInOrder_outline]
  rw [order, samePasses]
  have types := Follows.forM fun id (_ : id ∈ module.typesInOrder) => tracks.serveType id
  have made := Follows.forM makes
  refine types.bind fun _ => ?_
  intro left right held value final done
  exact made left right (weaker left right held) value final done

end Patcher
end Retrofit
