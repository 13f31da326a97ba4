import Retrofit.Proofs.Pass.Orderly
import Retrofit.Proofs.Run.Members
import Retrofit.Proofs.Run.Services
import Retrofit.Proofs.Run.Upkeep

/-!
Running again on what a run has left. Where requests are dropped, there are none any more, so that a
second run comes to its passes, and these find nothing to change if their order is kept
(`rerun_quiet_iff`).
-/

namespace Retrofit

/-- No member that a run comes to has any requests. -/
def Module.Unasked (module : Module) : Prop :=
  ∀ member ∈ module.membersAlong module.typesInOrder, module.requests member = .ok []

theorem Module.SameTree.unasked {module after : Module} (same : module.SameTree after)
    (unasked : module.Unasked) : after.Unasked := by
  intro member listed
  rw [same.membersAlong_eq] at listed
  rw [same.requests]
  exact unasked member listed

namespace Patcher

open Edit (Ensures)

variable {config : Config} {passes : List Pass} {module after : Module} {notes left : List ν}
  {report : Report}

/-- Serving a request leaves the tree of members as it is. -/
theorem sameTree_serveRequest {member : MemberId} {request : Request} {noted final : Noted ν Progress}
    (served : (serveRequest (withBuiltIns config passes) member request).apply noted =
      (.ok (), final)) :
    noted.state.workspace.module.SameTree final.state.workspace.module := by
  let start := noted.state.workspace.module
  refine keeps_serveRequest (Rule.indifferent_sameTree start) (fun _ _ held => ?_) served
    (.refl start)
  exact held.trans (Module.sameTree_withMethod _ _ fun _ => rfl)

/-- A run of which some members have no requests any more. The tree of members is as it was. -/
structure Cleared (origin : Module) (served : List MemberId) (noted : Noted ν Progress) : Prop where
  parts : noted.state.workspace.module.types.map TypeDef.parts = origin.types.map TypeDef.parts
  topLevel : noted.state.workspace.module.topLevel = origin.topLevel
  gone : ∀ member ∈ served, noted.state.workspace.module.requests member = .ok []

variable {origin : Module} {served : List MemberId}

theorem Cleared.of_sameTree {noted final : Noted ν Progress} (cleared : Cleared origin served noted)
    (same : noted.state.workspace.module.SameTree final.state.workspace.module) :
    Cleared origin served final where
  parts := same.parts.trans cleared.parts
  topLevel := same.topLevel.trans cleared.topLevel
  gone member listed := (same.requests member).trans (cleared.gone member listed)

theorem Cleared.insert {noted : Noted ν Progress} {member : MemberId}
    (cleared : Cleared origin served noted)
    (gone : noted.state.workspace.module.requests member = .ok []) :
    Cleared origin (served ++ [member]) noted :=
  { cleared with
    gone := fun other listed => by
      rcases List.mem_append.1 listed with listed | listed
      · exact cleared.gone other listed
      · rwa [List.mem_singleton.1 listed] }

theorem cleared_serveRequests (member : MemberId) (requests : List Request) :
    Ensures (fun noted : Noted ν Progress => Cleared origin served noted ∧
        ∃ left, noted.state.workspace.module.requests member = .ok left)
      (requests.forM (serveRequest (withBuiltIns config passes) member))
      fun _ noted => Cleared origin served noted ∧
        ∃ left, noted.state.workspace.module.requests member = .ok left := by
  refine .forM fun request _ => ?_
  refine Edit.ensures_of_eq_ok ?_
  rintro noted ⟨cleared, left, had⟩ _ final ran
  have same := sameTree_serveRequest ran
  exact ⟨cleared.of_sameTree same, left, (same.requests member).trans had⟩

theorem cleared_dropRequests (member : MemberId) :
    Ensures (fun noted : Noted ν Progress => Cleared origin served noted ∧
        ∃ left, noted.state.workspace.module.requests member = .ok left)
      (Step.onModule (Module.dropRequests member))
      fun _ => Cleared origin (served ++ [member]) := by
  rintro ⟨⟨⟨module, ledger⟩, report⟩, notes⟩ ⟨cleared, left, had⟩ _ _
  rw [Step.apply_onModule]
  have dropped := Module.requests_dropRequests module member
  refine ⟨?_, ?_, fun other listed => ?_⟩
  · exact (Module.parts_changeInfo module member _).trans cleared.parts
  · exact (Module.topLevel_changeInfo module member _).trans cleared.topLevel
  · refine (dropped other).trans ?_
    by_cases same : other = member
    · have had : module.requests member = .ok left := had
      rw [same, had]
      simp [Except.map]
    · have listed : other ∈ served := by simpa [same] using listed
      have gone : module.requests other = .ok [] := cleared.gone other listed
      rw [gone]
      simp [Except.map]

theorem cleared_serveMember (drops : config.dropServed = true) (member : MemberId) :
    Ensures (Cleared origin served)
      (serveMember (withBuiltIns config passes : Patcher ν) member)
      fun _ => Cleared origin (served ++ [member]) := by
  refine Step.ensures_module_bind fun noted cleared => .demand_bind fun requests found => ?_
  split
  · refine .bind (.at_state ⟨cleared, requests, found⟩ (cleared_serveRequests member requests))
      fun _ => ?_
    have dropping : (withBuiltIns config passes : Patcher ν).config.dropServed = true := drops
    rw [if_pos dropping]
    exact cleared_dropRequests member
  · next empty =>
    obtain rfl : requests = [] := by simpa using empty
    refine .pure fun state same => ?_
    subst same
    exact cleared.insert found

theorem cleared_serveTypes (drops : config.dropServed = true) (order : List TypeId) :
    Ensures (Cleared origin [])
      (order.forM (serveType (withBuiltIns config passes : Patcher ν)))
      fun _ => Cleared origin (origin.membersAlong order) := by
  have serving : (withBuiltIns config passes : Patcher ν).Serving origin
      (origin.membersAlong order) (Cleared origin) :=
    ⟨fun _ _ cleared => cleared.parts, fun _ member _ => cleared_serveMember drops member⟩
  exact serving.types order (List.prefix_refl _)

/-- Making passes succeeds where they can be made in order, and enters what they report. -/
theorem makePasses_eq_ok {ledger : Ledger} {final : Noted ν Progress} :
    (passes.forM (makePass config)).apply ⟨⟨⟨module, ledger⟩, report⟩, notes⟩ = (.ok (), final) ↔
      ∃ entries after, Pass.Series config passes module entries after ∧
        final = ⟨⟨⟨after, ledger⟩, { report with passes := report.passes ++ entries }⟩, notes⟩ := by
  induction passes generalizing module report with
  | nil =>
    constructor
    · rintro ⟨⟩
      exact ⟨[], module, .nil module, by simp⟩
    · rintro ⟨_, _, ⟨⟩, rfl⟩
      simp [List.forM]
  | cons pass rest ih =>
    have split : (pass :: rest).forM (makePass config) =
        (makePass config pass >>= fun _ => rest.forM (makePass config) : Step ν Unit) := rfl
    rw [split, Edit.bind_eq_ok]
    constructor
    · rintro ⟨_, _, ran, went⟩
      obtain ⟨changed, between, made, rfl⟩ := makePass_eq_ok.1 ran
      obtain ⟨entries, after, series, rfl⟩ := ih.1 went
      exact ⟨_, after, .cons made series, by simp⟩
    · rintro ⟨_, after, series, rfl⟩
      cases series with
      | @cons _ _ _ between _ changed entries made series =>
        refine ⟨(), _, makePass_eq_ok.2 ⟨changed, between, made, rfl⟩, ih.2 ?_⟩
        exact ⟨entries, after, series, by simp⟩

theorem apply_forM_of_idle {items : List ι} {each : ι → Edit σ PUnit} {state : σ}
    (idle : ∀ item ∈ items, (each item).apply state = (.ok ⟨⟩, state)) :
    (items.forM each).apply state = (.ok ⟨⟩, state) := by
  induction items with
  | nil => rfl
  | cons item rest ih =>
    have split : (item :: rest).forM each = (each item >>= fun _ => rest.forM each) := rfl
    rw [split, Edit.apply_bind, idle item List.mem_cons_self]
    exact ih fun other listed => idle other (List.mem_cons_of_mem _ listed)

theorem apply_serveMember_of_unasked (patcher : Patcher ν) {member : MemberId}
    (unasked : module.requests member = .ok []) (ledger : Ledger) :
    (patcher.serveMember member).apply ⟨⟨⟨module, ledger⟩, report⟩, notes⟩ =
      (.ok (), ⟨⟨⟨module, ledger⟩, report⟩, notes⟩) := by
  rw [serveMember, Edit.apply_bind, Step.apply_module]
  dsimp only
  rw [Edit.apply_bind, Edit.apply_demand, unasked]
  rfl

theorem apply_serveType_of_unasked (patcher : Patcher ν) {id : TypeId}
    (unasked : ∀ member ∈ module.membersOf id, module.requests member = .ok [])
    (ledger : Ledger) :
    (patcher.serveType id).apply ⟨⟨⟨module, ledger⟩, report⟩, notes⟩ =
      (.ok (), ⟨⟨⟨module, ledger⟩, report⟩, notes⟩) := by
  have first : module.requests (.type id) = .ok [] := unasked _ List.mem_cons_self
  have members := unasked
  rw [Module.membersOf, Module.fieldsOf, Module.methodsOf] at members
  rw [serveType, Edit.apply_bind, apply_serveMember_of_unasked patcher first]
  dsimp only
  rw [Edit.apply_bind, Step.apply_module]
  dsimp only
  rw [Edit.apply_bind, Edit.apply_demand, Module.typeAt]
  cases listed : module.types[id.index]? with
  | none => simp [Module.requests, Module.info, Module.typeAt, listed, Except.map] at first
  | some type =>
    rw [listed] at members
    dsimp only
    rw [Edit.apply_bind, apply_forM_of_idle fun field present => ?_]
    · refine apply_forM_of_idle fun method present => ?_
      exact apply_serveMember_of_unasked patcher (members _ (by simp [present])) ledger
    · exact apply_serveMember_of_unasked patcher (members _ (by simp [present])) ledger

/-- A run on a module without requests is the series of its passes. -/
theorem run_eq_ok_of_unasked (unasked : module.Unasked) {final : Noted ν Module} :
    (withBuiltIns config passes).run.apply ⟨module, notes⟩ = (.ok report, final) ↔
      ∃ entries after, Pass.Series config passes module entries after ∧
        report = { passes := entries } ∧ final = ⟨after, notes⟩ := by
  have served : (module.typesInOrder.forM (withBuiltIns config passes).serveType).apply
      (⟨⟨⟨module, {}⟩, {}⟩, notes⟩ : Noted ν Progress) = (.ok (), ⟨⟨⟨module, {}⟩, {}⟩, notes⟩) := by
    refine apply_forM_of_idle fun id listed => apply_serveType_of_unasked _ ?_ {}
    exact fun member held => unasked member (List.mem_flatMap.2 ⟨id, listed, held⟩)
  have steps : (withBuiltIns config passes).steps.apply
      (⟨⟨⟨module, {}⟩, {}⟩, notes⟩ : Noted ν Progress) =
        (passes.forM (makePass config)).apply ⟨⟨⟨module, {}⟩, {}⟩, notes⟩ := by
    rw [Patcher.steps, Edit.apply_bind, Step.apply_module]
    dsimp only
    rw [Edit.apply_bind, served]
    rfl
  rw [run_eq_ok]
  simp only [steps, makePasses_eq_ok]
  constructor
  · rintro ⟨_, ⟨entries, after, series, rfl⟩, rfl, rfl⟩
    exact ⟨entries, after, series, rfl, rfl⟩
  · rintro ⟨entries, after, series, rfl, rfl⟩
    exact ⟨_, ⟨entries, after, series, rfl⟩, rfl, rfl⟩

/-- A run ends with the series of its passes, made on a module without requests. -/
theorem exists_series_of_run (drops : config.dropServed = true)
    (succeeds : (withBuiltIns config passes).run.apply ⟨module, notes⟩ =
      (.ok report, ⟨after, left⟩)) :
    ∃ cleared entries, cleared.Unasked ∧ Pass.Series config passes cleared entries after := by
  obtain ⟨done, stepped, _, ended⟩ := run_eq_ok.1 succeeds
  obtain ⟨rfl, _⟩ := Noted.mk.inj ended
  rw [Patcher.steps] at stepped
  obtain ⟨_, _, looked, went⟩ := Edit.bind_eq_ok.1 stepped
  cases looked
  obtain ⟨_, ⟨⟨⟨between, ledger⟩, halfway⟩, _⟩, served, made⟩ := Edit.bind_eq_ok.1 went
  obtain ⟨entries, after, series, rfl⟩ := makePasses_eq_ok.1 made
  have begun : Cleared module [] (⟨⟨⟨module, {}⟩, {}⟩, notes⟩ : Noted ν Progress) :=
    ⟨rfl, rfl, nofun⟩
  have ensured : Ensures (Cleared module [])
      (module.typesInOrder.forM (serveType (withBuiltIns config passes : Patcher ν))) _ :=
    cleared_serveTypes drops module.typesInOrder
  have cleared := ensured.of_eq_ok served begun
  refine ⟨between, entries, fun member listed => ?_, series⟩
  refine cleared.gone member ?_
  rw [Module.typesInOrder_of_parts cleared.parts cleared.topLevel] at listed
  obtain ⟨id, known, held⟩ := List.mem_flatMap.1 listed
  rw [Module.membersOf_of_parts cleared.parts] at held
  exact List.mem_flatMap.2 ⟨id, known, held⟩

theorem unasked_of_series {entries : List (String × Bool)} (unasked : module.Unasked)
    (builtIn : ∀ pass ∈ passes, pass.IsBuiltIn)
    (series : Pass.Series config passes module entries after) : after.Unasked := by
  have same : module.SameTree after := series.keeps
    (fun pass listed => (builtIn pass listed).keepsTree config module) (.refl module)
  exact same.unasked unasked

/-- Running a second time, with passes of different names, succeeds, serves nothing and changes
nothing but references and dependencies; only passes on these can report a change. In the same order
of passes, it changes nothing at all and no pass reports a change, whatever module the first run was
on, exactly if no pass is unsettled by one behind it: the versions are not brought in line before a
reference is replaced, nor behind that if the filter of the replacement judges by versions. -/
theorem rerun_quiet_iff (drops : config.dropServed = true)
    (builtIn : ∀ pass ∈ passes, pass.IsBuiltIn) (distinct : (passes.map Pass.name).Nodup) :
    (∀ (module after : Module) (notes left : List ν) (report : Report),
      (withBuiltIns config passes).run.apply ⟨module, notes⟩ = (.ok report, ⟨after, left⟩) →
        ∃ entries references dependencies,
          (withBuiltIns config passes).run.apply ⟨after, left⟩ =
            (.ok { passes := entries }, ⟨{ after with references, dependencies }, left⟩) ∧
          ∀ entry ∈ entries, entry.2 = true → entry.1 ∈ Pass.onReferences) ∧
    ((∀ (module after : Module) (notes left : List ν) (report : Report),
      (withBuiltIns config passes).run.apply ⟨module, notes⟩ = (.ok report, ⟨after, left⟩) →
        (withBuiltIns config passes).run.apply ⟨after, left⟩ =
          (.ok { passes := Pass.unchanged passes }, ⟨after, left⟩)) ↔ Pass.Orderly passes) := by
  refine ⟨fun module after notes left report succeeds => ?_, fun quiet => ?_, fun orderly => ?_⟩
  · obtain ⟨cleared, _, unasked, series⟩ := exists_series_of_run drops succeeds
    obtain ⟨entries, references, dependencies, again, only⟩ :=
      Pass.exists_series builtIn (series.rests_plain builtIn distinct)
    refine ⟨entries, references, dependencies, ?_, only⟩
    exact (run_eq_ok_of_unasked (unasked_of_series unasked builtIn series)).2 ⟨_, _, again, rfl, rfl⟩
  · by_contra disorderly
    obtain ⟨hash, references, dependencies, entries, after, series, pass, listed, restless⟩ :=
      Pass.exists_series_of_not_orderly builtIn distinct disorderly config
    have unasked (references : List AssemblyRef) :
        (Pass.bare hash references dependencies).Unasked := nofun
    have again := quiet _ _ [] [] _
      ((run_eq_ok_of_unasked (unasked references)).2 ⟨_, _, series, rfl, rfl⟩)
    obtain ⟨_, _, same, told, ended⟩ := (run_eq_ok_of_unasked (unasked after)).1 again
    obtain rfl := congrArg Report.passes told
    exact restless (same.rests_of_unchanged builtIn pass listed)
  · intro module after notes left report succeeds
    obtain ⟨cleared, _, unasked, series⟩ := exists_series_of_run drops succeeds
    have rests := series.rests builtIn distinct orderly
    exact (run_eq_ok_of_unasked (unasked_of_series unasked builtIn series)).2
      ⟨_, _, Pass.series_of_rests rests, rfl, rfl⟩

/-- A module with the given references, of which one is to be replaced by one to a dependency. -/
def outdated (references : List AssemblyRef) (dependencies : List AssemblyRef) : Module :=
  { name := "Game", references, dependencies }

def family : AssemblyRef := { name := "Microsoft.Xna.Framework", version := ⟨4, 0, 0, 0⟩ }

def successor (major : UInt16) : AssemblyRef := { name := "FNA", version := ⟨major, 1, 0, 0⟩ }

/-- The pass that makes the replacement, with another version than that of the dependency. -/
def replacing : Pass := .replaceReferences (.opening "Microsoft.Xna.Framework") (successor 24)

theorem unasked_outdated (references dependencies : List AssemblyRef) :
    (outdated references dependencies).Unasked := nofun

/-- If the replacement is made first, it gets the version of the dependency in the same run, and
nothing is left to do. -/
theorem rerun_quiet_replacing :
    let passes := [replacing, .synchronizeVersions, .formBranches]
    let patcher : Patcher Unit := withBuiltIns {} passes
    let after := outdated [successor 1] [successor 1]
    patcher.run.apply ⟨outdated [family] [family, successor 1], []⟩ =
        (.ok { passes := [("ReplaceAssemblyRefs", true), ("SyncReferenceVersions", true),
          ("FixShortLongOps", false)] }, ⟨after, []⟩) ∧
      patcher.run.apply ⟨after, []⟩ = (.ok { passes := Pass.unchanged passes }, ⟨after, []⟩) := by
  intro passes patcher after
  have builtIn : ∀ pass ∈ passes, pass.IsBuiltIn := by
    simp only [passes, List.forall_mem_cons]
    exact ⟨.replaceReferences _ _, .synchronizeVersions, .formBranches none, List.forall_mem_nil _⟩
  have orderly : Pass.Orderly passes := by
    have blind : ¬ replacing.UnsettledBy .synchronizeVersions := by
      rw [replacing, Pass.unsettledBy_synchronizeVersions]
      intro judges
      obtain ⟨_, custom⟩ := judges.isCustom
      cases custom
    have plain := Pass.name_formBranches none
    simp only [passes, Pass.Orderly, List.pairwise_cons, List.forall_mem_cons]
    exact ⟨⟨blind, fun unsettled => plain unsettled.names.2, List.forall_mem_nil _⟩,
      ⟨fun unsettled => plain unsettled.names.2, List.forall_mem_nil _⟩, List.forall_mem_nil _, .nil⟩
  have one : (replacing.apply {}).apply (outdated [family] [family, successor 1]) =
      (.ok true, outdated [successor 24] [successor 1]) := by cbv
  have two : (Pass.synchronizeVersions.apply {}).apply (outdated [successor 24] [successor 1]) =
      (.ok true, after) := by cbv
  have three : (Pass.formBranches.apply {}).apply after = (.ok false, after) := by cbv
  have first : patcher.run.apply ⟨outdated [family] [family, successor 1], []⟩ = _ :=
    (run_eq_ok_of_unasked (unasked_outdated _ _)).2
      ⟨_, _, .cons one (.cons two (.cons three (.nil after))), rfl, rfl⟩
  exact ⟨first, (rerun_quiet_iff rfl builtIn (by decide)).2.2 orderly _ _ _ _ _ first⟩

/-- If the versions are brought in line first, the replacement keeps its own until the second run,
which then changes it. -/
theorem rerun_changes_replacement :
    let passes := [Pass.synchronizeVersions, replacing]
    let patcher : Patcher Unit := withBuiltIns {} passes
    let after := outdated [successor 24] [successor 1]
    (∀ pass ∈ passes, pass.IsBuiltIn) ∧ (passes.map Pass.name).Nodup ∧
      patcher.run.apply ⟨outdated [family] [family, successor 1], []⟩ =
        (.ok { passes := [("SyncReferenceVersions", false), ("ReplaceAssemblyRefs", true)] },
          ⟨after, []⟩) ∧
      patcher.run.apply ⟨after, []⟩ =
        (.ok { passes := [("SyncReferenceVersions", true), ("ReplaceAssemblyRefs", false)] },
          ⟨outdated [successor 1] [successor 1], []⟩) ∧
      (outdated [successor 1] [successor 1]).references ≠ after.references := by
  intro passes patcher after
  have one : (Pass.synchronizeVersions.apply {}).apply (outdated [family] [family, successor 1]) =
      (.ok false, outdated [family] [family, successor 1]) := by cbv
  have two : (replacing.apply {}).apply (outdated [family] [family, successor 1]) =
      (.ok true, after) := by cbv
  have three : (Pass.synchronizeVersions.apply {}).apply after =
      (.ok true, outdated [successor 1] [successor 1]) := by cbv
  have four : (replacing.apply {}).apply (outdated [successor 1] [successor 1]) =
      (.ok false, outdated [successor 1] [successor 1]) := by cbv
  refine ⟨?_, by decide, ?_, ?_, by decide⟩
  · simp only [passes, List.forall_mem_cons]
    exact ⟨.synchronizeVersions, .replaceReferences _ _, List.forall_mem_nil _⟩
  · exact (run_eq_ok_of_unasked (unasked_outdated _ _)).2
      ⟨_, _, .cons one (.cons two (.nil _)), rfl, rfl⟩
  · exact (run_eq_ok_of_unasked (unasked_outdated _ _)).2
      ⟨_, _, .cons three (.cons four (.nil _)), rfl, rfl⟩

end Patcher
end Retrofit
