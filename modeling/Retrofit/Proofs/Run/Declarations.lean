import Retrofit.Proofs.Module.Meeting
import Retrofit.Proofs.Module.Tree
import Retrofit.Proofs.Run.Order

/-!
Requests that call for the rules for declarations, one after another. What has been asked for so far
decides whether the next one can be served, and ledger and module hold it at every point of a run
(`Serves`).
-/

namespace Retrofit

open Edit (Decides)

variable {origin : Module} {wishes : Wishes} {emptied : List MemberId} {member : MemberId}
  {request : Request} {id : MethodId} {name : String}

/-- The ledger of a run holds what some wishes ask for. -/
structure Ledger.Holds (ledger : Ledger) (subject : String) (wishes : Wishes) : Prop where
  entryPoint : ledger.value? subject "entry_point" =
    wishes.entryPoint?.map fun id => (MemberId.method id).text
  names : ∀ member : MemberId, ledger.value? member.text "name" = wishes.newName? member

section Ledgers

variable {ledger : Ledger} {subject : String}

theorem Ledger.Holds.implementing (holds : ledger.Holds subject wishes)
    (implements : request.rule = "PatchInterface") :
    ledger.Holds subject (wishes ++ [(member, request)]) where
  entryPoint := by
    rw [Wishes.entryPoint?_concat_of_ne _ _ (by simp [implements])]
    exact holds.entryPoint
  names := by
    rw [Wishes.newName?_concat_of_ne _ _ (by simp [implements])]
    exact holds.names

end Ledgers

/-- A run that has met some wishes. -/
structure Workspace.Met (origin : Module) (wishes : Wishes) (emptied : List MemberId)
    (workspace : Workspace) : Prop where
  module : workspace.module = origin.meeting wishes emptied
  ledger : workspace.ledger.Holds origin.name wishes
  consistent : wishes.Consistent

open Workspace (Met)

namespace Rule

end Rule

namespace Wishes

/-- Wishes that call for the rules for declarations. -/
def ForDeclarations (wishes : Wishes) : Prop :=
  ∀ wish ∈ wishes, wish.2.rule ∈ ["MakeEntryPoint", "PatchInterface", "ForceName"]

theorem ForDeclarations.of_subset {others : Wishes} (only : others.ForDeclarations)
    (within : ∀ wish ∈ wishes, wish ∈ others) : wishes.ForDeclarations :=
  fun wish listed => only wish (within wish listed)

end Wishes

namespace Patcher

/-- A run that has met some wishes, and has taken the requests away from some members. -/
def Meets (origin : Module) (wishes : Wishes) (emptied : List MemberId)
    (noted : Noted ν Progress) : Prop :=
  Met origin wishes emptied noted.state.workspace

variable {config : Config} {passes : List Pass}

/-- The step serves some members. Where they have not been served before, it is decided by what is
attached to them. -/
def Serves (origin : Module) (members : List MemberId) (step : Step ν Unit) : Prop :=
  ∀ wishes emptied, (emptied ++ members).Nodup →
    Decides (Meets origin wishes emptied)
      (Wishes.Consistent (wishes ++ members.flatMap origin.attached)) step
      fun _ => Meets origin (wishes ++ members.flatMap origin.attached) (emptied ++ members)

theorem Serves.none : Serves origin [] (pure () : Step ν Unit) := by
  intro wishes emptied _
  rw [List.flatMap_nil, List.append_nil, List.append_nil]
  exact .pure (fun _ meets => meets.consistent) fun _ meets => meets

theorem Serves.bind {members others : List MemberId} {step : Step ν Unit}
    {next : Unit → Step ν Unit} (first : Serves origin members step)
    (rest : ∀ value, Serves origin others (next value)) :
    Serves origin (members ++ others) (step >>= next) := by
  intro wishes emptied fresh
  rw [List.flatMap_append, ← List.append_assoc, ← List.append_assoc]
  rw [← List.append_assoc] at fresh
  have before := first wishes emptied (List.nodup_append.1 fresh).1
  exact before.bind (fun value => rest value _ _ fresh) .of_append

theorem Serves.forM {members : ι → List MemberId} {items : List ι} {each : ι → Step ν PUnit}
    (serves : ∀ item ∈ items, Serves origin (members item) (each item)) :
    Serves origin (items.flatMap members) (items.forM each) := by
  induction items with
  | nil => exact .none
  | cons item rest ih =>
    have later := ih fun other listed => serves other (List.mem_cons_of_mem _ listed)
    rw [List.flatMap_cons]
    exact (serves item List.mem_cons_self).bind fun _ => later

end Patcher

end Retrofit
