import Retrofit.Proofs.Module.Denotation
import Retrofit.Proofs.Run.Fulfilment

/-!
Names after a run, and what becomes of references by them. A run gives the members the names that are
asked for and leaves the references in the code as they are. So a reference goes on to denote its
member exactly if none of the names gets in its way (`denoted?_of_run`).
-/

namespace Retrofit

/-- What the instructions carry beside their opcodes. -/
def Body.operands (body : Body) : List Operand := body.instrs.map Instr.operand

namespace Module

variable {module after later : Module}

/-- Two modules whose bodies have the same operands. -/
def SameOperands (module after : Module) : Prop :=
  ∀ id, (after.bodyOf? id).map Body.operands = (module.bodyOf? id).map Body.operands

theorem SameOperands.refl (module : Module) : module.SameOperands module := fun _ => rfl

theorem SameOperands.trans (first : module.SameOperands after) (second : after.SameOperands later) :
    module.SameOperands later :=
  fun id => (second id).trans (first id)

theorem SameBodies.sameOperands (same : module.SameBodies after) : module.SameOperands after :=
  fun id => congrArg (Option.map Body.operands) (same id)

theorem sameOperands_editBody (module : Module) (edited : MethodId) {edit : Edit Body Nat}
    (kept : ∀ body, (edit.apply body).2.operands = body.operands) :
    module.SameOperands ((editBody edited edit).apply module).2 := by
  intro id
  rw [apply_editBody]
  cases had : module.bodyOf? edited with
  | none => rfl
  | some body =>
    dsimp only
    rw [bodyOf?_withMethod]
    by_cases same : edited = id
    · subst same
      obtain ⟨method, listed, has⟩ := Option.bind_eq_some_iff.1 had
      simp [listed, had, kept]
    · simp only [same, if_false]
      rfl

end Module

namespace Body

theorem operands_lengthened (body : Body) : body.lengthened.operands = body.operands :=
  (alike_lengthened body).operands

theorem operands_formBranches (body : Body) (policy : BranchPolicy) (passes : Nat) :
    ((formBranches policy passes).apply body).2.operands = body.operands := by
  rw [← operands_lengthened, lengthened_formBranches, operands_lengthened]

theorem operands_callHelpers (body : Body) (method : String) :
    ((callHelpers method).apply body).2.operands = body.operands := by
  rw [apply_callHelpers, operands, instrs_mapInstrs, List.map_map]
  refine List.map_congr_left fun instr _ => ?_
  rw [Function.comp_apply, Instr.calledDirectly]
  split <;> rfl

end Body

namespace Pass

theorem IsBuiltIn.keepsNaming {pass : Pass} (builtIn : pass.IsBuiltIn) (config : Config)
    (origin : Module) :
    (pass.apply config).Keeps fun module =>
      module.naming = origin.naming ∧ origin.SameOperands module := by
  have editing (id : MethodId) {edit : Edit Body Nat}
      (kept : ∀ body, (edit.apply body).2.operands = body.operands) :
      (Module.editBody id edit).Keeps fun module =>
        module.naming = origin.naming ∧ origin.SameOperands module := by
    rintro module ⟨naming, operands⟩ _ _
    exact ⟨(module.naming_editBody id edit).trans naming,
      operands.trans (module.sameOperands_editBody id kept)⟩
  refine builtIn.preserves config (fun _ _ _ held => ?beside) (fun id _ => ?calls)
    fun id _ _ => ?forms
  case beside =>
    exact ⟨held.1, held.2.trans (Module.sameBodies_of_methods rfl).sameOperands⟩
  case calls => exact editing id fun body => body.operands_callHelpers _
  case forms => exact editing id fun body => body.operands_formBranches _ _

end Pass

variable {origin : Module} {wishes others : Wishes} {member : MemberId} {request : Request}

theorem Wishes.ForDeclarations.of_append (only : ForDeclarations (wishes ++ others)) :
    wishes.ForDeclarations :=
  only.of_subset fun _ => List.mem_append_left others

/-- The members have the names for which wishes ask, and these are claimed. Where the wishes are for
declarations only, operands are as they were. -/
structure Workspace.Named (origin : Module) (wishes : Wishes) (workspace : Workspace) : Prop where
  naming : workspace.module.naming = (origin.meeting wishes []).naming
  claimed : ∀ member : MemberId,
    workspace.ledger.value? member.text "name" = wishes.newName? member
  operands : wishes.ForDeclarations → origin.SameOperands workspace.module

namespace Workspace.Named

variable {workspace reached : Workspace}

theorem start (origin : Module) : Named origin [] ⟨origin, {}⟩ where
  naming := by rw [Module.meeting_nil]
  claimed _ := rfl
  operands _ := .refl origin

theorem unnamed (named : workspace.Named origin wishes) (other : request.rule ≠ "ForceName")
    (naming : reached.module.naming = workspace.module.naming)
    (claimed : ∀ member : MemberId, reached.ledger.value? member.text "name" =
      workspace.ledger.value? member.text "name")
    (operands : Wishes.ForDeclarations [(member, request)] →
      workspace.module.SameOperands reached.module) :
    reached.Named origin (wishes ++ [(member, request)]) where
  naming := by
    have same := wishes.newName?_concat_of_ne member other
    rw [naming, named.naming, Module.naming_meeting_congr same.symm [] []]
  claimed changed := by
    rw [claimed, named.claimed, wishes.newName?_concat_of_ne member other]
  operands only :=
    (named.operands only.of_append).trans
      (operands (only.of_subset fun _ => List.mem_append_right wishes))

theorem enterAt (named : workspace.Named origin wishes) (enters : request.rule = "MakeEntryPoint")
    (done : (Rule.enterAt ⟨member, request⟩).apply workspace = (.ok (), reached)) :
    reached.Named origin (wishes ++ [(member, request)]) := by
  obtain ⟨module, ledger⟩ := workspace
  obtain ⟨id, rfl, _, rfl⟩ := Rule.enterAt_eq_ok.1 done
  refine named.unnamed (by simp [enters]) rfl (fun changed => ?_) fun _ => .refl module
  rw [Ledger.value?_holding, if_neg (by simp), Option.or_none]

theorem implementInterface (named : workspace.Named origin wishes)
    (implements : request.rule = "PatchInterface")
    (done : (Rule.implementInterface ⟨member, request⟩).apply workspace = (.ok (), reached)) :
    reached.Named origin (wishes ++ [(member, request)]) := by
  obtain ⟨module, ledger⟩ := workspace
  obtain ⟨id, _, rfl, _, rfl⟩ := Rule.implementInterface_eq_ok.1 done
  refine named.unnamed (by simp [implements]) ?_ (fun _ => rfl) fun _ => ?_
  · exact Module.naming_withMethod module id fun _ => rfl
  · refine (Module.sameBodies_withMethod module id ?_).sameOperands
    exact fun _ => rfl

theorem renameTarget (named : workspace.Named origin wishes) (renames : request.rule = "ForceName")
    (done : (Rule.renameTarget ⟨member, request⟩).apply workspace = (.ok (), reached)) :
    reached.Named origin (wishes ++ [(member, request)]) := by
  obtain ⟨module, ledger⟩ := workspace
  obtain ⟨name, _, given, _, agrees, _, rfl⟩ := Rule.renameTarget_eq_ok.1 done
  have asks := Request.newName?_eq_some_iff.2 ⟨renames, given⟩
  have held (member : MemberId) : ledger.value? member.text "name" = wishes.newName? member :=
    named.claimed member
  refine ⟨?_, fun changed => ?_, fun only => ?_⟩
  · dsimp only at agrees
    rw [held] at agrees
    rw [Module.naming_rename_congr named.naming, Module.meeting_name asks agrees]
  · rw [Ledger.value?_holding, held, Wishes.newName?_concat, asks]
    simp only [MemberId.text_inj, and_true]
  · exact (named.operands only.of_append).trans
      (Module.sameBodies_changeInfo module member _).sameOperands

end Workspace.Named

/-- Each request that is served meets its wish for names, and what it does not ask for stays. -/
theorem Patcher.fulfils_named (origin : Module) : Fulfils (Workspace.Named origin) where
  serves {wishes member request workspace reached} named effect := by
    cases effect with
    | enters asks ran => exact named.enterAt asks ran
    | implements asks ran => exact named.implementInterface asks ran
    | renames asks ran => exact named.renameTarget asks ran
    | rewrites other id body =>
      refine named.unnamed (by rintro same; simp [same] at other) ?_ (fun _ => rfl) fun only => ?_
      · exact Module.naming_withMethod _ id fun _ => rfl
      · exact absurd (only _ List.mem_cons_self) other
  drops member named := by
    refine ⟨?_, named.claimed, fun only => ?_⟩
    · refine (Module.naming_changeInfo _ member ?_).trans named.naming
      exact fun _ => rfl
    · exact (named.operands only).trans (Module.sameBodies_changeInfo _ member _).sameOperands

theorem Wishes.newName?_append (wishes others : Wishes) (member : MemberId) :
    newName? (wishes ++ others) member = (wishes.newName? member).or (others.newName? member) :=
  List.findSome?_append

namespace Module

variable {module : Module} {ref : MemberRef}

theorem newName?_attached_of_ne {carrier : MemberId} (apart : carrier ≠ member) :
    Wishes.newName? (module.attached carrier) member = none := by
  rw [Wishes.newName?, List.findSome?_eq_none_iff]
  rintro ⟨_, request⟩ listed
  obtain ⟨rfl, _⟩ := mem_attached.1 listed
  exact if_neg apart

/-- In whatever order members are served, a member gets the name that it asks for itself. -/
theorem newName?_flatMap_attached (order : List MemberId) (member : MemberId) :
    Wishes.newName? (order.flatMap module.attached) member =
      if member ∈ order then Wishes.newName? (module.attached member) member else none := by
  induction order with
  | nil => rfl
  | cons first rest ih =>
    rw [List.flatMap_cons, Wishes.newName?_append, ih]
    by_cases same : first = member
    · subst same
      cases Wishes.newName? (module.attached first) first <;> simp
    · simp [newName?_attached_of_ne same, Ne.symm same]

theorem newName?_of_perm {order : List MemberId} (all : order.Perm module.members) :
    Wishes.newName? (order.flatMap module.attached) = module.wishes.newName? := by
  funext member
  rw [wishes, newName?_flatMap_attached, newName?_flatMap_attached]
  simp only [all.mem_iff]

/-- References see no more of the wishes that are carried out than the names. -/
theorem naming_carriedOut (wishes : Wishes) :
    (module.carriedOut wishes).naming = (module.meeting wishes []).naming := by
  rw [← meeting_eq_carriedOut module wishes fun _ => id]
  exact naming_meeting_congr rfl _ _

/-- A member goes on to answer to a reference if it gets no other name. -/
theorem answers_carriedOut_iff (answers : module.answers ref member = true) (wishes : Wishes) :
    (module.carriedOut wishes).answers ref member = true ↔
      ∀ name, wishes.newName? member = some name → name = ref.name := by
  cases member with
  | type id => cases answers
  | method id =>
    obtain ⟨kind, method, listed, named, signed⟩ : ref.kind = .method ∧
        ∃ method, module.methods[id.index]? = some method ∧ method.name = ref.name ∧
          method.signature = ref.signature := by
      simpa [Module.answers, Option.any_eq_true] using answers
    rw [MethodDef.signature] at signed
    cases asked : wishes.newName? (.method id) with
    | none =>
      simp [Module.answers, carriedOut, withMembers, kind, listed, named, asked,
        MethodDef.signature, ← signed]
    | some name =>
      simp only [Module.answers, carriedOut, withMembers, kind, List.getElem?_mapIdx, listed,
        Option.map_some, Option.any_some, asked, Option.getD_some, MethodDef.signature, ← signed,
        named]
      constructor
      · simp +contextual
      · intro same
        simp [same name rfl]
  | field id =>
    obtain ⟨kind, field, listed, named⟩ : ref.kind = .field ∧
        ∃ field, module.fields[id.index]? = some field ∧ field.name = ref.name := by
      simpa [Module.answers, Option.any_eq_true] using answers
    cases asked : wishes.newName? (.field id) <;>
      simp [Module.answers, carriedOut, withMembers, kind, listed, named, asked]

/-- The names that are asked for spare a reference to a member of a type. Both still go by the names
in the reference, no type in front gets the name of the type, and no member in front gets name and
signature of the member. -/
structure Spares (module : Module) (ref : MemberRef) (owner : TypeId) (member : MemberId) :
    Prop where
  typeKept : (module.carriedOut module.wishes).typeName owner = ref.declaringType
  typesInFront : ∀ other : TypeId, other.index < owner.index →
    (module.carriedOut module.wishes).typeName other ≠ ref.declaringType
  memberKept : ∀ name, module.wishes.newName? member = some name → name = ref.name
  membersInFront : ∀ other ∈ (module.membersOf owner).takeWhile (· ≠ member),
    (module.carriedOut module.wishes).answers ref other = false

end Module

namespace Patcher

variable {config : Config} {passes : List Pass} {module after : Module} {notes left : List ν}
  {report : Report}

/-- What references see after a run are the names that were asked for, at members in their places.
-/
theorem naming_of_run (built : module.Built) (builtIn : ∀ pass ∈ passes, pass.IsBuiltIn)
    (succeeds : (withBuiltIns config passes).run.apply ⟨module, notes⟩ =
      (.ok report, ⟨after, left⟩)) :
    after.naming = (module.carriedOut module.wishes).naming ∧
      after.types.map TypeDef.parts = module.types.map TypeDef.parts ∧
      (module.wishes.ForDeclarations → module.SameOperands after) := by
  obtain ⟨between, ledger, _, order, all, named, parts, series⟩ :=
    (fulfils_named module).run built (.start module) succeeds
  obtain ⟨kept, operands⟩ := series.keeps
    (fun pass listed => (builtIn pass listed).keepsNaming config between) ⟨rfl, .refl between⟩
  have tree : between.SameTree after := series.keeps
    (fun pass listed => (builtIn pass listed).keepsTree config between) (.refl between)
  refine ⟨?_, tree.parts.trans parts, fun only => ?_⟩
  · rw [Module.naming_carriedOut]
    exact kept.trans (named.naming.trans
      (Module.naming_meeting_congr (Module.newName?_of_perm all) [] []))
  · refine .trans (named.operands (only.of_subset fun wish listed => ?_)) operands
    exact (all.flatMap_right _).mem_iff.1 listed

/-- Renaming and references. A run with the built-in rules leaves the operands in bodies as they are,
apart from what requests on bodies ask for, and a reference that denotes a member denotes the same
one afterwards if and only if the names that were asked for spare it. Where no names are asked for
all references denote what they did. -/
theorem denoted?_of_run (built : module.Built) (builtIn : ∀ pass ∈ passes, pass.IsBuiltIn)
    (succeeds : (withBuiltIns config passes).run.apply ⟨module, notes⟩ =
      (.ok report, ⟨after, left⟩)) :
    (∀ ref owner member, module.findType? ref.declaringType = some owner →
      module.denoted? ref = some member →
        (after.denoted? ref = some member ↔ module.Spares ref owner member)) ∧
    ((∀ member, module.wishes.newName? member = none) →
      ∀ ref, after.denoted? ref = module.denoted? ref) ∧
    (module.wishes.ForDeclarations → module.SameOperands after) := by
  obtain ⟨naming, parts, operands⟩ := naming_of_run built builtIn succeeds
  have denotes (ref : MemberRef) :
      after.denoted? ref = (module.carriedOut module.wishes).denoted? ref := by
    rw [← Module.denoted?_naming after, naming, Module.denoted?_naming]
  refine ⟨fun ref owner member found denoted => ?_, fun unasked ref => ?_, operands⟩
  · rw [Module.denoted?, found, Option.bind_some] at denoted
    have answers := List.find?_some denoted
    have parts : (module.carriedOut module.wishes).types.map TypeDef.parts =
        module.types.map TypeDef.parts := Module.parts_withMembers _ _ _
    rw [denotes, built.forest.denoted?_eq_some_iff parts found (List.mem_of_find?_eq_some denoted),
      Module.answers_carriedOut_iff answers]
    constructor
    · rintro ⟨type, types, kept, members⟩
      exact ⟨type, types, kept, members⟩
    · rintro ⟨type, types, kept, members⟩
      exact ⟨type, types, kept, members⟩
  · have none : module.wishes.newName? = Wishes.newName? [] := funext unasked
    rw [denotes, ← Module.denoted?_naming, Module.naming_carriedOut,
      Module.naming_meeting_congr none [] [], Module.meeting_nil, Module.denoted?_naming]

/-- References to the methods in `calling`. -/
def callOpen : MemberRef := .method "Game.Menu" "Open" "System.Void Open()"

def callLoad : MemberRef := .method "Game.Level" "Load" "System.Void Load()"

def callShow : MemberRef := .method "Game.Menu" "Show" "System.Void Show()"

/-- A module with a method that calls itself and two others. One of these is to get another name, and
so is the type of the other one. -/
def calling : Module :=
  let module : Module := ((Module.addType "Game" "Menu").apply { name := "Game" }).2
  let module := ((Module.addMethod ⟨0⟩
    { name := "Open", returnType := "System.Void", declaringType := ⟨0⟩,
      body := some (.ofInstrs [⟨.ret, .none⟩]) }).apply module).2
  let module := ((Module.addMethod ⟨0⟩
    { name := "Show", returnType := "System.Void", declaringType := ⟨0⟩,
      body := some (.ofInstrs [⟨.call, .member callOpen⟩, ⟨.call, .member callLoad⟩,
        ⟨.call, .member callShow⟩, ⟨.ret, .none⟩]) }).apply module).2
  let module := ((Module.addType "Game" "Level").apply module).2
  let module := ((Module.addMethod ⟨1⟩
    { name := "Load", returnType := "System.Void", declaringType := ⟨1⟩,
      body := some (.ofInstrs [⟨.ret, .none⟩]) }).apply module).2
  let module := ((Module.attachRequest (.method ⟨0⟩) (.ofStrings "ForceName" ["Begin"])).apply
    module).2
  ((Module.attachRequest (.type ⟨1⟩) (.ofStrings "ForceName" ["Stage"])).apply module).2

theorem built_calling : calling.Built :=
  .request (.request (.method (.type (.method (.method (.type (.empty "Game") _ _) _ _) _ _) _ _)
    _ _) _ _) _ _

/-- The method goes on to denote itself, and what it calls beside that is lost. -/
theorem denoted?_after_renaming :
    ∃ report after notes,
      (withBuiltIns {} [.formBranches]).run.apply (⟨calling, []⟩ : Noted Unit Module) =
          (.ok report, ⟨after, notes⟩) ∧
        after.denoted? callShow = some (.method ⟨1⟩) ∧
        after.denoted? callOpen ≠ some (.method ⟨0⟩) ∧
        calling.SameOperands after := by
  have succeeds : ((withBuiltIns {} [.formBranches]).run.apply
      (⟨calling, []⟩ : Noted Unit Module)).1.isOk = true := by
    decide +kernel
  have builtIn : ∀ pass ∈ [Pass.formBranches], pass.IsBuiltIn := by
    intro pass listed
    rw [List.mem_singleton.1 listed]
    exact .formBranches none
  have wishes : calling.wishes =
      [(.type ⟨1⟩, .ofStrings "ForceName" ["Stage"]),
        (.method ⟨0⟩, .ofStrings "ForceName" ["Begin"])] := rfl
  have declares : calling.wishes.ForDeclarations := by
    rw [wishes]
    simp [Wishes.ForDeclarations, Request.ofStrings]
  have unasked : calling.wishes.newName? (.method ⟨1⟩) = none := rfl
  have spared : calling.Spares callShow ⟨0⟩ (.method ⟨1⟩) :=
    ⟨by decide +kernel, by simp, by simp [unasked], by decide +kernel⟩
  have struck : ¬ calling.Spares callOpen ⟨0⟩ (.method ⟨0⟩) := fun spares =>
    absurd (spares.memberKept "Begin" rfl) (by decide)
  rcases ran : (withBuiltIns {} [.formBranches]).run.apply (⟨calling, []⟩ : Noted Unit Module) with
    ⟨error | report, ⟨after, notes⟩⟩
  · rw [ran] at succeeds
    cases succeeds
  · obtain ⟨denotes, _, operands⟩ := denoted?_of_run built_calling builtIn ran
    have keeps := denotes callShow ⟨0⟩ (.method ⟨1⟩) (by decide +kernel) (by decide +kernel)
    have loses := denotes callOpen ⟨0⟩ (.method ⟨0⟩) (by decide +kernel) (by decide +kernel)
    exact ⟨report, after, notes, rfl, keeps.2 spared, mt loses.1 struck, operands declares⟩

/-- Both calls had a method that they denoted. After the run they are as they were, and denote
none. -/
theorem undenoted_after_renaming :
    let final := (withBuiltIns {} []).run.apply (⟨calling, []⟩ : Noted Unit Module)
    let after := final.2.state
    final.1.isOk = true ∧
      (after.bodyOf? ⟨1⟩).map Body.operands =
        some [.member callOpen, .member callLoad, .member callShow, .none] ∧
      calling.denoted? callOpen = some (.method ⟨0⟩) ∧ after.denoted? callOpen = none ∧
      calling.denoted? callLoad = some (.method ⟨2⟩) ∧ after.denoted? callLoad = none := by
  decide +kernel

end Patcher
end Retrofit
