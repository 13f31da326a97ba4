import Retrofit.Proofs.Module.Bodies
import Retrofit.Proofs.Pass.BuiltIn
import Retrofit.Proofs.Run.Upkeep

/-!
Operands in a whole run. Whatever rules and passes do to a body, its operands go on to fit their
operations, and a line in which a short branch has become long or a virtual call direct has kept its
operand (`shaped_of_run`).
-/

namespace Retrofit

namespace Module

/-- Every body of a module comes from the one that its method had before. -/
def Develops (module after : Module) : Prop :=
  ∀ id body, after.bodyOf? id = some body →
    ∃ start, module.bodyOf? id = some start ∧ start.Develops body

variable {module after later : Module}

theorem Develops.trans (first : module.Develops after) (second : after.Develops later) :
    module.Develops later := by
  intro id body found
  obtain ⟨between, foundBetween, near⟩ := second id body found
  obtain ⟨start, was, earlier⟩ := first id between foundBetween
  exact ⟨start, was, earlier.trans near⟩

theorem SameBodies.develops (same : module.SameBodies after) : module.Develops after :=
  fun id body found => ⟨body, (same id).symm.trans found, .refl body⟩

theorem Develops.refl (module : Module) : module.Develops module :=
  SameBodies.develops fun _ => rfl

theorem develops_withBody {edited : MethodId} {start body : Body}
    (was : module.bodyOf? edited = some start) (develops : start.Develops body) :
    module.Develops (module.withMethod edited fun method => { method with body := some body }) := by
  intro id found has
  rw [bodyOf?_withMethod] at has
  obtain ⟨method, listed, has⟩ := Option.bind_eq_some_iff.1 has
  split at has
  · next same =>
    obtain rfl : body = found := Option.some.inj has
    exact ⟨start, same ▸ was, develops⟩
  · exact ⟨found, Option.bind_eq_some_iff.2 ⟨method, listed, has⟩, .refl found⟩

theorem develops_editBody (module : Module) (edited : MethodId) {edit : Edit Body Nat}
    (develops : ∀ body : Body, body.Develops (edit.apply body).2) :
    module.Develops ((editBody edited edit).apply module).2 := by
  rw [apply_editBody]
  cases was : module.bodyOf? edited with
  | none => exact .refl module
  | some body => exact develops_withBody was (develops body)

end Module

theorem Rule.indifferent_develops (origin : Module) : Indifferent origin.Develops where
  entryPoint _ held := held
  flags {module} id held := by
    refine held.trans (Module.sameBodies_withMethod module id ?_).develops
    exact fun _ => rfl
  name {module} member _ held := held.trans (Module.sameBodies_changeInfo module member _).develops

theorem Pass.IsBuiltIn.keepsDevelops {pass : Pass} (builtIn : pass.IsBuiltIn) (config : Config)
    (origin : Module) : (pass.apply config).Keeps origin.Develops := by
  refine builtIn.preserves config (fun _ _ _ held => ?beside) (fun id _ module held _ _ => ?calls)
    fun id _ _ module held _ _ => ?forms
  case beside => exact held.trans (Module.sameBodies_of_methods rfl).develops
  case calls => exact held.trans (module.develops_editBody id fun body => body.develops_callHelpers _)
  case forms =>
    exact held.trans (module.develops_editBody id fun body => body.develops_formBranches _ _)

namespace Patcher

variable {config : Config} {passes : List Pass} {module after : Module} {notes left : List ν}
  {report : Report}

theorem keeps_develops (builtIn : ∀ pass ∈ passes, pass.IsBuiltIn) (origin : Module) :
    (withBuiltIns config passes : Patcher ν).Keeps fun _ => origin.Develops where
  serves := keeps_serveRequest (Rule.indifferent_develops origin) fun was came held =>
    held.trans (Module.develops_withBody was came)
  drops member _ module held := held.trans (Module.sameBodies_changeInfo module member _).develops
  makes pass listed _ := (builtIn pass listed).keepsDevelops config origin

/-- Operands keep their shapes through whole runs. Where the operand of every instruction fits its
operation, it does so after a successful run. In a line that is still there then, a short branch that
has come to its long form jumps to the same label and takes three bytes more, and a virtual call that
has become direct takes as many as before. Wherever forms of branches are chosen or helpers of
enumerators repaired, nothing but this happens to any instruction. -/
theorem shaped_of_run (builtIn : ∀ pass ∈ passes, pass.IsBuiltIn)
    (shaped : ∀ id body, module.bodyOf? id = some body → body.Shaped)
    (succeeds : (withBuiltIns config passes).run.apply ⟨module, notes⟩ =
      (.ok report, ⟨after, left⟩)) :
    (∀ id body, after.bodyOf? id = some body → body.Shaped) ∧
    (∀ id start body, module.bodyOf? id = some start → start.WellFormed →
      after.bodyOf? id = some body →
        ∀ old ∈ start.lines.toList, ∀ new ∈ body.lines.toList, new.id = old.id →
          (old.instr.opcode.isShortJump = true →
            new.instr.opcode = old.instr.opcode.lengthened → old.instr.Lengthens new.instr) ∧
          (old.instr.opcode = .callvirt → new.instr.opcode = .call →
            old.instr.Directs new.instr)) ∧
    ∀ body : Body, body.Shaped →
      (∀ policy rounds, body.LineByLine (fun old new => new = old ∨ old.Lengthens new)
        ((Body.formBranches policy rounds).apply body).2) ∧
      ∀ method, body.LineByLine (fun old new => new = old ∨ old.Directs new)
        ((Body.callHelpers method).apply body).2 := by
  have develops : module.Develops after :=
    (keeps_develops builtIn module).run succeeds (.refl module)
  refine ⟨fun id body found => ?_, fun id start body was formed found old wasLine new line same => ?_,
    fun body shaped => ⟨fun policy rounds => ?_, fun method => ?_⟩⟩
  · obtain ⟨start, was, came⟩ := develops id body found
    exact came.shaped (shaped id start was)
  · obtain ⟨other, wasToo, came⟩ := develops id body found
    obtain rfl : start = other := Option.some.inj (was.symm.trans wasToo)
    have became := came.becomes formed wasLine line same
    have fits := shaped id start was _ (List.mem_map_of_mem wasLine)
    exact ⟨became.lengthens fits, became.directs⟩
  · refine (body.lineByLine_formBranches policy rounds).mono_of_shaped shaped ?_
    rintro old new fits (rfl | ⟨short, rfl⟩)
    · exact .inl rfl
    · exact .inr (Instr.lengthens_widened short fits)
  · refine (body.lineByLine_callHelpers method).mono ?_
    rintro old new (rfl | ⟨operand, rfl, rfl⟩)
    · exact .inl rfl
    · exact .inr (Instr.directs_call operand)

/-- A helper of enumerators. -/
def dispose : Operand := .member (.method "T" "System.IDisposable.Dispose" "void Dispose()")

/-- The code of an enumerator that a compiler made: a jump over a placeholder, and a virtual call of
the helper. -/
def disposing : Body :=
  Body.after {} [.newLabel, .append ⟨.brS, .label ⟨0⟩⟩,
    .append ⟨.call, .member (.method "T" "_initblk" "void _initblk()")⟩,
    .append ⟨.callvirt, dispose⟩, .append ⟨.ret, .none⟩, .placeLabel ⟨0⟩ 2]

/-- A module with the enumerator, and a request to substitute the placeholder. -/
def enumerating : Module where
  name := "Lib"
  types :=
    [{ name := "T", space := "", flags := TypeDef.publicFlag, methods := [⟨0⟩],
       interfaces := ["System.Collections.IEnumerator"],
       attributes := [{ type := "System.Runtime.CompilerServices.CompilerGeneratedAttribute" }] }]
  topLevel := [⟨0⟩]
  methods :=
    [{ name := "M", returnType := "void", declaringType := ⟨0⟩, body := some disposing,
       requests := [{ rule := "PatchInitblk" }] }]

theorem shaped_enumerating (id : MethodId) (body : Body) (found : enumerating.bodyOf? id = some body) :
    body.Shaped := by
  obtain ⟨_ | index⟩ := id
  · obtain rfl : disposing = body := Option.some.inj found
    have each : ∀ instr ∈ disposing.instrs, instr.wellShaped = true := by decide +kernel
    exact each
  · cases found

/-- The jump is made long, and the call direct. -/
theorem shaped_after_disposing :
    ∃ report after notes body,
      (withBuiltIns { policy := .allLong } [.repairEnumerators]).run.apply
          (⟨enumerating, []⟩ : Noted Unit Module) = (.ok report, ⟨after, notes⟩) ∧
        after.bodyOf? ⟨0⟩ = some body ∧ body.Shaped ∧
        (∃ jump ∈ body.lines.toList, jump.id = ⟨0⟩ ∧
          Instr.Lengthens ⟨.brS, .label ⟨0⟩⟩ jump.instr) ∧
        ∃ call ∈ body.lines.toList, call.id = ⟨2⟩ ∧
          Instr.Directs ⟨.callvirt, dispose⟩ call.instr := by
  have succeeds : ((withBuiltIns { policy := .allLong } [.repairEnumerators]).run.apply
      (⟨enumerating, []⟩ : Noted Unit Module)).1.isOk = true := by
    decide +kernel
  have left : ((((withBuiltIns { policy := .allLong } [.repairEnumerators]).run.apply
      (⟨enumerating, []⟩ : Noted Unit Module)).2.state.bodyOf? ⟨0⟩).map fun body =>
        body.lines.toList.map fun line => (line.id, line.instr.opcode)) =
        some [(⟨0⟩, .br), (⟨1⟩, .initblk), (⟨2⟩, .call), (⟨3⟩, .ret)] := by
    decide +kernel
  have builtIn : ∀ pass ∈ [Pass.repairEnumerators], pass.IsBuiltIn := by
    intro pass listed
    rw [List.mem_singleton.1 listed]
    exact .repairEnumerators
  have formed : disposing.WellFormed := (Body.Reachable.empty.after _).wellFormed
  rcases ran : (withBuiltIns { policy := .allLong } [.repairEnumerators]).run.apply
      (⟨enumerating, []⟩ : Noted Unit Module) with ⟨error | report, ⟨after, notes⟩⟩
  · rw [ran] at succeeds
    cases succeeds
  · rw [ran] at left
    obtain ⟨body, found, lines⟩ := Option.map_eq_some_iff.1 left
    obtain ⟨shaped, kept, _⟩ := shaped_of_run builtIn shaped_enumerating ran
    have lineOf (entry : InstrId × Opcode)
        (listed : entry ∈ [(⟨0⟩, .br), (⟨1⟩, .initblk), (⟨2⟩, .call), (⟨3⟩, .ret)]) :
        ∃ line ∈ body.lines.toList, (line.id, line.instr.opcode) = entry :=
      List.mem_map.1 (lines ▸ listed)
    obtain ⟨jump, jumpListed, jumps⟩ := lineOf (⟨0⟩, .br) (by decide)
    obtain ⟨call, callListed, calls⟩ := lineOf (⟨2⟩, .call) (by decide)
    obtain ⟨jumpId, long⟩ := Prod.mk.inj jumps
    obtain ⟨callId, direct⟩ := Prod.mk.inj calls
    have lengthens := kept ⟨0⟩ disposing body rfl formed found ⟨⟨0⟩, ⟨.brS, .label ⟨0⟩⟩⟩
      (by decide +kernel) jump jumpListed jumpId
    have directs := kept ⟨0⟩ disposing body rfl formed found ⟨⟨2⟩, ⟨.callvirt, dispose⟩⟩
      (by decide +kernel) call callListed callId
    exact ⟨report, after, notes, body, rfl, found, shaped _ _ found,
      ⟨jump, jumpListed, jumpId, lengthens.1 rfl long⟩,
      call, callListed, callId, directs.2 rfl direct⟩

end Patcher
end Retrofit
