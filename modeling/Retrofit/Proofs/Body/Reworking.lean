import Mathlib.Data.List.Forall2
import Mathlib.Logic.Relation
import Retrofit.Proofs.Body.DirectCalls
import Retrofit.Proofs.Pass.Encodable

/-!
How instructions change in their lines. Whatever a line goes through, an operand that fits its
operation goes on to fit, and where a short branch has become long or a virtual call direct, the
operand is the one that it was.
-/

namespace Retrofit

theorem Opcode.size_lengthened (opcode : Opcode) : opcode.lengthened.size = opcode.size := by
  cases opcode <;> rfl

theorem Opcode.isJump_lengthened (opcode : Opcode) : opcode.lengthened.isJump = opcode.isJump := by
  cases opcode <;> rfl

theorem Opcode.operandShape_lengthened {opcode : Opcode} (short : opcode.isShortJump = true) :
    opcode.lengthened.operandShape = .branch := by
  revert short
  cases opcode <;> decide

theorem Opcode.operandShape_of_short {opcode : Opcode} (short : opcode.isShortJump = true) :
    opcode.operandShape = .shortBranch := by
  simpa [isShortJump] using short

namespace Instr

/-- One change of an instruction in its line. The first two are made without a check of the operand.
-/
inductive Rework : Instr → Instr → Prop where
  | widen {instr : Instr} (short : instr.opcode.isShortJump = true) : Rework instr instr.widened
  | callDirectly (operand : Operand) : Rework ⟨.callvirt, operand⟩ ⟨.call, operand⟩
  | substitute {old : Instr} {opcode : Opcode} (calls : old.opcode = .call)
      (formed : (⟨opcode, .none⟩ : Instr).wellShaped = true) : Rework old ⟨opcode, .none⟩
  | turn {old new : Instr} (skips : old.opcode.lengthened = .bleUn)
      (admits : new.opcode.lengthened = .bgt) (formed : new.wellShaped = true) : Rework old new
  | reload {old new : Instr} (loaded : old.opcode = .ldfld) (loads : new.opcode = .ldfld)
      (formed : new.wellShaped = true) : Rework old new

/-- Any number of changes one after the other. -/
abbrev Becomes : Instr → Instr → Prop := Relation.ReflTransGen Rework

variable {instr old new : Instr}

theorem Rework.wellShaped (reworked : Rework old new) (formed : old.wellShaped = true) :
    new.wellShaped = true := by
  cases reworked with
  | widen => exact (Operand.fits_lengthened old.operand old.opcode).trans formed
  | callDirectly => exact formed
  | substitute _ formed => exact formed
  | turn _ _ formed => exact formed
  | reload _ _ formed => exact formed

theorem Becomes.wellShaped (became : old.Becomes new) (formed : old.wellShaped = true) :
    new.wellShaped = true := by
  induction became with
  | refl => exact formed
  | tail _ step ih => exact step.wellShaped ih

theorem Rework.of_jump (reworked : Rework old new) (jumps : old.opcode.isJump = true) :
    old.opcode.isShortJump = true ∧ new = old.widened ∨
      old.opcode.lengthened = .bleUn ∧ new.opcode.lengthened = .bgt := by
  cases reworked with
  | widen short => exact .inl ⟨short, rfl⟩
  | callDirectly => cases jumps
  | substitute calls =>
    rw [calls] at jumps
    cases jumps
  | turn skips admits => exact .inr ⟨skips, admits⟩
  | reload loaded =>
    rw [loaded] at jumps
    cases jumps

/-- Where a short branch can get to: it stays, it becomes long, or it is turned around. -/
theorem Becomes.of_short (became : old.Becomes new) (short : old.opcode.isShortJump = true) :
    new = old ∨ new = old.widened ∨
      old.opcode.lengthened = .bleUn ∧ new.opcode.lengthened = .bgt := by
  have jumps : old.opcode.isJump = true := by
    rw [Opcode.isJump, Opcode.operandShape_of_short short]
  induction became with
  | refl => exact .inl rfl
  | @tail between new _ step ih =>
    rcases ih with rfl | rfl | ⟨skips, admits⟩
    · rcases step.of_jump jumps with ⟨_, rfl⟩ | turned
      · exact .inr (.inl rfl)
      · exact .inr (.inr turned)
    · have still : old.widened.opcode.isJump = true := by
        rwa [widened, Opcode.isJump_lengthened]
      rcases step.of_jump still with ⟨again, _⟩ | ⟨skips, admits⟩
      · rw [widened, Opcode.lengthened_not_short] at again
        cases again
      · rw [widened, Opcode.lengthened_lengthened] at skips
        exact .inr (.inr ⟨skips, admits⟩)
    · have still : between.opcode.isJump = true := by
        rw [← Opcode.isJump_lengthened, admits]
        rfl
      rcases step.of_jump still with ⟨_, rfl⟩ | ⟨turned, _⟩
      · rw [widened, Opcode.lengthened_lengthened]
        exact .inr (.inr ⟨skips, admits⟩)
      · cases admits.symm.trans turned

theorem Rework.operandShape_ne (reworked : Rework old new) : old.opcode.operandShape ≠ .none := by
  cases reworked with
  | widen short => simp [Opcode.operandShape_of_short short]
  | callDirectly => exact nofun
  | substitute calls =>
    rw [calls]
    decide
  | turn skips =>
    intro bare
    have jumps : old.opcode.isJump = true := by
      rw [← Opcode.isJump_lengthened, skips]
      rfl
    rw [Opcode.isJump, bare] at jumps
    cases jumps
  | reload loaded =>
    rw [loaded]
    decide

theorem operandShape_of_bare {opcode : Opcode}
    (formed : (⟨opcode, .none⟩ : Instr).wellShaped = true) : opcode.operandShape = .none := by
  rw [wellShaped] at formed
  cases shape : opcode.operandShape <;> simp_all [Operand.fits]

/-- Where a virtual call can get to: it stays, it becomes direct, or gives way to an operation
without operand. -/
theorem Becomes.of_callvirt {operand : Operand} (became : Becomes ⟨.callvirt, operand⟩ new) :
    new = ⟨.callvirt, operand⟩ ∨ new = ⟨.call, operand⟩ ∨ new.opcode.operandShape = .none := by
  induction became with
  | refl => exact .inl rfl
  | @tail between new _ step ih =>
    rcases ih with rfl | rfl | bare
    · cases step with
      | widen short => cases short
      | callDirectly => exact .inr (.inl rfl)
      | substitute calls => cases calls
      | turn skips => cases skips
      | reload loaded => cases loaded
    · cases step with
      | widen short => cases short
      | substitute _ formed => exact .inr (.inr (operandShape_of_bare formed))
      | turn skips => cases skips
      | reload loaded => cases loaded
    · exact absurd bare step.operandShape_ne

/-- A short branch that is made long. It jumps to the same label as before, and takes three bytes
more. -/
structure Lengthens (old new : Instr) : Prop where
  short : old.opcode.isShortJump = true
  opcode : new.opcode = old.opcode.lengthened
  operand : new.operand = old.operand
  label : ∃ target, new.operand = .label target
  size : new.size = old.size + 3

/-- A virtual call that is made direct. It calls the same method as before, and takes as many bytes.
-/
structure Directs (old new : Instr) : Prop where
  virtual : old.opcode = .callvirt
  opcode : new.opcode = .call
  operand : new.operand = old.operand
  size : new.size = old.size

theorem lengthens_widened (short : instr.opcode.isShortJump = true)
    (formed : instr.wellShaped = true) : instr.Lengthens instr.widened := by
  obtain ⟨opcode, operand⟩ := instr
  obtain ⟨target, rfl⟩ : ∃ target, operand = .label target := by
    rw [wellShaped, Opcode.operandShape_of_short short] at formed
    cases operand with
    | label target => exact ⟨target, rfl⟩
    | _ => cases formed
  refine ⟨short, rfl, rfl, ⟨target, rfl⟩, ?_⟩
  simp only [size, widened, Opcode.size_lengthened, Opcode.operandShape_lengthened short,
    Opcode.operandShape_of_short short, OperandShape.size]

theorem directs_call (operand : Operand) : Directs ⟨.callvirt, operand⟩ ⟨.call, operand⟩ :=
  ⟨rfl, rfl, rfl, Cursor.size_callDirectly operand⟩

/-- A short branch that has come to its long form was made long, and nothing else. -/
theorem Becomes.lengthens (became : old.Becomes new) (formed : old.wellShaped = true)
    (short : old.opcode.isShortJump = true) (long : new.opcode = old.opcode.lengthened) :
    old.Lengthens new := by
  rcases became.of_short short with rfl | rfl | ⟨skips, admits⟩
  · have still := Opcode.lengthened_not_short new.opcode
    rw [← long, short] at still
    cases still
  · exact lengthens_widened short formed
  · rw [long, Opcode.lengthened_lengthened, skips] at admits
    cases admits

/-- A virtual call that has come to be a direct one was made direct, and nothing else. -/
theorem Becomes.directs (became : old.Becomes new) (virtual : old.opcode = .callvirt)
    (direct : new.opcode = .call) : old.Directs new := by
  obtain ⟨_, operand⟩ := old
  subst virtual
  rcases became.of_callvirt with rfl | rfl | bare
  · cases direct
  · exact directs_call operand
  · rw [direct] at bare
    cases bare

end Instr

private theorem forall₂_trans {first second joint : α → α → Prop} {items middle others : List α}
    (joins : ∀ {one two three}, first one two → second two three → joint one three)
    (related : List.Forall₂ first items middle) (relatedToo : List.Forall₂ second middle others) :
    List.Forall₂ joint items others := by
  induction related generalizing others with
  | nil =>
    cases relatedToo
    exact .nil
  | cons head _ ih =>
    cases relatedToo with
    | cons headToo tail => exact .cons (joins head headToo) (ih tail)

private theorem forall₂_modify {related : α → α → Prop} {change : α → α} (items : List α)
    (index : Nat) (keeps : ∀ item, related item item)
    (changes : ∀ item, items[index]? = some item → related item (change item)) :
    List.Forall₂ related items (items.modify index change) := by
  induction items generalizing index with
  | nil => cases index <;> exact .nil
  | cons first rest ih =>
    cases index with
    | zero => exact .cons (changes first rfl) (List.forall₂_same.2 fun item _ => keeps item)
    | succ index =>
      rw [List.modify_succ_cons]
      exact .cons (keeps first) (ih index changes)

private theorem exists_of_forall₂ {related : α → β → Prop} {items : List α} {others : List β}
    (all : List.Forall₂ related items others) {other : β} (listed : other ∈ others) :
    ∃ item ∈ items, related item other := by
  induction all with
  | nil => cases listed
  | cons head _ ih =>
    rcases List.mem_cons.1 listed with rfl | later
    · exact ⟨_, List.mem_cons_self, head⟩
    · obtain ⟨item, found, held⟩ := ih later
      exact ⟨item, List.mem_cons_of_mem _ found, held⟩

namespace Body

/-- Every operand fits its operation. -/
def Shaped (body : Body) : Prop := ∀ instr ∈ body.instrs, instr.wellShaped = true

/-- Two bodies with the same lines, whose instructions are related one by one. -/
def LineByLine (related : Instr → Instr → Prop) (body after : Body) : Prop :=
  List.Forall₂ (fun old new => new.id = old.id ∧ related old.instr new.instr) body.lines.toList
    after.lines.toList

variable {start body between after : Body} {related weaker : Instr → Instr → Prop} {index : Nat}

namespace LineByLine

theorem refl (keeps : ∀ instr, related instr instr) (body : Body) : body.LineByLine related body :=
  List.forall₂_same.2 fun line _ => ⟨rfl, keeps line.instr⟩

theorem trans
    (joins : ∀ {old middle new}, related old middle → related middle new → related old new)
    (first : body.LineByLine related between) (second : between.LineByLine related after) :
    body.LineByLine related after :=
  forall₂_trans (fun ⟨one, earlier⟩ ⟨two, later⟩ => ⟨two.trans one, joins earlier later⟩) first second

theorem mono (implies : ∀ old new, related old new → weaker old new)
    (same : body.LineByLine related after) : body.LineByLine weaker after :=
  same.imp fun _ _ ⟨line, held⟩ => ⟨line, implies _ _ held⟩

theorem mono_of_shaped (shaped : body.Shaped)
    (implies : ∀ old new, old.wellShaped = true → related old new → weaker old new)
    (same : body.LineByLine related after) : body.LineByLine weaker after := by
  have formed : ∀ line ∈ body.lines.toList, line.instr.wellShaped = true :=
    fun line listed => shaped _ (List.mem_map_of_mem listed)
  exact ((List.forall₂_and_left _ _).2 ⟨formed, same⟩).imp
    fun _ _ ⟨fits, line, held⟩ => ⟨line, implies _ _ fits held⟩

end LineByLine

/-- A branch that may have become long. -/
def MayWiden (old new : Instr) : Prop :=
  new = old ∨ old.opcode.isShortJump = true ∧ new = old.widened

theorem lineByLine_widenedAt (body : Body) (chosen : Line × Nat → Bool) :
    body.LineByLine MayWiden (body.widenedAt chosen) := by
  have listed : body.lines.toList = body.layout.toList.map Prod.fst := by
    rw [toList_layout, map_fst_layoutFrom]
  rw [LineByLine, widenedAt, Array.toList_map, listed, List.forall₂_map_left_iff,
    List.forall₂_map_right_iff, List.forall₂_same]
  rintro ⟨line, offset⟩ _
  dsimp only
  split
  · refine ⟨rfl, ?_⟩
    cases short : line.instr.opcode.isShortJump with
    | true => exact .inr ⟨short, rfl⟩
    | false => exact .inl (Instr.widened_of_not_short short)
  · exact ⟨rfl, .inl rfl⟩

theorem MayWiden.trans {old middle new : Instr} (first : MayWiden old middle)
    (second : MayWiden middle new) : MayWiden old new := by
  rcases first with rfl | ⟨short, rfl⟩
  · exact second
  · refine .inr ⟨short, ?_⟩
    rcases second with rfl | ⟨again, rfl⟩
    · rfl
    · exact Instr.widened_widened old

theorem lineByLine_widenFrom (body : Body) (targets : Targets) (limit passes count : Nat) :
    body.LineByLine MayWiden ((widenFrom targets limit passes count).apply body).2 := by
  induction passes generalizing body count with
  | zero => exact .refl (fun _ => .inl rfl) body
  | succ passes ih =>
    rw [widenFrom, Edit.apply_bind]
    simp only [Edit.apply_get]
    split
    · exact .refl (fun _ => .inl rfl) body
    · rw [Edit.apply_bind]
      exact (lineByLine_widenedAt body _).trans MayWiden.trans (ih _ _)

theorem lineByLine_formBranches (body : Body) (policy : BranchPolicy) (passes : Nat) :
    body.LineByLine MayWiden ((formBranches policy passes).apply body).2 := by
  cases policy with
  | allLong => exact lineByLine_widenedAt body _
  | fitting =>
    rw [formBranches, apply_widenAsNeeded]
    exact lineByLine_widenFrom body body.targets passes passes 0

/-- A virtual call that may have become direct. -/
def MayCallDirectly (old new : Instr) : Prop :=
  new = old ∨ ∃ operand, old = ⟨.callvirt, operand⟩ ∧ new = ⟨.call, operand⟩

/-- Repairing makes some virtual calls direct. -/
theorem lineByLine_callHelpers (body : Body) (method : String) :
    body.LineByLine MayCallDirectly ((callHelpers method).apply body).2 := by
  rw [apply_callHelpers, LineByLine, mapInstrs, Array.toList_map, List.forall₂_map_right_iff,
    List.forall₂_same]
  rintro ⟨id, opcode, operand⟩ _
  refine ⟨rfl, ?_⟩
  rw [Instr.calledDirectly]
  split
  · next helper =>
    obtain rfl : opcode = .callvirt := of_decide_eq_true (Bool.and_eq_true_iff.1 helper).1
    exact .inr ⟨operand, rfl, rfl⟩
  · exact .inl rfl

/-- A body as work on it has left it, and the body before. Lines that were there go back to the line
of their identity, and operands that fitted still do. -/
structure Develops (start body : Body) : Prop where
  shaped : start.Shaped → body.Shaped
  nextId_le : start.nextId ≤ body.nextId
  lines : ∀ new ∈ body.lines.toList, new.id.index < start.nextId →
    ∃ old ∈ start.lines.toList, old.id = new.id ∧ old.instr.Becomes new.instr

namespace Develops

theorem refl (body : Body) : body.Develops body where
  shaped shaped := shaped
  nextId_le := Nat.le_refl _
  lines line listed _ := ⟨line, listed, rfl, .refl⟩

theorem trans (first : start.Develops body) (second : body.Develops after) :
    start.Develops after where
  shaped shaped := second.shaped (first.shaped shaped)
  nextId_le := Nat.le_trans first.nextId_le second.nextId_le
  lines new listed known := by
    obtain ⟨middle, held, same, later⟩ :=
      second.lines new listed (Nat.lt_of_lt_of_le known first.nextId_le)
    obtain ⟨old, was, sameToo, earlier⟩ := first.lines middle held (same ▸ known)
    exact ⟨old, was, sameToo.trans same, earlier.trans later⟩

theorem of_lines (lines : after.lines = body.lines) (nextId : after.nextId = body.nextId) :
    body.Develops after where
  shaped shaped := by
    rw [Shaped, instrs, lines]
    exact shaped
  nextId_le := nextId.ge
  lines line listed _ := ⟨line, lines ▸ listed, rfl, .refl⟩

theorem of_lineByLine (same : body.LineByLine Instr.Becomes after)
    (nextId_le : body.nextId ≤ after.nextId) : body.Develops after where
  shaped shaped instr listed := by
    obtain ⟨new, held, rfl⟩ := List.mem_map.1 listed
    obtain ⟨old, was, _, became⟩ := exists_of_forall₂ same held
    exact became.wellShaped (shaped _ (List.mem_map_of_mem was))
  nextId_le
  lines new listed _ := by
    obtain ⟨old, was, line, became⟩ := exists_of_forall₂ same listed
    exact ⟨old, was, line.symm, became⟩

end Develops

theorem develops_inserted (body : Body) (index : Nat) {instr : Instr}
    (formed : instr.wellShaped = true) : body.Develops (body.inserted index instr) where
  shaped shaped other listed := by
    rw [instrs_inserted] at listed
    rcases List.eq_or_mem_of_mem_insertIdx listed with rfl | old
    · exact formed
    · exact shaped other old
  nextId_le := Nat.le_succ _
  lines line listed known := by
    rw [lines_inserted] at listed
    rcases List.eq_or_mem_of_mem_insertIdx listed with rfl | old
    · exact absurd known (Nat.lt_irrefl _)
    · exact ⟨line, old, rfl, .refl⟩

theorem develops_erased (body : Body) (index : Nat) : body.Develops (body.erased index) where
  shaped shaped instr listed := by
    rw [instrs_erased] at listed
    exact shaped instr (List.mem_of_mem_eraseIdx listed)
  nextId_le := (nextId_erased body index).ge
  lines line listed _ := by
    rw [lines_erased] at listed
    exact ⟨line, List.mem_of_mem_eraseIdx listed, rfl, .refl⟩

theorem develops_changeAt {change : Instr → Instr}
    (reworks : ∀ instr, body.instrAt? index = some instr → instr.Rework (change instr)) :
    body.Develops (body.changeAt index change) := by
  refine .of_lineByLine ?_ (Nat.le_refl _)
  rw [LineByLine, changeAt, Array.toList_modify]
  refine forall₂_modify _ _ (fun _ => ⟨rfl, .refl⟩) fun line here => ⟨rfl, .single ?_⟩
  refine reworks line.instr ?_
  rw [instrAt?, ← Array.getElem?_toList, here]
  rfl

theorem develops_formBranches (body : Body) (policy : BranchPolicy) (passes : Nat) :
    body.Develops ((formBranches policy passes).apply body).2 := by
  refine .of_lineByLine ((lineByLine_formBranches body policy passes).mono ?_) ?_
  · rintro old new (rfl | ⟨short, rfl⟩)
    · exact .refl
    · exact .single (.widen short)
  · have changes : Changes (fun _ => True) true body _ := changes_formBranches body policy passes
    exact changes.nextId_le

theorem develops_finish (body : Body) (method : String) (policy : BranchPolicy) (passes : Nat) :
    body.Develops ((finish method policy passes).apply body).2 := by
  rw [apply_finish]
  split
  · exact develops_formBranches body policy passes
  · exact .refl body

theorem develops_callHelpers (body : Body) (method : String) :
    body.Develops ((callHelpers method).apply body).2 := by
  refine .of_lineByLine ((lineByLine_callHelpers body method).mono ?_) ?_
  · rintro old new (rfl | ⟨operand, rfl, rfl⟩)
    · exact .refl
    · exact .single (.callDirectly operand)
  · rw [apply_callHelpers]
    exact Nat.le_refl _

/-- A line that is still there was there before, and goes back to one line only. -/
theorem Develops.becomes (develops : start.Develops body) (formed : start.WellFormed)
    {old new : Line} (was : old ∈ start.lines.toList) (listed : new ∈ body.lines.toList)
    (same : new.id = old.id) : old.instr.Becomes new.instr := by
  have known : new.id.index < start.nextId := same ▸ formed.issued _ (List.mem_map_of_mem was)
  obtain ⟨other, wasToo, sameToo, became⟩ := develops.lines new listed known
  have one : other = old :=
    List.inj_on_of_nodup_map formed.distinct wasToo was (sameToo.trans same)
  exact one ▸ became

end Body
end Retrofit
