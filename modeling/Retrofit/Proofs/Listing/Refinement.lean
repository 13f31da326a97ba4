import Mathlib
import Retrofit.Proofs.Body.Reform
import Retrofit.Proofs.Listing.Basic
import Retrofit.Proofs.Reachable

/-!
The text that a body stands for changes only by edits of text. Each operation is taken down as the
edits for which it stands, and running the edits on the text is running the operations on the body
(`listing_after_edits`).
-/

namespace Retrofit

namespace Body

/-- Putting a label to an index, where the body has both. -/
def marking (body : Body) (label : LabelId) (index : Nat) : List Listing.Edit :=
  if label.index < body.labels.size ∧ index ≤ body.length then [.mark label index] else []

/-- Erasing the line at an index, where nothing keeps it. -/
def erasing (body : Body) (index : Nat) (moveBounds : Bool) : List Listing.Edit :=
  if body.lines[index]?.any fun line => (body.obstacle? index moveBounds line.id).isNone then
    [.erase index]
  else []

/-- What an operation does to the text of a body. -/
def Op.journal (op : Op) (body : Body) : List Listing.Edit :=
  match op with
  | .append instr => [.insertBehind body.length ⟨⟨body.nextId⟩, instr⟩]
  | .insertIdx index instr =>
    if index < body.length then [.insertFront index ⟨⟨body.nextId⟩, instr⟩]
    else if index = body.length then [.insertBehind index ⟨⟨body.nextId⟩, instr⟩]
    else []
  | .eraseIdx index moveBounds _ => body.erasing index moveBounds
  | .write index instr => [.rewrite (body.instrs.set index instr)]
  | .newLabel => []
  | .attachLabel label id => ((body.indexOf? id).map (body.marking label)).getD []
  | .placeLabel label index => body.marking label index
  | .moveLabels source target => if body.contains target then [.transfer source target] else []
  | .widenAll | .widenAsNeeded _ | .finish _ _ _ => [.rewrite (op.after body).instrs]

variable {body : Body} {index : Nat}

theorem listing_eraseIdx (formed : body.WellFormed) (index : Nat) (moveBounds : Bool)
    (method : String) :
    ((eraseIdx index moveBounds method).apply body).2.listing =
      (body.erasing index moveBounds).foldl Listing.edited body.listing := by
  rw [apply_eraseIdx, erasing]
  cases found : body.lines[index]? with
  | none => rfl
  | some line =>
    cases free : body.obstacle? index moveBounds line.id with
    | none => simpa [free] using listing_erased formed (idAt?_of_line found)
    | some obstacle => simp [free]

theorem listing_placeLabel (formed : body.WellFormed) (label : LabelId) (index : Nat) :
    ((placeLabel label index).apply body).2.listing =
      (body.marking label index).foldl Listing.edited body.listing := by
  rw [apply_placeLabel, marking]
  by_cases outside : body.length < index
  · rw [if_pos outside, if_neg (by omega)]
    rfl
  · rw [if_neg outside, apply_setPlace]
    by_cases known : label.index < body.labels.size
    · rw [if_neg (by omega), if_pos (by omega)]
      exact listing_placed formed known index
    · rw [if_pos (by omega), if_neg (by omega)]
      rfl

theorem listing_moveLabels (formed : body.WellFormed) (source target : InstrId) :
    ((moveLabels source target).apply body).2.listing =
      (if body.contains target then [.transfer source target] else []).foldl Listing.edited
        body.listing := by
  rw [apply_moveLabels]
  split
  · exact listing_labelsMoved formed source target
  · rfl

theorem listing_withLabel (body : Body) : body.withLabel.listing = body.listing := by
  have sets (place : LabelPlace) (placed : place ≠ .unplaced) :
      body.withLabel.labelsOn place = body.labelsOn place := by
    ext label
    rw [mem_labelsOn, mem_labelsOn, placeOf?_withLabel]
    split
    · next new =>
      have unknown : body.placeOf? label = none := by simp [placeOf?, new]
      simp [unknown, placed.symm]
    · rfl
  apply Listing.ext
  · show body.lines.toList.map _ = _
    refine List.map_congr_left fun line _ => ?_
    rw [entry, sets (.line line.id) (by simp)]
    rfl
  · exact sets .atEnd (by simp)

theorem listing_insertIdx (formed : body.WellFormed) (index : Nat) (instr : Instr) :
    (Op.after (.insertIdx index instr) body).listing =
      (Op.journal (.insertIdx index instr) body).foldl Listing.edited body.listing := by
  rw [Op.after, Op.perform, Edit.apply_discard, apply_insertIdx, Op.journal]
  by_cases inside : index < body.length
  · rw [if_neg (by omega), if_pos inside]
    exact listing_inserted formed instr inside
  · rw [if_neg inside]
    split
    · rw [if_neg (by omega)]
      rfl
    · have last : index = body.length := by omega
      subst last
      rw [if_pos rfl]
      exact listing_appended formed instr

theorem listing_attachLabel (formed : body.WellFormed) (label : LabelId) (id : InstrId) :
    ((attachLabel label id).apply body).2.listing =
      (Op.journal (.attachLabel label id) body).foldl Listing.edited body.listing := by
  rw [apply_attachLabel, Op.journal]
  cases listed : body.indexOf? id with
  | none =>
    have absent : body.contains id = false := by rw [← indexOf?_isSome, listed]; rfl
    rw [absent]
    rfl
  | some index =>
    have here := idAt?_of_indexOf? listed
    have inside := Nat.le_of_lt (lt_of_idAt? here)
    rw [if_pos (contains_iff.2 (mem_ids_of_indexOf? listed))]
    have placing := listing_placeLabel formed label index
    rw [apply_placeLabel, if_neg (Nat.not_lt.2 inside), here] at placing
    exact placing

/-- Choosing forms of branches rewrites instructions and nothing else. -/
theorem listing_of_alike {after : Body} (alike : body.Alike after) :
    after.listing = body.listing.edited (.rewrite after.instrs) :=
  listing_rewritten alike.ids alike.labels

/-- Every operation edits the text as it is taken down. -/
theorem Op.listing_after (op : Op) (formed : body.WellFormed) :
    (op.after body).listing = (op.journal body).foldl Listing.edited body.listing := by
  cases op with
  | append instr => exact listing_appended formed instr
  | insertIdx index instr => exact listing_insertIdx formed index instr
  | eraseIdx index moveBounds method =>
    rw [after, perform, Edit.apply_discard]
    exact listing_eraseIdx formed index moveBounds method
  | write index instr =>
    rw [journal, List.set_eq_modify, ← instrs_changeAt]
    exact listing_rewritten (ids_changeAt body index _) rfl
  | newLabel => exact listing_withLabel body
  | attachLabel label id => exact listing_attachLabel formed label id
  | placeLabel label index => exact listing_placeLabel formed label index
  | moveLabels source target =>
    rw [after, perform, Edit.apply_discard]
    exact listing_moveLabels formed source target
  | widenAll => exact listing_of_alike (alike_formBranches body .allLong 0)
  | widenAsNeeded passes =>
    have alike : body.Alike (Op.after (.widenAsNeeded passes) body) := by
      rw [after, perform, Edit.apply_discard]
      exact alike_formBranches body .fitting passes
    exact listing_of_alike alike
  | finish method policy passes =>
    have alike : body.Alike (Op.after (.finish method policy passes) body) := by
      rw [after, perform, Edit.apply_discard]
      exact alike_finish body method policy passes
    exact listing_of_alike alike

/-- Erasing consecutive lines is erasing at the first index again and again. -/
theorem listing_erasedRange (formed : body.WellFormed) {start count : Nat}
    (inside : start + count ≤ body.length) (free : body.untied start count) :
    (body.erasedRange start count).listing =
      (List.replicate count (.erase start)).foldl Listing.edited body.listing := by
  induction count with
  | zero => rw [erasedRange_zero]; rfl
  | succ count ih =>
    have fewer := untied_of_succ free
    have earlier : Changes (fun _ => False) false body (body.erasedRange start count) :=
      changes_erasedRange formed (by omega) fewer
    obtain ⟨id, last⟩ : ∃ id, body.idAt? (start + count) = some id := by
      rw [← Option.isSome_iff_exists, Option.isSome_iff_ne_none, ne_eq, idAt?_eq_none]
      omega
    have here : (body.erasedRange start count).idAt? start = some id := by
      simp [idAt?_erasedRange body (show start ≤ body.length by omega), last]
    rw [erasedRange_succ formed.distinct last (tie?_of_untied free (by omega) (by omega) last),
      listing_erased (formed.changes earlier) here, ih (by omega) fewer, List.replicate_succ',
      List.foldl_append]
    rfl

end Body

namespace Cursor

/-- Inserting a line at the cursor, in front of the labels there or behind them. -/
def inserting (cursor : Cursor) (instr : Instr) : List Listing.Edit :=
  let line : Line := ⟨⟨cursor.body.nextId⟩, instr⟩
  if cursor.index < cursor.body.length then
    if cursor.behindLabels then [.insertBehind cursor.index line]
    else [.insertFront cursor.index line]
  else if cursor.index = cursor.body.length then [.insertBehind cursor.index line]
  else []

/-- What an operation does to the text of the body. -/
def Op.journal (op : Op) (cursor : Cursor) : List Listing.Edit :=
  match op with
  | .insertBehind instr | .insertBefore instr => cursor.inserting instr
  | .emit opcode operand =>
    if operand.fits opcode.operandShape then cursor.inserting ⟨opcode, operand⟩ else []
  | .overwrite opcode operand =>
    if operand.fits opcode.operandShape && cursor.index < cursor.body.length then
      [.rewrite (cursor.body.instrs.set cursor.index ⟨opcode, operand⟩)]
    else []
  | .erase => cursor.body.erasing cursor.index false
  | .eraseReanchored => cursor.body.erasing cursor.index true
  | .eraseNext count =>
    if cursor.index + count ≤ cursor.body.length && cursor.body.untied cursor.index count then
      List.replicate count (.erase cursor.index)
    else []
  | .placeLabelHere label => cursor.body.marking label cursor.index
  | .newLabelHere =>
    cursor.body.withLabel.marking ⟨cursor.body.labels.size⟩ cursor.index
  | .moveLabels source target =>
    if cursor.body.contains target then [.transfer source target] else []
  | .onBody op => op.journal cursor.body
  | _ => []

/-- What a sequence of operations does to the text of the body. -/
def journal (cursor : Cursor) : List Op → List Listing.Edit
  | [] => []
  | op :: rest => op.journal cursor ++ (op.after cursor).journal rest

variable {cursor : Cursor}

theorem listing_insertBehind (formed : cursor.body.WellFormed) (instr : Instr) :
    ((insertBehind instr).apply cursor).2.body.listing =
      (cursor.inserting instr).foldl Listing.edited cursor.body.listing := by
  rw [apply_insertBehind, inserting]
  by_cases inside : cursor.index < cursor.body.length
  · rw [if_neg (by omega)]
    simp only [inside, if_true]
    obtain ⟨displaced, here⟩ : ∃ id, cursor.body.idAt? cursor.index = some id := by
      rw [← Option.isSome_iff_exists, Option.isSome_iff_ne_none, ne_eq, Body.idAt?_eq_none]
      omega
    cases behind : cursor.behindLabels with
    | false =>
      simpa [bodyInserting, behind] using Body.listing_inserted formed instr inside
    | true =>
      simpa [bodyInserting, behind, here] using Body.listing_displaced formed instr here
  · by_cases last : cursor.index = cursor.body.length
    · have here : cursor.body.idAt? cursor.body.length = none := Body.idAt?_eq_none.2 (by omega)
      rw [if_neg (by omega)]
      simp only [last, if_true, Nat.lt_irrefl, if_false]
      have appended := Body.listing_appended formed instr
      cases behind : cursor.behindLabels <;>
        simpa [bodyInserting, behind, last, here] using appended
    · rw [if_pos (by omega)]
      simp only [inside, last, if_false]
      rfl

theorem listing_insertBefore (formed : cursor.body.WellFormed) (instr : Instr) :
    ((insertBefore instr).apply cursor).2.body.listing =
      (cursor.inserting instr).foldl Listing.edited cursor.body.listing := by
  rw [← listing_insertBehind formed, apply_insertBefore, apply_insertBehind]
  split <;> rfl

theorem listing_emit (formed : cursor.body.WellFormed) (opcode : Opcode) (operand : Operand) :
    ((emit opcode operand).apply cursor).2.body.listing =
      (Op.journal (.emit opcode operand) cursor).foldl Listing.edited cursor.body.listing := by
  rw [apply_emit, Op.journal, Instr.of]
  by_cases fits : operand.fits opcode.operandShape
  · simp only [fits, if_true]
    exact listing_insertBefore formed _
  · simp only [fits]
    rfl

theorem listing_overwrite (cursor : Cursor) (opcode : Opcode) (operand : Operand) :
    ((overwrite opcode operand).apply cursor).2.body.listing =
      (Op.journal (.overwrite opcode operand) cursor).foldl Listing.edited cursor.body.listing := by
  rw [apply_overwrite, Op.journal, Instr.of]
  by_cases fits : operand.fits opcode.operandShape
  · simp only [fits, if_true, Bool.true_and, decide_eq_true_eq]
    by_cases inside : cursor.index < cursor.body.length
    · rw [if_neg (by omega), if_pos inside, List.set_eq_modify, ← Body.instrs_changeAt]
      exact Body.listing_rewritten (Body.ids_changeAt cursor.body cursor.index _) rfl
    · rw [if_pos (by omega), if_neg inside]
      rfl
  · simp only [fits]
    rfl

theorem listing_eraseNext (formed : cursor.body.WellFormed) (count : Nat) :
    ((eraseNext count).apply cursor).2.body.listing =
      (Op.journal (.eraseNext count) cursor).foldl Listing.edited cursor.body.listing := by
  rw [apply_eraseNext, Op.journal]
  by_cases inside : cursor.index + count ≤ cursor.body.length
  · rw [if_neg (by omega)]
    by_cases free : cursor.body.untied cursor.index count
    · simp only [firstTie?_eq_none.2 free, inside, free, decide_true, Bool.and_self, if_true]
      exact Body.listing_erasedRange formed inside free
    · have kept : firstTie? cursor.body cursor.index (cursor.body.lines.extract cursor.index
          (cursor.index + count)).toList ≠ none := mt firstTie?_eq_none.1 free
      obtain ⟨tie, tied⟩ := Option.ne_none_iff_exists'.1 kept
      simp only [tied, free, Bool.and_false]
      rfl
  · rw [if_pos (by omega)]
    simp only [inside, decide_false, Bool.false_and]
    rfl

theorem Op.listing_after (op : Op) (formed : cursor.body.WellFormed) :
    (op.after cursor).body.listing =
      (op.journal cursor).foldl Listing.edited cursor.body.listing := by
  cases op with
  | moveTo index => exact congrArg Body.listing (body_moveTo cursor index)
  | returnTo mark => exact congrArg Body.listing (body_returnTo cursor mark)
  | moveToLabel label => exact congrArg Body.listing (body_moveToLabel cursor label)
  | seek direction window landing =>
    exact congrArg Body.listing (body_seek cursor direction window landing)
  | trySeek direction window landing =>
    rw [after, perform, Edit.apply_discard, body_trySeek]
    rfl
  | goBehindLabels => rfl
  | goBeforeLabels => rfl
  | newLabel => exact Body.listing_withLabel cursor.body
  | placeLabelHere label =>
    rw [after, perform, apply_placeLabelHere]
    exact Body.listing_placeLabel formed label cursor.index
  | newLabelHere =>
    have placed := Body.listing_placeLabel formed.withLabel ⟨cursor.body.labels.size⟩ cursor.index
    rw [Body.listing_withLabel] at placed
    rw [after, perform, Edit.apply_discard, apply_newLabelHere, journal, ← placed]
    split <;> next reached => rw [reached]
  | moveLabels source target =>
    rw [after, perform, Edit.apply_discard]
    exact Body.listing_moveLabels formed source target
  | insertBehind instr =>
    rw [after, perform, Edit.apply_discard]
    exact listing_insertBehind formed instr
  | insertBefore instr =>
    rw [after, perform, Edit.apply_discard]
    exact listing_insertBefore formed instr
  | emit opcode operand =>
    rw [after, perform, Edit.apply_discard]
    exact listing_emit formed opcode operand
  | overwrite opcode operand => exact listing_overwrite cursor opcode operand
  | erase =>
    rw [after, perform, Edit.apply_discard, apply_erase]
    exact Body.listing_eraseIdx formed cursor.index false cursor.method
  | eraseNext count => exact listing_eraseNext formed count
  | eraseReanchored =>
    rw [after, perform, Edit.apply_discard, apply_eraseReanchored]
    exact Body.listing_eraseIdx formed cursor.index true cursor.method
  | onBody op => exact op.listing_after formed

theorem listing_after (formed : cursor.body.WellFormed) (ops : List Op) :
    (cursor.after ops).body.listing =
      (cursor.journal ops).foldl Listing.edited cursor.body.listing := by
  induction ops generalizing cursor with
  | nil => rfl
  | cons op rest ih =>
    rw [after_cons, ih (formed.changes (op.changes cursor formed)), op.listing_after formed,
      journal, List.foldl_append]

variable {displaced : InstrId} {label : LabelId}

theorem placeOf?_bodyInserting (inside : cursor.body.idAt? cursor.index = some displaced)
    (instr : Instr) (label : LabelId) :
    (cursor.bodyInserting instr).placeOf? label =
      if cursor.behindLabels then
        (cursor.body.placeOf? label).map (·.moved displaced (some ⟨cursor.body.nextId⟩))
      else cursor.body.placeOf? label := by
  have place : cursor.index ≠ cursor.body.length := Nat.ne_of_lt (Body.lt_of_idAt? inside)
  cases behind : cursor.behindLabels <;> simp [bodyInserting, behind, inside, place]

theorem idAt?_bodyInserting (inside : cursor.body.idAt? cursor.index = some displaced)
    (instr : Instr) : (cursor.bodyInserting instr).idAt? (cursor.index + 1) = some displaced := by
  have ids : (cursor.bodyInserting instr).ids = (cursor.body.inserted cursor.index instr).ids := by
    unfold bodyInserting
    split <;> rfl
  rw [Body.idAt?_eq] at inside
  rw [Body.idAt?_eq, ids, Body.ids_inserted, List.getElem?_insertIdx_of_gt (Nat.lt_succ_self _)]
  exact inside

/-- Emitting further code leaves a label where it is, once the line behind the cursor has lost its
labels or keeps them. -/
theorem placeOf?_after_emits {id : InstrId}
    (inside : cursor.body.idAt? cursor.index = some displaced)
    (apart : cursor.behindLabels = true → id ≠ displaced)
    (stands : cursor.body.placeOf? label = some (.line id)) (code : List (Opcode × Operand)) :
    (cursor.after (code.map fun part => .emit part.1 part.2)).body.placeOf? label =
      some (.line id) := by
  induction code generalizing cursor with
  | nil => exact stands
  | cons part rest ih =>
    rw [List.map_cons, after_cons, Op.after, Op.perform, Edit.apply_discard, apply_emit]
    split
    · next instr made =>
      rw [apply_insertBefore,
        if_neg (Nat.not_lt.2 (Nat.le_of_lt (Body.lt_of_idAt? inside)))]
      refine ih (idAt?_bodyInserting inside instr) apart ?_
      rw [placeOf?_bodyInserting inside, stands]
      split
      · next behind => simp [apart behind]
      · rfl
    · exact ih inside apart stands

/-- The text of a body changes only by edits of text: operations insert lines in front of labels or
behind them, erase lines, put and move labels, and rewrite instructions. So code that is emitted
behind the labels at a line takes them all to its first line, and code that is emitted in front of
them leaves them where they are. -/
theorem listing_after_edits {start : Cursor} (reachable : start.body.Reachable) :
    (∀ ops, (start.after ops).body.listing =
      (start.journal ops).foldl Listing.edited start.body.listing) ∧
    ∀ opcode operand instr displaced, Instr.of opcode operand = .ok instr →
      start.body.idAt? start.index = some displaced →
        ∃ first, ((emit opcode operand).apply start).1 = .ok first ∧
          ∀ (code : List (Opcode × Operand)) label, start.body.lineOf? label = some displaced →
            (start.after (.emit opcode operand ::
                code.map fun part => .emit part.1 part.2)).body.lineOf? label =
              some (if start.behindLabels then first else displaced) := by
  have formed := reachable.wellFormed
  refine ⟨listing_after formed, ?_⟩
  intro opcode operand instr displaced made inside
  have emitted : (emit opcode operand).apply start =
      (.ok ⟨start.body.nextId⟩,
        { start with body := start.bodyInserting instr, index := start.index + 1 }) := by
    rw [apply_emit, made]
    dsimp only
    rw [apply_insertBefore, if_neg (Nat.not_lt.2 (Nat.le_of_lt (Body.lt_of_idAt? inside)))]
  refine ⟨⟨start.body.nextId⟩, by rw [emitted], ?_⟩
  intro code label stands
  have fresh : (⟨start.body.nextId⟩ : InstrId) ≠ displaced := by
    rintro rfl
    exact formed.fresh (Body.mem_ids_of_idAt? inside)
  rw [formed.lineOf?_eq_some] at stands
  rw [(wellFormed_after start formed _).lineOf?_eq_some, after_cons, Op.after, Op.perform,
    Edit.apply_discard, emitted]
  refine placeOf?_after_emits (idAt?_bodyInserting inside instr) ?_ ?_ code
  · intro behind
    rw [if_pos behind]
    exact fresh
  · rw [placeOf?_bodyInserting inside, stands]
    split
    · simp [LabelPlace.before]
    · rfl

/-- A cursor behind the label at the last line of a body. -/
def behindLastLabel : Cursor where
  body := Body.after {} [.newLabel, .append ⟨.br, .label ⟨0⟩⟩, .append ⟨.ret, .none⟩,
    .placeLabel ⟨0⟩ 1]
  method := "M"
  index := 1
  behindLabels := true

/-- Code that is emitted there takes over the label. -/
theorem listing_behind_last_label :
    behindLastLabel.body.Reachable ∧
    (behindLastLabel.after [.emit .nop .none, .emit .pop .none]).body.listing =
      [Listing.Edit.insertBehind 1 ⟨⟨2⟩, ⟨.nop, .none⟩⟩,
        .insertBehind 2 ⟨⟨3⟩, ⟨.pop, .none⟩⟩].foldl Listing.edited behindLastLabel.body.listing ∧
    (behindLastLabel.after [.emit .nop .none, .emit .pop .none]).body.lineOf? ⟨0⟩ = some ⟨2⟩ := by
  have reachable : behindLastLabel.body.Reachable := Body.Reachable.empty.after _
  obtain ⟨edits, emits⟩ := listing_after_edits reachable
  have journal : behindLastLabel.journal [.emit .nop .none, .emit .pop .none] =
      [.insertBehind 1 ⟨⟨2⟩, ⟨.nop, .none⟩⟩, .insertBehind 2 ⟨⟨3⟩, ⟨.pop, .none⟩⟩] := by
    cbv
  obtain ⟨first, new, taken⟩ := emits .nop .none ⟨.nop, .none⟩ ⟨1⟩ rfl (by cbv)
  have same : first = ⟨2⟩ := by
    have made : ((emit .nop .none).apply behindLastLabel).1 = .ok ⟨2⟩ := by cbv
    exact Except.ok.inj (new.symm.trans made)
  refine ⟨reachable, ?_, ?_⟩
  · rw [edits, journal]
  · exact same ▸ taken [(.pop, .none)] ⟨0⟩ (by cbv)

end Cursor
end Retrofit
