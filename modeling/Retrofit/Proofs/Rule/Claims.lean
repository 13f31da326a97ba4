import Mathlib.Data.Finset.Card
import Mathlib.Data.Finset.Dedup
import Retrofit.Proofs.Rule.Ledger

/-!
Claims one after another on a fresh ledger. The first one for an aspect of a subject wins, where
subjects are told apart by their texts. So they are told apart as they should exactly if no aspect is
claimed both of a member and of a subject that goes by the text of the member
(`firstWins_iff_unmixed`).
-/

namespace Retrofit

/-- What a claim is about: something known by its name, or a member. -/
inductive Subject where
  | named (name : String)
  | member (id : MemberId)
deriving DecidableEq

/-- The text under which a ledger holds what is claimed of the subject. -/
def Subject.text : Subject → String
  | .named name => name
  | .member id => id.text

namespace Ledger

/-- A call that claims a value for an aspect of a subject. -/
inductive Call where
  | named (subject aspect value : String)
  | member (id : MemberId) (name aspect value : String)

namespace Call

def subject : Call → Subject
  | .named subject _ _ => .named subject
  | .member id _ _ _ => .member id

def aspect : Call → String
  | .named _ aspect _ => aspect
  | .member _ _ aspect _ => aspect

def value : Call → String
  | .named _ _ value => value
  | .member _ _ _ value => value

/-- The name under which a conflict is reported. -/
def reported : Call → String
  | .named subject _ _ => subject
  | .member _ name _ _ => name

def make : Call → Edit Ledger Unit
  | .named subject aspect value => claim subject aspect value
  | .member id name aspect value => claimFor id name aspect value

/-- The aspect of the subject that is claimed, where subjects are known by what identifies them. -/
def pair (identify : Subject → κ) (call : Call) : κ × String := (identify call.subject, call.aspect)

theorem make_eq (call : Call) :
    call.make = enter call.reported ⟨call.subject.text, call.aspect, call.value⟩ := by
  cases call <;> rfl

end Call

/-- The ledger after one more call, and the calls that have been accepted. -/
def taken (state : Ledger × List Call) (call : Call) : Ledger × List Call :=
  match call.make.apply state.1 with
  | (.ok _, ledger) => (ledger, state.2 ++ [call])
  | (.error _, ledger) => (ledger, state.2)

/-- The fresh ledger after some calls. -/
def after (calls : List Call) : Ledger := (calls.foldl taken ({}, [])).1

/-- The calls that are accepted when some are made on the fresh ledger. -/
def accepted (calls : List Call) : List Call := (calls.foldl taken ({}, [])).2

/-- Of all calls, the first for an aspect of a subject wins. A call fails exactly if an earlier one
about the same aspect of the same subject was accepted with another value; then it names the value
that is held and changes nothing. What has been claimed stays, and the ledger counts the aspects of
subjects that have been claimed. Subjects are the same where the same identifies them. -/
structure FirstWins [DecidableEq κ] (identify : Subject → κ) (calls : List Call) : Prop where
  fails_iff : ∀ before call, before ++ [call] <+: calls →
    ((∃ error, (call.make.apply (after before)).1 = .error error) ↔
      ∃ earlier ∈ accepted before,
        earlier.pair identify = call.pair identify ∧ earlier.value ≠ call.value)
  failed : ∀ before call error, before ++ [call] <+: calls →
    (call.make.apply (after before)).1 = .error error →
      after (before ++ [call]) = after before ∧
        ∃ held, (after before).value? call.subject.text call.aspect = some held ∧
          error = .conflict call.reported call.aspect held call.value
  holds : ∀ before, before <+: calls → ∀ call ∈ accepted before, ∀ later, before ++ later <+: calls →
    (after (before ++ later)).value? call.subject.text call.aspect = some call.value
  counts : ∀ before, before <+: calls →
    (after before).size = ((accepted before).map (Call.pair identify)).toFinset.card

/-- No aspect is claimed both of a member and of a subject that goes by the text of the member. -/
def Unmixed (calls : List Call) : Prop :=
  ∀ one ∈ calls, ∀ other ∈ calls, ∀ id : MemberId,
    one.subject = .named id.text → other.subject = .member id → one.aspect ≠ other.aspect

variable {ledger final : Ledger} {call : Call} {calls before : List Call} {error : PatchError}

/-- A claim is refused where another value is held. -/
theorem enter_eq_error {name : String} {claim : Claim} :
    (enter name claim).apply ledger = (.error error, final) ↔
      ∃ held, ledger.value? claim.subject claim.aspect = some held ∧ held ≠ claim.value ∧
        error = .conflict name claim.aspect held claim.value ∧ final = ledger := by
  rw [enter, Edit.apply_bind, Edit.apply_get]
  dsimp only
  cases ledger.value? claim.subject claim.aspect with
  | none => simp
  | some value =>
    dsimp only
    by_cases same : value = claim.value
    · simp [same]
    · simp [same, eq_comm]

/-- What a ledger holds when some calls have been accepted. -/
structure Records (ledger : Ledger) (made : List Call) : Prop where
  held : ∀ call ∈ made, ledger.value? call.subject.text call.aspect = some call.value
  backed : ∀ subject aspect value, ledger.value? subject aspect = some value →
    ∃ call ∈ made, call.subject.text = subject ∧ call.aspect = aspect
  counted : ledger.size = (made.map (Call.pair Subject.text)).toFinset.card

theorem records_fresh : Records {} [] := ⟨nofun, nofun, rfl⟩

theorem mem_pairs {made : List Call} :
    call.pair Subject.text ∈ (made.map (Call.pair Subject.text)).toFinset ↔
      ∃ earlier ∈ made,
        earlier.subject.text = call.subject.text ∧ earlier.aspect = call.aspect := by
  simp [Call.pair]

theorem Records.accept {made : List Call} (records : ledger.Records made)
    (done : call.make.apply ledger = (.ok (), final)) : final.Records (made ++ [call]) := by
  rw [call.make_eq] at done
  obtain ⟨agrees, rfl⟩ := enter_eq_ok.1 done
  refine ⟨fun other listed => ?held, fun subject aspect value found => ?backed, ?counted⟩
  case held =>
    rw [value?_holding]
    rcases List.mem_append.1 listed with earlier | last
    · rw [records.held other earlier, Option.some_or]
    · obtain rfl := List.mem_singleton.1 last
      rw [if_pos ⟨rfl, rfl⟩]
      cases held : ledger.value? other.subject.text other.aspect with
      | none => rfl
      | some value => rw [agrees value held, Option.some_or]
  case backed =>
    rw [value?_holding, Option.or_eq_some_iff] at found
    rcases found with held | ⟨_, entered⟩
    · obtain ⟨other, listed, same⟩ := records.backed subject aspect value held
      exact ⟨other, List.mem_append_left _ listed, same⟩
    · obtain ⟨same, _⟩ := Option.ite_none_right_eq_some.1 entered
      exact ⟨call, List.mem_concat_self, same⟩
  case counted =>
    rw [List.map_append, List.map_singleton, List.toFinset_append, List.toFinset_cons,
      List.toFinset_nil, insert_empty_eq, Finset.union_comm, ← Finset.insert_eq, holding]
    cases held : ledger.value? call.subject.text call.aspect with
    | none =>
      have fresh : call.pair Subject.text ∉ (made.map (Call.pair Subject.text)).toFinset := by
        rw [mem_pairs]
        rintro ⟨earlier, listed, subject, aspect⟩
        have holds := records.held earlier listed
        rw [subject, aspect, held] at holds
        cases holds
      rw [Finset.card_insert_of_notMem fresh, ← records.counted]
      exact List.length_append
    | some value =>
      rw [Finset.insert_eq_of_mem (mem_pairs.2 (records.backed _ _ _ held))]
      exact records.counted

theorem after_concat (calls : List Call) (call : Call) :
    after (calls ++ [call]) = (call.make.apply (after calls)).2 := by
  rw [after, List.foldl_append, List.foldl_cons, List.foldl_nil, taken, ← after]
  rcases call.make.apply (after calls) with ⟨_ | _, _⟩ <;> rfl

theorem accepted_concat (calls : List Call) (call : Call) :
    accepted (calls ++ [call]) =
      match (call.make.apply (after calls)).1 with
      | .ok _ => accepted calls ++ [call]
      | .error _ => accepted calls := by
  rw [accepted, List.foldl_append, List.foldl_cons, List.foldl_nil, taken, ← after, ← accepted]
  rcases call.make.apply (after calls) with ⟨_ | _, _⟩ <;> rfl

theorem records_after (calls : List Call) : (after calls).Records (accepted calls) := by
  induction calls using List.reverseRecOn with
  | nil => exact records_fresh
  | append_singleton calls call ih =>
    rw [after_concat, accepted_concat]
    rcases done : call.make.apply (after calls) with ⟨error | ⟨⟩, final⟩
    · rw [call.make_eq] at done
      obtain ⟨_, _, _, _, rfl⟩ := enter_eq_error.1 done
      exact ih
    · exact ih.accept done

theorem accepted_subset (calls : List Call) : accepted calls ⊆ calls := by
  induction calls using List.reverseRecOn with
  | nil => exact List.Subset.refl _
  | append_singleton calls call ih =>
    rw [accepted_concat]
    split
    · exact List.append_subset.2 ⟨List.subset_append_of_subset_left _ ih, List.subset_append_right _ _⟩
    · exact List.subset_append_of_subset_left _ ih

/-- What has been accepted stays so. -/
theorem accepted_subset_append (calls later : List Call) :
    accepted calls ⊆ accepted (calls ++ later) := by
  induction later using List.reverseRecOn with
  | nil => rw [List.append_nil]; exact List.Subset.refl _
  | append_singleton later call ih =>
    rw [← List.append_assoc, accepted_concat]
    split
    · exact List.subset_append_of_subset_left _ ih
    · exact ih

/-- Where subjects are told apart by their texts, the first claim wins. -/
theorem firstWins_text (calls : List Call) : FirstWins Subject.text calls where
  fails_iff before call _ := by
    have records := records_after before
    rcases done : call.make.apply (after before) with ⟨error | ⟨⟩, final⟩ <;> rw [call.make_eq] at done
    · obtain ⟨held, found, differs, _⟩ := enter_eq_error.1 done
      obtain ⟨earlier, listed, subject, aspect⟩ := records.backed _ _ _ found
      refine ⟨fun _ => ⟨earlier, listed, Prod.ext subject aspect, ?_⟩, fun _ => ⟨error, rfl⟩⟩
      have holds := records.held earlier listed
      rw [subject, aspect] at holds
      rwa [← Option.some.inj (found.symm.trans holds)]
    · obtain ⟨agrees, _⟩ := enter_eq_ok.1 done
      constructor
      · rintro ⟨_, ⟨⟩⟩
      · rintro ⟨earlier, listed, same, differs⟩
        obtain ⟨subject, aspect⟩ := Prod.mk.inj same
        have holds := records.held earlier listed
        rw [subject, aspect] at holds
        exact absurd (agrees _ holds) differs
  failed before call error _ fails := by
    rcases done : call.make.apply (after before) with ⟨outcome, final⟩
    rw [done] at fails
    obtain rfl : outcome = .error error := fails
    rw [after_concat, done]
    rw [call.make_eq] at done
    obtain ⟨held, found, _, refused, rfl⟩ := enter_eq_error.1 done
    exact ⟨rfl, held, found, refused⟩
  holds before _ call listed later _ :=
    (records_after (before ++ later)).held call (accepted_subset_append before later listed)
  counts before _ := (records_after before).counted

/-- For every call there is an accepted one about the same. -/
theorem FirstWins.exists_accepted [DecidableEq κ] {identify : Subject → κ}
    (wins : FirstWins identify calls) (listed : call ∈ calls) :
    ∃ other ∈ accepted calls, other.pair identify = call.pair identify := by
  obtain ⟨before, behind, rfl⟩ := List.append_of_mem listed
  rw [List.append_cons] at wins ⊢
  have within := List.prefix_append (before ++ [call]) behind
  have stays := accepted_subset_append (before ++ [call]) behind
  rw [accepted_concat] at stays
  cases outcome : (call.make.apply (after before)).1 with
  | ok _ =>
    rw [outcome] at stays
    exact ⟨call, stays List.mem_concat_self, rfl⟩
  | error error =>
    rw [outcome] at stays
    obtain ⟨earlier, found, same, _⟩ := (wins.fails_iff before call within).1 ⟨error, outcome⟩
    exact ⟨earlier, stays found, same⟩

theorem Unmixed.pair_iff (unmixed : Unmixed calls) {one other : Call} (listed : one ∈ calls)
    (also : other ∈ calls) :
    one.pair Subject.text = other.pair Subject.text ↔ one.pair id = other.pair id := by
  simp only [Call.pair, Prod.mk.injEq, id_eq]
  refine ⟨fun ⟨texts, aspects⟩ => ⟨?_, aspects⟩, fun ⟨subjects, aspects⟩ => ⟨by rw [subjects], aspects⟩⟩
  have apart := unmixed one listed other also
  have apartToo := unmixed other also one listed
  cases one with
  | named subject aspect value =>
    cases other with
    | named => exact congrArg Subject.named texts
    | member id => exact absurd aspects (apart id (congrArg Subject.named texts) rfl)
  | member id =>
    cases other with
    | named => exact absurd aspects.symm (apartToo id (congrArg Subject.named texts.symm) rfl)
    | member => exact congrArg Subject.member (MemberId.text_inj.1 texts)

/-- The texts of subjects are what a ledger sees of them. -/
private theorem toFinset_pairs_text (made : List Call) :
    (made.map (Call.pair Subject.text)).toFinset =
      (made.map (Call.pair id)).toFinset.image (Prod.map Subject.text id) := by
  ext pair
  simp [Call.pair]

/-- Subjects are told apart, a member from everything that is known by a name, exactly if no aspect
is claimed both of a member and of a subject that goes by the text of the member. In any case the
first claim wins under the texts. -/
theorem firstWins_iff_unmixed (calls : List Call) :
    FirstWins Subject.text calls ∧ (FirstWins id calls ↔ Unmixed calls) := by
  have byText := firstWins_text calls
  have whole := List.prefix_rfl (l := calls)
  refine ⟨byText, fun wins one listed other also member named isMember aspects => ?_, fun unmixed => ?_⟩
  · -- both claims are accepted, so that the ledger has to count them as two
    obtain ⟨first, accepted, same⟩ := wins.exists_accepted listed
    obtain ⟨second, acceptedToo, sameToo⟩ := wins.exists_accepted also
    have counted := (byText.counts calls whole).symm.trans (wins.counts calls whole)
    rw [toFinset_pairs_text, Finset.card_image_iff] at counted
    have within (call : Call) (made : call ∈ Ledger.accepted calls) :
        call.pair id ∈ ((Ledger.accepted calls).map (Call.pair id)).toFinset :=
      List.mem_toFinset.2 (List.mem_map_of_mem made)
    have texts : Prod.map Subject.text id (first.pair id) =
        Prod.map Subject.text id (second.pair id) := by
      rw [same, sameToo]
      simp [Call.pair, named, isMember, aspects, Subject.text]
    have pairs := counted (within first accepted) (within second acceptedToo) texts
    rw [same, sameToo] at pairs
    simp [Call.pair, named, isMember] at pairs
  · have taken (before : List Call) (within : before <+: calls) {call : Call}
        (made : call ∈ accepted before) : call ∈ calls :=
      within.subset (accepted_subset before made)
    refine { byText with fails_iff := fun before call within => ?_, counts := fun before within => ?_ }
    · rw [byText.fails_iff before call within]
      have listed : call ∈ calls := within.subset List.mem_concat_self
      refine exists_congr fun earlier => and_congr_right fun made => and_congr_left fun _ => ?_
      exact unmixed.pair_iff (taken before ((List.prefix_append _ _).trans within) made) listed
    · rw [byText.counts before within, toFinset_pairs_text]
      refine Finset.card_image_iff.2 fun one listed other also texts => ?_
      obtain ⟨first, made, rfl⟩ := List.mem_map.1 (List.mem_toFinset.1 listed)
      obtain ⟨second, madeToo, rfl⟩ := List.mem_map.1 (List.mem_toFinset.1 also)
      exact (unmixed.pair_iff (taken before within made) (taken before within madeToo)).1 texts

/-- A value claimed for the name of something called `method #4`, and another one for the name of the
method with this identity. -/
def mixedCalls : List Call :=
  [.named "method #4" "name" "Tick", .member (.method ⟨4⟩) "Game.Menu::Update" "name" "Step"]

/-- Nothing has been claimed of the method, and the claim is refused. -/
theorem refused_for_namesake :
    ((Ledger.claimFor (.method ⟨4⟩) "Game.Menu::Update" "name" "Step").apply
        (after [.named "method #4" "name" "Tick"])).1 =
      .error (.conflict "Game.Menu::Update" "name" "Tick" "Step") ∧
    ¬ FirstWins id mixedCalls := by
  have refused : ((Ledger.claimFor (.method ⟨4⟩) "Game.Menu::Update" "name" "Step").apply
      (after [.named "method #4" "name" "Tick"])).1 =
        .error (.conflict "Game.Menu::Update" "name" "Tick" "Step") := by
    rfl
  refine ⟨refused, fun wins => ?_⟩
  obtain ⟨earlier, listed, same, _⟩ :=
    (wins.fails_iff [.named "method #4" "name" "Tick"] _ List.prefix_rfl).1 ⟨_, refused⟩
  obtain rfl := List.mem_singleton.1 (accepted_subset _ listed)
  cases congrArg Prod.fst same

end Ledger
end Retrofit
