import Mathlib
import Retrofit.Assembly.Version

/-!
The texts of versions: which can be read, what they denote and why the others are refused.

`Version.parse_exact` is the result. A version is read back from its own text. Any text is cut at
its dots; it denotes a version if there are one to four parts, and each is the numeral of a number
with 16 bits.
-/

namespace Retrofit

theorem Text.pieces_eq_splitOn (separator : Char) (text : List Char) :
    pieces separator text = text.splitOn separator := by
  induction text with
  | nil => rfl
  | cons c rest ih =>
    rw [List.splitOn, List.splitOnP_cons_eq_if_modifyHead, ← List.splitOn, ← ih]
    by_cases same : c = separator
    case pos => simp [pieces, same]
    case neg =>
      simp only [pieces, same, if_false, beq_iff_eq]
      cases split : pieces separator rest with
      | nil => exact absurd split (pieces_ne_nil separator rest)
      | cons piece others => rfl

namespace Version

/-- The texts of a number in decimal: at least one digit, perhaps zeros or one plus sign in
front. -/
inductive Numeral : List Char → Nat → Prop where
  | plain {digits : List Char} (nonempty : digits ≠ [])
      (decimal : ∀ digit ∈ digits, digit.isDigit = true) :
      Numeral digits (Nat.ofDigitChars 10 digits 0)
  | plus {digits : List Char} (nonempty : digits ≠ [])
      (decimal : ∀ digit ∈ digits, digit.isDigit = true) :
      Numeral ('+' :: digits) (Nat.ofDigitChars 10 digits 0)

/-- A part that stands for a component: the numeral of a number with 16 bits. -/
def IsComponent (part : List Char) : Prop := ∃ number ≤ 65535, Numeral part number

/-- What stands between the dots. -/
def dotted (text : String) : List (List Char) := text.toList.splitOn '.'

/-- A text that denotes some version. -/
def IsVersion (text : String) : Prop :=
  1 ≤ (dotted text).length ∧ (dotted text).length ≤ 4 ∧ ∀ part ∈ dotted text, IsComponent part

/-- The components of the version are the numbers between the dots in order, followed by zeros. -/
structure Denotes (text : String) (version : Version) : Prop where
  few : (dotted text).length ≤ 4
  numbers : List.Forall₂ Numeral (dotted text)
    ((version.components.take (dotted text).length).map UInt16.toNat)
  zeros : ∀ component ∈ version.components.drop (dotted text).length, component = 0

/-- Why a text denotes no version: it has too many parts, or else a first one that stands for no
component. -/
inductive Fault (text : String) : Malformation → Prop where
  | format (many : 4 < (dotted text).length) : Fault text (.versionFormat text)
  | component {before behind : List (List Char)} {part : List Char}
      (few : (dotted text).length ≤ 4) (cut : dotted text = before ++ part :: behind)
      (fine : ∀ earlier ∈ before, IsComponent earlier) (broken : ¬ IsComponent part) :
      Fault text (.versionComponent (String.ofList part))

variable {part digits : List Char} {parts : List (List Char)} {component : UInt16}
  {components : List UInt16} {version : Version} {text : String} {error : PatchError}

/-- The number with the given digits if it has 16 bits. -/
private def unsigned? (digits : List Char) : Option UInt16 :=
  if digits ≠ [] ∧ digits.all Char.isDigit ∧ digitsValue digits < UInt16.size then
    some (UInt16.ofNat (digitsValue digits))
  else
    none

private theorem unsigned?_eq_some_iff : unsigned? digits = some component ↔
    digits ≠ [] ∧ (∀ digit ∈ digits, digit.isDigit = true) ∧
      Nat.ofDigitChars 10 digits 0 = component.toNat := by
  have value : Nat.ofDigitChars 10 digits 0 = digitsValue digits := rfl
  rw [value]
  unfold unsigned?
  split
  case isTrue fits =>
    obtain ⟨nonempty, decimal, small⟩ := fits
    rw [Option.some.injEq, ← UInt16.toNat_inj, UInt16.toNat_ofNat_of_lt' small]
    exact ⟨fun same => ⟨nonempty, List.all_eq_true.1 decimal, same⟩, fun spec => spec.2.2⟩
  case isFalse unfit =>
    refine ⟨nofun, fun ⟨nonempty, decimal, same⟩ => absurd ?_ unfit⟩
    exact ⟨nonempty, List.all_eq_true.2 decimal, same ▸ component.toNat_lt⟩

private theorem component?_plus (digits : List Char) :
    component? ('+' :: digits) = unsigned? digits :=
  rfl

private theorem component?_plain (plain : ∀ digits, part ≠ '+' :: digits) :
    component? part = unsigned? part := by
  dsimp only [component?]
  split
  · exact absurd rfl (plain _)
  · rfl

/-- A component is read exactly from its numerals. -/
theorem component?_eq_some_iff : component? part = some component ↔
    Numeral part component.toNat := by
  constructor
  case mp =>
    intro read
    by_cases signed : ∃ digits, part = '+' :: digits
    case pos =>
      obtain ⟨digits, rfl⟩ := signed
      rw [component?_plus] at read
      obtain ⟨nonempty, decimal, same⟩ := unsigned?_eq_some_iff.1 read
      exact same ▸ .plus nonempty decimal
    case neg =>
      rw [component?_plain (not_exists.1 signed)] at read
      obtain ⟨nonempty, decimal, same⟩ := unsigned?_eq_some_iff.1 read
      exact same ▸ .plain nonempty decimal
  case mpr =>
    generalize number : component.toNat = value
    intro numeral
    cases numeral with
    | plain nonempty decimal =>
      -- a sign is no digit
      have unsigned : ∀ digits, part ≠ '+' :: digits := by
        rintro digits rfl
        exact absurd (decimal '+' List.mem_cons_self) (by decide)
      rw [component?_plain unsigned]
      exact unsigned?_eq_some_iff.2 ⟨nonempty, decimal, number.symm⟩
    | plus nonempty decimal =>
      rw [component?_plus]
      exact unsigned?_eq_some_iff.2 ⟨nonempty, decimal, number.symm⟩

theorem isComponent_iff : IsComponent part ↔ ∃ component, component? part = some component := by
  simp only [component?_eq_some_iff]
  constructor
  case mp =>
    rintro ⟨number, small, numeral⟩
    refine ⟨UInt16.ofNat number, ?_⟩
    rwa [UInt16.toNat_ofNat_of_lt' (Nat.lt_succ_of_le small)]
  case mpr =>
    rintro ⟨component, numeral⟩
    exact ⟨component.toNat, Nat.le_of_lt_succ component.toNat_lt, numeral⟩

theorem component?_eq_none_iff : component? part = none ↔ ¬ IsComponent part := by
  rw [isComponent_iff, Option.eq_none_iff_forall_ne_some, not_exists]

theorem readComponents_eq_ok_iff : readComponents parts = .ok components ↔
    List.Forall₂ Numeral parts (components.map UInt16.toNat) := by
  induction parts generalizing components with
  | nil =>
    rw [List.forall₂_nil_left_iff, List.map_eq_nil_iff, readComponents, Except.ok.injEq, eq_comm]
  | cons part rest ih =>
    cases components with
    | nil =>
      cases read : component? part <;> cases others : readComponents rest <;>
        simp [readComponents, read, others, Except.map]
    | cons component components =>
      rw [List.map_cons, List.forall₂_cons, ← component?_eq_some_iff, ← ih]
      cases read : component? part <;> cases others : readComponents rest <;>
        simp [readComponents, read, others, Except.map]

/-- The reading stops at the first part that is no component, and names it. -/
theorem readComponents_eq_error_iff : readComponents parts = .error error ↔
    ∃ before part behind, parts = before ++ part :: behind ∧
      (∀ earlier ∈ before, IsComponent earlier) ∧ ¬ IsComponent part ∧
      error = .malformed (.versionComponent (String.ofList part)) := by
  induction parts with
  | nil => simp [readComponents]
  | cons first rest ih =>
    cases read : component? first with
    | none =>
      have broken := component?_eq_none_iff.1 read
      simp only [readComponents, read, Except.error.injEq]
      constructor
      case mp =>
        rintro rfl
        exact ⟨[], first, rest, rfl, nofun, broken, rfl⟩
      case mpr =>
        rintro ⟨before, part, behind, cut, fine, -, rfl⟩
        cases before with
        | nil => rw [(List.cons.inj cut).1]
        | cons earlier before =>
          obtain rfl := (List.cons.inj cut).1
          exact absurd (fine first List.mem_cons_self) broken
    | some component =>
      have whole := isComponent_iff.2 ⟨component, read⟩
      have further : readComponents (first :: rest) = .error error ↔
          readComponents rest = .error error := by
        cases others : readComponents rest <;> simp [readComponents, read, others, Except.map]
      rw [further, ih]
      constructor
      case mp =>
        rintro ⟨before, part, behind, rfl, fine, broken, rfl⟩
        exact ⟨first :: before, part, behind, rfl, List.forall_mem_cons.2 ⟨whole, fine⟩, broken,
          rfl⟩
      case mpr =>
        rintro ⟨before, part, behind, cut, fine, broken, rfl⟩
        cases before with
        | nil => exact absurd ((List.cons.inj cut).1 ▸ whole) broken
        | cons earlier before =>
          exact ⟨before, part, behind, (List.cons.inj cut).2, (List.forall_mem_cons.1 fine).2,
            broken, rfl⟩

theorem components_injective : Function.Injective Version.components := by
  rintro ⟨⟩ ⟨⟩ same
  simpa [Version.components] using same

theorem components_ofComponents (few : components.length ≤ 4) :
    (ofComponents components).components =
      components ++ List.replicate (4 - components.length) 0 := by
  match components, few with
  | [], _ | [_], _ | [_, _], _ | [_, _, _], _ | [_, _, _, _], _ => rfl
  | _ :: _ :: _ :: _ :: _ :: _, few => simp only [List.length_cons] at few; omega

theorem parse_of_few (few : (dotted text).length ≤ 4) :
    parse text = (readComponents (dotted text)).map ofComponents := by
  rw [dotted, ← Text.pieces_eq_splitOn] at *
  exact if_neg (Nat.not_lt.2 few)

theorem parse_of_many (many : 4 < (dotted text).length) :
    parse text = .error (.malformed (.versionFormat text)) := by
  rw [dotted, ← Text.pieces_eq_splitOn] at many
  exact if_pos many

theorem Denotes.of_parse (parsed : parse text = .ok version) : Denotes text version := by
  by_cases few : (dotted text).length ≤ 4
  case neg =>
    rw [parse_of_many (Nat.lt_of_not_le few)] at parsed
    cases parsed
  case pos =>
    rw [parse_of_few few] at parsed
    cases read : readComponents (dotted text) with
    | error error => rw [read] at parsed; cases parsed
    | ok components =>
      rw [read] at parsed
      obtain rfl := Except.ok.inj parsed
      have numbers := readComponents_eq_ok_iff.1 read
      have same : (dotted text).length = components.length := by simpa using numbers.length_eq
      have filled := components_ofComponents (same ▸ few)
      refine ⟨few, ?numbers, ?zeros⟩
      case numbers => rwa [filled, same, List.take_left]
      case zeros =>
        rw [filled, same, List.drop_left]
        exact fun component => List.eq_of_mem_replicate

theorem Denotes.parse_eq (denotes : Denotes text version) : parse text = .ok version := by
  obtain ⟨few, numbers, zeros⟩ := denotes
  have four : version.components.length = 4 := rfl
  have length : (version.components.take (dotted text).length).length = (dotted text).length := by
    rw [List.length_take, four, Nat.min_eq_left few]
  have rest : version.components.drop (dotted text).length =
      List.replicate (4 - (dotted text).length) 0 :=
    List.eq_replicate_iff.2 ⟨by rw [List.length_drop, four], zeros⟩
  rw [parse_of_few few, readComponents_eq_ok_iff.2 numbers]
  refine congrArg Except.ok (components_injective ?_)
  rw [components_ofComponents (length.trans_le few), length, ← rest, List.take_append_drop]

theorem parse_eq_ok_iff : parse text = .ok version ↔ Denotes text version :=
  ⟨.of_parse, Denotes.parse_eq⟩

theorem parse_eq_error_iff :
    parse text = .error error ↔ ∃ cause, error = .malformed cause ∧ Fault text cause := by
  by_cases few : (dotted text).length ≤ 4
  case neg =>
    have many := Nat.lt_of_not_le few
    rw [parse_of_many many, Except.error.injEq, eq_comm]
    constructor
    case mp => exact fun same => ⟨_, same, .format many⟩
    case mpr =>
      rintro ⟨cause, rfl, fault⟩
      cases fault with
      | format => rfl
      | component few => exact absurd many (Nat.not_lt.2 few)
  case pos =>
    have first : parse text = .error error ↔ readComponents (dotted text) = .error error := by
      rw [parse_of_few few]
      cases readComponents (dotted text) <;> simp [Except.map]
    rw [first, readComponents_eq_error_iff]
    constructor
    case mp =>
      rintro ⟨before, part, behind, cut, fine, broken, rfl⟩
      exact ⟨_, rfl, .component few cut fine broken⟩
    case mpr =>
      rintro ⟨cause, rfl, fault⟩
      cases fault with
      | format many => exact absurd many (Nat.not_lt.2 few)
      | component few cut fine broken => exact ⟨_, _, _, cut, fine, broken, rfl⟩

theorem Numeral.toDigits (number : Nat) : Numeral (Nat.toDigits 10 number) number := by
  have numeral := @Numeral.plain (Nat.toDigits 10 number) Nat.toDigits_ne_nil
    fun digit => Nat.isDigit_of_mem_toDigits (by decide) (by decide)
  rwa [Nat.ofDigitChars_ten_toDigits] at numeral

theorem dotted_text (version : Version) :
    dotted version.text =
      version.components.map fun component => Nat.toDigits 10 component.toNat := by
  have printed : version.text.toList = List.intercalate ['.']
      (version.components.map fun component => Nat.toDigits 10 component.toNat) := by
    simp [Version.text, Text.natural, Function.comp_def]
  have dotless : ∀ digits ∈ version.components.map fun component => Nat.toDigits 10 component.toNat,
      '.' ∉ digits := by
    intro digits member inside
    obtain ⟨component, -, rfl⟩ := List.mem_map.1 member
    exact absurd (Nat.isDigit_of_mem_toDigits (by decide) (by decide) inside) (by decide)
  rw [dotted, printed, List.splitOn_intercalate '.' dotless (by simp [Version.components])]

/-- The text of a version denotes it. -/
theorem denotes_text (version : Version) : Denotes version.text version := by
  have length : (dotted version.text).length = version.components.length := by
    rw [dotted_text, List.length_map]
  refine ⟨length.le, ?numbers, ?zeros⟩
  case numbers =>
    rw [length, List.take_length, dotted_text, List.forall₂_map_left_iff,
      List.forall₂_map_right_iff, List.forall₂_same]
    exact fun component _ => .toDigits component.toNat
  case zeros =>
    rw [length, List.drop_length]
    exact nofun

theorem Denotes.isVersion (denotes : Denotes text version) : IsVersion text := by
  refine ⟨List.length_pos_iff.2 ?_, denotes.few, ?_⟩
  · rw [dotted, ← Text.pieces_eq_splitOn]
    exact Text.pieces_ne_nil '.' text.toList
  · intro part member
    obtain ⟨index, inside, rfl⟩ := List.getElem_of_mem member
    obtain ⟨same, numerals⟩ := List.forall₂_iff_get.1 denotes.numbers
    have numeral := numerals index inside (same ▸ inside)
    simp only [List.get_eq_getElem, List.getElem_map] at numeral
    exact ⟨_, Nat.le_of_lt_succ (UInt16.toNat_lt _), numeral⟩

theorem IsVersion.not_fault (isVersion : IsVersion text) (cause : Malformation) :
    ¬ Fault text cause := by
  obtain ⟨-, few, all⟩ := isVersion
  intro fault
  cases fault with
  | format many => exact absurd many (Nat.not_lt.2 few)
  | component few cut fine broken => exact broken (all _ (by simp [cut]))

/-- A version is read back from its text, which no other version shares. A text is read exactly if
its parts, one to four, are numerals of numbers with 16 bits; these are the components of what is
read, in order, and the missing ones are zero. Any other text is malformed, and the cause is its
first fault. -/
theorem parse_exact :
    (∀ version, parse version.text = .ok version) ∧ Function.Injective Version.text ∧
      ∀ text,
        ((∃ version, parse text = .ok version) ↔ IsVersion text) ∧
        (∀ version, parse text = .ok version ↔ Denotes text version) ∧
        (∀ error, parse text = .error error ↔
          ∃ cause, error = .malformed cause ∧ Fault text cause) := by
  have readBack : ∀ version, parse version.text = .ok version :=
    fun version => (denotes_text version).parse_eq
  refine ⟨readBack, ?injective, fun text => ⟨⟨?sound, ?complete⟩, fun version => parse_eq_ok_iff,
    fun error => parse_eq_error_iff⟩⟩
  case injective =>
    intro version other same
    exact Except.ok.inj ((readBack version).symm.trans (same ▸ readBack other))
  case sound =>
    rintro ⟨version, parsed⟩
    exact (Denotes.of_parse parsed).isVersion
  case complete =>
    intro isVersion
    cases parsed : parse text with
    | ok version => exact ⟨version, rfl⟩
    | error error =>
      obtain ⟨cause, -, fault⟩ := parse_eq_error_iff.1 parsed
      exact absurd fault (isVersion.not_fault cause)

/-- Zeros and a plus sign may stand in front, and what is missing is zero. An empty part is none. -/
example : parse "3.+07" = .ok ⟨3, 7, 0, 0⟩ ∧
    parse "3..1" = .error (.malformed (.versionComponent "")) :=
  ⟨by cbv, by cbv⟩

end Version
end Retrofit
