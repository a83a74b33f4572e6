import Mathlib
import CppTemplates.Literal.Integer
import CppTemplates.Proofs.Value.Kinds

/-!
# The grammar of integer literals

An integer literal is an optional minus sign, a numeral and a suffix.  The grammar says so without
a scanner: which characters are digits, which texts are numerals of which number, and how a text may
be put together.  A text is read exactly if the grammar has it, and the value is that of the number.

Reading goes through the text from both ends.  The suffix is split off first, character by
character; no character of a numeral may stand in a suffix, so the split stops where the numeral
ends.  The digits are read onto a number that never exceeds 64 bits.  The bound may be applied after
every digit or once at the end, because a number that is too great stays too great.
-/

namespace CppTemplates

namespace IntegerLiteral

/-- The character is a digit of the base, in lower or upper case. -/
def IsDigit (base : Nat) (c : Char) (digit : Nat) : Prop :=
  digit < base ∧ (c = digit.digitChar ∨ c = digit.digitChar.toUpper)

/-- The characters are the digits of a number, the most significant one first. -/
def Spells (base : Nat) (text : List Char) (number : Nat) : Prop :=
  ∃ digits, List.Forall₂ (IsDigit base) text digits ∧ number = Nat.ofDigits base digits.reverse

/-- Numerals and their numbers. -/
inductive IsNumeral : List Char → Nat → Prop where
  | hexadecimal {marker : Char} {digits : List Char} {number : Nat}
      (isMarker : marker = 'x' ∨ marker = 'X') (nonempty : digits ≠ [])
      (spells : Spells 16 digits number) : IsNumeral ('0' :: marker :: digits) number
  | octal {digits : List Char} {number : Nat} (nonempty : digits ≠ [])
      (spells : Spells 8 digits number) : IsNumeral ('0' :: digits) number
  | zero : IsNumeral ['0'] 0
  | decimal {digits : List Char} {number : Nat} (nonempty : digits ≠ [])
      (notZero : digits.head? ≠ some '0') (spells : Spells 10 digits number) :
      IsNumeral digits number

/-- The parts that a text is put together from, if it is an integer literal. -/
structure Parts (text : List Char) where
  isNegative : Bool
  numeral : List Char
  number : Nat
  suffix : List Char
  isNumeral : IsNumeral numeral number
  suffix_length : suffix.length ≤ 3
  suffix_mem : ∀ c ∈ suffix, c ∈ ['u', 'U', 'l', 'L']
  text_eq : text = (if isNegative then ['-'] else []) ++ numeral ++ suffix

def integerKind (isLong isUnsigned : Bool) : ValueKind :=
  match isLong, isUnsigned with
  | true, true => .unsignedLong
  | true, false => .signedLong
  | false, true => .unsignedInt
  | false, false => .signedInt

/-- The kind that a suffix chooses. -/
def suffixKind (suffix : List Char) : ValueKind :=
  integerKind ('l' ∈ suffix ∨ 'L' ∈ suffix) ('u' ∈ suffix ∨ 'U' ∈ suffix)

namespace Parts

variable {text : List Char} (literal : Parts text)

/-- What the suffix of a literal follows. -/
def body : List Char :=
  (if literal.isNegative then ['-'] else []) ++ literal.numeral

/-- The number that the digits spell, of at most 64 bits. -/
def magnitude : Nat :=
  min literal.number (2 ^ 64 - 1)

/-- The integer that a literal spells. -/
def integer : Int :=
  if literal.isNegative then -literal.magnitude else literal.magnitude

end Parts

@[elab_as_elim]
theorem IsDigit.elim {motive : Char → Nat → Prop} {base : Nat} {c : Char} {digit : Nat}
    (isDigit : IsDigit base c digit)
    (all : ∀ digit < base, motive digit.digitChar digit ∧ motive digit.digitChar.toUpper digit) :
    motive c digit := by
  obtain ⟨small, rfl | rfl⟩ := isDigit
  · exact (all digit small).1
  · exact (all digit small).2

theorem IsDigit.mono {base greater : Nat} (le : base ≤ greater) {c : Char} {digit : Nat}
    (isDigit : IsDigit base c digit) : IsDigit greater c digit :=
  ⟨Nat.lt_of_lt_of_le isDigit.1 le, isDigit.2⟩

theorem digitValue?_of_isDigit {c : Char} {digit : Nat} (isDigit : IsDigit 16 c digit) :
    digitValue? c = some digit :=
  isDigit.elim (by decide)

theorem isDigit_of_digitValue? {c : Char} {digit : Nat} (value : digitValue? c = some digit) :
    IsDigit 16 c digit := by
  have decimal : ∀ digit < 10, (Nat.digitChar digit).toNat = 48 + digit := by decide
  have lower : ∀ digit < 16, 10 ≤ digit → (Nat.digitChar digit).toNat = 87 + digit := by decide
  have upper : ∀ digit < 16, 10 ≤ digit → (Nat.digitChar digit).toUpper.toNat = 55 + digit := by
    decide
  unfold digitValue? at value
  simp only [Char.le_def, UInt32.le_iff_toNat_le] at value
  change (if 48 ≤ c.toNat ∧ c.toNat ≤ 57 then some (c.toNat - 48)
    else if 97 ≤ c.toNat ∧ c.toNat ≤ 102 then some (c.toNat - 97 + 10)
    else if 65 ≤ c.toNat ∧ c.toNat ≤ 70 then some (c.toNat - 65 + 10)
    else none) = some digit at value
  split_ifs at value with isDecimal isLower isUpper
  · obtain rfl := Option.some.inj value
    refine ⟨by omega, Or.inl (Char.toNat_inj.mp ?_)⟩
    rw [decimal _ (by omega)]
    omega
  · obtain rfl := Option.some.inj value
    refine ⟨by omega, Or.inl (Char.toNat_inj.mp ?_)⟩
    rw [lower _ (by omega) (by omega)]
    omega
  · obtain rfl := Option.some.inj value
    refine ⟨by omega, Or.inr (Char.toNat_inj.mp ?_)⟩
    rw [upper _ (by omega) (by omega)]
    omega

theorem digit?_eq_some_iff {base : Nat} (bounded : base ≤ 16) {c : Char} {digit : Nat} :
    digit? base c = some digit ↔ IsDigit base c digit := by
  rw [digit?, Option.filter_eq_some_iff, decide_eq_true_iff]
  constructor
  · rintro ⟨value, small⟩
    exact ⟨small, (isDigit_of_digitValue? value).2⟩
  · intro isDigit
    exact ⟨digitValue?_of_isDigit (isDigit.mono bounded), isDigit.1⟩

theorem IsDigit.isSuffix_eq_false {base : Nat} (bounded : base ≤ 16) {c : Char} {digit : Nat}
    (isDigit : IsDigit base c digit) : isSuffix c = false ∧ c ≠ '-' :=
  (isDigit.mono bounded).elim (by decide)

/-- A number that is too great stays too great when another digit follows. -/
theorem min_mul_add {base digit : Nat} (small : digit < base) (number : Nat) :
    min maxMagnitude (min maxMagnitude number * base + digit) =
      min maxMagnitude (number * base + digit) := by
  by_cases bounded : number ≤ maxMagnitude
  · rw [Nat.min_eq_right bounded]
  · have least : maxMagnitude ≤ maxMagnitude * base := Nat.le_mul_of_pos_right _ (by omega)
    have greater : maxMagnitude * base ≤ number * base := Nat.mul_le_mul_right base (by omega)
    rw [Nat.min_eq_left (by omega : maxMagnitude ≤ number), Nat.min_eq_left (by omega),
      Nat.min_eq_left (by omega)]

/-- Bounding the number after every digit comes to bounding it at the end. -/
theorem readDigits_of_forall₂ {base : Nat} (bounded : base ≤ 16) {text : List Char}
    {digits : List Nat} (spells : List.Forall₂ (IsDigit base) text digits) (start : Nat) :
    readDigits base (min maxMagnitude start) text =
      some (min maxMagnitude (start * base ^ text.length + Nat.ofDigits base digits.reverse)) := by
  induction spells generalizing start with
  | nil => simp [readDigits]
  | @cons c digit text digits isDigit rest ih =>
      have next : (start * base + digit) * base ^ text.length +
            Nat.ofDigits base digits.reverse =
          start * base ^ (c :: text).length + Nat.ofDigits base (digit :: digits).reverse := by
        rw [Nat.ofDigits_reverse_cons, rest.length_eq, List.length_cons, rest.length_eq]
        ring
      simp only [readDigits, (digit?_eq_some_iff bounded).mpr isDigit, Option.bind_eq_bind,
        Option.bind_some]
      rw [min_mul_add isDigit.1, ih, next]

theorem exists_forall₂_of_readDigits {base : Nat} (bounded : base ≤ 16) {text : List Char}
    {start magnitude : Nat} (read : readDigits base start text = some magnitude) :
    ∃ digits, List.Forall₂ (IsDigit base) text digits := by
  induction text generalizing start with
  | nil => exact ⟨[], .nil⟩
  | cons c text ih =>
      obtain ⟨digit, value, rest⟩ := Option.bind_eq_some_iff.mp read
      obtain ⟨digits, spells⟩ := ih rest
      exact ⟨digit :: digits, .cons ((digit?_eq_some_iff bounded).mp value) spells⟩

theorem magnitude?_eq_some_iff {base : Nat} (bounded : base ≤ 16) {text : List Char}
    {magnitude : Nat} :
    magnitude? base text = some magnitude ↔
      text ≠ [] ∧ ∃ number, Spells base text number ∧ magnitude = min maxMagnitude number := by
  have reads {digits : List Nat} (spells : List.Forall₂ (IsDigit base) text digits) :
      readDigits base 0 text = some (min maxMagnitude (Nat.ofDigits base digits.reverse)) := by
    simpa using readDigits_of_forall₂ bounded spells 0
  rw [magnitude?, Option.ite_none_left_eq_some, List.isEmpty_iff]
  refine and_congr_right fun _ => ⟨fun read => ?_, ?_⟩
  · obtain ⟨digits, spells⟩ := exists_forall₂_of_readDigits bounded read
    rw [reads spells] at read
    exact ⟨_, ⟨digits, spells, rfl⟩, (Option.some.inj read).symm⟩
  · rintro ⟨number, ⟨digits, spells, rfl⟩, rfl⟩
    exact reads spells

theorem Spells.isSuffix_eq_false {base : Nat} (bounded : base ≤ 16) {text : List Char}
    {number : Nat} (spells : Spells base text number) {c : Char} (member : c ∈ text) :
    isSuffix c = false ∧ c ≠ '-' := by
  obtain ⟨digits, spells, -⟩ := spells
  induction spells with
  | nil => cases member
  | cons isDigit rest ih =>
      rcases List.mem_cons.mp member with rfl | member
      · exact isDigit.isSuffix_eq_false bounded
      · exact ih member

theorem IsNumeral.ne_nil {text : List Char} {number : Nat} (isNumeral : IsNumeral text number) :
    text ≠ [] := by
  cases isNumeral with
  | decimal nonempty => exact nonempty
  | _ => exact List.cons_ne_nil _ _

theorem IsNumeral.isSuffix_eq_false {text : List Char} {number : Nat}
    (isNumeral : IsNumeral text number) {c : Char} (member : c ∈ text) :
    isSuffix c = false ∧ c ≠ '-' := by
  cases isNumeral with
  | hexadecimal isMarker nonempty spells =>
      rcases List.mem_cons.mp member with rfl | member
      · decide
      · rcases List.mem_cons.mp member with rfl | member
        · rcases isMarker with rfl | rfl <;> decide
        · exact spells.isSuffix_eq_false (by decide) member
  | octal nonempty spells =>
      rcases List.mem_cons.mp member with rfl | member
      · decide
      · exact spells.isSuffix_eq_false (by decide) member
  | zero =>
      obtain rfl := List.mem_singleton.mp member
      decide
  | decimal nonempty notZero spells => exact spells.isSuffix_eq_false (by decide) member

theorem splitBase_of_head?_ne {text : List Char} (notZero : text.head? ≠ some '0') :
    splitBase text = (10, text) := by
  unfold splitBase
  split <;> simp at notZero ⊢

/-- The marker of the base sixteen is no octal digit. -/
theorem Spells.splitBase_octal {digits : List Char} {number : Nat} (nonempty : digits ≠ [])
    (spells : Spells 8 digits number) : splitBase ('0' :: digits) = (8, digits) := by
  obtain ⟨values, spells, -⟩ := spells
  cases spells with
  | nil => exact absurd rfl nonempty
  | @cons c digit _ _ isDigit rest =>
      have noMarker : c ≠ 'x' ∧ c ≠ 'X' := isDigit.elim (by decide)
      unfold splitBase
      split <;> simp_all

theorem IsNumeral.magnitude?_splitBase {text : List Char} {number : Nat}
    (isNumeral : IsNumeral text number) :
    magnitude? (splitBase text).1 (splitBase text).2 = some (min maxMagnitude number) := by
  cases isNumeral with
  | hexadecimal isMarker nonempty spells =>
      have digits := (magnitude?_eq_some_iff (by simp)).mpr ⟨nonempty, number, spells, rfl⟩
      rcases isMarker with rfl | rfl
      · exact digits
      · exact digits
  | octal nonempty spells =>
      rw [spells.splitBase_octal nonempty]
      exact (magnitude?_eq_some_iff (by simp)).mpr ⟨nonempty, number, spells, rfl⟩
  | zero => rfl
  | decimal nonempty notZero spells =>
      rw [splitBase_of_head?_ne notZero]
      exact (magnitude?_eq_some_iff (by simp)).mpr ⟨nonempty, number, spells, rfl⟩

theorem exists_isNumeral_of_magnitude? {text : List Char} {magnitude : Nat}
    (read : magnitude? (splitBase text).1 (splitBase text).2 = some magnitude) :
    ∃ number, IsNumeral text number := by
  unfold splitBase at read
  split at read
  · obtain ⟨nonempty, number, spells, -⟩ := (magnitude?_eq_some_iff (by simp)).mp read
    exact ⟨number, .hexadecimal (Or.inl rfl) nonempty spells⟩
  · obtain ⟨nonempty, number, spells, -⟩ := (magnitude?_eq_some_iff (by simp)).mp read
    exact ⟨number, .hexadecimal (Or.inr rfl) nonempty spells⟩
  · obtain ⟨nonempty, number, spells, -⟩ := (magnitude?_eq_some_iff (by simp)).mp read
    exact ⟨number, .octal nonempty spells⟩
  · next noPrefix =>
    obtain ⟨nonempty, number, spells, -⟩ := (magnitude?_eq_some_iff (by simp)).mp read
    by_cases leadingZero : text.head? = some '0'
    · obtain ⟨rest, rfl⟩ := List.head?_eq_some_iff.mp leadingZero
      cases rest with
      | nil => exact ⟨0, .zero⟩
      | cons c rest => exact absurd rfl (noPrefix c rest)
    · exact ⟨number, .decimal nonempty leadingZero spells⟩

theorem isSuffix_iff {c : Char} : isSuffix c ↔ c ∈ ['u', 'U', 'l', 'L'] := by
  simp [isSuffix, isLongSuffix, isUnsignedSuffix]
  tauto

theorem splitSuffix_append {budget : Nat} {suffix rest : List Char}
    (suffixes : ∀ c ∈ suffix, isSuffix c = true) (short : suffix.length ≤ budget)
    (stops : ∀ c ∈ rest.head?, isSuffix c = false) :
    splitSuffix budget (suffix ++ rest) = (suffix, rest) := by
  induction suffix generalizing budget with
  | nil =>
      cases budget with
      | zero => cases rest <;> rfl
      | succ budget =>
          cases rest with
          | nil => rfl
          | cons c rest => simp [splitSuffix, stops c (by simp)]
  | cons c suffix ih =>
      cases budget with
      | zero => simp at short
      | succ budget =>
          have tail : splitSuffix budget (suffix ++ rest) = (suffix, rest) :=
            ih (fun other member => suffixes other (List.mem_cons_of_mem c member))
              (by simpa using short)
          simp [splitSuffix, suffixes c (by simp), tail]

theorem any_eq_or_eq (suffix : List Char) (lower upper : Char) :
    suffix.any (fun c => c = lower || c = upper) = decide (lower ∈ suffix ∨ upper ∈ suffix) := by
  rw [Bool.eq_iff_iff, List.any_eq_true, decide_eq_true_iff]
  simp [and_or_left, exists_or]

theorem splitSuffix_spec (budget : Nat) (text : List Char) :
    text = (splitSuffix budget text).1 ++ (splitSuffix budget text).2 ∧
      (splitSuffix budget text).1.length ≤ budget ∧
      ∀ c ∈ (splitSuffix budget text).1, isSuffix c = true := by
  fun_induction splitSuffix budget text with
  | case1 budget c rest isSuffix suffix body split ih =>
      rw [split] at ih
      obtain ⟨whole, short, suffixes⟩ := ih
      refine ⟨congrArg (c :: ·) whole, Nat.succ_le_succ short, ?_⟩
      exact List.forall_mem_cons.mpr ⟨isSuffix, suffixes⟩
  | case2 budget c rest noSuffix => simp
  | case3 budget text none => simp

/-- An integer of a 32-bit kind survives being read with 64 bits. -/
theorem ofBits_ofInt (isLong isUnsigned : Bool) (n : Int) :
    ofBits isLong isUnsigned (BitVec.ofInt 64 n) = .ofInt (integerKind isLong isUnsigned) n := by
  have narrow : (BitVec.ofInt 64 n).setWidth 32 = BitVec.ofInt 32 n := by
    apply BitVec.eq_of_toNat_eq
    simp only [BitVec.toNat_setWidth, BitVec.toNat_ofInt]
    omega
  cases isLong <;> cases isUnsigned <;> simp [ofBits, integerKind, Value.ofInt, narrow]

theorem ofInt_magnitude (isNegative : Bool) (magnitude : Nat) :
    (if isNegative then -BitVec.ofNat 64 magnitude else BitVec.ofNat 64 magnitude) =
      BitVec.ofInt 64 (if isNegative then -magnitude else magnitude) := by
  cases isNegative <;> simp [BitVec.ofInt_neg]

theorem suffixKind_ne_bool (suffix : List Char) : suffixKind suffix ≠ .bool := by
  have all : ∀ isLong isUnsigned, integerKind isLong isUnsigned ≠ .bool := by decide
  exact all _ _

namespace Parts

variable {text : List Char}

/-- The suffix is all that is split off, because it follows the last character of a numeral. -/
theorem splitSuffix_eq (literal : Parts text) :
    splitSuffix 3 text.reverse = (literal.suffix.reverse, literal.body.reverse) := by
  have whole : text.reverse = literal.suffix.reverse ++ literal.body.reverse := by
    rw [← List.reverse_append, body, ← literal.text_eq]
  have suffixes : ∀ c ∈ literal.suffix.reverse, isSuffix c = true := fun c member =>
    isSuffix_iff.mpr (literal.suffix_mem c (List.mem_reverse.mp member))
  have stops : ∀ c ∈ literal.body.reverse.head?, isSuffix c = false := by
    intro c atEnd
    rw [List.head?_reverse, body,
      List.getLast?_append_of_ne_nil _ literal.isNumeral.ne_nil] at atEnd
    exact (literal.isNumeral.isSuffix_eq_false (List.mem_of_getLast? atEnd)).1
  rw [whole]
  exact splitSuffix_append suffixes (by simpa using literal.suffix_length) stops

/-- A minus sign is the sign of the literal, because no numeral starts with one. -/
theorem head?_body_eq_iff (literal : Parts text) :
    literal.body.head? = some '-' ↔ literal.isNegative := by
  have noSign : literal.numeral.head? ≠ some '-' := fun atHead =>
    (literal.isNumeral.isSuffix_eq_false (List.mem_of_head? atHead)).2 rfl
  cases sign : literal.isNegative <;> simp [body, sign, noSign]

/-- A literal of the grammar is read as its integer. -/
theorem read?_eq (literal : Parts text) :
    read? text = some (.ofInt (suffixKind literal.suffix) literal.integer) := by
  have isLong : literal.suffix.reverse.any isLongSuffix =
      decide ('l' ∈ literal.suffix ∨ 'L' ∈ literal.suffix) := by
    rw [List.any_reverse]
    exact any_eq_or_eq literal.suffix 'l' 'L'
  have isUnsigned : literal.suffix.reverse.any isUnsignedSuffix =
      decide ('u' ∈ literal.suffix ∨ 'U' ∈ literal.suffix) := by
    rw [List.any_reverse]
    exact any_eq_or_eq literal.suffix 'u' 'U'
  have unsigned : (if literal.isNegative then literal.body.tail else literal.body) =
      literal.numeral := by
    cases sign : literal.isNegative <;> simp [body, sign]
  have magnitude : magnitude? (splitBase literal.numeral).1 (splitBase literal.numeral).2 =
      some literal.magnitude := by
    rw [literal.isNumeral.magnitude?_splitBase, Nat.min_comm]
    rfl
  unfold read?
  simp only [literal.splitSuffix_eq, List.reverse_reverse, head?_body_eq_iff, unsigned, magnitude,
    Option.bind_eq_bind, Option.bind_some, isLong, isUnsigned, ofInt_magnitude, ofBits_ofInt]
  rfl

end Parts

theorem nonempty_parts_of_read? {text : List Char} {value : Value}
    (read : read? text = some value) : Nonempty (Parts text) := by
  obtain ⟨whole, short, suffixes⟩ := splitSuffix_spec 3 text.reverse
  unfold read? at read
  generalize splitSuffix 3 text.reverse = split at *
  obtain ⟨suffix, body⟩ := split
  obtain ⟨magnitude, read, -⟩ := Option.bind_eq_some_iff.mp read
  obtain ⟨number, isNumeral⟩ := exists_isNumeral_of_magnitude? read
  have text_eq : text = body.reverse ++ suffix.reverse := by
    rw [← List.reverse_append, ← whole, List.reverse_reverse]
  have suffix_mem : ∀ c ∈ suffix.reverse, c ∈ ['u', 'U', 'l', 'L'] := fun c member =>
    isSuffix_iff.mp (suffixes c (List.mem_reverse.mp member))
  have suffix_length : suffix.reverse.length ≤ 3 := by simpa using short
  by_cases isNegative : body.reverse.head? = some '-'
  · obtain ⟨numeral, body_eq⟩ := List.head?_eq_some_iff.mp isNegative
    rw [body_eq] at isNumeral text_eq
    exact ⟨⟨true, numeral, number, suffix.reverse, isNumeral, suffix_length, suffix_mem, text_eq⟩⟩
  · simp only [isNegative, if_false] at isNumeral
    exact ⟨⟨false, body.reverse, number, suffix.reverse, isNumeral, suffix_length, suffix_mem,
      text_eq⟩⟩

end IntegerLiteral

theorem parseIntegerLiteral_of_parts {text : String} (literal : IntegerLiteral.Parts text.toList)
    (span : FileSpan) :
    parseIntegerLiteral text span =
      .ok (.ofInt (IntegerLiteral.suffixKind literal.suffix) literal.integer) := by
  unfold parseIntegerLiteral
  rw [literal.read?_eq]

theorem parseIntegerLiteral_of_isEmpty {text : String}
    (noLiteral : IsEmpty (IntegerLiteral.Parts text.toList)) (span : FileSpan) :
    parseIntegerLiteral text span = .error (.malformedLiteral text span) := by
  unfold parseIntegerLiteral
  cases read : IntegerLiteral.read? text.toList with
  | none => rfl
  | some value =>
      exact (not_isEmpty_iff.mpr (IntegerLiteral.nonempty_parts_of_read? read) noLiteral).elim

/-- Integer literals are read exactly by their grammar.  A text that the grammar puts together is
read as a value of the kind that its suffix chooses, and as the integer that this kind makes of the
number the digits spell, bounded to 64 bits and with the sign of the text.  Texts that the grammar
does not put together are malformed, and no others. -/
theorem parseIntegerLiteral_accepts_grammar (text : String) (span : FileSpan) :
    (∀ literal : IntegerLiteral.Parts text.toList, ∃ value,
      parseIntegerLiteral text span = .ok value ∧
        value.kind = IntegerLiteral.suffixKind literal.suffix ∧
        value.toInt = value.kind.reduce literal.integer) ∧
    ((∃ value, parseIntegerLiteral text span = .ok value) ↔
      Nonempty (IntegerLiteral.Parts text.toList)) ∧
    (parseIntegerLiteral text span = .error (.malformedLiteral text span) ↔
      IsEmpty (IntegerLiteral.Parts text.toList)) := by
  refine ⟨fun literal => ?_, ⟨?_, ?_⟩, ⟨?_, ?_⟩⟩
  · refine ⟨_, parseIntegerLiteral_of_parts literal span, Value.kind_ofInt _ _, ?_⟩
    rw [Value.toInt_ofInt (IntegerLiteral.suffixKind_ne_bool _), Value.kind_ofInt]
  · rintro ⟨value, accepted⟩
    refine not_isEmpty_iff.mp fun noLiteral => ?_
    rw [parseIntegerLiteral_of_isEmpty noLiteral] at accepted
    cases accepted
  · rintro ⟨literal⟩
    exact ⟨_, parseIntegerLiteral_of_parts literal span⟩
  · refine fun refused => ⟨fun literal => ?_⟩
    rw [parseIntegerLiteral_of_parts literal] at refused
    cases refused
  · exact fun noLiteral => parseIntegerLiteral_of_isEmpty noLiteral span

/-- A suffix of four characters leaves one of them among the digits. -/
example (span : FileSpan) :
    parseIntegerLiteral "10ulll" span = .error (.malformedLiteral "10ulll" span) := by
  rfl

end CppTemplates
