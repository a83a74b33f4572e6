import CppTemplates.Literal.Leaf
import CppTemplates.Proofs.Literal.Grammar

/-!
# Reading back the spelling of a value

The literal leaf of a value reads back as the value, the backslash character excepted.  For integers
that means that decimal digits with a sign in front and a suffix behind are a literal of the
grammar: a numeral that is not zero does not start with a zero, so it is a decimal one.
-/

namespace CppTemplates

namespace IntegerLiteral

theorem Spells.snoc {base number digit : Nat} {text : List Char} {c : Char}
    (spells : Spells base text number) (isDigit : IsDigit base c digit) :
    Spells base (text ++ [c]) (number * base + digit) := by
  obtain ⟨digits, spells, rfl⟩ := spells
  refine ⟨digits ++ [digit], List.rel_append spells (.cons isDigit .nil), ?_⟩
  rw [List.reverse_append, List.reverse_singleton, List.singleton_append, Nat.ofDigits_cons]
  ring

/-- The decimal digits of a number spell the number. -/
theorem spells_toDigits (number : Nat) : Spells 10 (Nat.toDigits 10 number) number := by
  induction number using Nat.strongRecOn with
  | ind number ih =>
      by_cases small : number < 10
      · rw [Nat.toDigits_of_lt_base small]
        exact ⟨[number], .cons ⟨small, Or.inl rfl⟩ .nil, by simp⟩
      · have last : IsDigit 10 (number % 10).digitChar (number % 10) :=
          ⟨Nat.mod_lt number (by omega), Or.inl rfl⟩
        have whole : number / 10 * 10 + number % 10 = number := Nat.div_add_mod' number 10
        have spells := (ih (number / 10) (by omega)).snoc last
        rwa [whole, ← Nat.toDigits_of_base_le (by omega) (by omega)] at spells

theorem head?_toDigits_ne_zero {number : Nat} (positive : 0 < number) :
    (Nat.toDigits 10 number).head? ≠ some '0' := by
  induction number using Nat.strongRecOn with
  | ind number ih =>
      by_cases small : number < 10
      · rw [Nat.toDigits_of_lt_base small]
        have all : ∀ digit < 10, 0 < digit → Nat.digitChar digit ≠ '0' := by decide
        simpa using all number small positive
      · rw [Nat.toDigits_of_base_le (by omega) (by omega)]
        have quotient := ih (number / 10) (by omega) (by omega)
        cases digits : Nat.toDigits 10 (number / 10) with
        | nil => exact absurd digits Nat.toDigits_ne_nil
        | cons head tail => simpa [digits] using quotient

theorem isNumeral_toDigits (number : Nat) : IsNumeral (Nat.toDigits 10 number) number := by
  by_cases positive : 0 < number
  · exact .decimal Nat.toDigits_ne_nil (head?_toDigits_ne_zero positive) (spells_toDigits number)
  · obtain rfl : number = 0 := by omega
    exact .zero

/-- The decimal text of an integer and a suffix are a literal. -/
def Parts.ofRepr (number : Int) {text suffix : List Char}
    (text_eq : text = number.repr.toList ++ suffix) (suffix_length : suffix.length ≤ 3)
    (suffix_mem : ∀ c ∈ suffix, c ∈ ['u', 'U', 'l', 'L']) : Parts text where
  isNegative := number < 0
  numeral := Nat.toDigits 10 number.natAbs
  number := number.natAbs
  suffix := suffix
  isNumeral := isNumeral_toDigits number.natAbs
  suffix_length := suffix_length
  suffix_mem := suffix_mem
  text_eq := by
    rw [text_eq]
    cases number with
    | ofNat magnitude => simp [Int.repr, Nat.toList_repr]
    | negSucc magnitude => simp [Int.repr, Nat.toList_repr, Int.natAbs]

theorem Parts.integer_ofRepr {number : Int} (bounded : number.natAbs ≤ 2 ^ 64 - 1)
    {text suffix : List Char} (text_eq : text = number.repr.toList ++ suffix)
    (suffix_length : suffix.length ≤ 3) (suffix_mem : ∀ c ∈ suffix, c ∈ ['u', 'U', 'l', 'L']) :
    (ofRepr number text_eq suffix_length suffix_mem).integer = number := by
  have magnitude : (ofRepr number text_eq suffix_length suffix_mem).magnitude = number.natAbs :=
    Nat.min_eq_left bounded
  unfold integer
  rw [magnitude]
  simp only [ofRepr, decide_eq_true_eq]
  split <;> omega

end IntegerLiteral

/-- Every value stands for an integer that 64 bits and a sign can hold. -/
theorem Value.natAbs_toInt_le (value : Value) : value.toInt.natAbs ≤ 2 ^ 64 - 1 := by
  have range : -(2 ^ 64 - 1) ≤ value.kind.least ∧ value.kind.greatest ≤ 2 ^ 64 - 1 := by
    cases value.kind <;> decide
  have least := value.least_le_toInt
  have greatest := value.toInt_le_greatest
  omega

/-- The decimal text of the integer that a value stands for reads as the value, if the suffix
chooses its kind. -/
theorem Value.parseIntegerLiteral_repr {value : Value} {suffix : String}
    (suffix_length : suffix.toList.length ≤ 3)
    (suffix_mem : ∀ c ∈ suffix.toList, c ∈ ['u', 'U', 'l', 'L'])
    (kind : IntegerLiteral.suffixKind suffix.toList = value.kind) (span : FileSpan) :
    parseIntegerLiteral (value.toInt.repr ++ suffix) span = .ok value := by
  have literal := parseIntegerLiteral_of_parts
    (.ofRepr value.toInt String.toList_append suffix_length suffix_mem) span
  rw [IntegerLiteral.Parts.integer_ofRepr value.natAbs_toInt_le] at literal
  change _ = Except.ok (ofInt (IntegerLiteral.suffixKind suffix.toList) value.toInt) at literal
  rwa [kind, ofInt_toInt] at literal

/-- A character up to the last of the first 256 code points reads as its byte, unless it is a
backslash. -/
theorem parseCharacterLiteral_quoted {byte : BitVec 8} (notBackslash : byte ≠ 92)
    (span : FileSpan) :
    parseCharacterLiteral (String.ofList ['\'', Char.ofNat byte.toNat, '\'']) span =
      .ok (.character byte) := by
  have small : byte.toNat < 256 := byte.isLt
  have isValid : byte.toNat.isValidChar := Or.inl (by omega)
  have codePoint : (Char.ofNat byte.toNat).toNat = byte.toNat := by
    rw [Char.ofNat, dif_pos isValid]
    rfl
  have notEscape : Char.ofNat byte.toNat ≠ '\\' := by
    intro same
    rw [same] at codePoint
    exact notBackslash (BitVec.eq_of_toNat_eq codePoint.symm)
  have fits : CharacterLiteral.ofChar? (Char.ofNat byte.toNat) = some (.character byte) := by
    rw [CharacterLiteral.ofChar?, codePoint, if_pos (by omega), BitVec.ofNat_toNat]
    simp
  simp [parseCharacterLiteral, CharacterLiteral.unquote?, fits]

/-- Every value but the backslash is what the literal leaf that spells it reads as. -/
theorem Value.literalValue_literalLeaf {value : Value} (notBackslash : value ≠ .character 92)
    {leaf : Node} (kind : leaf.kind = value.literalLeaf.kind)
    (text : leaf.text = value.literalLeaf.text) : leaf.literalValue = .ok value := by
  unfold Node.literalValue
  rw [text, kind]
  cases value with
  | signedInt bits =>
      have noSuffix : IntegerLiteral.suffixKind "".toList = .signedInt := by decide
      have reads := (signedInt bits).parseIntegerLiteral_repr (by decide) (by simp) noSuffix
        leaf.span
      rwa [String.append_empty] at reads
  | unsignedInt bits =>
      have suffix : IntegerLiteral.suffixKind "U".toList = .unsignedInt := by decide
      exact (unsignedInt bits).parseIntegerLiteral_repr (by decide) (by simp) suffix leaf.span
  | signedLong bits =>
      have suffix : IntegerLiteral.suffixKind "L".toList = .signedLong := by decide
      exact (signedLong bits).parseIntegerLiteral_repr (by decide) (by simp) suffix leaf.span
  | unsignedLong bits =>
      have suffix : IntegerLiteral.suffixKind "LU".toList = .unsignedLong := by decide
      exact (unsignedLong bits).parseIntegerLiteral_repr (by decide) (by simp) suffix leaf.span
  | character bits =>
      have notCode : bits ≠ 92 := fun same => notBackslash (by rw [same])
      have notCodeNat : bits.toNat ≠ '\\'.toNat := fun same =>
        notCode (BitVec.eq_of_toNat_eq same)
      simp only [literalLeaf, literalKind, literalText, if_neg notCodeNat]
      exact parseCharacterLiteral_quoted notCode leaf.span
  | bool truth => cases truth <;> simp [literalLeaf, literalKind, literalText]

end CppTemplates
