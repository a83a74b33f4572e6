import Mathlib
import CppTemplates.Proofs.Literal.RoundTrip
import CppTemplates.Proofs.Tree.Extension

/-!
# Which texts are character literals

A text starts like a wide literal, or it is some characters between single quotes, or it is neither,
and no text is both.  What stands between the quotes decides what the text is read as.  Only one
character that fits a byte and is no backslash has a value.

Spelling a value undoes reading it.  That makes the text of a value unique: each byte but the
backslash is read from one text and from no other.
-/

namespace CppTemplates

namespace CharacterLiteral

def IsWide (text : String) : Prop :=
  ∃ rest, text.toList = 'L' :: rest ∨ text.toList = 'l' :: rest

/-- Whether a text is the given characters between single quotes. -/
def IsQuoted (text : String) (quoted : List Char) : Prop :=
  text.toList = '\'' :: (quoted ++ ['\''])

/-- What a text at a place is read as. -/
inductive Reads (text : String) (span : FileSpan) : Except EvaluationError Value → Prop where
  | wide (isWide : IsWide text) : Reads text span (.error (.unsupportedWideCharacter text span))
  | escape {rest : List Char} (isQuoted : IsQuoted text ('\\' :: rest)) :
      Reads text span (.error (.unsupportedEscapeSequence text span))
  | byte {c : Char} (isQuoted : IsQuoted text [c]) (notBackslash : c ≠ '\\')
      (isByte : c.toNat ≤ 255) : Reads text span (.ok (.ofInt .character c.toNat))
  | malformed (notWide : ¬ IsWide text) (noEscape : ¬ ∃ rest, IsQuoted text ('\\' :: rest))
      (noByte : ¬ ∃ c, IsQuoted text [c] ∧ c.toNat ≤ 255) :
      Reads text span (.error (.malformedLiteral text span))

theorem unquote?_eq_some_iff {text quoted : List Char} :
    unquote? text = some quoted ↔ text = '\'' :: (quoted ++ ['\'']) := by
  constructor
  · intro unquotes
    unfold unquote? at unquotes
    split at unquotes
    · next rest =>
      obtain ⟨closed, same⟩ := Option.ite_none_right_eq_some.mp unquotes
      obtain ⟨inner, rfl⟩ := List.getLast?_eq_some_iff.mp closed
      rw [List.dropLast_concat] at same
      rw [Option.some.inj same]
    · cases unquotes
  · rintro rfl
    simp [unquote?]

/-- A character that fits a byte is the byte read with its sign. -/
theorem ofChar?_of_le {c : Char} (isByte : c.toNat ≤ 255) :
    ofChar? c = some (.ofInt .character c.toNat) := by
  rw [ofChar?, if_pos isByte, Value.ofInt, BitVec.ofInt_natCast]

theorem ofChar?_of_not_le {c : Char} (noByte : ¬ c.toNat ≤ 255) : ofChar? c = none :=
  if_neg noByte

variable {text : String} {quoted rest : List Char} {c : Char}

namespace IsQuoted

theorem unquote?_eq (isQuoted : IsQuoted text quoted) : unquote? text.toList = some quoted :=
  unquote?_eq_some_iff.mpr isQuoted

theorem not_isWide (isQuoted : IsQuoted text quoted) : ¬ IsWide text := by
  rintro ⟨rest, wide | wide⟩
  · cases isQuoted.symm.trans wide
  · cases isQuoted.symm.trans wide

end IsQuoted

section

variable (span : FileSpan)

theorem parse_of_isWide (isWide : IsWide text) :
    parseCharacterLiteral text span = .error (.unsupportedWideCharacter text span) := by
  obtain ⟨rest, wide | wide⟩ := isWide
  · simp [parseCharacterLiteral, wide]
  · simp [parseCharacterLiteral, wide]

theorem parse_of_not_isWide (notWide : ¬ IsWide text) :
    parseCharacterLiteral text span =
      match unquote? text.toList with
      | some ('\\' :: _) => .error (.unsupportedEscapeSequence text span)
      | some [c] =>
          match ofChar? c with
          | some value => .ok value
          | none => .error (.malformedLiteral text span)
      | _ => .error (.malformedLiteral text span) := by
  unfold parseCharacterLiteral
  split
  · next rest wide => exact absurd ⟨rest, .inl wide⟩ notWide
  · next rest wide => exact absurd ⟨rest, .inr wide⟩ notWide
  · rfl

theorem parse_of_escape (isQuoted : IsQuoted text ('\\' :: rest)) :
    parseCharacterLiteral text span = .error (.unsupportedEscapeSequence text span) := by
  rw [parse_of_not_isWide span isQuoted.not_isWide, isQuoted.unquote?_eq]
  rfl

theorem parse_of_byte (isQuoted : IsQuoted text [c]) (notBackslash : c ≠ '\\')
    (isByte : c.toNat ≤ 255) :
    parseCharacterLiteral text span = .ok (.ofInt .character c.toNat) := by
  rw [parse_of_not_isWide span isQuoted.not_isWide, isQuoted.unquote?_eq]
  simp [ofChar?_of_le isByte]

theorem parse_of_malformed (notWide : ¬ IsWide text)
    (noEscape : ¬ ∃ rest, IsQuoted text ('\\' :: rest))
    (noByte : ¬ ∃ c, IsQuoted text [c] ∧ c.toNat ≤ 255) :
    parseCharacterLiteral text span = .error (.malformedLiteral text span) := by
  rw [parse_of_not_isWide span notWide]
  split
  · next rest unquotes => exact absurd ⟨rest, unquote?_eq_some_iff.mp unquotes⟩ noEscape
  · next c _ unquotes =>
    have tooGreat : ¬ c.toNat ≤ 255 := fun isByte =>
      noByte ⟨c, unquote?_eq_some_iff.mp unquotes, isByte⟩
    rw [ofChar?_of_not_le tooGreat]
  · rfl

/-- Every text is read in one of the four ways. -/
theorem reads_parse (text : String) : Reads text span (parseCharacterLiteral text span) := by
  by_cases isWide : IsWide text
  · rw [parse_of_isWide span isWide]
    exact .wide isWide
  by_cases isEscape : ∃ rest, IsQuoted text ('\\' :: rest)
  · obtain ⟨rest, isQuoted⟩ := isEscape
    rw [parse_of_escape span isQuoted]
    exact .escape isQuoted
  by_cases isByte : ∃ c, IsQuoted text [c] ∧ c.toNat ≤ 255
  · obtain ⟨c, isQuoted, isByte⟩ := isByte
    have notBackslash : c ≠ '\\' := by
      rintro rfl
      exact isEscape ⟨[], isQuoted⟩
    rw [parse_of_byte span isQuoted notBackslash isByte]
    exact .byte isQuoted notBackslash isByte
  · rw [parse_of_malformed span isWide isEscape isByte]
    exact .malformed isWide isEscape isByte

end

/-- The value of a code point is the byte read with its sign. -/
theorem eq_ofInt_iff {value : Value} {codePoint : Nat} :
    value = .ofInt .character codePoint ↔
      value.kind = .character ∧ value.toInt = (codePoint : Int).bmod 256 := by
  have toInt : (Value.ofInt .character codePoint).toInt = (codePoint : Int).bmod 256 :=
    BitVec.toInt_ofInt _
  constructor
  · rintro rfl
    exact ⟨rfl, toInt⟩
  · rintro ⟨kind, same⟩
    exact Value.eq_of_toInt_eq kind (same.trans toInt.symm)

theorem parse_eq_ok_iff {value : Value} {span : FileSpan} :
    parseCharacterLiteral text span = .ok value ↔
      ∃ c, IsQuoted text [c] ∧ c ≠ '\\' ∧ c.toNat ≤ 255 ∧ value = .ofInt .character c.toNat := by
  constructor
  · intro accepted
    have reads := reads_parse span text
    rw [accepted] at reads
    cases reads with
    | byte isQuoted notBackslash isByte => exact ⟨_, isQuoted, notBackslash, isByte, rfl⟩
  · rintro ⟨c, isQuoted, notBackslash, isByte, rfl⟩
    exact parse_of_byte span isQuoted notBackslash isByte

theorem toNat_ofInt_of_le {codePoint : Nat} (isByte : codePoint ≤ 255) :
    (BitVec.ofInt 8 codePoint).toNat = codePoint := by
  rw [BitVec.ofInt_natCast, BitVec.toNat_ofNat]
  omega

theorem literalText_of_parse {value : Value} {span : FileSpan}
    (accepted : parseCharacterLiteral text span = .ok value) : value.literalText = text := by
  obtain ⟨c, isQuoted, notBackslash, isByte, rfl⟩ := parse_eq_ok_iff.mp accepted
  have notCode : c.toNat ≠ '\\'.toNat := fun same => notBackslash (Char.toNat_inj.mp same)
  rw [Value.ofInt, Value.literalText, toNat_ofInt_of_le isByte, if_neg notCode, Char.ofNat_toNat]
  exact String.ext (String.toList_ofList.trans isQuoted.symm)

/-- The characters that are read are those of bytes other than the backslash. -/
theorem exists_parse_iff {value : Value} {span : FileSpan} :
    (∃ spelling, parseCharacterLiteral spelling span = .ok value) ↔
      value.kind = .character ∧ value ≠ .character 92 := by
  constructor
  · rintro ⟨spelling, accepted⟩
    obtain ⟨c, -, notBackslash, isByte, rfl⟩ := parse_eq_ok_iff.mp accepted
    refine ⟨rfl, fun same => notBackslash (Char.toNat_inj.mp ?_)⟩
    have code := congrArg BitVec.toNat (Value.character.inj same)
    rwa [toNat_ofInt_of_le isByte] at code
  · rintro ⟨kind, notBackslash⟩
    cases value with
    | character byte =>
        have notCode : byte ≠ 92 := fun same => notBackslash (congrArg Value.character same)
        exact ⟨_, parseCharacterLiteral_quoted notCode span⟩
    | _ => cases kind

end CharacterLiteral

open CharacterLiteral in
/-- Every text is classified as a character literal.  If it starts like a wide literal it is
unsupported as one; otherwise it is an escape sequence if a backslash follows the opening quote, has
a value if exactly one character of at most the code point 255 stands between the quotes, and is
malformed in all other cases.  The value is that code point read as a signed byte.

Spelling undoes reading: the literal leaf of the value has the text that was read.  So each
character value but the backslash is read from exactly one text, and no other value is read. -/
theorem parseCharacterLiteral_classifies (text : String) (span : FileSpan) :
    (parseCharacterLiteral text span = .error (.unsupportedWideCharacter text span) ↔
      IsWide text) ∧
    (parseCharacterLiteral text span = .error (.unsupportedEscapeSequence text span) ↔
      ∃ rest, IsQuoted text ('\\' :: rest)) ∧
    (∀ value, parseCharacterLiteral text span = .ok value ↔
      ∃ c, IsQuoted text [c] ∧ c ≠ '\\' ∧ c.toNat ≤ 255 ∧
        value.kind = .character ∧ value.toInt = (c.toNat : Int).bmod 256) ∧
    (parseCharacterLiteral text span = .error (.malformedLiteral text span) ↔
      ¬ IsWide text ∧ (¬ ∃ rest, IsQuoted text ('\\' :: rest)) ∧
        ¬ ∃ c, IsQuoted text [c] ∧ c.toNat ≤ 255) ∧
    (∀ value, parseCharacterLiteral text span = .ok value → ∀ tree : SyntaxTree,
      ((tree.addLiteral value).2.node (tree.addLiteral value).1).kind = .literal .character ∧
      ((tree.addLiteral value).2.node (tree.addLiteral value).1).text = some text) ∧
    (∀ value, (∃ spelling, parseCharacterLiteral spelling span = .ok value) ↔
      value.kind = .character ∧ value ≠ .character 92) ∧
    (∀ value first second, parseCharacterLiteral first span = .ok value →
      parseCharacterLiteral second span = .ok value → first = second) := by
  have reads := reads_parse span text
  refine ⟨⟨fun refused => ?_, parse_of_isWide span⟩,
    ⟨fun refused => ?_, fun ⟨rest, isQuoted⟩ => parse_of_escape span isQuoted⟩,
    fun value => ?_, ⟨fun refused => ?_, fun ⟨notWide, noEscape, noByte⟩ => ?_⟩,
    fun value accepted tree => ?_, fun value => ?_, fun value first second atFirst atSecond => ?_⟩
  · rw [refused] at reads
    cases reads with
    | wide isWide => exact isWide
  · rw [refused] at reads
    cases reads with
    | escape isQuoted => exact ⟨_, isQuoted⟩
  · rw [parse_eq_ok_iff]
    simp only [eq_ofInt_iff]
  · rw [refused] at reads
    cases reads with
    | malformed notWide noEscape noByte => exact ⟨notWide, noEscape, noByte⟩
  · exact parse_of_malformed span notWide noEscape noByte
  · rw [tree.node_addLiteral]
    obtain ⟨isCharacter, -⟩ := exists_parse_iff.mp ⟨text, accepted⟩
    refine ⟨?_, congrArg some (literalText_of_parse accepted)⟩
    cases value with
    | character byte => rfl
    | _ => cases isCharacter
  · exact exists_parse_iff
  · rw [← literalText_of_parse atFirst, ← literalText_of_parse atSecond]

end CppTemplates
