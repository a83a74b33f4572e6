import CppTemplates.Evaluation.Error

/-!
# Character literals

A narrow character literal is one character between single quotes. Characters up to the last of
the first 256 code points are bytes, read with a sign. Wide literals and escape sequences are
recognised but have no value.
-/

namespace CppTemplates

namespace CharacterLiteral

/-- What stands between a leading and a trailing single quote. -/
def unquote? : List Char → Option (List Char)
  | '\'' :: rest =>
      if rest.getLast? = some '\'' then some rest.dropLast else none
  | _ => none

/-- The value of a character that fits a byte. -/
def ofChar? (c : Char) : Option Value :=
  if c.toNat ≤ 255 then some (.character (.ofNat 8 c.toNat)) else none

end CharacterLiteral

/-- The value of a character literal at a place in the source. -/
def parseCharacterLiteral (text : String) (span : FileSpan) : Except EvaluationError Value :=
  let malformed := .error (.malformedLiteral text span)
  match text.toList with
  | 'L' :: _ | 'l' :: _ => .error (.unsupportedWideCharacter text span)
  | characters =>
      match CharacterLiteral.unquote? characters with
      | some ('\\' :: _) => .error (.unsupportedEscapeSequence text span)
      | some [c] =>
          match CharacterLiteral.ofChar? c with
          | some value => .ok value
          | none => malformed
      | _ => malformed

end CppTemplates
