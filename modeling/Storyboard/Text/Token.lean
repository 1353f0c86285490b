/-!
# Tokens

Texts with tokens: a key between braces, to be replaced by a value. The text is passed over once,
from left to right, so that braces inside a value are never looked at.
-/

namespace Storyboard.Text

/-- Replaces the tokens of a text after some of its characters, which are left out. A token is an
opening brace, at least one key character and a closing brace; one whose key has no value is copied
like the text around it. -/
def expandAfter (isKey : Char → Bool) (value : String → Option String) : Nat → List Char → List Char
  | _, [] => []
  | left + 1, _ :: rest => expandAfter isKey value left rest
  | 0, c :: rest =>
    if c = '\x7b' then
      let key := rest.takeWhile isKey
      match rest.dropWhile isKey with
      | '\x7d' :: _ =>
        if key.isEmpty then c :: expandAfter isKey value 0 rest
        else
          let after := expandAfter isKey value (key.length + 1) rest
          match value (String.ofList key) with
          | some v => v.toList ++ after
          | none => c :: key ++ '\x7d' :: after
      | _ => c :: expandAfter isKey value 0 rest
    else c :: expandAfter isKey value 0 rest

/-- A text with its tokens replaced. -/
def expand (isKey : Char → Bool) (value : String → Option String) (s : String) : String :=
  String.ofList (expandAfter isKey value 0 s.toList)

end Storyboard.Text
