import Storyboard.Json
import Storyboard.Decimal.Layout

/-!
# Writing documents

Untyped values as text: on one line, or laid out over lines with two spaces for each level. On one
line a single is written as the double it is; laid out it has its own, shorter text.
-/

namespace Storyboard.Json

/-- A hexadecimal digit in lower case. -/
def hexDigit (n : Nat) : Char := Nat.digitChar (n % 16)

/-- A character by the four hexadecimal digits of its number. -/
def escapeHex (n : Nat) : List Char :=
  ['\\', 'u', hexDigit (n / 4096), hexDigit (n / 256), hexDigit (n / 16), hexDigit n]

/-- A character inside a text: quotes, backslashes and control characters are escaped. -/
def escapeChar (c : Char) : List Char :=
  match c with
  | '"' => ['\\', '"']
  | '\\' => ['\\', '\\']
  | '\x08' => ['\\', 'b']
  | '\x0c' => ['\\', 'f']
  | '\n' => ['\\', 'n']
  | '\r' => ['\\', 'r']
  | '\t' => ['\\', 't']
  | c => if c.toNat < 0x20 then escapeHex c.toNat else [c]

/-- A character of a line: those that some readers take for a line end are escaped as well. -/
def escapeInLine (c : Char) : List Char :=
  if c.toNat = 0x85 ∨ c.toNat = 0x2028 ∨ c.toNat = 0x2029 then escapeHex c.toNat else escapeChar c

/-- A text in quotes. -/
def quote (escape : Char → List Char) (s : String) : String :=
  String.ofList ('"' :: s.toList.flatMap escape ++ ['"'])

/-- A double; what is not finite has no notation. -/
def writeFloat (x : Float) : String := if x.isFinite then Decimal.documentText x else "null"

mutual

/-- A value on one line. -/
def compact : Json → String
  | .null => "null"
  | .bool b => if b then "true" else "false"
  | .int n => toString n
  | .float x => writeFloat x
  | .single x => writeFloat x.toFloat
  | .str s => quote escapeInLine s
  | .arr items => "[" ++ ",".intercalate (compactItems items) ++ "]"
  | .obj fields => "\x7b" ++ ",".intercalate (compactFields fields) ++ "\x7d"

/-- The items of a list, each on one line. -/
def compactItems : List Json → List String
  | [] => []
  | item :: rest => compact item :: compactItems rest

/-- The fields of a dictionary, each on one line. -/
def compactFields : List (String × Json) → List String
  | [] => []
  | (key, item) :: rest => (quote escapeInLine key ++ ":" ++ compact item) :: compactFields rest

end

/-- The start of a line at a level. -/
def indent (level : Nat) : String := String.ofList ('\n' :: List.replicate (2 * level) ' ')

/-- Parts between brackets, each on a line of its own; without parts the brackets stand together. -/
def block (opening closing : String) (level : Nat) (parts : List String) : String :=
  if parts.isEmpty then opening ++ closing
  else
    opening ++ indent (level + 1) ++ ("," ++ indent (level + 1)).intercalate parts ++ indent level
      ++ closing

mutual

/-- A value laid out over lines, at a level of indentation. -/
def layOut (level : Nat) : Json → String
  | .null => "null"
  | .bool b => if b then "true" else "false"
  | .int n => toString n
  | .float x => writeFloat x
  | .single x => if x.isFinite then x.documentText else "null"
  | .str s => quote escapeChar s
  | .arr items => block "[" "]" level (layOutItems (level + 1) items)
  | .obj fields => block "\x7b" "\x7d" level (layOutFields (level + 1) fields)

/-- The items of a list, laid out. -/
def layOutItems (level : Nat) : List Json → List String
  | [] => []
  | item :: rest => layOut level item :: layOutItems level rest

/-- The fields of a dictionary, laid out. -/
def layOutFields (level : Nat) : List (String × Json) → List String
  | [] => []
  | (key, item) :: rest => (quote escapeChar key ++ ": " ++ layOut level item) :: layOutFields level rest

end

/-- A value laid out over lines. -/
def pretty (value : Json) : String := layOut 0 value

end Storyboard.Json
