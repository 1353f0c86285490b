/-!
# Blank characters

The blank characters of Unicode and cutting them off the ends of a text.
-/

namespace Storyboard.Text

/-- Whether a character is blank: spaces of all widths, tabs, and the line and page breaks. -/
def isBlank (c : Char) : Bool :=
  let n := c.toNat
  (9 ≤ n && n ≤ 13) || n == 0x20 || n == 0x85 || n == 0xA0 || n == 0x1680 ||
    (0x2000 ≤ n && n ≤ 0x200A) || n == 0x2028 || n == 0x2029 || n == 0x202F || n == 0x205F ||
    n == 0x3000

/-- Whether a character is a control code. -/
def isControl (c : Char) : Bool :=
  let n := c.toNat
  n < 0x20 || (0x7F ≤ n && n < 0xA0)

/-- The characters from the first one that is not blank. -/
def dropBlank (cs : List Char) : List Char := cs.dropWhile isBlank

/-- The characters up to the last one that is not blank. -/
def dropBlankEnd (cs : List Char) : List Char := (dropBlank cs.reverse).reverse

/-- A text without the blanks at its end. -/
def trimEnd (s : String) : String := String.ofList (dropBlankEnd s.toList)

/-- A text without the blanks at both ends. -/
def trim (s : String) : String := String.ofList (dropBlankEnd (dropBlank s.toList))

/-- What stands before and after the first occurrence of a character. -/
def splitAtFirst (c : Char) : List Char → Option (List Char × List Char)
  | [] => none
  | x :: rest =>
    if x = c then some ([], rest) else (splitAtFirst c rest).map fun (a, b) => (x :: a, b)

/-- The parts of a text between the occurrences of a character; one part more than occurrences. -/
def splitAll (c : Char) : List Char → List (List Char)
  | [] => [[]]
  | x :: rest =>
    if x = c then [] :: splitAll c rest
    else match splitAll c rest with
      | part :: parts => (x :: part) :: parts
      | [] => [[x]]

/-- Whether a text contains another one. -/
def containsText (part : List Char) : List Char → Bool
  | [] => part.isEmpty
  | c :: rest => part.isPrefixOf (c :: rest) || containsText part rest

/-- Whether `part` occurs in `s`. -/
def contains (s part : String) : Bool := containsText part.toList s.toList

end Storyboard.Text
