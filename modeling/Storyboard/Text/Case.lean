import Storyboard.Text.CaseData

/-!
# Lower case

Lower-casing of any text: letter by letter, with one letter that becomes two characters (the
capital I with a dot) and one whose form depends on its place (the capital sigma, which ends a word
in a form of its own).
-/

namespace Storyboard.Text

/-- Whether a character lies in one of a list of ranges. -/
def inRanges (ranges : List (Nat × Nat)) (c : Char) : Bool :=
  ranges.any fun (first, last) => first ≤ c.toNat && c.toNat ≤ last

/-- The lower-case form of a capital letter in a table of runs; other characters stay. -/
def lowerIn (runs : List (Nat × Nat × Nat × Nat)) (c : Char) : Char :=
  let n := c.toNat
  match runs.find? fun (first, last, step, _) => first ≤ n && n ≤ last && (n - first) % step == 0 with
  | some (first, _, _, lower) => Char.ofNat (lower + (n - first))
  | none => c

/-- The lower-case form of a character that stands for itself. -/
def lowerChar (c : Char) : List Char :=
  if c = '\u0130' then ['i', '\u0307'] else [lowerIn lowerRuns c]

/-- Whether the nearest character that is not skipped is cased. -/
def meetsCased (cs : List Char) : Bool :=
  match cs.dropWhile (inRanges caseIgnorableRanges) with
  | c :: _ => inRanges casedRanges c
  | [] => false

/-- Lower-casing from left to right; `before` holds the characters already passed, nearest first. -/
def lowerFrom (before : List Char) : List Char → List Char
  | [] => []
  | c :: rest =>
    let lowered :=
      if c = '\u03A3' then [if meetsCased before && !meetsCased rest then '\u03C2' else '\u03C3']
      else lowerChar c
    lowered ++ lowerFrom (c :: before) rest

/-- A text in lower case. -/
def lower (s : String) : String := String.ofList (lowerFrom [] s.toList)

end Storyboard.Text
