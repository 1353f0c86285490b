import Storyboard.Text.Blank

/-!
# File paths

The file name at the end of a path and the extension at the end of a file name. Empty parts and
single dots do not count as parts of a path; a path that climbs up at its end names no file.
-/

namespace Storyboard.Text

/-- The parts of a path that name something. -/
def pathParts (path : String) : List String :=
  ((splitAll '/' path.toList).map String.ofList).filter fun part => part != "" && part != "."

/-- The file name that a path ends in. -/
def fileName? (path : String) : Option String :=
  (pathParts path).getLast?.filter (· != "..")

/-- What follows the last dot of a file name; a dot that only opens the name does not count. -/
def extensionOf (name : String) : Option String :=
  match (splitAll '.' name.toList).reverse with
  | _ :: [] | [] | _ :: [[]] => none
  | last :: _ => some (String.ofList last)

/-- The extension of the file that a path ends in. -/
def extension? (path : String) : Option String := (fileName? path).bind extensionOf

end Storyboard.Text
