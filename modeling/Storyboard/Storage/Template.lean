import Storyboard.Storage.Save
import Storyboard.Template.Exchange
import Storyboard.Template.Summary

/-!
# Stored templates

Templates in files: each under its id in a directory, read back through the same checks as any text,
and listed by their summaries, the latest first.
-/

namespace Storyboard.Storage

/-- What the names of template files end in. -/
def templateEnding : String := ".template.json"

/-- Whether a text could lead out of its directory as a file name. -/
def isUnsafe (id : String) : Bool :=
  Text.contains id ".." || id.toList.any fun c =>
    c == '/' || c == '\\' || c == ':' || Text.isControl c

/-- The name of the file of the template with an id. -/
def templateFile (id : String) : Except FormatFault String :=
  let trimmed := Text.trim id
  if trimmed.isEmpty then .error .emptyId
  else if isUnsafe trimmed then .error (.unsafeId id)
  else .ok (trimmed ++ templateEnding)

/-- Saves a template in a directory under its id, with an id for its partial file: the path of the
file and what the save went through. -/
def saveIn (fs : FileSystem) (faulty : SaveStep → Bool) (dir : Path) (t : Template Float)
    (id : String) : Except FormatFault (Path × Saved) := do
  let path := dir ++ [← templateFile t.id]
  return (path, save fs faulty path t.toText id)

/-- Whether a file name is that of a template. -/
def isTemplateFile (name : String) : Bool := templateEnding.toList.isSuffixOf name.toList

/-- The template in a file. -/
def load (fs : FileSystem) (path : Path) : Except (Failure Float) (Template Float) :=
  match fs.read? path with
  | some text => Template.ofText text
  | none => .error .storage

/-- The summaries of the templates among files of a directory, the latest first and those of one date
in the order of the files; files that are no templates are passed over. -/
def summariesOf (fs : FileSystem) (path : Path) (names : List String) : List (Summary Float) :=
  let found := (names.filter isTemplateFile).filterMap fun name =>
    (load fs (path ++ [name])).toOption.map (·.summary)
  found.mergeSort fun a b => !a.updatedAt.before b.updatedAt

/-- The summaries of the templates in a directory, those of one date in the order of the directory. -/
def summaries (fs : FileSystem) (path : Path) : Except (Failure Float) (List (Summary Float)) :=
  match fs.list path with
  | none => .error .storage
  | some names => .ok (summariesOf fs path names)

end Storyboard.Storage
