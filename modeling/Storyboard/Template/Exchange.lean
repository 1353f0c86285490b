import Storyboard.Template.Document
import Storyboard.Failure
import Storyboard.Json.Reader
import Storyboard.Json.Writer

/-!
# Exchanging templates

Templates as texts. Only texts of the current version are taken in.
-/

namespace Storyboard.Template

/-- The version that a document gives. -/
def versionOf? (v : Json) : Option String := (v.get? "version").bind Json.asText

/-- A template from a document of the current version. -/
def ofDocument (v : Json) : Except FormatFault (Template Float) :=
  match versionOf? v with
  | none => .error .missingVersion
  | some version =>
    if version == currentVersion then
      match ofJson v with
      | some t => .ok t
      | none => .error .shape
    else .error (.unsupportedVersion version)

/-- The template that a text gives. -/
def ofText (text : String) : Except (Failure Float) (Template Float) :=
  match Json.parse text with
  | none => .error (.format .malformed)
  | some v => (ofDocument v).mapError .format

/-- A template as a text, laid out over lines. -/
def toText (t : Template Float) : String := t.toJson.pretty

/-- Whether the text of a template gives the same template again. -/
def survivesExchange (t : Template Float) : Bool :=
  match ofText t.toText with
  | .ok back => back == t
  | .error _ => false

/-- A copy with an id of its own, made now. -/
def duplicate {τ : Type} (t : Template τ) (id : String) (now : Instant) : Template τ :=
  { t with id, name := t.name ++ " (Copy)", createdAt := now, updatedAt := now }

end Storyboard.Template
