import Storyboard.Project
import Storyboard.Transcript
import Storyboard.Text.Token

/-!
# Collaborators

What filling a template needs from outside: something that knows media files, something that knows
transcripts, and generators of content. A media probe acts on a state of the surroundings `ω` and
may change it; one that does not is a fixed function of the file. Each of them may fail for any
reason, and its failure is passed on as it is.
-/

namespace Storyboard

/-- Makes content from parameters and inputs, or fails. -/
abbrev Generator (τ : Type) := Keyed Json → Inputs τ → Except (Failure τ) (Project.Content τ)

/-- What filling a template needs from outside. -/
structure Collaborators (τ ω : Type) where
  /-- Looks a media file up; it may know nothing, or fail. -/
  probe : MediaRef τ → ω → Except (Failure τ) (Option (MediaMetadata τ)) × ω
  /-- The segments of a transcript, where there are transcripts. -/
  transcripts : Option (Option String → Granularity → Except (Failure τ) (List (Segment τ)))
  /-- The generators, by name. -/
  generators : Keyed (Generator τ)

namespace Collaborators

variable {τ ω : Type}

/-- Collaborators that know nothing. -/
def none : Collaborators τ ω := ⟨fun _ w => (.ok .none, w), .none, []⟩

/-- A probe that looks files up by id in a table. -/
def tableProbe (entries : Keyed (MediaMetadata τ)) (file : MediaRef τ) :
    Except (Failure τ) (Option (MediaMetadata τ)) :=
  .ok (entries.get? file.id)

/-- A probe that fails on every file. -/
def failingProbe (file : MediaRef τ) : Except (Failure τ) (Option (MediaMetadata τ)) :=
  .error (.lookup (.probe file.name))

/-- The segments of a transcript. -/
def segments (c : Collaborators τ ω) (name : Option String) (g : Granularity) :
    Except (Failure τ) (List (Segment τ)) :=
  match c.transcripts with
  | .none => .error (.lookup .noTranscripts)
  | some source => source name g

/-- The content that a generator makes. -/
def generate (c : Collaborators τ ω) (name : String) (params : Keyed Json) (inputs : Inputs τ) :
    Except (Failure τ) (Project.Content τ) :=
  match c.generators.get? name with
  | some generator => generator params inputs
  | .none => .error (.unknownGenerator name)

end Collaborators

namespace Generator

variable {τ : Type}

/-- Whether a character may stand in the name of an input inside a text. -/
def isNameChar (c : Char) : Bool := c.isAlphanum || c == '_' || c == '-'

/-- The text of the parameter `template` with the inputs that it names put in. -/
def textTemplate : Generator τ := fun params inputs =>
  let text := match params.get? "template" with
    | some (.str s) => s
    | _ => ""
  .ok (.text (Text.expand isNameChar (fun name => (inputs.get? name).bind (·.text?)) text))

/-- The generators that come with the library. -/
def builtin : Keyed (Generator τ) := [("text_template", textTemplate)]

end Generator

end Storyboard
