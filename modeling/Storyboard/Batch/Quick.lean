import Storyboard.Interpretation

/-!
# Quick projects

Projects made without collaborators: texts and media are put in place, durations are taken from the
records of the template, and what needs a transcript or a generator is left to be made later.
-/

namespace Storyboard.Batch

variable {τ : Type}

/-- Inputs that can be used as they are. -/
def isQuick (input : Input τ) : Bool := input.kind.isMedia || input.kind == .text

/-- The default of a placeholder, unless it needs a transcript. -/
def quickDefault? (t : Template τ) (placeholderId : String) : Option (Input τ) :=
  ((t.placeholder? placeholderId).bind (·.default)).filter fun input => input.kind != .transcript

/-- What stands against filling a template with inputs. -/
def quickFindings (t : Template τ) (inputs : Inputs τ) : List (Finding τ) :=
  let missing := t.orderedPlaceholders.filter fun p =>
    p.required && p.default.isNone && !inputs.has p.id
  Validation.unknownPlaceholders t
    ++ missing.map fun p => { cause := .noValue p.name, placeholderId := some p.id }

/-- The content of an element of a track. -/
def quickContent (t : Template τ) (inputs : Inputs τ) (track : TrackKind)
    (e : Template.Element τ) : Except (Failure τ) (Project.Content τ) :=
  match e.content with
  | .placeholder id =>
    match ((inputs.get? id).filter isQuick).or (quickDefault? t id) with
    | some input => Template.coerce id input track
    | none => .ok (.pending "placeholder has no text or media value")
  | .transcript .. => .ok (.pending "transcript segments need a transcript source")
  | .fixed text source => .ok (Template.fixedContent track text source)
  | .generated generator _ => .ok (.pending s!"generator '{generator}' runs in full mode")

/-- The placeholder of an element that is filled by its default. -/
def defaultUsed? (t : Template τ) (inputs : Inputs τ) (e : Template.Element τ) : Option String :=
  match e.content with
  | .placeholder id =>
    if ((inputs.get? id).filter isQuick).isNone && (quickDefault? t id).isSome then some id else none
  | _ => none

/-- The placeholders that are filled by their defaults, each once, in the order of their use. -/
def defaultsUsed (t : Template τ) (inputs : Inputs τ) : List String :=
  (t.elements.filterMap (defaultUsed? t inputs)).foldl
    (fun kept id => if kept.contains id then kept else kept ++ [id]) []

/-- The project made from inputs alone, before rules are carried out. -/
def quickProject [Measure τ] (t : Template τ) (inputs : Inputs τ) (name : String) (now : Instant)
    (ids : IdSupply) : Except (Failure τ) (Project τ × IdSupply) := do
  let findings := quickFindings t inputs
  unless findings.isEmpty do throw (.inputs findings)
  let timeline ← Timeline.hinted t none
  let filled ← Template.fillTracks timeline
    (fun track e => (quickContent t inputs track e).map some) t.tracks
  return t.build t.canvas name now inputs.keys (defaultsUsed t inputs) filled ids

end Storyboard.Batch
