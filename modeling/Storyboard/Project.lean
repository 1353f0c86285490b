import Storyboard.Template

/-!
# Projects

What becomes of a template once it is filled: elements with times in numbers, positions in pixels
and content in place. A project remembers which template it came from and which of its elements
came from which.
-/

namespace Storyboard

namespace Project

/-- What an element shows or plays. -/
inductive Content (τ : Type) where
  | media (source : MediaRef τ) (kind : InputKind)
  | text (value : String)
  | number (value : Float)
  | color (value : String)
  | font (family : String)
  /-- Content that is still to be made, and why. -/
  | pending (reason : String)
  deriving BEq

/-- An element of a project. -/
structure Element (τ : Type) where
  id : String
  name : String
  start : τ
  duration : τ
  content : Content τ
  style : Option TextStyle := none
  captionStyleId : Option String := none
  position : Option (PixelPosition τ) := none
  hidden : Bool := false
  muted : Bool := false
  /-- The start only stands in until a rule settles it. -/
  provisional : Bool := false
  deriving BEq

/-- A track of a project. -/
structure Track (τ : Type) where
  id : String
  name : String
  kind : TrackKind
  role : TrackRole
  elements : List (Element τ)
  muted : Bool := false
  isMain : Bool := false
  volume : Single
  deriving BEq

/-- Where a project came from. -/
structure Provenance where
  templateId : String
  templateName : String
  generatedAt : Instant
  /-- The placeholders filled by inputs. -/
  placeholdersUsed : List String := []
  /-- The placeholders filled by their defaults. -/
  defaultsApplied : List String := []
  /-- The element made from each template element. -/
  elementIds : Keyed String := []
  effects : List Effect := []
  deriving DecidableEq

end Project

/-- A filled template. -/
structure Project (τ : Type) where
  id : String
  name : String
  canvas : Canvas
  tracks : List (Project.Track τ)
  /-- The end of the last element. -/
  duration : τ
  provenance : Project.Provenance
  deriving BEq

namespace Project

variable {τ : Type}

/-- The text of an element; content of other kinds has none. -/
def Content.text? : Content τ → Option String
  | .text value => some value
  | _ => none

/-- Whether the content is still to be made. -/
def Content.isPending : Content τ → Bool
  | .pending _ => true
  | _ => false

/-- All elements, track by track. -/
def elements (p : Project τ) : List (Element τ) := p.tracks.flatMap (·.elements)

/-- The number of elements. -/
def elementCount (p : Project τ) : Nat := p.elements.length

/-- The first element with an id. -/
def element? (p : Project τ) (id : String) : Option (Element τ) := p.elements.find? (·.id == id)

/-- The element made from a template element. -/
def elementFor? (p : Project τ) (templateElementId : String) : Option (Element τ) :=
  (p.provenance.elementIds.get? templateElementId).bind p.element?

/-- The elements whose start is still to be settled. -/
def provisionalElements (p : Project τ) : List (Element τ) := p.elements.filter (·.provisional)

variable [Measure τ]

/-- When an element ends. -/
def Element.finish (e : Element τ) : τ := e.start + e.duration

/-- The end of the last of a list of tracks. -/
def lastFinish (tracks : List (Track τ)) : τ :=
  Measure.latest ((tracks.flatMap (·.elements)).map (·.finish))

/-- The project with its duration worked out from its elements. -/
def withDuration (p : Project τ) : Project τ := { p with duration := lastFinish p.tracks }

end Project

end Storyboard
