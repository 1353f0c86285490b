import Storyboard.Instant
import Storyboard.Placeholder
import Storyboard.Position
import Storyboard.Rule
import Storyboard.Style

/-!
# Templates

A template is the plan of a video: tracks of elements whose timing, duration, content and position
are given symbolically, so that they can be worked out anew for other inputs and other canvases.
-/

namespace Storyboard

/-- What the elements of a track are made of. -/
inductive TrackKind where
  | media
  | text
  | audio
  deriving DecidableEq

/-- What a track is for. -/
inductive TrackRole where
  | mainVideo
  | bRoll
  | caption
  | title
  | backgroundMusic
  | voiceover
  | soundEffect
  | overlay
  deriving DecidableEq

/-- The name of a kind in documents and messages. -/
def TrackKind.name : TrackKind → String
  | media => "media"
  | text => "text"
  | audio => "audio"

/-- The role of a track where nothing else is known. -/
def TrackRole.defaultFor : TrackKind → TrackRole
  | .media => .mainVideo
  | .text => .caption
  | .audio => .backgroundMusic

/-- How long a piece of a transcript is. -/
inductive Granularity where
  | word
  | phrase
  | sentence
  deriving DecidableEq

namespace Template

/-- When an element starts. -/
inductive Timing (τ : Type) where
  /-- At a time of the timeline. -/
  | absolute (start : τ)
  /-- At an offset from the start or the end of another element. -/
  | relative (anchorId : String) (offset : τ) (anchor : Anchor)
  /-- At a time that a rule settles. -/
  | dynamic (hint : Option String)
  deriving BEq

/-- How long an element lasts. -/
inductive Duration (τ : Type) where
  /-- A fixed time. -/
  | fixed (value : τ)
  /-- As long as its media, up to a limit. -/
  | content (limit hint : Option τ)
  /-- As long as the audio in a placeholder. -/
  | matchAudio (placeholderId : Option String) (hint : Option τ)
  /-- Until the next element of the track starts, up to a limit. -/
  | fillGap (limit : Option τ)
  deriving BEq

/-- What an element shows or plays. -/
inductive Content (τ : Type) where
  /-- The input of a placeholder. -/
  | placeholder (placeholderId : String)
  /-- A segment of a transcript. -/
  | transcript (placeholderId : Option String) (granularity : Granularity) (index : Nat)
  /-- A given text or media file. -/
  | fixed (text : Option String) (source : Option (MediaRef τ))
  /-- What a generator makes of the inputs. -/
  | generated (generator : String) (params : Keyed Json)
  deriving BEq

/-- An element of a template. -/
structure Element (τ : Type) where
  id : String
  name : String
  timing : Timing τ
  duration : Duration τ
  content : Content τ
  style : Option TextStyle := none
  captionStyleId : Option String := none
  position : Option (PercentPosition τ) := none
  hidden : Bool := false
  muted : Bool := false
  deriving BEq

/-- A track of a template. -/
structure Track (τ : Type) where
  id : String
  name : String
  kind : TrackKind
  role : TrackRole
  elements : List (Element τ) := []
  muted : Bool := false
  isMain : Bool := false
  volume : Single := .one
  deriving BEq

end Template

/-- The plan of a video. -/
structure Template (τ : Type) where
  version : String
  id : String
  name : String
  description : String := ""
  createdAt : Instant
  updatedAt : Instant
  sourceProjectId : Option String := none
  canvas : Canvas
  tracks : List (Template.Track τ) := []
  rules : List Rule := []
  captionStyles : List CaptionStyle := []
  placeholders : List (Placeholder τ) := []
  tags : List String := []
  deriving BEq

namespace Template

variable {τ : Type}

/-- The version of the template format that this library reads and writes. -/
def currentVersion : String := "1.0"

/-- A template without tracks, made now. -/
def new (id name : String) (canvas : Canvas) (now : Instant) : Template τ :=
  { version := currentVersion, id, name, canvas, createdAt := now, updatedAt := now }

/-- The element that an element is placed relative to. -/
def Timing.anchorId? : Timing τ → Option String
  | .relative id _ _ => some id
  | _ => none

/-- Whether the start is left to a rule. -/
def Timing.isDynamic : Timing τ → Bool
  | .dynamic _ => true
  | _ => false

/-- Whether the element lasts until the next one starts. -/
def Duration.isFillGap : Duration τ → Bool
  | .fillGap _ => true
  | _ => false

/-- The placeholder that the content is taken from. -/
def Content.placeholderId? : Content τ → Option String
  | .placeholder id => some id
  | .transcript id _ _ => id
  | _ => none

/-- A new track; the main track is the one with the main video. -/
def Track.new (id name : String) (kind : TrackKind) (role : TrackRole) : Track τ :=
  { id, name, kind, role, isMain := role == .mainVideo }

/-- All elements, track by track. -/
def elements (t : Template τ) : List (Element τ) := t.tracks.flatMap (·.elements)

/-- The number of elements. -/
def elementCount (t : Template τ) : Nat := t.elements.length

/-- The first placeholder with an id. -/
def placeholder? (t : Template τ) (id : String) : Option (Placeholder τ) :=
  t.placeholders.find? (·.id == id)

/-- The first placeholder with a name. -/
def placeholderNamed? (t : Template τ) (name : String) : Option (Placeholder τ) :=
  t.placeholders.find? (·.name == name)

/-- The first caption style with an id. -/
def captionStyle? (t : Template τ) (id : String) : Option CaptionStyle :=
  t.captionStyles.find? (·.id == id)

/-- The first element with an id. -/
def element? (t : Template τ) (id : String) : Option (Element τ) :=
  t.elements.find? (·.id == id)

/-- The placeholders in display order; those of equal order stay as they are listed. -/
def orderedPlaceholders (t : Template τ) : List (Placeholder τ) :=
  t.placeholders.mergeSort fun a b => a.order ≤ b.order

end Template

end Storyboard
