import Storyboard.Template

/-!
# Source projects

A finished editing project as templates are made from it: tracks of elements with their places on
the timeline and the canvas, and the media files that the elements play.
-/

namespace Storyboard.Source

/-- A project, apart from its tracks. -/
structure Project where
  id : String
  name : String
  description : String := ""
  canvas : Option Canvas := none
  deriving BEq

/-- What kind of file a media file is. -/
inductive MediaKind where
  | video
  | audio
  | image
  deriving DecidableEq

/-- A file of the media library. -/
structure MediaFile (τ : Type) where
  id : String
  name : String
  kind : MediaKind
  path : Option String := none
  mimeType : Option String := none
  metadata : MediaMetadata τ := {}
  deriving BEq

/-- What an element shows or plays. -/
inductive ElementKind where
  | video
  | audio
  | image
  | text
  deriving DecidableEq

/-- An element of a track. -/
structure Element (τ : Type) where
  id : String
  name : String
  kind : ElementKind
  start : τ
  duration : τ
  mediaId : Option String := none
  text : Option String := none
  style : Option TextStyle := none
  position : Option (PixelPosition τ) := none
  hidden : Bool := false
  muted : Bool := false
  trimStart : τ
  markAsPlaceholder : Bool := false
  captionAnimation : Option String := none
  wordsPerGroup : Option Nat := none
  deriving BEq

/-- A track of elements. -/
structure Track (τ : Type) where
  id : String
  name : String
  kind : TrackKind
  elements : List (Element τ) := []
  muted : Bool := false
  volume : Single := .one
  isMain : Bool := false
  deriving BEq

/-- The kind of placeholder that a media file fills. -/
def MediaKind.inputKind : MediaKind → InputKind
  | video => .video
  | audio => .audio
  | image => .image

variable {τ : Type}

/-- The reference to a media file. -/
def MediaFile.toRef (f : MediaFile τ) : MediaRef τ :=
  { id := f.id, name := f.name, path := f.path, mimeType := f.mimeType, metadata := some f.metadata }

/-- The file with an id; of several files with one id the last. -/
def file? (library : List (MediaFile τ)) (id : String) : Option (MediaFile τ) :=
  library.reverse.find? (·.id == id)

/-- The file that an element plays. -/
def Element.file? (e : Element τ) (library : List (MediaFile τ)) : Option (MediaFile τ) :=
  e.mediaId.bind (Source.file? library)

variable [Measure τ]

/-- When an element ends. -/
def Element.finish (e : Element τ) : τ := e.start + e.duration

/-- When the last element of a track ends. -/
def Track.finish (t : Track τ) : τ := Measure.latest (t.elements.map (·.finish))

end Storyboard.Source
