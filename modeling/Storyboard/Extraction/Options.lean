import Storyboard.Template

/-!
# Options of extraction

How a project is to be made into a template.
-/

namespace Storyboard

/-- How a project is to be made into a template. -/
structure ExtractOptions (τ : Type) where
  templateName : Option String := none
  /-- Look at names, media and positions of tracks to find their roles. -/
  inferTrackRoles : Bool := true
  /-- Roles given by track id. -/
  roleOverrides : Keyed TrackRole := []
  /-- Make one placeholder for all uses of a media file. -/
  deduplicateMedia : Bool := false
  /-- Make the files of the project the defaults of their placeholders. -/
  includeDefaultValues : Bool := true
  /-- Make every text a placeholder. -/
  promoteText : Bool := false
  extractCaptionStyles : Bool := true
  /-- Place elements relative to earlier ones where they line up. -/
  detectRelativeTiming : Bool := true
  /-- How far elements may be apart and still line up. -/
  relativeTimingTolerance : τ
  /-- Let elements that play their file from end to end last as long as their file. -/
  useContentDurations : Bool := false
  deriving BEq

/-- The options used where none are given. -/
def ExtractOptions.default {τ : Type} [Measure τ] : ExtractOptions τ :=
  { relativeTimingTolerance := 0.5 }

end Storyboard
