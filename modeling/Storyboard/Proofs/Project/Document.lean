import Storyboard.Project.Document
import Storyboard.Proofs.Template.Document

/-!
# Stable projects

A project read from a document is read again from what is written of it, if all its volumes are
finite, as templates are.
-/

namespace Storyboard

open Json

namespace Project

theorem Content.stable : Stable Content.ofJson Content.toJson where
  again := by
    intro v c plain done
    simp only [Content.ofJson, ↓do_eq_some_iff, Option.pure_def] at done
    obtain ⟨⟨tag, rest⟩, tagged, done⟩ := done
    have plain := isPlain_of_asTagged plain tagged
    split at done
    · simp only [↓do_eq_some_iff, Option.some.injEq] at done
      obtain ⟨fields, record, source, readSource, kind, readKind, rfl⟩ := done
      have plain := fieldsPlain_of_asRecord plain record
      simp [Content.ofJson, Content.toJson, asTagged, asText, asRecord, fetch_eq, List.lookup_cons,
        MediaRef.stable.fetch plain readSource,
        (stable_namedWithin InputKind.lookup_name).fetch plain readKind]
    · simp only [↓do_eq_some_iff, Option.some.injEq] at done
      obtain ⟨fields, record, text, readText, rfl⟩ := done
      rfl
    · simp only [↓do_eq_some_iff, Option.some.injEq] at done
      obtain ⟨fields, record, value, readValue, rfl⟩ := done
      have plain := fieldsPlain_of_asRecord plain record
      simp [Content.ofJson, Content.toJson, asTagged, asText, asRecord, fetch_eq, List.lookup_cons,
        stable_float.fetch plain readValue]
    · simp only [↓do_eq_some_iff, Option.some.injEq] at done
      obtain ⟨fields, record, value, readValue, rfl⟩ := done
      rfl
    · simp only [↓do_eq_some_iff, Option.some.injEq] at done
      obtain ⟨fields, record, family, readFamily, rfl⟩ := done
      rfl
    · simp only [↓do_eq_some_iff, Option.some.injEq] at done
      obtain ⟨fields, record, reason, readReason, rfl⟩ := done
      rfl
    · cases done
  null := rfl

theorem Element.stable : Stable Element.ofJson fun e => .obj e.fields where
  again := by
    intro v e plain done
    simp only [Element.ofJson, ↓do_eq_some_iff, Option.pure_def, Option.some.injEq] at done
    obtain ⟨fields, record, id, readId, name, readName, start, readStart, duration, readDuration,
      content, readContent, style, readStyle, captionStyleId, readCaptionStyleId, position,
      readPosition, hidden, readHidden, muted, readMuted, provisional, readProvisional,
      rfl⟩ := done
    have plain := fieldsPlain_of_asRecord plain record
    simp only [Element.ofJson, Element.fields]
    simp [↓do_asRecord, ↓Option.bind_eq_bind, fetch_eq, fetchOr_eq, fetch?_eq, List.lookup_append,
      List.lookup_cons, stable_text.fetch plain readId, stable_text.fetch plain readName,
      stable_float.fetch plain readStart, stable_float.fetch plain readDuration,
      Content.stable.fetch plain readContent, TextStyle.stable.fetch? plain readStyle,
      stable_text.fetch? plain readCaptionStyleId, PixelPosition.stable.fetch? plain readPosition,
      stable_bool.fetchOr plain rfl readHidden, stable_bool.fetchOr plain rfl readMuted,
      stable_bool.fetchOr plain rfl readProvisional]
  null := rfl

/-- A track is read again if its volume is finite. -/
theorem Track.ofJson_toJson {v : Json} {t : Track Float} (plain : v.isPlain = true)
    (done : Track.ofJson v = some t) :
    Track.ofJson t.toJson = if t.volume.isFinite = true then some t else none := by
  simp only [Track.ofJson, ↓do_eq_some_iff, Option.pure_def, Option.some.injEq] at done
  obtain ⟨fields, record, id, readId, name, readName, kind, readKind, role, readRole, elements,
    readElements, muted, readMuted, isMain, readIsMain, volume, readVolume, rfl⟩ := done
  have plain := fieldsPlain_of_asRecord plain record
  obtain ⟨w, plainVolume, readVolume⟩ := exists_of_fetch plain readVolume
  simp only [Track.ofJson, Track.toJson]
  simp [↓do_asRecord, ↓Option.bind_eq_bind, fetch_eq, fetchOr_eq, List.lookup_cons,
    stable_text.fetch plain readId, stable_text.fetch plain readName,
    (stable_named TrackKind.lookup_name).fetch plain readKind,
    (stable_named TrackRole.lookup_name).fetch plain readRole,
    Element.stable.list.fetch plain readElements, stable_bool.fetchOr plain rfl readMuted,
    stable_bool.fetchOr plain rfl readIsMain, Single.asSingle_number32 plainVolume readVolume]
  split <;> rfl

/-- A provenance is read again if its instant is. -/
theorem Provenance.ofJson_toJson {v : Json} {p : Provenance} (plain : v.isPlain = true)
    (done : Provenance.ofJson v = some p) (generated : p.generatedAt.ReadsBack) :
    Provenance.ofJson p.toJson = some p := by
  simp only [Provenance.ofJson, ↓do_eq_some_iff, Option.pure_def, Option.some.injEq] at done
  obtain ⟨fields, record, templateId, readTemplateId, templateName, readTemplateName, generatedAt,
    readGeneratedAt, used, readUsed, defaults, readDefaults, ids, readIds, effects, readEffects,
    rfl⟩ := done
  have plain := fieldsPlain_of_asRecord plain record
  have generated : asInstant (instant generatedAt) = some generatedAt := generated
  simp only [Provenance.ofJson, Provenance.toJson]
  simp [↓do_asRecord, ↓Option.bind_eq_bind, fetch_eq, fetchOr_eq, List.lookup_cons,
    stable_text.fetch plain readTemplateId, stable_text.fetch plain readTemplateName, generated,
    stable_strs.fetchOr plain rfl readUsed, stable_strs.fetchOr plain rfl readDefaults,
    stable_keyedTexts.fetchOr plain rfl readIds, Effect.stable.list.fetchOr plain rfl readEffects]

/-- A project is read again if all its volumes are finite. -/
theorem ofJson_toJson {v : Json} {p : Project Float} (plain : v.isPlain = true)
    (done : ofJson v = some p)
    (generated : p.provenance.generatedAt.ReadsBack) :
    ofJson p.toJson =
      if ∀ track ∈ p.tracks, track.volume.isFinite = true then some p else none := by
  simp only [ofJson, ↓do_eq_some_iff, Option.pure_def, Option.some.injEq] at done
  obtain ⟨fields, record, id, readId, name, readName, canvas, readCanvas, tracks, readTracks,
    duration, readDuration, provenance, readProvenance, rfl⟩ := done
  have plain := fieldsPlain_of_asRecord plain record
  obtain ⟨listed, plainTracks, readTracks⟩ := exists_of_fetch plain readTracks
  obtain ⟨kept, plainProvenance, readProvenance⟩ := exists_of_fetch plain readProvenance
  have again : asList Track.ofJson (list Track.toJson tracks) =
      if ∀ track ∈ tracks, track.volume.isFinite = true then some tracks else none :=
    asList_again Track.ofJson_toJson plainTracks readTracks
  simp only [ofJson, toJson]
  simp [↓do_asRecord, ↓Option.bind_eq_bind, fetch_eq, List.lookup_cons,
    stable_text.fetch plain readId, stable_text.fetch plain readName,
    Canvas.stable.fetch plain readCanvas, stable_float.fetch plain readDuration,
    Provenance.ofJson_toJson plainProvenance readProvenance generated, again]
  split <;> rfl

end Project

/-- What a document gives as a template or as a project, it gives again when that is written, in
full or, where a volume is beyond the singles, not at all. -/
theorem documents_again {v : Json} (plain : v.isPlain = true) :
    (∀ t : Template Float, Template.ofJson v = some t →
      t.createdAt.ReadsBack → t.updatedAt.ReadsBack →
      Template.ofJson t.toJson =
        if ∀ track ∈ t.tracks, track.volume.isFinite = true then some t else none) ∧
    ∀ p : Project Float, Project.ofJson v = some p → p.provenance.generatedAt.ReadsBack →
      Project.ofJson p.toJson =
        if ∀ track ∈ p.tracks, track.volume.isFinite = true then some p else none :=
  ⟨fun _ => Template.ofJson_toJson plain, fun _ => Project.ofJson_toJson plain⟩

/-- A track of a given volume. -/
def trackOf (volume : Float) : Json :=
  .obj [("id", .str "t"), ("name", .str "t"), ("type", .str "text"), ("role", .str "title"),
    ("elements", .arr []), ("volume", .float volume)]

/-- A template with a track of a given volume, a known operator in its own spelling and an unknown
one. -/
def templateOf (volume : Float) : Json :=
  .obj [("version", .str "1.0"), ("id", .str "tpl"), ("name", .str "Tpl"),
    ("createdAt", .str "2024-05-01T10:00:00Z"), ("updatedAt", .str "2024-05-01T12:30:00+02:00"),
    ("canvas", .obj [("width", .int 1920), ("height", .int 1080)]),
    ("tracks", .arr [trackOf volume]),
    ("rules", .arr [.obj [("id", .str "r"), ("name", .str "r"), ("conditions", .arr [
      .obj [("field", .str "name"), ("operator", .str "Not-Equals"), ("value", .str "x")],
      .obj [("field", .str "name"), ("operator", .str "Sounds Like")]])]])]

/-- A project with a track of a given volume. -/
def projectOf (volume : Float) : Json :=
  .obj [("id", .str "prj"), ("name", .str "Prj"),
    ("canvas", .obj [("width", .int 1920), ("height", .int 1080)]),
    ("tracks", .arr [trackOf volume]), ("duration", .float 2.5),
    ("metadata", .obj [("templateId", .str "tpl"), ("templateName", .str "Tpl"),
      ("generatedAt", .str "2024-05-01T10:00:00Z")])]

theorem documents_again_quiet :
    (∃ t, Template.ofJson (templateOf 0.8) = some t ∧ Template.ofJson t.toJson = some t) ∧
    ∃ p, Project.ofJson (projectOf 0.8) = some p ∧ Project.ofJson p.toJson = some p := by
  have template : (Template.ofJson (templateOf 0.8)).any (fun t => decide (t.createdAt.ReadsBack ∧
      t.updatedAt.ReadsBack ∧ ∀ track ∈ t.tracks, track.volume.isFinite = true)) = true := by
    decide +kernel
  have project : (Project.ofJson (projectOf 0.8)).any (fun p =>
      decide (p.provenance.generatedAt.ReadsBack ∧
        ∀ track ∈ p.tracks, track.volume.isFinite = true)) = true := by
    decide +kernel
  obtain ⟨t, doneT, checked⟩ := (Option.any_eq_true _ _).1 template
  obtain ⟨created, updated, finiteT⟩ := of_decide_eq_true checked
  obtain ⟨p, doneP, checked⟩ := (Option.any_eq_true _ _).1 project
  obtain ⟨generated, finiteP⟩ := of_decide_eq_true checked
  have plainT : (templateOf 0.8).isPlain = true := by decide +kernel
  have plainP : (projectOf 0.8).isPlain = true := by decide +kernel
  refine ⟨⟨t, doneT, ?_⟩, p, doneP, ?_⟩
  · exact ((documents_again plainT).1 t doneT created updated).trans (if_pos finiteT)
  · exact ((documents_again plainP).2 p doneP generated).trans (if_pos finiteP)

/-- A volume beyond the singles is accepted once only. -/
theorem not_again_loud : ∃ t, (templateOf 1e39).isPlain = true ∧
    Template.ofJson (templateOf 1e39) = some t ∧ t.createdAt.ReadsBack ∧ t.updatedAt.ReadsBack ∧
    Template.ofJson t.toJson = none := by
  have template : (Template.ofJson (templateOf 1e39)).any (fun t => decide (t.createdAt.ReadsBack ∧
      t.updatedAt.ReadsBack ∧ (Template.ofJson t.toJson).isNone = true)) = true := by
    decide +kernel
  obtain ⟨t, done, checked⟩ := (Option.any_eq_true _ _).1 template
  obtain ⟨created, updated, refused⟩ := of_decide_eq_true checked
  exact ⟨t, by decide +kernel, done, created, updated, Option.isNone_iff_eq_none.1 refused⟩

end Storyboard
