import Mathlib.Data.List.Perm.Basic
import Storyboard.Interpretation
import Storyboard.Proofs.Keyed
import Storyboard.Proofs.Steps
import Storyboard.Proofs.Validation.Report

/-!
# The steps of filling a template

What each step asks for and what it makes: which value a placeholder ends up with, when looking up
media changes nothing, when the inputs pass, and what the elements are filled with.
-/

namespace Storyboard.Template

variable {τ ω : Type} {t : Template τ} {inputs : Inputs τ}

/-! ## Defaults -/

/-- The ids of placeholders are distinct. -/
abbrev DistinctPlaceholders (t : Template τ) : Prop := (t.placeholders.map (·.id)).Nodup

theorem placeholder?_some (distinct : t.DistinctPlaceholders) {p : Placeholder τ}
    (member : p ∈ t.placeholders) : t.placeholder? p.id = some p := by
  cases found : t.placeholder? p.id with
  | none => simpa using List.find?_eq_none.1 found p member
  | some q =>
    have same : q.id = p.id := by simpa using List.find?_some found
    rw [List.inj_on_of_nodup_map distinct (List.mem_of_find?_eq_some found) member same]

theorem mem_of_placeholder? {id : String} {p : Placeholder τ} (found : t.placeholder? id = some p) :
    p ∈ t.placeholders ∧ p.id = id :=
  ⟨List.mem_of_find?_eq_some found, by simpa using List.find?_some found⟩

theorem mem_orderedPlaceholders {p : Placeholder τ} :
    p ∈ t.orderedPlaceholders ↔ p ∈ t.placeholders := List.mem_mergeSort

theorem mem_defaulted {id : String} {value : Input τ} :
    (id, value) ∈ t.defaulted inputs ↔
      inputs.get? id = none ∧ ∃ p ∈ t.placeholders, p.id = id ∧ p.default = some value := by
  simp only [defaulted, List.mem_filterMap, mem_orderedPlaceholders, Keyed.has]
  constructor
  · rintro ⟨p, member, made⟩
    by_cases present : (inputs.get? p.id).isSome = true
    · simp [present] at made
    · obtain ⟨default, given, rfl, rfl⟩ : ∃ d, p.default = some d ∧ p.id = id ∧ d = value := by
        simpa [present] using made
      exact ⟨by simpa using present, p, member, rfl, given⟩
  · rintro ⟨absent, p, member, rfl, given⟩
    exact ⟨p, member, by simp [absent, given]⟩

theorem defaulted_nodup (distinct : t.DistinctPlaceholders) :
    ((t.defaulted inputs).map Prod.fst).Nodup := by
  have ordered : (t.orderedPlaceholders.map (·.id)).Nodup :=
    ((List.mergeSort_perm _ _).map _).nodup_iff.2 distinct
  refine List.Nodup.sublist ?_ ordered
  unfold defaulted
  generalize t.orderedPlaceholders = placeholders
  induction placeholders with
  | nil => exact .slnil
  | cons p rest ih =>
    rw [List.filterMap_cons]
    split
    · exact ih.cons _
    · next entry made =>
      split at made
      · cases made
      · obtain ⟨_, _, rfl⟩ := Option.map_eq_some_iff.1 made
        exact ih.cons_cons _

/-- A placeholder without an input takes its default. -/
theorem get?_withDefaults (distinct : t.DistinctPlaceholders) (inputs : Inputs τ) (id : String) :
    (t.withDefaults inputs).get? id =
      (inputs.get? id).or ((t.placeholder? id).bind (·.default)) := by
  unfold withDefaults
  by_cases added : ∃ value, (id, value) ∈ t.defaulted inputs
  · obtain ⟨value, member⟩ := added
    rw [Keyed.get?_foldl_insert (defaulted_nodup distinct) member]
    obtain ⟨absent, p, inside, rfl, given⟩ := mem_defaulted.1 member
    rw [absent, placeholder?_some distinct inside]
    exact given.symm
  · have other : id ∉ (t.defaulted inputs).map Prod.fst := by
      rintro listed
      obtain ⟨⟨_, value⟩, member, rfl⟩ := List.mem_map.1 listed
      exact added ⟨value, member⟩
    rw [Keyed.get?_foldl_insert_not other]
    cases known : inputs.get? id with
    | some input => rfl
    | none =>
      cases found : t.placeholder? id with
      | none => rfl
      | some p =>
        obtain ⟨member, rfl⟩ := mem_of_placeholder? found
        cases given : p.default with
        | none => simp [given]
        | some value => exact absurd ⟨value, mem_defaulted.2 ⟨known, p, member, rfl, given⟩⟩ added

/-! ## Looking up media -/

variable {c : Collaborators τ ω}

theorem probeInput_known {input : Input τ}
    (known : ∀ file, input.media? = some file → file.metadata.isSome = true) (w : ω) :
    probeInput c input w = (.ok input, w) := by
  unfold probeInput
  cases media : input.media? with
  | none => rfl
  | some file => simp [Option.filter, Option.isSome_iff_ne_none.1 (known file media)]

theorem probeInput_silent (silent : ∀ file w, c.probe file w = (.ok none, w)) (input : Input τ)
    (w : ω) : probeInput c input w = (.ok input, w) := by
  unfold probeInput
  split
  · rfl
  · rw [silent]

/-- Looking up inputs of which nothing new comes to be known leaves everything as it is. -/
theorem probeInputs_same (same : ∀ entry ∈ inputs, ∀ w, probeInput c entry.2 w = (.ok entry.2, w))
    (w : ω) : probeInputs c inputs w = (.ok inputs, w) := by
  induction inputs with
  | nil => rfl
  | cons entry rest ih =>
    have first := same entry List.mem_cons_self w
    have later := ih fun other member => same other (List.mem_cons_of_mem _ member)
    unfold probeInputs
    rw [first]
    dsimp only
    rw [later]

/-! ## Checks of the inputs -/

theorem checkKinds_ok_iff :
    t.checkKinds inputs = .ok () ↔
      ∀ p ∈ t.placeholders, ∀ input, inputs.get? p.id = some input → input.kind = p.kind := by
  unfold checkKinds
  rw [forM_ok_iff]
  refine forall₂_congr fun p _ => ?_
  cases inputs.get? p.id with
  | none => simp
  | some input => by_cases kind : input.kind = p.kind <;> simp [kind]

theorem unknownPlaceholders_eq_nil_iff :
    Validation.unknownPlaceholders t = [] ↔
      ∀ e ∈ t.elements, ∀ id, e.content.placeholderId? = some id →
        (t.placeholder? id).isSome = true := by
  simp only [Validation.unknownPlaceholders, List.filterMap_eq_nil_iff]
  refine forall₂_congr fun e _ => ?_
  cases e.content.placeholderId? with
  | none => simp
  | some id => by_cases known : (t.placeholder? id).isSome = true <;> simp [known]

variable [Measure τ]

theorem errors_inputs_eq_nil_iff {placeholders : List (Placeholder τ)} :
    (Validation.inputs placeholders inputs).errors = [] ↔
      ∀ p ∈ placeholders, (Validation.checkFilled inputs p).errors = [] := by
  simp [Validation.inputs, List.flatMap_eq_nil_iff]

/-- A required placeholder that passes has a value. -/
theorem value_of_checkFilled {p : Placeholder τ}
    (passes : (Validation.checkFilled inputs p).errors = []) (required : p.required = true) :
    ((inputs.get? p.id).or p.default).isSome = true := by
  unfold Validation.checkFilled at passes
  cases value : (inputs.get? p.id).or p.default with
  | some input => rfl
  | none =>
    rw [value] at passes
    simp [required, Findings.error] at passes

/-! ## Filled tracks -/

omit [Measure τ] in
/-- An input that needs no transcript is content as it is. -/
theorem substitute_placeholder {e : Element τ} {id : String} {input : Input τ}
    (shown : e.content = .placeholder id) (value : inputs.get? id = some input)
    (spoken : input.kind ≠ .transcript) (c : Collaborators τ ω) (track : TrackKind) :
    substitute c inputs track e = (coerce id input track).map some := by
  unfold substitute
  rw [shown]
  dsimp only
  rw [value]
  cases input with
  | transcript name => exact absurd rfl spoken
  | _ => rfl

omit [Measure τ] in
theorem fillTrack_congr {timeline : Timeline τ}
    {content content' : Element τ → Except (Failure τ) (Option (Project.Content τ))}
    {es : List (Element τ)} (same : ∀ e ∈ es, content e = content' e) :
    fillTrack timeline content es = fillTrack timeline content' es := by
  induction es with
  | nil => rfl
  | cons e rest ih =>
    unfold fillTrack
    rw [same e List.mem_cons_self,
      ih fun other member => same other (List.mem_cons_of_mem _ member)]

omit [Measure τ] in
theorem fillTracks_congr {timeline : Timeline τ}
    {content content' : TrackKind → Element τ → Except (Failure τ) (Option (Project.Content τ))}
    {tracks : List (Track τ)}
    (same : ∀ track ∈ tracks, ∀ e ∈ track.elements, content track.kind e = content' track.kind e) :
    fillTracks timeline content tracks = fillTracks timeline content' tracks := by
  unfold fillTracks
  induction tracks with
  | nil => rfl
  | cons track rest ih =>
    rw [List.mapM_cons, List.mapM_cons, fillTrack_congr (same track List.mem_cons_self),
      ih fun other member => same other (List.mem_cons_of_mem _ member)]

/-! ## Every element kept -/

omit [Measure τ] in
/-- A track of which every element has its span and its content. -/
theorem fillTrack_forall₂ {γ : Type} {R : γ → Element τ → Prop} {timeline : Timeline τ}
    {content : Element τ → Except (Failure τ) (Option (Project.Content τ))}
    {span : Element τ → Span τ} {shown : γ → Project.Content τ} {xs : List γ}
    {es : List (Element τ)} (related : List.Forall₂ R xs es)
    (each : ∀ x e, R x e → timeline.span? e.id = some (span e) ∧ content e = .ok (some (shown x))) :
    ∃ kept, fillTrack timeline content es = .ok kept ∧ List.Forall₂ (fun x f =>
      R x f.element ∧ f.span = span f.element ∧ f.content = shown x) xs kept := by
  induction related with
  | nil => exact ⟨[], rfl, .nil⟩
  | @cons x e xs es first _ ih =>
    obtain ⟨known, made⟩ := each x e first
    obtain ⟨kept, rest, later⟩ := ih
    refine ⟨⟨e, span e, shown x⟩ :: kept, ?_, .cons ⟨first, rfl, rfl⟩ later⟩
    simp only [fillTrack, known, made, rest, bind, Except.bind, pure, Except.pure]

/-- Every kept element becomes an element of the project. -/
theorem zipWith_build_forall₂ (size : Size) (kept : List (Filled τ)) {ids : List String}
    (enough : ids.length = kept.length) :
    List.Forall₂ (fun f made => ∃ id, made = Filled.build t size f id) kept
      (List.zipWith (Filled.build t size) kept ids) := by
  induction kept generalizing ids with
  | nil => exact .nil
  | cons f kept ih =>
    match ids, enough with
    | id :: ids, enough => exact .cons ⟨id, rfl⟩ (ih (Nat.succ.inj enough))

/-- A track of a project is built from a filled track. -/
structure Built (t : Template τ) (size : Size) (filled : Track τ × List (Filled τ))
    (made : Project.Track τ) : Prop where
  name : made.name = filled.1.name
  kind : made.kind = filled.1.kind
  muted : made.muted = filled.1.muted
  volume : made.volume = filled.1.volume
  elements :
    List.Forall₂ (fun f made => ∃ id, made = Filled.build t size f id) filled.2 made.elements

theorem buildTracks_forall₂ (size : Size) (filled : List (Track τ × List (Filled τ)))
    (ids : IdSupply) : List.Forall₂ (Built t size) filled (t.buildTracks size filled ids).1 := by
  induction filled generalizing ids with
  | nil => exact .nil
  | cons entry rest ih =>
    obtain ⟨track, kept⟩ := entry
    have enough : (ids.take kept.length).length = kept.length := by simp [IdSupply.take]
    exact .cons ⟨rfl, rfl, rfl, rfl, zipWith_build_forall₂ size kept enough⟩ (ih _)

/-- **What filling takes**: placeholders that exist, inputs that pass, a timeline and content for
every element. -/
theorem interpretPrepared_ok_iff {prepared : Prepared τ} {options : FillOptions τ} {now : Instant}
    {ids : IdSupply} {made : Project τ × IdSupply} :
    t.interpretPrepared c prepared options now ids = .ok made ↔
      Validation.unknownPlaceholders t = [] ∧
      (Validation.inputs t.placeholders prepared.inputs).errors = [] ∧
      t.checkKinds prepared.inputs = .ok () ∧
      ∃ timeline filled,
        Timeline.resolve t options.timelineDuration (durationOf prepared.inputs options) =
          .ok timeline ∧
        fillTracks timeline (substitute c prepared.inputs) t.tracks = .ok filled ∧
        t.build (options.targetCanvas.getD t.canvas) (options.projectName.getD t.name) now
          prepared.used prepared.defaultsApplied filled ids = made := by
  unfold interpretPrepared
  dsimp only
  rw [unless_ok_iff, unless_ok_iff, List.isEmpty_iff, Findings.isValid_iff, bind_ok_iff]
  simp only [bind_ok_iff, pure_ok]
  refine and_congr_right fun _ => and_congr_right fun _ => ?_
  constructor
  · rintro ⟨_, kinds, timeline, timed, filled, done, same⟩
    exact ⟨kinds, timeline, filled, timed, done, same⟩
  · rintro ⟨kinds, timeline, filled, timed, done, same⟩
    exact ⟨_, kinds, timeline, timed, filled, done, same⟩

/-- Filling where looking up media changes nothing. -/
theorem interpret_same
    (same : ∀ entry ∈ t.withDefaults inputs, ∀ w, probeInput c entry.2 w = (.ok entry.2, w))
    (options : FillOptions τ) (now : Instant) (ids : IdSupply) (w : ω) :
    t.interpret c inputs options now ids w =
      (t.interpretPrepared c ⟨t.withDefaults inputs, t.given inputs, (t.defaulted inputs).map (·.1)⟩
        options now ids, w) := by
  unfold interpret prepare
  rw [probeInputs_same same]

end Storyboard.Template
