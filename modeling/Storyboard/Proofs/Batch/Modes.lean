import Storyboard.Batch
import Storyboard.Proofs.Interpretation.Filling
import Storyboard.Proofs.Rule.Renaming
import Storyboard.Proofs.Timeline.Outcome

/-!
# The two ways to fill a row

A row is filled from what is at hand or with collaborators. Where nothing has to be asked of a
collaborator the two ways look values up in different places, but find the same ones, and make the
same project but for what it remembers of its placeholders.
-/

namespace Storyboard

/-! ## Templates that need no collaborators -/

/-- Nothing in the template waits for a transcript, a generator or the length of a file. -/
structure Template.Plain {τ : Type} (t : Template τ) : Prop where
  placeholders : t.DistinctPlaceholders
  durations : ∀ e ∈ t.elements,
    (∃ value, e.duration = .fixed value) ∨ ∃ limit, e.duration = .fillGap limit
  contents : ∀ e ∈ t.elements, (∃ text source, e.content = .fixed text source) ∨
    ∃ id, e.content = .placeholder id ∧
      ∀ p ∈ t.placeholders, p.id = id → p.kind.isMedia = true ∨ p.kind = .text

/-- Every placeholder that an element shows has an input or a default. -/
def Template.Supplied {τ : Type} (t : Template τ) (inputs : Inputs τ) : Prop :=
  ∀ e ∈ t.elements, ∀ id, e.content = .placeholder id →
    (inputs.get? id).isSome = true ∨ ∃ p ∈ t.placeholders, p.id = id ∧ p.default.isSome = true

/-! ## Rules -/

/-- The project with other notes on which placeholders were filled how. -/
def Project.withFilling {τ : Type} (p : Project τ) (used defaulted : List String) : Project τ :=
  { p with provenance :=
      { p.provenance with placeholdersUsed := used, defaultsApplied := defaulted } }

/-- Rules do not look at how placeholders were filled. -/
theorem Project.applyRules_withFilling (p : Project Float) (used defaulted : List String)
    (rules : List Rule) :
    (p.withFilling used defaulted).applyRules rules =
      ((p.applyRules rules).1.withFilling used defaulted, (p.applyRules rules).2) :=
  applyRules_remembering
    (fun m => { m with placeholdersUsed := used, defaultsApplied := defaulted }) (fun _ _ => rfl)
    p rules

theorem Template.settle_withFilling (t : Template Float) (p : Project Float)
    (used defaulted : List String) (ids : IdSupply) :
    t.settle (p.withFilling used defaulted, ids) =
      (t.settle (p, ids)).map fun (p, report, ids) =>
        (p.withFilling used defaulted, report, ids) := by
  unfold settle
  rw [Project.applyRules_withFilling]
  cases p.applyRules t.rules with
  | mk q result => cases result <;> rfl

theorem Template.build_withFilling {τ : Type} [Measure τ] (t : Template τ) (canvas : Canvas)
    (name : String) (now : Instant) (used defaulted used' defaulted' : List String)
    (filled : List (Track τ × List (Filled τ))) (ids : IdSupply) :
    t.build canvas name now used' defaulted' filled ids =
      ((t.build canvas name now used defaulted filled ids).1.withFilling used' defaulted',
        (t.build canvas name now used defaulted filled ids).2) := rfl

namespace Batch

variable {τ ω : Type} {t : Template τ} {inputs : Inputs τ}

/-! ## Content and durations -/

theorem isQuick_iff {input : Input τ} :
    isQuick input = true ↔ input.kind.isMedia = true ∨ input.kind = .text := by
  simp [isQuick]

theorem kind_ne_of_isQuick {input : Input τ} (quick : isQuick input = true) :
    input.kind ≠ .transcript := by
  intro same
  simp [isQuick, same, InputKind.isMedia] at quick

/-- The value of a placeholder that a plain template shows: it can be used as it is, and is found
in both ways. -/
theorem value_of_supplied (plain : t.Plain) (supplied : t.Supplied inputs)
    (kinds : t.checkKinds (t.withDefaults inputs) = .ok ())
    (known : Validation.unknownPlaceholders t = []) {e : Template.Element τ}
    (member : e ∈ t.elements) {id : String} (shown : e.content = .placeholder id) :
    ∃ input : Input τ, isQuick input = true ∧ (t.withDefaults inputs).get? id = some input ∧
      ((inputs.get? id).filter isQuick).or (quickDefault? t id) = some input := by
  have defined := Template.unknownPlaceholders_eq_nil_iff.1 known e member id (by rw [shown]; rfl)
  obtain ⟨p, found⟩ := Option.isSome_iff_exists.1 defined
  obtain ⟨inside, rfl⟩ := Template.mem_of_placeholder? found
  have value := Template.get?_withDefaults plain.placeholders inputs p.id
  rw [found, Option.bind_some] at value
  have present : ((inputs.get? p.id).or p.default).isSome = true := by
    rcases supplied e member p.id shown with given | ⟨q, listed, same, given⟩
    · simp [given]
    · rw [List.inj_on_of_nodup_map plain.placeholders listed inside same] at given
      simp [given]
  obtain ⟨input, chosen⟩ := Option.isSome_iff_exists.1 present
  have quick : isQuick input = true := by
    rcases plain.contents e member with ⟨_, _, fixed⟩ | ⟨id, again, kind⟩
    · rw [shown] at fixed
      cases fixed
    · obtain rfl : p.id = id := by simpa [shown] using again
      rw [isQuick_iff, Template.checkKinds_ok_iff.1 kinds p inside input (value.trans chosen)]
      exact kind p inside rfl
  refine ⟨input, quick, value.trans chosen, ?_⟩
  cases given : inputs.get? p.id with
  | some own =>
    obtain rfl : own = input := by simpa [given] using chosen
    simp [quick]
  | none =>
    rw [given, Option.none_or] at chosen
    simp [quickDefault?, found, chosen, kind_ne_of_isQuick quick]

/-- Content from what is at hand is content with collaborators. -/
theorem quickContent_eq (plain : t.Plain) (supplied : t.Supplied inputs)
    (kinds : t.checkKinds (t.withDefaults inputs) = .ok ())
    (known : Validation.unknownPlaceholders t = []) (c : Collaborators τ ω) (track : TrackKind)
    {e : Template.Element τ} (member : e ∈ t.elements) :
    (quickContent t inputs track e).map some =
      Template.substitute c (t.withDefaults inputs) track e := by
  rcases plain.contents e member with ⟨text, source, fixed⟩ | ⟨id, shown, _⟩
  · rw [quickContent, Template.substitute, fixed]
    rfl
  · obtain ⟨input, quick, value, same⟩ := value_of_supplied plain supplied kinds known member shown
    rw [Template.substitute_placeholder shown value (kind_ne_of_isQuick quick) c track,
      quickContent, shown]
    dsimp only
    rw [same]

/-- The durations of a plain template are known without inputs. -/
theorem durationOf_plain [Measure τ] (plain : t.Plain) (given : Inputs τ) (options : FillOptions τ)
    {e : Template.Element τ} (member : e ∈ t.elements) :
    Template.durationOf given options e = .ok (Timeline.hintedDuration e) := by
  unfold Template.durationOf Timeline.hintedDuration
  rcases plain.durations e member with ⟨value, fixed⟩ | ⟨limit, gap⟩
  · rw [fixed]
  · rw [gap]

/-- Nothing stands against inputs that have passed the checks with defaults added. -/
theorem quickFindings_eq_nil [Measure τ] (distinct : t.DistinctPlaceholders)
    (known : Validation.unknownPlaceholders t = [])
    (passes : (Validation.inputs t.placeholders (t.withDefaults inputs)).errors = []) :
    quickFindings t inputs = [] := by
  unfold quickFindings
  simp only [known, List.nil_append, List.map_eq_nil_iff, List.filter_eq_nil_iff]
  intro p listed missing
  have member := Template.mem_orderedPlaceholders.1 listed
  simp only [Bool.and_eq_true, Bool.not_eq_true', Option.isNone_iff_eq_none, Keyed.has,
    Option.isSome_eq_false_iff] at missing
  obtain ⟨⟨required, default⟩, absent⟩ := missing
  have value := Template.value_of_checkFilled
    (Template.errors_inputs_eq_nil_iff.1 passes p member) required
  rw [Template.get?_withDefaults distinct, Template.placeholder?_some distinct member] at value
  simp [absent, default] at value

/-- What is made with collaborators that know nothing of media is made without them. -/
theorem quickProject_of_interpret [Measure τ] (plain : t.Plain) (supplied : t.Supplied inputs)
    {c : Collaborators τ ω} {used defaulted : List String} {name : String} {now : Instant}
    {ids left : IdSupply} {p : Project τ}
    (full : t.interpretPrepared c ⟨t.withDefaults inputs, used, defaulted⟩
      { projectName := some name } now ids = .ok (p, left)) :
    quickProject t inputs name now ids =
      .ok (p.withFilling inputs.keys (defaultsUsed t inputs), left) := by
  obtain ⟨known, passes, kinds, timeline, filled, timed, done, made⟩ :=
    Template.interpretPrepared_ok_iff.1 full
  have hinted : Timeline.hinted t none = .ok timeline := by
    rw [← timed]
    exact Timeline.resolve_congr fun e member _ => (durationOf_plain plain _ _ member).symm
  have contents : Template.fillTracks timeline
      (fun track e => (quickContent t inputs track e).map some) t.tracks = .ok filled := by
    rw [← done]
    exact Template.fillTracks_congr fun track here e member =>
      quickContent_eq plain supplied kinds known c track.kind
        (List.mem_flatMap.2 ⟨track, here, member⟩)
  simp only [quickProject, quickFindings_eq_nil plain.placeholders known passes, hinted, contents,
    bind, Except.bind, pure, Except.pure, List.isEmpty_nil, if_true]
  rw [Template.build_withFilling t t.canvas name now used defaulted]
  exact congrArg (fun made : Project τ × IdSupply =>
    Except.ok (made.1.withFilling inputs.keys (defaultsUsed t inputs), made.2)) made

/-! ## Rows -/

/-- **The two ways agree**: where a plain template is filled with collaborators that know nothing of
media, it is filled without them too, and the projects differ in nothing but what they remember of
their placeholders. -/
theorem makeRow_quick_of_full (t : Template Float) (plain : t.Plain) (c : Collaborators Float ω)
    (silent : ∀ file w, c.probe file w = (.ok none, w)) (source : DataSource) (row : Row)
    (name : String) (now : Instant) (ids left : IdSupply) (w : ω) (inputs : Inputs Float)
    (read : rowInputs t source row = .ok inputs) (supplied : t.Supplied inputs) (p : Project Float)
    (full : (makeRow t source (fullMaker t c {} now) row name ids w).1 = .ok (p, left)) :
    ∃ q, makeRow t source (quickMaker t now) row name ids w = (.ok (q, left), w) ∧
      q.id = p.id ∧ q.name = p.name ∧ q.canvas = p.canvas ∧ q.tracks = p.tracks ∧
      q.duration = p.duration ∧ q.provenance.elementIds = p.provenance.elementIds ∧
      q.provenance.effects = p.provenance.effects := by
  have same : ∀ entry ∈ t.withDefaults inputs, ∀ w : ω,
      Template.probeInput c entry.2 w = (.ok entry.2, w) :=
    fun entry _ => Template.probeInput_silent silent entry.2
  simp only [makeRow, read, fullMaker, Template.interpretWithRules,
    Template.interpret_same same] at full
  obtain ⟨⟨r, report, rest⟩, settled, result⟩ := map_ok_iff.1 full
  obtain ⟨⟨made, drawn⟩, interpreted, settled⟩ := bind_ok_iff.1 settled
  obtain ⟨rfl, rfl⟩ := Prod.mk.inj result
  refine ⟨r.withFilling inputs.keys (defaultsUsed t inputs), ?_, rfl, rfl, rfl, rfl, rfl, rfl, rfl⟩
  have quick := quickProject_of_interpret plain supplied interpreted
  have rules := t.settle_withFilling made inputs.keys (defaultsUsed t inputs) drawn
  rw [settled] at rules
  simp only [makeRow, read, quickMaker, quick, Except.bind, rules, Except.map]

/-- A clip with a default, a headline over it that lasts until the end, and a rule that hides the
headline. -/
def postcard : Template Float :=
  let clip : Template.Element Float :=
    { id := "clip", name := "Clip", timing := .absolute 0.0, duration := .fixed 4.0
      content := .placeholder "clip" }
  let headline : Template.Element Float :=
    { id := "headline", name := "Headline", timing := .relative "clip" 1.0 .start
      duration := .fillGap (some 2.0), content := .placeholder "place" }
  let media : Template.Track Float :=
    { id := "media", name := "Media", kind := .media, role := .mainVideo, elements := [clip] }
  let text : Template.Track Float :=
    { id := "text", name := "Text", kind := .text, role := .title, elements := [headline] }
  let loud : Rule :=
    { id := "loud", name := "Loud"
      conditions := [{ field := "name", operator := .equals, value := .str "Headline" }]
      actions := [{ kind := .setHidden }] }
  { (Template.new "postcard" "Postcard" .landscape ⟨0, 0⟩ : Template Float) with
    tracks := [media, text], rules := [loud]
    placeholders := [
      { id := "clip", name := "Clip", kind := .video
        default := some (.video { id := "sea.mp4", name := "sea.mp4" }) },
      { id := "place", name := "Place", kind := .text, required := true }] }

/-- A table of places. -/
def places : DataSource :=
  (DataSource.ofTable ["town"] [["Oban"]]).withMapping "Place" "town"

theorem postcard_plain : postcard.Plain where
  placeholders := by decide
  durations := by
    intro e member
    rcases List.mem_cons.1 member with rfl | member
    · exact .inl ⟨_, rfl⟩
    · rw [List.mem_singleton.1 member]
      exact .inr ⟨_, rfl⟩
  contents := by
    have kinds : ∀ p ∈ postcard.placeholders, p.kind.isMedia = true ∨ p.kind = .text := by decide
    intro e member
    rcases List.mem_cons.1 member with rfl | member
    · exact .inr ⟨_, rfl, fun p inside _ => kinds p inside⟩
    · rw [List.mem_singleton.1 member]
      exact .inr ⟨_, rfl, fun p inside _ => kinds p inside⟩

/-- The row of a table of places. -/
def oban : Row := [("town", "Oban")]

theorem postcard_supplied : postcard.Supplied [("place", .text "Oban")] := by
  intro e member id shown
  rcases List.mem_cons.1 member with rfl | member
  · obtain rfl := Template.Content.placeholder.inj shown
    exact .inr ⟨_, List.mem_cons_self, rfl, rfl⟩
  · rw [List.mem_singleton.1 member] at shown
    obtain rfl := Template.Content.placeholder.inj shown
    exact .inl rfl

theorem postcard_full :
    ∃ p left, (makeRow postcard places (fullMaker postcard .none {} ⟨0, 0⟩) oban "Oban"
      ⟨Nat.repr, 0⟩ ()).1 = .ok (p, left) := by
  have ordered : postcard.orderedPlaceholders = postcard.placeholders :=
    List.mergeSort_of_pairwise (by decide)
  have read : rowInputs postcard places oban = .ok [("place", .text "Oban")] := rfl
  have defaults : postcard.withDefaults [("place", .text "Oban")] =
      [("clip", .video { id := "sea.mp4", name := "sea.mp4" }), ("place", .text "Oban")] := by
    rw [Template.withDefaults, Template.defaulted, ordered]
    rfl
  simp only [makeRow, read, fullMaker, Template.interpretWithRules]
  rw [Template.interpret_same fun entry _ => Template.probeInput_silent (fun _ _ => rfl) entry.2,
    defaults]
  exact ⟨_, _, rfl⟩

theorem makeRow_postcard :
    postcard.Plain ∧ rowInputs postcard places oban = .ok [("place", .text "Oban")] ∧
      postcard.Supplied [("place", .text "Oban")] ∧
      ∃ p q left,
        (makeRow postcard places (fullMaker postcard .none {} ⟨0, 0⟩) oban "Oban"
          ⟨Nat.repr, 0⟩ ()).1 = .ok (p, left) ∧
        makeRow postcard places (quickMaker postcard ⟨0, 0⟩) oban "Oban" ⟨Nat.repr, 0⟩ () =
          (.ok (q, left), ()) ∧
        q.id = p.id ∧ q.name = p.name ∧ q.canvas = p.canvas ∧ q.tracks = p.tracks ∧
        q.duration = p.duration ∧ q.provenance.elementIds = p.provenance.elementIds ∧
        q.provenance.effects = p.provenance.effects := by
  have read : rowInputs postcard places oban = .ok [("place", .text "Oban")] := rfl
  obtain ⟨p, left, full⟩ := postcard_full
  obtain ⟨q, quick⟩ := makeRow_quick_of_full postcard postcard_plain .none (fun _ _ => rfl) places
    oban "Oban" ⟨0, 0⟩ ⟨Nat.repr, 0⟩ left () _ read postcard_supplied p full
  exact ⟨postcard_plain, read, postcard_supplied, p, q, left, full, quick⟩

end Batch

end Storyboard
