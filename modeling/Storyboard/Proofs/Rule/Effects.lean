import Storyboard.Proofs.Rule.Independence

/-!
# What effects tell

An action that changes an element is recorded with the element's id and the kind of the action, and
one that cannot be carried out leaves the element as it was. Each kind of action changes its own
part of the element. So the effects of a run tell which elements may have changed, and in what.
-/

namespace Storyboard

open Project (Element Track)

/-! ## Changes of one element -/

/-- An effect is that of an action of a kind on the element with an id. -/
def Effect.Names (f : Effect) (kind : ActionKind) (elementId : String) : Prop :=
  f.action = kind ∧ f.elementId = elementId

/-- A part of an element is as it was, unless an effect names the element with a kind of action. -/
def KeptUnless {α : Type} (effects : List Effect) (kind : ActionKind) (elementId : String)
    (before after : α) : Prop :=
  after = before ∨ ∃ f ∈ effects, f.Names kind elementId

namespace KeptUnless

variable {α : Type} {effects later : List Effect} {kind : ActionKind} {elementId : String}
  {before between after : α}

theorem refl : KeptUnless effects kind elementId before before := .inl rfl

theorem mono (kept : KeptUnless effects kind elementId before after) (inside : effects ⊆ later) :
    KeptUnless later kind elementId before after :=
  kept.imp_right fun ⟨f, member, names⟩ => ⟨f, inside member, names⟩

theorem trans (first : KeptUnless effects kind elementId before between)
    (second : KeptUnless later kind elementId between after) :
    KeptUnless (effects ++ later) kind elementId before after := by
  rcases first with rfl | named
  · exact second.mono (List.subset_append_right _ _)
  · exact mono (.inr named) (List.subset_append_left _ _)

end KeptUnless

/-- What has changed of an element is told by effects. -/
structure Project.Element.Told (effects : List Effect) (before after : Element Float) : Prop where
  id : after.id = before.id
  name : after.name = before.name
  position : after.position = before.position
  captionStyleId : after.captionStyleId = before.captionStyleId
  muted : after.muted = before.muted
  style : KeptUnless effects .setStyle before.id before.style after.style
  content : KeptUnless effects .setText before.id before.content after.content
  hidden : KeptUnless effects .setHidden before.id before.hidden after.hidden
  start : KeptUnless effects .setStartTime before.id before.start after.start
  provisional : KeptUnless effects .setStartTime before.id before.provisional after.provisional
  duration : KeptUnless effects .setDuration before.id before.duration after.duration

namespace Project.Element.Told

variable {effects later : List Effect} {before between after : Element Float}

theorem refl : Told effects before before :=
  ⟨rfl, rfl, rfl, rfl, rfl, .refl, .refl, .refl, .refl, .refl, .refl⟩

theorem mono (told : Told effects before after) (inside : effects ⊆ later) :
    Told later before after where
  id := told.id
  name := told.name
  position := told.position
  captionStyleId := told.captionStyleId
  muted := told.muted
  style := told.style.mono inside
  content := told.content.mono inside
  hidden := told.hidden.mono inside
  start := told.start.mono inside
  provisional := told.provisional.mono inside
  duration := told.duration.mono inside

theorem trans (first : Told effects before between) (second : Told later between after) :
    Told (effects ++ later) before after where
  id := second.id.trans first.id
  name := second.name.trans first.name
  position := second.position.trans first.position
  captionStyleId := second.captionStyleId.trans first.captionStyleId
  muted := second.muted.trans first.muted
  style := first.style.trans (first.id ▸ second.style)
  content := first.content.trans (first.id ▸ second.content)
  hidden := first.hidden.trans (first.id ▸ second.hidden)
  start := first.start.trans (first.id ▸ second.start)
  provisional := first.provisional.trans (first.id ▸ second.provisional)
  duration := first.duration.trans (first.id ▸ second.duration)

/-- An element that no effect names is the same. -/
theorem eq_of_unnamed (told : Told effects before after)
    (unnamed : ∀ f ∈ effects, f.elementId ≠ before.id) : after = before := by
  have kept : ∀ {α : Type} {kind : ActionKind} {a b : α},
      KeptUnless effects kind before.id a b → b = a := by
    rintro α kind a b (same | ⟨f, member, _, named⟩)
    · exact same
    · exact absurd named (unnamed f member)
  obtain ⟨id, name, position, captionStyleId, muted, style, content, hidden, start, provisional,
    duration⟩ := told
  cases before
  cases after
  congr 1
  exacts [kept start, kept duration, kept content, kept style, kept hidden, kept provisional]

end Project.Element.Told

/-! ## Changes of a run -/

namespace Rule

variable {r : Rule}

/-- An action changes what its kind is named for, and nothing else. -/
theorem told_carryOut {a : Action} {before after : Element Float}
    (done : a.carryOut before = some after) : before.Told [r.effect a before.id] after := by
  have named : ∀ {kind : ActionKind}, a.kind = kind →
      ∃ f ∈ [r.effect a before.id], f.Names kind before.id :=
    fun same => ⟨_, List.mem_cons_self, same, rfl⟩
  unfold Action.carryOut at done
  split at done
  · next kind =>
    split at done
    · obtain ⟨style, _, rfl⟩ := Option.map_eq_some_iff.1 done
      exact { Element.Told.refl with style := .inr (named kind) }
    · cases done
  · next kind =>
    split at done
    · cases done
      exact { Element.Told.refl with content := .inr (named kind) }
    · cases done
  · next kind =>
    cases done
    exact { Element.Told.refl with hidden := .inr (named kind) }
  · next kind =>
    obtain ⟨start, _, rfl⟩ := Option.map_eq_some_iff.1 done
    exact { Element.Told.refl with start := .inr (named kind), provisional := .inr (named kind) }
  · next kind =>
    obtain ⟨duration, _, rfl⟩ := Option.map_eq_some_iff.1 done
    exact { Element.Told.refl with duration := .inr (named kind) }
  · cases done

theorem told_actions (r : Rule) (actions : List Action) (e : Element Float) :
    e.Told (r.effectsOf actions e) (actions.foldl (fun e a => (a.carryOut e).getD e) e) := by
  induction actions generalizing e with
  | nil => exact .refl
  | cons a rest ih =>
    rw [List.foldl_cons, effectsOf]
    refine .trans ?_ (ih _)
    cases done : a.carryOut e with
    | none => exact .refl
    | some after => exact told_carryOut done

theorem told_alone (r : Rule) (track : Track Float) (e : Element Float) :
    e.Told (r.effectsAlone track e) (r.alone track e) := by
  unfold effectsAlone alone
  split
  · exact told_actions r r.actions e
  · exact .refl

theorem told_allAlone (rules : List Rule) (track : Track Float) (e : Element Float) :
    e.Told (allEffectsAlone rules track e) (allAlone rules track e) := by
  induction rules generalizing e with
  | nil => exact .refl
  | cons r rest ih => exact (told_alone r track e).trans (ih _)

/-- Rules leave the ids of elements as they are. -/
theorem map_id_allAlone (rules : List Rule) (tracks : List (Track Float)) :
    ((tracks.map fun t => t.mapElements (allAlone rules t)).flatMap (·.elements)).map (·.id) =
      (tracks.flatMap (·.elements)).map (·.id) := by
  simp only [List.flatMap_map, Track.elements_mapElements, List.map_flatMap, List.map_map,
    Function.comp_def, (told_allAlone _ _ _).id]

theorem elementId_effectsOf {actions : List Action} {e : Element Float} {f : Effect}
    (member : f ∈ r.effectsOf actions e) : f.elementId = e.id := by
  induction actions generalizing e with
  | nil => cases member
  | cons a rest ih =>
    rw [effectsOf] at member
    cases done : a.carryOut e with
    | none =>
      rw [done] at member
      exact ih member
    | some after =>
      rw [done] at member
      rcases List.mem_cons.1 member with rfl | later
      · rfl
      · exact (ih later).trans (told_carryOut (r := r) done).id

/-- The effects on an element have its id. -/
theorem elementId_allEffectsAlone {rules : List Rule} {track : Track Float} {e : Element Float}
    {f : Effect} (member : f ∈ allEffectsAlone rules track e) : f.elementId = e.id := by
  induction rules generalizing e with
  | nil => cases member
  | cons r rest ih =>
    rcases List.mem_append.1 member with first | later
    · unfold effectsAlone at first
      split at first
      · exact elementId_effectsOf first
      · cases first
    · exact (ih later).trans (told_alone r track e).id

/-! ## Starts that are still to be settled -/

/-- Setting the start settles it, and no other action does. -/
theorem provisional_carryOut {a : Action} {before after : Element Float}
    (done : a.carryOut before = some after) :
    after.provisional = true ↔ before.provisional = true ∧ a.kind ≠ .setStartTime := by
  by_cases kind : a.kind = .setStartTime
  · rw [Action.carryOut, kind] at done
    obtain ⟨start, _, rfl⟩ := Option.map_eq_some_iff.1 done
    simp [kind]
  · rcases (told_carryOut (r := { id := "", name := "" }) done).provisional with
      same | ⟨f, member, names, _⟩
    · simp [same, kind]
    · obtain rfl := List.mem_singleton.1 member
      exact absurd names kind

theorem provisional_actions (r : Rule) (actions : List Action) (e : Element Float) :
    (actions.foldl (fun e a => (a.carryOut e).getD e) e).provisional = true ↔
      e.provisional = true ∧ ∀ f ∈ r.effectsOf actions e, f.action ≠ .setStartTime := by
  induction actions generalizing e with
  | nil => simp [effectsOf]
  | cons a rest ih =>
    rw [List.foldl_cons, ih, effectsOf, List.forall_mem_append, ← and_assoc]
    refine and_congr_left fun _ => ?_
    cases done : a.carryOut e with
    | none => simp
    | some after => simpa [effect] using provisional_carryOut done

theorem provisional_alone (r : Rule) (track : Track Float) (e : Element Float) :
    (r.alone track e).provisional = true ↔
      e.provisional = true ∧ ∀ f ∈ r.effectsAlone track e, f.action ≠ .setStartTime := by
  unfold alone effectsAlone
  split
  · exact provisional_actions r r.actions e
  · simp

/-- An element is provisional after rules if it was before and no effect has set its start. -/
theorem provisional_allAlone (rules : List Rule) (track : Track Float) (e : Element Float) :
    (allAlone rules track e).provisional = true ↔
      e.provisional = true ∧ ∀ f ∈ allEffectsAlone rules track e, f.action ≠ .setStartTime := by
  induction rules generalizing e with
  | nil => simp [allAlone, allEffectsAlone]
  | cons r rest ih =>
    rw [allEffectsAlone, List.forall_mem_append, ← and_assoc, ← provisional_alone]
    exact ih _

end Rule

namespace Project

variable {p : Project Float} {rules : List Rule} {report : Rule.Report}

/-- What rules that are carried out make of a project. -/
theorem applyRules_ok (done : (p.applyRules rules).2 = .ok report) :
    p.applyRules rules =
        (({ p with
            tracks := p.tracks.map fun t =>
              t.mapElements (Rule.allAlone (rules.filter (·.enabled)) t)
            provenance := { p.provenance with
              effects := p.provenance.effects ++ report.effects } } : Project Float).withDuration,
          .ok report) ∧
      ∀ f, f ∈ report.effects ↔ Rule.IsEffect (rules.filter (·.enabled)) p.tracks f := by
  cases look : Rule.refused? rules with
  | some refused =>
    rw [applyRules_refused look] at done
    cases done
  | none =>
    obtain ⟨made, ran, recorded⟩ := applyRules_eq look p
    rw [ran] at done
    obtain rfl := Except.ok.inj done
    exact ⟨ran, recorded⟩

/-- What has changed of a project is told by a report. -/
structure Told (report : Rule.Report) (before after : Project Float) : Prop where
  id : after.id = before.id
  name : after.name = before.name
  canvas : after.canvas = before.canvas
  /-- The effects of the report come after those there were. -/
  provenance : after.provenance =
    { before.provenance with effects := before.provenance.effects ++ report.effects }
  /-- Every effect is one on an element of the project. -/
  named : ∀ f ∈ report.effects, ∃ e ∈ before.elements, e.id = f.elementId
  /-- The tracks are the same but for their elements, and an element that no effect names is the
  same. -/
  tracks : List.Forall₂ (fun t u => u = { t with elements := u.elements } ∧
    List.Forall₂ (fun e x => e.Told report.effects x ∧
      ((∀ f ∈ report.effects, f.elementId ≠ e.id) → x = e)) t.elements u.elements)
    before.tracks after.tracks

/-- **Effects tell the whole story**: rules that are carried out leave the project, its tracks and
the order of its elements as they are; a part of an element changes only where an effect names the
element with the kind of action for that part; and an element that no effect names is the same. -/
theorem applyRules_told (done : (p.applyRules rules).2 = .ok report) :
    p.Told report (p.applyRules rules).1 := by
  obtain ⟨ran, recorded⟩ := applyRules_ok done
  rw [ran]
  refine ⟨rfl, rfl, rfl, rfl, fun f member => ?_, ?_⟩
  · obtain ⟨t, here, e, inside, effect⟩ := (recorded f).1 member
    exact ⟨e, List.mem_flatMap.2 ⟨t, here, inside⟩, (Rule.elementId_allEffectsAlone effect).symm⟩
  · refine List.forall₂_map_right_iff.2 (List.forall₂_same.2 fun t here => ⟨rfl, ?_⟩)
    refine List.forall₂_map_right_iff.2 (List.forall₂_same.2 fun e inside => ?_)
    have told := (Rule.told_allAlone (rules.filter (·.enabled)) t e).mono fun f effect =>
      (recorded f).2 ⟨t, here, e, inside, effect⟩
    exact ⟨told, told.eq_of_unnamed⟩

/-- A size spelled as a text, one that is none, and an action that is not known, for long headlines;
and a new text for an early one. -/
def restyling : List Rule :=
  [{ id := "size", name := "Size"
     conditions :=
      [{ field := "textContent.length", operator := .greaterThan, value := .int 10 }]
     actions := [{ kind := .setStyle, target := some "fontSize", value := some (.str "32") },
      { kind := .setStyle, target := some "fontSize", value := some (.str "huge") },
      { kind := .other "fade" }, { kind := .setStartTime, value := some (.str "soon") }] },
    { id := "early", name := "Early"
      conditions := [{ field := "style.fontSize", operator := .equals, value := .int 32 },
        { field := "startTime", operator := .equals, value := .int 0 }]
      actions := [{ kind := .setText, value := some (.str "Now") }] }]

theorem applyRules_restyling :
    ∃ report, (headlines.applyRules restyling).2 = .ok report ∧
      report.effects.map (fun f => (f.elementId, f.action)) =
        [("early", .setStyle), ("late", .setStyle), ("early", .setText)] ∧
      headlines.Told report (headlines.applyRules restyling).1 := by
  obtain ⟨report, done, effects⟩ : ∃ report, (headlines.applyRules restyling).2 = .ok report ∧
      report.effects.map (fun f => (f.elementId, f.action)) =
        [("early", .setStyle), ("late", .setStyle), ("early", .setText)] := ⟨_, rfl, rfl⟩
  exact ⟨report, done, effects, applyRules_told done⟩

end Project

end Storyboard
