import Storyboard.Proofs.Interpretation.Mirror
import Storyboard.Proofs.Rule.Renaming

/-!
# What a text can change

A text that is given for a placeholder reaches the contents that are taken from that placeholder,
and what generators make, and nothing else: two runs whose inputs differ in one text look up the
same media, come to the same timeline, keep the same elements and draw the same ids.
-/

namespace Storyboard

variable {τ ω : Type}

/-- What the generator of a name makes with parameters, from some inputs. -/
def Collaborators.Makes (c : Collaborators τ ω) (name : String) (params : Keyed Json)
    (content : Project.Content τ) : Prop :=
  ∃ given, c.generate name params given = .ok content

/-! ## Inputs that differ in a text -/

/-- An input under an id is another one, but for the text if it is one under a given id. -/
def Input.RetoldAt (p id : String) (before after : Input τ) : Prop :=
  after = before ∨ id = p ∧ ∃ a b, before = .text a ∧ after = .text b

/-- Two lists of inputs differ at most in the text under an id. -/
def Retold (p : String) (before after : Inputs τ) : Prop :=
  List.Forall₂ (fun x y => y.1 = x.1 ∧ x.2.RetoldAt p x.1 y.2) before after

variable {p : String} {inputs inputs' : Inputs τ}

theorem Input.RetoldAt.media? {id : String} {before after : Input τ}
    (retold : before.RetoldAt p id after) : after.media? = before.media? := by
  rcases retold with rfl | ⟨_, _, _, rfl, rfl⟩ <;> rfl

theorem Retold.get? (retold : Retold p inputs inputs') (id : String) :
    Option.Rel (Input.RetoldAt p id) (inputs.get? id) (inputs'.get? id) :=
  Keyed.get?_forall₂ retold id

theorem Retold.has (retold : Retold p inputs inputs') (id : String) :
    inputs'.has id = inputs.has id := by
  unfold Keyed.has
  generalize inputs.get? id = before, inputs'.get? id = after, retold.get? id = related
  cases related <;> rfl

theorem Retold.insert (retold : Retold p inputs inputs') (key : String) (value : Input τ) :
    Retold p (Keyed.insert key value inputs) (Keyed.insert key value inputs') := by
  induction retold with
  | nil => exact .cons ⟨rfl, .inl rfl⟩ .nil
  | @cons x y _ _ first later ih =>
    obtain ⟨k, v⟩ := x
    obtain ⟨_, v'⟩ := y
    obtain ⟨rfl, first⟩ := first
    unfold Keyed.insert
    split
    · exact .cons ⟨rfl, .inl rfl⟩ later
    · split
      · exact .cons ⟨rfl, .inl rfl⟩ (.cons ⟨rfl, first⟩ later)
      · exact .cons ⟨rfl, first⟩ ih

namespace Template

variable {t : Template τ} {c : Collaborators τ ω}

theorem given_retold (retold : Retold p inputs inputs') : t.given inputs' = t.given inputs := by
  simp only [given, retold.has]

theorem defaulted_retold (retold : Retold p inputs inputs') :
    t.defaulted inputs' = t.defaulted inputs := by
  simp only [defaulted, retold.has]

/-- The same defaults are added. -/
theorem withDefaults_retold (retold : Retold p inputs inputs') :
    Retold p (t.withDefaults inputs) (t.withDefaults inputs') := by
  unfold withDefaults
  rw [defaulted_retold retold]
  generalize t.defaulted inputs = added
  induction added generalizing inputs inputs' with
  | nil => exact retold
  | cons entry rest ih => exact ih (retold.insert entry.1 entry.2)

/-- A text is not looked up, and anything else is looked up alike. -/
theorem probeInput_retold {id : String} {before after : Input τ}
    (retold : before.RetoldAt p id after) (w : ω) :
    ∃ w', (∃ fault, probeInput c before w = (.error fault, w') ∧
        probeInput c after w = (.error fault, w')) ∨
      ∃ found found', probeInput c before w = (.ok found, w') ∧
        probeInput c after w = (.ok found', w') ∧ found.RetoldAt p id found' := by
  rcases retold with rfl | ⟨here, a, b, rfl, rfl⟩
  · rcases probed : probeInput c after w with ⟨fault | found, w'⟩
    · exact ⟨w', .inl ⟨fault, rfl, rfl⟩⟩
    · exact ⟨w', .inr ⟨found, found, rfl, rfl, .inl rfl⟩⟩
  · exact ⟨w, .inr ⟨_, _, rfl, rfl, .inr ⟨here, a, b, rfl, rfl⟩⟩⟩

/-- The same media are looked up, and the surroundings are left the same. -/
theorem probeInputs_retold (retold : Retold p inputs inputs') (w : ω) :
    ∃ w', (∃ failure, probeInputs c inputs w = (.error failure, w') ∧
        probeInputs c inputs' w = (.error failure, w')) ∨
      ∃ found found', probeInputs c inputs w = (.ok found, w') ∧
        probeInputs c inputs' w = (.ok found', w') ∧ Retold p found found' := by
  induction retold generalizing w with
  | nil => exact ⟨w, .inr ⟨[], [], rfl, rfl, .nil⟩⟩
  | @cons x y rest rest' first _ ih =>
    obtain ⟨id, input⟩ := x
    obtain ⟨_, input'⟩ := y
    obtain ⟨rfl, first⟩ := first
    unfold probeInputs
    obtain ⟨w₁, ⟨fault, probed, probed'⟩ | ⟨found, found', probed, probed', here⟩⟩ :=
      probeInput_retold (c := c) first w
    · rw [probed, probed']
      exact ⟨w₁, .inl ⟨_, rfl, rfl⟩⟩
    · rw [probed, probed']
      dsimp only
      obtain ⟨w₂, ⟨failure, later, later'⟩ | ⟨others, others', later, later', there⟩⟩ := ih w₁
      · rw [later, later']
        exact ⟨w₂, .inl ⟨_, rfl, rfl⟩⟩
      · rw [later, later']
        exact ⟨w₂, .inr ⟨_, _, rfl, rfl, .cons ⟨rfl, here⟩ there⟩⟩

/-- Preparing inputs keeps them apart by the text alone. -/
theorem prepare_retold (retold : Retold p inputs inputs') {prepared prepared' : Prepared τ} {w : ω}
    (ready : (t.prepare c inputs w).1 = .ok prepared)
    (ready' : (t.prepare c inputs' w).1 = .ok prepared') :
    Retold p prepared.inputs prepared'.inputs ∧ prepared'.used = prepared.used ∧
      prepared'.defaultsApplied = prepared.defaultsApplied := by
  unfold prepare at ready ready'
  rw [given_retold retold, defaulted_retold retold] at ready'
  obtain ⟨w', ⟨failure, probed, probed'⟩ | ⟨found, found', probed, probed', kept⟩⟩ :=
    probeInputs_retold (c := c) (withDefaults_retold (t := t) retold) w
  · rw [probed] at ready
    cases ready
  · rw [probed] at ready
    rw [probed'] at ready'
    cases ready
    cases ready'
    exact ⟨kept, rfl, rfl⟩

/-! ## What is filled in -/

/-- **No duration depends on a text.** -/
theorem durationOf_retold [Measure τ] (retold : Retold p inputs inputs') (options : FillOptions τ) :
    durationOf inputs' options = durationOf inputs options := by
  -- Of an input only its file is looked at.
  have media (id : String) :
      (inputs'.get? id).bind (·.media?) = (inputs.get? id).bind (·.media?) := by
    generalize inputs.get? id = before, inputs'.get? id = after, retold.get? id = related
    cases related with
    | none => rfl
    | some same => exact same.media?
  funext e
  unfold durationOf
  simp only [media]
  cases e.duration with
  | content limit hint =>
    dsimp only
    split
    · rfl
    · next id _ _ =>
      generalize inputs.get? id = before, inputs'.get? id = after, retold.get? id = related
      cases related with
      | none => rfl
      | some same => simp only [same.media?]
    · rfl
  | _ => rfl

/-- What the content of an element may be in two runs that differ in the text under an id. -/
inductive Element.Retells (c : Collaborators τ ω) (p : String) (e : Element τ)
    (before after : Project.Content τ) : Prop where
  | same : after = before → Retells c p e before after
  | shown {a b : String} : e.content.placeholderId? = some p → before = .text a → after = .text b →
      Retells c p e before after
  | made {generator : String} {params : Keyed Json} : e.content = .generated generator params →
      c.Makes generator params before → c.Makes generator params after → Retells c p e before after

theorem hasContent_retold (retold : Retold p inputs inputs') (e : Element τ) :
    e.hasContent inputs' = e.hasContent inputs := by
  unfold Element.hasContent
  split
  · exact retold.has _
  · rfl

/-- **Contents that show a text differ in it**, and otherwise only those that are generated do. -/
theorem substitute_retold (retold : Retold p inputs inputs') {track : TrackKind} {e : Element τ}
    {before after : Project.Content τ} (done : substitute c inputs track e = .ok (some before))
    (done' : substitute c inputs' track e = .ok (some after)) : e.Retells c p before after := by
  unfold substitute at done done'
  cases shows : e.content with
  | placeholder id =>
    rw [shows] at done done'
    dsimp only at done done'
    have related := retold.get? id
    cases given : inputs.get? id with
    | none => simp [given] at done
    | some input =>
      cases given' : inputs'.get? id with
      | none => simp [given'] at done'
      | some input' =>
        rw [given, given'] at related
        rw [given] at done
        rw [given'] at done'
        cases related with
        | some related =>
          rcases related with rfl | ⟨rfl, a, b, rfl, rfl⟩
          · exact .same (Option.some.inj (Except.ok.inj (done'.symm.trans done)))
          · cases track <;> cases done
            cases done'
            exact .shown (by rw [shows]; rfl) rfl rfl
  | transcript id granularity index =>
    rw [shows] at done done'
    dsimp only at done done'
    have either : (id.bind fun id => (inputs'.get? id).bind (·.text?)) =
        (id.bind fun id => (inputs.get? id).bind (·.text?)) ∨ id = some p := by
      cases id with
      | none => exact .inl rfl
      | some id =>
        have related := retold.get? id
        rw [Option.bind_some, Option.bind_some]
        generalize inputs.get? id = value at related ⊢
        generalize inputs'.get? id = value' at related ⊢
        cases related with
        | none => exact .inl rfl
        | some related =>
          rcases related with rfl | ⟨rfl, _⟩
          · exact .inl rfl
          · exact .inr rfl
    rcases either with same | rfl
    · rw [same] at done'
      exact .same (Option.some.inj (Except.ok.inj (done'.symm.trans done)))
    · obtain ⟨segments, _, done⟩ := bind_ok_iff.1 done
      obtain ⟨segments', _, done'⟩ := bind_ok_iff.1 done'
      split at done <;> cases done
      split at done' <;> cases done'
      exact .shown (by rw [shows]; rfl) rfl rfl
  | fixed text source =>
    rw [shows] at done done'
    cases done
    cases done'
    exact .same rfl
  | generated generator params =>
    rw [shows] at done done'
    obtain ⟨_, made, same⟩ := map_ok_iff.1 done
    obtain ⟨_, made', same'⟩ := map_ok_iff.1 done'
    obtain rfl := Option.some.inj same
    obtain rfl := Option.some.inj same'
    exact .made shows ⟨inputs, made⟩ ⟨inputs', made'⟩

/-- A kept element is another one, but for what its content may be. -/
structure Filled.Retells (t : Template τ) (c : Collaborators τ ω) (p : String) (f g : Filled τ) :
    Prop where
  member : f.element ∈ t.elements
  same : g = { f with content := g.content }
  content : f.element.Retells c p f.content g.content

/-- Tracks are filled alike: the same elements are kept, but for what their contents may be. -/
def FilledAlike (t : Template τ) (c : Collaborators τ ω) (p : String)
    (filled filled' : List (Track τ × List (Filled τ))) : Prop :=
  List.Forall₂ (fun entry entry' => entry'.1 = entry.1 ∧
    List.Forall₂ (Filled.Retells t c p) entry.2 entry'.2) filled filled'

theorem Filled.Of.retells (retold : Retold p inputs inputs') {timeline : Timeline τ}
    {track : TrackKind} {e : Element τ} {f g : Filled τ} (member : e ∈ t.elements)
    (is : Filled.Of timeline (substitute c inputs track) e f)
    (is' : Filled.Of timeline (substitute c inputs' track) e g) : Filled.Retells t c p f g := by
  obtain ⟨element, span, content⟩ := f
  obtain ⟨element', span', content'⟩ := g
  obtain rfl : element = e := is.element
  obtain rfl : element' = element := is'.element
  obtain rfl : span = span' := Option.some.inj (is.span.symm.trans is'.span)
  exact ⟨member, rfl, substitute_retold retold is.content is'.content⟩

/-- The same elements are kept, with the same spans. -/
theorem fillTracks_retold (retold : Retold p inputs inputs') {timeline : Timeline τ}
    {filled filled' : List (Track τ × List (Filled τ))}
    (done : fillTracks timeline (substitute c inputs) t.tracks = .ok filled)
    (done' : fillTracks timeline (substitute c inputs') t.tracks = .ok filled') :
    FilledAlike t c p filled filled' := by
  have keeping kind e made (shown : substitute c inputs kind e = .ok made) :
      made.isSome = e.hasContent inputs := substitute_isSome shown
  have keeping' kind e made (shown : substitute c inputs' kind e = .ok made) :
      made.isSome = e.hasContent inputs :=
    (substitute_isSome shown).trans (hasContent_retold retold e)
  have kept := fillTracks_kept keeping done
  have kept' := fillTracks_kept keeping' done'
  refine forall₂_join ?_ (forall₂_mem_zip kept) kept'
  rintro track entry entry' ⟨⟨same, first⟩, here⟩ ⟨same', second⟩
  refine ⟨same'.trans same.symm, forall₂_join ?_ (forall₂_mem_zip first) second⟩
  rintro e f g ⟨is, there⟩ is'
  have inside := List.mem_of_mem_filter (List.of_mem_zip there).1
  exact is.retells retold (List.mem_flatMap.2 ⟨track, (List.of_mem_zip here).1, inside⟩) is'

end Template

/-! ## What is built -/

/-- Whether content shows in the style of its element. -/
def Project.Content.isStyle : Project.Content τ → Bool
  | .color _ | .font _ => true
  | _ => false

/-- Generators that make neither colors nor fonts. -/
def Collaborators.Unstyled (c : Collaborators τ ω) : Prop :=
  ∀ name params content, c.Makes name params content → content.isStyle = false

/-- What the library provides generates neither colors nor fonts. -/
theorem Collaborators.Provided.unstyled {c : Collaborators τ ω} (provided : c.Provided) :
    c.Unstyled := by
  rintro name params content ⟨given, made⟩
  unfold Collaborators.generate at made
  split at made
  · next generator known =>
    obtain rfl := provided.textTemplate known
    cases made
    rfl
  · cases made

/-- What a project element may be in two runs that differ in the text under an id: another one in
its content if that is taken from there or generated, and in what a color or a font that is generated
sets in its style. -/
inductive Template.Element.Rewords (t : Template τ) (c : Collaborators τ ω) (p : String)
    (e : Template.Element τ) (x y : Project.Element τ) : Prop where
  | same : y = x → Rewords t c p e x y
  | shown : e.content.placeholderId? = some p → y = { x with content := y.content } →
      Rewords t c p e x y
  | made {generator : String} {params : Keyed Json} : e.content = .generated generator params →
      c.Makes generator params x.content → c.Makes generator params y.content →
      x.style = t.contentStyle e x.content → y.style = t.contentStyle e y.content →
      y = { x with content := y.content, style := y.style } → Rewords t c p e x y

theorem Template.contentStyle_plain {t : Template τ} {e : Template.Element τ}
    {content : Project.Content τ} (plain : content.isStyle = false) : t.contentStyle e content =
      e.style.or ((e.captionStyleId.bind t.captionStyle?).map (·.textStyle)) := by
  cases content <;> first | rfl | cases plain

namespace Template.Element.Rewords

variable {t : Template τ} {c : Collaborators τ ω} {e : Template.Element τ} {x y : Project.Element τ}

theorem id (rewords : e.Rewords t c p x y) : x.id = y.id := by
  cases rewords with
  | same same | shown _ same | made _ _ _ _ _ same => rw [same]

theorem finish [Measure τ] (rewords : e.Rewords t c p x y) : x.finish = y.finish := by
  cases rewords with
  | same same => rw [same]
  | shown _ same | made _ _ _ _ _ same =>
    rw [same]
    rfl

/-- Where no color and no font is generated, the style is the same. -/
theorem style (rewords : e.Rewords t c p x y) (unstyled : c.Unstyled) : x.style = y.style := by
  cases rewords with
  | same same | shown _ same => rw [same]
  | made _ makes makes' style style' _ =>
    have plain := unstyled _ _ _ makes
    have plain' := unstyled _ _ _ makes'
    rw [style, style', contentStyle_plain plain, contentStyle_plain plain']

end Template.Element.Rewords

/-- What a track may be: the same with other elements in the same places. -/
structure Project.Track.Reworded (t : Template τ) (c : Collaborators τ ω) (p : String)
    (ids : Keyed String) (s s' : Project.Track τ) : Prop where
  same : s' = { s with elements := s'.elements }
  elements : List.Forall₂ (fun x y => ∃ e ∈ t.elements, ids.get? e.id = some x.id ∧
    e.Rewords t c p x y) s.elements s'.elements

/-- What a project may be: the same with other tracks in the same places, made at another time. -/
structure Project.Reworded (t : Template τ) (c : Collaborators τ ω) (p : String)
    (a b : Project τ) : Prop where
  tracks : List.Forall₂ (Project.Track.Reworded t c p a.provenance.elementIds) a.tracks b.tracks
  rest : b = { a with tracks := b.tracks }.madeAt b.provenance.generatedAt

namespace Template

variable {t : Template τ} {c : Collaborators τ ω}

/-- What is the same in elements however they are reworded is the same all over the project. -/
theorem map_elements_reworded {γ : Type} {ids : Keyed String} {a b : Project τ}
    (tracks : List.Forall₂ (Project.Track.Reworded t c p ids) a.tracks b.tracks)
    (f : Project.Element τ → γ) (same : ∀ {e : Element τ} {x y}, e.Rewords t c p x y → f x = f y) :
    a.elements.map f = b.elements.map f := by
  rw [Project.elements, Project.elements, List.map_flatMap, List.map_flatMap]
  refine flatMap_congr_forall₂ (tracks.imp fun s s' each => forall₂_iff_map.1 ?_)
  exact each.elements.imp fun x y ⟨_, _, _, rewords⟩ => same rewords

variable [Measure τ]

/-- Elements that are kept alike are built alike. -/
theorem Filled.Retells.rewords {f g : Filled τ} (retells : Filled.Retells t c p f g) (size : Size)
    (id : String) :
    f.element.Rewords t c p (Filled.build t size f id) (Filled.build t size g id) := by
  obtain ⟨_, same, content⟩ := retells
  rw [same]
  cases content with
  | same same => exact .same (by rw [same])
  | shown shows before after =>
    refine .shown shows ?_
    unfold Filled.build
    rw [before, after]
    rfl
  | made shows makes makes' => exact .made shows makes makes' rfl rfl rfl

/-- The same ids are drawn. -/
theorem buildTracks_even (size : Size) {filled filled' : List (Track τ × List (Filled τ))}
    (even : List.Forall₂ (fun entry entry' => entry'.1 = entry.1 ∧
      entry'.2.length = entry.2.length) filled filled') (ids : IdSupply) :
    (t.buildTracks size filled' ids).2 = (t.buildTracks size filled ids).2 ∧
      List.Forall₂ (fun s s' => s' = { s with elements := s'.elements } ∧
        s.elements.map (·.id) = s'.elements.map (·.id))
        (t.buildTracks size filled ids).1 (t.buildTracks size filled' ids).1 := by
  induction even generalizing ids with
  | nil => exact ⟨rfl, .nil⟩
  | @cons entry entry' _ _ first _ ih =>
    obtain ⟨track, kept⟩ := entry
    obtain ⟨_, kept'⟩ := entry'
    obtain ⟨rfl, length⟩ := first
    obtain ⟨supply, later⟩ := ih ((ids.skip kept.length).skip 1)
    have enough : (ids.take kept.length).length = kept.length := by simp [IdSupply.take]
    have drawn := map_id_zipWith_build (t := t) size kept enough
    have drawn' := map_id_zipWith_build (t := t) size kept' (enough.trans length.symm)
    unfold buildTracks
    rw [length]
    exact ⟨supply, .cons ⟨rfl, drawn.trans drawn'.symm⟩ later⟩

variable {canvas : Canvas} {name : String} {now now' : Instant} {used defaultsApplied : List String}
  {filled filled' : List (Track τ × List (Filled τ))} {ids left left' : IdSupply} {a b : Project τ}

omit [Measure τ] in
/-- As many elements are kept, with the same ids. -/
theorem FilledAlike.even (alike : FilledAlike t c p filled filled') :
    List.Forall₂ (fun entry entry' => entry'.1 = entry.1 ∧ entry'.2.length = entry.2.length)
      filled filled' :=
  alike.imp fun _ _ same => ⟨same.1, same.2.length_eq.symm⟩

/-- Tracks that are filled alike are built alike. -/
theorem tracks_retold (distinct : ((filled.flatMap (·.2)).map (·.element.id)).Nodup)
    (made : t.build canvas name now used defaultsApplied filled ids = (a, left))
    (made' : t.build canvas name now' used defaultsApplied filled' ids = (b, left'))
    (alike : FilledAlike t c p filled filled') :
    List.Forall₂ (Project.Track.Reworded t c p a.provenance.elementIds) a.tracks b.tracks := by
  have sameCanvas : b.canvas = a.canvas := by cases made; cases made'; rfl
  have drawn : List.Forall₂ (fun s s' => s' = { s with elements := s'.elements } ∧
      s.elements.map (·.id) = s'.elements.map (·.id)) a.tracks b.tracks := by
    cases made
    cases made'
    exact (buildTracks_even canvas.size alike.even ids).2
  -- Both projects are built from the same entries, in their order.
  have second : List.Forall₂ (fun entry s' => List.Forall₂ (fun f y => ∃ g,
      Filled.Retells t c p f g ∧ y = Filled.build t a.canvas.size g y.id) entry.2 s'.elements)
      filled b.tracks := by
    refine forall₂_trans ?_ alike (sameCanvas ▸ tracks_build made')
    rintro entry entry' s' ⟨_, kept⟩ ⟨_, images⟩
    exact forall₂_trans (fun _ g _ retells image => ⟨g, retells, image⟩) kept images
  have both : List.Forall₂ (fun s s' => List.Forall₂ (fun x y => ∃ f g,
      Filled.Retells t c p f g ∧ a.provenance.elementIds.get? f.element.id = some x.id ∧
      x = Filled.build t a.canvas.size f x.id ∧ y = Filled.build t a.canvas.size g y.id)
      s.elements s'.elements) a.tracks b.tracks := by
    refine forall₂_join ?_ (forall₂_mem_zip (tracks_build made)) second
    rintro entry s s' ⟨⟨_, images⟩, here⟩ kept
    refine forall₂_join ?_ (forall₂_mem_zip images) kept
    rintro f x y ⟨image, there⟩ ⟨g, retells, image'⟩
    have known := elementIds_build made distinct (mem_zip_flatMap (even_build made) here there)
    exact ⟨f, g, retells, known, image, image'⟩
  refine drawn.mp ?_ both
  rintro s s' ⟨settings, sameIds⟩ elements
  refine ⟨settings, (forall₂_iff_map.2 sameIds).mp ?_ elements⟩
  rintro x y sameId ⟨f, g, retells, known, image, image'⟩
  refine ⟨f.element, retells.member, known, ?_⟩
  rw [image, image', ← sameId]
  exact retells.rewords a.canvas.size x.id

omit [Measure τ] in
theorem FilledAlike.map_id (alike : FilledAlike t c p filled filled') :
    (filled.flatMap (·.2)).map (·.element.id) = (filled'.flatMap (·.2)).map (·.element.id) := by
  rw [List.map_flatMap, List.map_flatMap]
  refine flatMap_congr_forall₂ (alike.imp fun entry entry' same => forall₂_iff_map.1 ?_)
  exact same.2.imp fun f g retells => by rw [retells.same]

/-- What is filled alike is built alike. -/
theorem build_retold (distinct : ((filled.flatMap (·.2)).map (·.element.id)).Nodup)
    (made : t.build canvas name now used defaultsApplied filled ids = (a, left))
    (made' : t.build canvas name now' used defaultsApplied filled' ids = (b, left'))
    (alike : FilledAlike t c p filled filled') : a.Reworded t c p b ∧ left' = left := by
  have tracks := tracks_retold distinct made made' alike
  have sameIds := map_elements_reworded tracks (·.id) Element.Rewords.id
  have ends := map_elements_reworded tracks (·.finish) Element.Rewords.finish
  have supply := (buildTracks_even (t := t) canvas.size alike.even ids).1
  cases made
  cases made'
  have duration : Project.lastFinish (t.buildTracks canvas.size filled' ids).1 =
      Project.lastFinish (t.buildTracks canvas.size filled ids).1 :=
    congrArg Measure.latest ends.symm
  have listed : elementIds filled' (t.buildTracks canvas.size filled' ids).1 =
      elementIds filled (t.buildTracks canvas.size filled ids).1 := by
    rw [elementIds, elementIds, alike.map_id]
    exact congrArg (fun made => Keyed.ofList (List.zip _ made)) sameIds.symm
  refine ⟨⟨tracks, ?_⟩, congrArg (IdSupply.skip · 1) supply⟩
  simp only [Project.madeAt, supply, duration, listed]

/-- **A text changes nothing but the contents that are taken from it**, and what is generated: the
projects that a template is filled with by inputs that differ in a text have the same tracks with
the same elements, which are the same in everything else. Their styles, too, are the same unless a
color or a font is generated. -/
theorem interpret_retold {options : FillOptions τ} {w : ω} (retold : Retold p inputs inputs')
    (done : (t.interpret c inputs options now ids w).1 = .ok (a, left))
    (done' : (t.interpret c inputs' options now' ids w).1 = .ok (b, left')) :
    a.Reworded t c p b ∧ left' = left ∧
      (c.Unstyled → a.elements.map (·.style) = b.elements.map (·.style)) := by
  obtain ⟨prepared, ready, completed⟩ := interpret_ok_iff.1 done
  obtain ⟨prepared', ready', completed'⟩ := interpret_ok_iff.1 done'
  obtain ⟨kept, used, defaults⟩ := prepare_retold retold ready ready'
  obtain ⟨_, _, _, timeline, filled, timed, contents, made⟩ := interpretPrepared_ok_iff.1 completed
  obtain ⟨_, _, _, timeline', filled', timed', contents', made'⟩ :=
    interpretPrepared_ok_iff.1 completed'
  rw [durationOf_retold kept, timed] at timed'
  obtain rfl := Except.ok.inj timed'
  rw [used, defaults] at made'
  have alike := fillTracks_retold kept contents contents'
  have keeping kind e made (shown : substitute c prepared.inputs kind e = .ok made) :
      made.isSome = e.hasContent prepared.inputs := substitute_isSome shown
  have distinct := nodup_kept (Timeline.run_of_resolve timed).1 (fillTracks_kept keeping contents)
  obtain ⟨reworded, supply⟩ := build_retold distinct made made' alike
  refine ⟨reworded, supply, fun unstyled => ?_⟩
  exact map_elements_reworded reworded.tracks (·.style) fun rewords => rewords.style unstyled

/-- A name, a line that is made with it, and a place. -/
def invitation : Template Float :=
  let guest : Element Float :=
    { id := "guest", name := "Guest", timing := .absolute 0.0, duration := .fixed 2.0
      content := .placeholder "name" }
  let welcome : Element Float :=
    { id := "welcome", name := "Welcome", timing := .relative "guest" 0.5 .finish
      duration := .fillGap none
      content := .generated "text_template" [("template", .str "Welcome, \x7bname\x7d!")] }
  let place : Element Float :=
    { id := "place", name := "Place", timing := .absolute 6.0, duration := .fixed 1.0
      content := .fixed (some "Main hall") none }
  let text : Track Float :=
    { id := "text", name := "Text", kind := .text, role := .title
      elements := [guest, welcome, place] }
  { (Template.new "invitation" "Invitation" .landscape ⟨0, 0⟩ : Template Float) with
    tracks := [text]
    placeholders := [{ id := "name", name := "Name", kind := .text, required := true }] }

theorem interpret_invitation :
    let c : Collaborators Float Unit := .ofTables [] []
    ∃ a b left left',
      (invitation.interpret c [("name", .text "Ann")] {} ⟨0, 0⟩ ⟨tally, 0⟩ ()).1 = .ok (a, left) ∧
      (invitation.interpret c [("name", .text "Bob")] {} ⟨9, 0⟩ ⟨tally, 0⟩ ()).1 = .ok (b, left') ∧
      Retold "name" [("name", (.text "Ann" : Input Float))] [("name", .text "Bob")] ∧
      c.Unstyled ∧ a.Reworded invitation c "name" b ∧
      a.elements.map (·.style) = b.elements.map (·.style) := by
  intro c
  have ordered : invitation.orderedPlaceholders = invitation.placeholders :=
    List.mergeSort_of_pairwise (by decide)
  have retold : Retold "name" [("name", (.text "Ann" : Input Float))] [("name", .text "Bob")] :=
    .cons ⟨rfl, .inr ⟨rfl, _, _, rfl, rfl⟩⟩ .nil
  have unstyled : c.Unstyled := (Collaborators.provided_ofTables [] []).unstyled
  obtain ⟨a, left, done⟩ : ∃ a left, (invitation.interpret c [("name", .text "Ann")] {} ⟨0, 0⟩
      ⟨tally, 0⟩ ()).1 = .ok (a, left) := by
    rw [interpret, prepare, withDefaults, given, defaulted, ordered]
    exact ⟨_, _, rfl⟩
  obtain ⟨b, left', done'⟩ : ∃ b left', (invitation.interpret c [("name", .text "Bob")] {} ⟨9, 0⟩
      ⟨tally, 0⟩ ()).1 = .ok (b, left') := by
    rw [interpret, prepare, withDefaults, given, defaulted, ordered]
    exact ⟨_, _, rfl⟩
  obtain ⟨reworded, _, styles⟩ := interpret_retold retold done done'
  exact ⟨a, b, left, left', done, done', retold, unstyled, reworded, styles unstyled⟩

/-- A backdrop whose color is generated. -/
def backdrop : Template Float :=
  let shade : Element Float :=
    { id := "shade", name := "Shade", timing := .absolute 0.0, duration := .fixed 2.0
      content := .generated "tint" [] }
  let text : Track Float :=
    { id := "text", name := "Text", kind := .text, role := .title, elements := [shade] }
  { (Template.new "backdrop" "Backdrop" .landscape ⟨0, 0⟩ : Template Float) with
    tracks := [text]
    placeholders := [{ id := "mood", name := "Mood", kind := .text, required := true }] }

/-- A generator that takes a text for a color. -/
def tinter : Collaborators Float Unit :=
  { (Collaborators.ofTables [] [] : Collaborators Float Unit) with
    generators := [("tint", fun _ inputs =>
      .ok (.color (((inputs.get? "mood").bind (·.text?)).getD "white")))] }

/-- Styles may differ where a color is generated: it is put into the style of its element. -/
theorem not_styles_backdrop :
    ¬ ∀ (t : Template Float) (c : Collaborators Float Unit) (p : String)
        (inputs inputs' : Inputs Float) (options : FillOptions Float) (now now' : Instant)
        (ids left left' : IdSupply) (a b : Project Float), Retold p inputs inputs' →
        (t.interpret c inputs options now ids ()).1 = .ok (a, left) →
        (t.interpret c inputs' options now' ids ()).1 = .ok (b, left') →
        a.elements.map (·.style) = b.elements.map (·.style) := by
  intro styles
  have ordered : backdrop.orderedPlaceholders = backdrop.placeholders :=
    List.mergeSort_of_pairwise (by decide)
  have retold : Retold "mood" [("mood", (.text "red" : Input Float))] [("mood", .text "blue")] :=
    .cons ⟨rfl, .inr ⟨rfl, _, _, rfl, rfl⟩⟩ .nil
  obtain ⟨a, left, done, red⟩ : ∃ a left, (backdrop.interpret tinter [("mood", .text "red")] {}
      ⟨0, 0⟩ ⟨tally, 0⟩ ()).1 = .ok (a, left) ∧
      a.elements.map (·.style.map (·.color)) = [some "red"] := by
    rw [interpret, prepare, withDefaults, given, defaulted, ordered]
    exact ⟨_, _, rfl, rfl⟩
  obtain ⟨b, left', done', blue⟩ : ∃ b left', (backdrop.interpret tinter [("mood", .text "blue")] {}
      ⟨0, 0⟩ ⟨tally, 0⟩ ()).1 = .ok (b, left') ∧
      b.elements.map (·.style.map (·.color)) = [some "blue"] := by
    rw [interpret, prepare, withDefaults, given, defaulted, ordered]
    exact ⟨_, _, rfl, rfl⟩
  have same := styles _ _ _ _ _ _ _ _ _ _ _ _ _ retold done done'
  have colors := congrArg (List.map (Option.map TextStyle.color)) same
  rw [List.map_map, List.map_map] at colors
  exact absurd (red.symm.trans (colors.trans blue)) (by decide)

end Template

end Storyboard
