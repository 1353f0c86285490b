import Mathlib.Data.List.Forall2
import Mathlib.Data.List.Nodup
import Storyboard.Extraction
import Storyboard.Proofs.IdSupply
import Storyboard.Proofs.Keyed

/-!
# What extraction makes

The parts of a template are made one after the other, and each step leaves what was made before. So
what is found out about an element right after it is made, where it was placed, what its content
stands for, holds of it in the finished template.
-/

namespace Storyboard

variable {τ : Type}

/-- A text, or a media file of which everything is known. -/
def Input.AtHand (input : Input τ) : Prop :=
  (∃ text, input = .text text) ∨ ∃ file, input.media? = some file ∧ file.metadata.isSome = true

/-- A placeholder takes any value of its kind, and has one that is at hand. -/
structure Placeholder.FillsItself (p : Placeholder τ) : Prop where
  free : p.constraints = {}
  value : ∃ input : Input τ, p.default = some input ∧ input.kind = p.kind ∧ input.AtHand

namespace Source

/-- A file of a library as the input of a placeholder of its kind. -/
def MediaFile.input (file : MediaFile τ) : Input τ :=
  match file.kind with
  | .video => .video file.toRef
  | .audio => .audio file.toRef
  | .image => .image file.toRef

theorem MediaFile.ofMedia_toRef (file : MediaFile τ) :
    Input.ofMedia file.kind.inputKind file.toRef = some file.input := by
  unfold input
  cases file.kind <;> rfl

theorem MediaFile.kind_input (file : MediaFile τ) : file.input.kind = file.kind.inputKind := by
  unfold input
  cases file.kind <;> rfl

theorem MediaFile.media?_input (file : MediaFile τ) : file.input.media? = some file.toRef := by
  unfold input
  cases file.kind <;> rfl

theorem MediaFile.atHand_input (file : MediaFile τ) : file.input.AtHand :=
  .inr ⟨file.toRef, file.media?_input, rfl⟩

theorem id_of_file? {library : List (MediaFile τ)} {id : String} {file : MediaFile τ}
    (found : file? library id = some file) : file.id = id := by
  simpa using List.find?_some found

theorem Element.file?_id {e : Element τ} {library : List (MediaFile τ)} {file : MediaFile τ}
    (plays : e.file? library = some file) : Source.file? library file.id = some file := by
  obtain ⟨id, _, found⟩ := Option.bind_eq_some_iff.1 plays
  rwa [id_of_file? found]

end Source

namespace Extraction

open Source

variable {ctx : Context τ} {role : TrackRole} {s s' s'' : State τ}

/-! ## The state -/

/-- What holds of the state between two steps. -/
structure State.Sound (library : List (MediaFile τ)) (s : State τ) : Prop where
  names : Function.Injective s.ids.name
  elements : (s.emitted.map (·.id)).Nodup
  elementsDrawn : ∀ x ∈ s.emitted, s.ids.Drawn x.id
  placeholders : (s.placeholders.map (·.id)).Nodup
  placeholdersDrawn : ∀ p ∈ s.placeholders, s.ids.Drawn p.id
  filled : ∀ p ∈ s.placeholders, p.FillsItself
  /-- The placeholder noted for a file has the file for its default. -/
  media : ∀ fileId id, s.mediaPlaceholders.get? fileId = some id →
    ∃ file, Source.file? library fileId = some file ∧
      ∃ p ∈ s.placeholders, p.id = id ∧ p.default = some file.input

/-- A state comes of another one by making some elements, in their order. -/
structure State.Extends (library : List (MediaFile τ)) (s s' : State τ)
    (made : List (Template.Element τ)) : Prop where
  sound : s'.Sound library
  emitted : ∃ added, s'.emitted = s.emitted ++ added ∧ added.map (·.id) = made.map (·.id)
  placeholders : s.placeholders <+: s'.placeholders

theorem State.Sound.extends (sound : s.Sound ctx.library) : s.Extends ctx.library s [] :=
  ⟨sound, ⟨[], (List.append_nil _).symm, rfl⟩, List.prefix_rfl⟩

theorem State.Extends.trans {a b : List (Template.Element τ)}
    (first : s.Extends ctx.library s' a) (later : s'.Extends ctx.library s'' b) :
    s.Extends ctx.library s'' (a ++ b) := by
  obtain ⟨addedA, emittedA, idsA⟩ := first.emitted
  obtain ⟨addedB, emittedB, idsB⟩ := later.emitted
  refine ⟨later.sound, ⟨addedA ++ addedB, ?_, ?_⟩, first.placeholders.trans later.placeholders⟩
  · rw [emittedB, emittedA, List.append_assoc]
  · rw [List.map_append, List.map_append, idsA, idsB]

/-- Drawing an id changes nothing else. -/
theorem State.Sound.skip (sound : s.Sound ctx.library) (styles : List CaptionStyle) :
    State.Sound ctx.library { s with ids := s.ids.skip 1, captionStyles := styles } where
  names := sound.names
  elements := sound.elements
  elementsDrawn x member := (sound.elementsDrawn x member).skip 1
  placeholders := sound.placeholders
  placeholdersDrawn p member := (sound.placeholdersDrawn p member).skip 1
  filled := sound.filled
  media := sound.media

/-! ## Placeholders -/

/-- A maker of placeholders of the kind of an input, with the input for their default. -/
structure Fills (make : String → Nat → Placeholder τ) (input : Input τ) : Prop where
  id : ∀ id order, (make id order).id = id
  free : ∀ id order, (make id order).constraints = {}
  kind : ∀ id order, (make id order).kind = input.kind
  default : ∀ id order, (make id order).default = some input

/-- A new placeholder, which fills itself. -/
theorem addPlaceholder_spec (sound : s.Sound ctx.library) {make : String → Nat → Placeholder τ}
    {input : Input τ} (fills : Fills make input) (atHand : input.AtHand) :
    s.Extends ctx.library (s.addPlaceholder make).2 [] ∧
      ∃ p ∈ (s.addPlaceholder make).2.placeholders,
        p.id = (s.addPlaceholder make).1 ∧ p.default = some input := by
  have fresh : ∀ p ∈ s.placeholders, p.id ≠ s.ids.next := fun p member same =>
    IdSupply.not_drawn_next sound.names (same ▸ sound.placeholdersDrawn p member)
  have listed : ∀ p, p ∈ s.placeholders ++ [make s.ids.next s.placeholders.length] →
      p ∈ s.placeholders ∨ p = make s.ids.next s.placeholders.length := by simp
  refine ⟨⟨?_, ⟨[], (List.append_nil _).symm, rfl⟩, List.prefix_append _ _⟩,
    make s.ids.next s.placeholders.length, List.mem_append_right _ List.mem_cons_self,
    fills.id _ _, fills.default _ _⟩
  exact {
    names := sound.names
    elements := sound.elements
    elementsDrawn := fun x member => (sound.elementsDrawn x member).skip 1
    placeholders := by
      simp only [State.addPlaceholder, IdSupply.fresh, List.map_append, List.map_cons, fills.id,
        List.map_nil]
      refine List.Nodup.append sound.placeholders (List.nodup_singleton _) ?_
      intro id member last
      obtain ⟨p, inside, rfl⟩ := List.mem_map.1 member
      exact fresh p inside (List.mem_singleton.1 last)
    placeholdersDrawn := fun p member => by
      rcases listed p member with before | rfl
      · exact (sound.placeholdersDrawn p before).skip 1
      · rw [fills.id]
        exact s.ids.drawn_next
    filled := fun p member => by
      rcases listed p member with before | rfl
      · exact sound.filled p before
      · exact ⟨fills.free _ _, input, fills.default _ _, (fills.kind _ _).symm, atHand⟩
    media := fun fileId id noted => by
      obtain ⟨file, found, p, member, same⟩ := sound.media fileId id noted
      exact ⟨file, found, p, List.mem_append_left _ member, same⟩ }

/-- Taking note of the placeholder for a file. -/
theorem State.Extends.note (grown : s.Extends ctx.library s' []) {file : MediaFile τ}
    {id : String} (found : Source.file? ctx.library file.id = some file)
    (value : ∃ p ∈ s'.placeholders, p.id = id ∧ p.default = some file.input) :
    s.Extends ctx.library
      { s' with mediaPlaceholders := Keyed.insert file.id id s'.mediaPlaceholders } [] where
  sound := by
    refine { grown.sound with media := fun fileId other noted => ?_ }
    rw [Keyed.get?_insert] at noted
    split at noted
    · next same =>
      obtain rfl := Option.some.inj noted
      exact ⟨file, same ▸ found, value⟩
    · exact grown.sound.media fileId other noted
  emitted := grown.emitted
  placeholders := grown.placeholders

/-- The placeholder for a file, be it a new one or one that is there, has the file for its
default. -/
theorem mediaPlaceholder_spec (sound : s.Sound ctx.library)
    (defaults : ctx.options.includeDefaultValues = true) {e : Element τ} {file : MediaFile τ}
    (plays : e.file? ctx.library = some file) :
    s.Extends ctx.library (mediaPlaceholder ctx role e file s).2 [] ∧
      ∃ p ∈ (mediaPlaceholder ctx role e file s).2.placeholders,
        p.id = (mediaPlaceholder ctx role e file s).1 ∧ p.default = some file.input := by
  have found := Element.file?_id plays
  unfold mediaPlaceholder
  split
  · next id kept =>
    obtain ⟨noted, _⟩ := Option.filter_eq_some_iff.1 kept
    obtain ⟨file', found', p, member, rfl, same⟩ := sound.media file.id id noted
    obtain rfl : file' = file := Option.some.inj (found'.symm.trans found)
    exact ⟨sound.extends, p, member, rfl, same⟩
  · have fills : Fills (fun id order => { id, name := e.name, kind := file.kind.inputKind, order
                                          required := role == .mainVideo
                                          default := if ctx.options.includeDefaultValues then
                                            Input.ofMedia file.kind.inputKind file.toRef
                                            else none }) file.input := {
      id := fun _ _ => rfl
      free := fun _ _ => rfl
      kind := fun _ _ => file.kind_input.symm
      default := fun _ _ => by rw [if_pos defaults, MediaFile.ofMedia_toRef] }
    have spec := addPlaceholder_spec sound fills file.atHand_input
    exact ⟨spec.1.note found spec.2, spec.2⟩

/-! ## Content -/

/-- What the content of a template element stands for. -/
inductive Carries (ctx : Context τ) (placeholders : List (Placeholder τ)) (e : Element τ) :
    Template.Content τ → Prop where
  /-- The file that the element plays. -/
  | media {file : MediaFile τ} {p : Placeholder τ} :
      e.file? ctx.library = some file → p ∈ placeholders → p.default = some file.input →
      Carries ctx placeholders e (.placeholder p.id)
  /-- The text of the element, in a placeholder. -/
  | promoted {p : Placeholder τ} :
      e.file? ctx.library = none → e.kind = .text →
      (ctx.options.promoteText || e.markAsPlaceholder) = true → p ∈ placeholders →
      p.default = some (.text (e.text.getD "")) → Carries ctx placeholders e (.placeholder p.id)
  /-- The text of the element. -/
  | given {text : Option String} :
      e.file? ctx.library = none → text.getD "" = e.text.getD "" →
      Carries ctx placeholders e (.fixed text none)

theorem Carries.later {before after : List (Placeholder τ)} (kept : before <+: after)
    {e : Element τ} {content : Template.Content τ} (carries : Carries ctx before e content) :
    Carries ctx after e content := by
  cases carries with
  | media plays member value => exact .media plays (kept.subset member) value
  | promoted plays kind wanted member value =>
    exact .promoted plays kind wanted (kept.subset member) value
  | given plays same => exact .given plays same

theorem contentFor_spec (role : TrackRole) (sound : s.Sound ctx.library)
    (defaults : ctx.options.includeDefaultValues = true) (e : Element τ) :
    s.Extends ctx.library (contentFor ctx role e s).2 [] ∧
      Carries ctx (contentFor ctx role e s).2.placeholders e (contentFor ctx role e s).1 := by
  unfold contentFor
  split
  · next file plays =>
    obtain ⟨grown, p, member, same, value⟩ := mediaPlaceholder_spec sound defaults plays
    refine ⟨grown, ?_⟩
    dsimp only
    rw [← same]
    exact .media plays member value
  · next plays =>
    split
    · next text =>
      dsimp only
      split
      · next wanted =>
        have fills : Fills (fun id order => ({ id, name := e.name, kind := .text, order
                                               default := some (.text (e.text.getD "")) } :
            Placeholder τ)) (.text (e.text.getD "")) :=
          ⟨fun _ _ => rfl, fun _ _ => rfl, fun _ _ => rfl, fun _ _ => rfl⟩
        obtain ⟨grown, p, member, same, value⟩ :=
          addPlaceholder_spec sound fills (.inl ⟨_, rfl⟩)
        refine ⟨grown, ?_⟩
        dsimp only
        rw [← same]
        exact .promoted plays (beq_iff_eq.1 text) wanted member value
      · exact ⟨sound.extends, .given plays rfl⟩
    · exact ⟨sound.extends, .given plays rfl⟩

end Extraction

end Storyboard
