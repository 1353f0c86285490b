import Storyboard.Proofs.Extraction.Defaults
import Storyboard.Proofs.IdSupply
import Storyboard.Proofs.Keyed

/-!
# The main track

Roles that options give are the roles of the extracted tracks. Which other track is the main one is
told from the tracks alone, without a look at the options. So there are two main tracks where options
make one track the main one and another one seems to be it, and there are no more than one otherwise.
-/

namespace Storyboard

open Extraction Source

variable {τ : Type}

/-- Whether options make a track the main one. -/
def ExtractOptions.makesMain (options : ExtractOptions τ) (t : Source.Track τ) : Bool :=
  options.roleOverrides.get? t.id == some .mainVideo

namespace Extraction

/-! ## Counting -/

/-- Of the members of a list that stand at a place there is one at most. -/
theorem countP_zipIdx_at {α : Type} (p : α → Bool) (l : List α) (first place : Nat) :
    (l.zipIdx first).countP (fun entry => p entry.1 && first + place == entry.2) =
      if l[place]?.any p then 1 else 0 := by
  induction l generalizing first place with
  | nil => rfl
  | cons a rest ih =>
    rw [List.zipIdx_cons, List.countP_cons]
    cases place with
    | zero =>
      have others :
          (rest.zipIdx (first + 1)).countP (fun entry => p entry.1 && first + 0 == entry.2) = 0 := by
        rw [List.countP_eq_zero]
        rintro ⟨b, i⟩ member here
        have later := List.le_snd_of_mem_zipIdx member
        simp only [Bool.and_eq_true, beq_iff_eq] at here
        omega
      rw [others]
      simp
    | succ place =>
      have elsewhere : (first + 1 + place == first) = false := beq_eq_false_iff_ne.2 (by omega)
      rw [show first + (place + 1) = first + 1 + place by omega, elsewhere, Bool.and_false,
        List.getElem?_cons_succ]
      exact ih (first + 1) place

/-- What has one of two properties that exclude each other is counted by one of them. -/
theorem countP_or {α : Type} {p q : α → Bool} {l : List α}
    (apart : ∀ a ∈ l, p a = true → q a = false) :
    l.countP (fun a => p a || q a) = l.countP p + l.countP q := by
  induction l with
  | nil => rfl
  | cons a rest ih =>
    have first := apart a List.mem_cons_self
    rw [List.countP_cons, List.countP_cons, List.countP_cons,
      ih fun b member => apart b (List.mem_cons_of_mem _ member)]
    cases holds : p a with
    | false => rw [Bool.false_or]; simp only [Bool.false_eq_true, if_false]; omega
    | true => rw [first holds]; simp only [Bool.true_or, Bool.false_eq_true, if_true, if_false]; omega

variable [Measure τ] {library : List (MediaFile τ)} {canvas : Canvas} {options : ExtractOptions τ}
  {tracks : List (Track τ)}

/-! ## Roles that are assigned -/

theorem length_assignRoles (library : List (MediaFile τ)) (canvas : Canvas)
    (options : ExtractOptions τ) (tracks : List (Track τ)) :
    (assignRoles library canvas options tracks).length = tracks.length := by
  simp [assignRoles]

theorem seemingRole_ne_mainVideo (library : List (MediaFile τ)) (canvas : Canvas) (t : Track τ) :
    seemingRole library canvas t ≠ .mainVideo := by
  unfold seemingRole
  dsimp only
  cases t.kind with
  | audio => dsimp only; split_ifs <;> nofun
  | text => dsimp only; split_ifs <;> nofun
  | media => dsimp only; split_ifs <;> nofun

omit [Measure τ] in
theorem makesMain_eq_false {t : Track τ} (free : options.roleOverrides.has t.id = false) :
    options.makesMain t = false := by
  rw [Keyed.has, Option.isSome_eq_false_iff, Option.isNone_iff_eq_none] at free
  rw [ExtractOptions.makesMain, free]
  rfl

/-- A track is the main one where options say so, or where they say nothing and it stands at the main
place. -/
theorem roleAt_eq_mainVideo (main : Option Nat) (place : Nat) (t : Track τ) :
    (roleAt library canvas options main place t == .mainVideo) =
      (options.makesMain t || (!options.roleOverrides.has t.id && main == some place)) := by
  unfold roleAt ExtractOptions.makesMain Keyed.has
  cases options.roleOverrides.get? t.id with
  | some role => simp
  | none =>
    by_cases here : main = some place
    · simp [here]
    · have other := seemingRole_ne_mainVideo library canvas t
      rw [if_neg here]
      cases options.inferTrackRoles with
      | true => simp [other, here]
      | false =>
        cases t.kind <;> simp [here, TrackRole.defaultFor]

/-- **How many main tracks there are**: those that options make so, and the one at the main place,
unless options give it a role. -/
theorem countP_assignRoles (library : List (MediaFile τ)) (canvas : Canvas)
    (options : ExtractOptions τ) (tracks : List (Track τ)) :
    (assignRoles library canvas options tracks).countP (· == .mainVideo) =
      tracks.countP options.makesMain +
        if ((mainPlace? library canvas options tracks).bind (tracks[·]?)).any
          (fun t => !options.roleOverrides.has t.id) then 1 else 0 := by
  unfold assignRoles
  dsimp only
  generalize mainPlace? library canvas options tracks = main
  simp only [List.countP_map, Function.comp_def, roleAt_eq_mainVideo]
  rw [countP_or (p := fun entry : Track τ × Nat => options.makesMain entry.1)
    (q := fun entry => !options.roleOverrides.has entry.1.id && main == some entry.2)]
  · congr 1
    · have firsts := List.countP_map (p := options.makesMain) (f := Prod.fst) (l := tracks.zipIdx)
      rw [List.zipIdx_map_fst] at firsts
      exact firsts.symm
    · cases main with
      | none => simp
      | some place =>
        have one := countP_zipIdx_at (fun t : Track τ => !options.roleOverrides.has t.id) tracks 0
          place
        simpa using one
  · rintro ⟨t, place⟩ _ given
    dsimp only at given ⊢
    cases known : options.roleOverrides.has t.id with
    | true => rfl
    | false =>
      rw [makesMain_eq_false known] at given
      cases given

/-! ## The track that seems to be the main one -/

/-- The track that seems to be the main one, whatever roles are given: the first media track that is
marked as it or, where none is, the first one that shows a video on the whole canvas. -/
def seemingMain? (library : List (MediaFile τ)) (canvas : Canvas) (tracks : List (Track τ)) :
    Option (Track τ) :=
  (tracks.find? fun t => t.kind == .media && t.isMain).or
    (tracks.find? fun t => t.kind == .media && isFullCanvasVideo library canvas t)

/-- Roles are to be found, options make one track the main one, and another one, which they say
nothing about, seems to be it. -/
structure Rivalled (library : List (MediaFile τ)) (canvas : Canvas) (options : ExtractOptions τ)
    (tracks : List (Track τ)) : Prop where
  infers : options.inferTrackRoles = true
  given : ∃ t ∈ tracks, options.makesMain t = true
  seeming : ∃ t, seemingMain? library canvas tracks = some t ∧
    options.roleOverrides.has t.id = false

/-- Where roles are to be found, the track at the main place is the one that seems to be it. -/
theorem bind_mainPlace? (infers : options.inferTrackRoles = true) :
    (mainPlace? library canvas options tracks).bind (tracks[·]?) =
      seemingMain? library canvas tracks := by
  unfold mainPlace? seemingMain?
  rw [if_pos infers, List.find?_eq_bind_findIdx?_getElem?, List.find?_eq_bind_findIdx?_getElem?]
  cases marked : tracks.findIdx? fun t => t.kind == .media && t.isMain with
  | none => rfl
  | some place =>
    obtain ⟨inside, _⟩ := List.findIdx?_eq_some_iff_getElem.1 marked
    simp [List.getElem?_eq_getElem inside]

omit [Measure τ] in
/-- Where options make a track the main one, they name a main track. -/
theorem any_mainVideo_of_makesMain {t : Track τ} (given : options.makesMain t = true) :
    options.roleOverrides.any (·.2 == .mainVideo) = true := by
  have known : options.roleOverrides.get? t.id = some .mainVideo := beq_iff_eq.1 given
  exact List.any_eq_true.2 ⟨_, Keyed.mem_of_get? known, rfl⟩

/-- There are rivals just where options make a track the main one and give no role to the one at the
main place. -/
theorem rivalled_iff :
    Rivalled library canvas options tracks ↔
      (∃ t ∈ tracks, options.makesMain t = true) ∧
        ((mainPlace? library canvas options tracks).bind (tracks[·]?)).any
          (fun t => !options.roleOverrides.has t.id) = true := by
  constructor
  · rintro ⟨infers, given, t, seems, free⟩
    refine ⟨given, ?_⟩
    rw [bind_mainPlace? infers, seems]
    simp [free]
  · rintro ⟨⟨t, member, given⟩, other⟩
    cases infers : options.inferTrackRoles with
    | true =>
      rw [bind_mainPlace? infers, Option.any_eq_true] at other
      obtain ⟨u, seems, free⟩ := other
      exact ⟨infers, ⟨t, member, given⟩, u, seems, by simpa using free⟩
    | false =>
      -- without a look at the tracks there is no main place beside a given main track
      simp [mainPlace?, infers, any_mainVideo_of_makesMain given] at other

/-- Where options make one track the main one at most, there is another main track just where two of
them are rivals. -/
theorem countP_assignRoles_le_one (once : tracks.countP options.makesMain ≤ 1) :
    (assignRoles library canvas options tracks).countP (· == .mainVideo) ≤ 1 ↔
      ¬ Rivalled library canvas options tracks := by
  rw [countP_assignRoles, rivalled_iff, ← List.countP_pos_iff]
  split
  · next other =>
    rw [and_iff_left other]
    omega
  · next none => exact iff_of_true once fun rivals => none rivals.2

/-! ## Roles that are extracted -/

/-- The tracks of a template have the roles that they were made with. -/
theorem extractTracks_roles (ctx : Context τ) (tracks : List (Track τ × TrackRole)) (s : State τ) :
    List.Forall₂ (fun entry made => made.role = entry.2 ∧ made.isMain = (entry.2 == .mainVideo))
      tracks (extractTracks ctx tracks s).1 := by
  induction tracks generalizing s with
  | nil => exact .nil
  | cons entry rest ih => exact .cons ⟨rfl, rfl⟩ (ih _)

/-- An extracted template has the roles that were assigned, and marks its main tracks by them. -/
theorem roles_of_extract {project : Source.Project} {now : Instant} {ids left : IdSupply}
    {t : Template τ} (done : extract project tracks library options now ids = .ok (t, left)) :
    t.tracks.map (·.role) = assignRoles library t.canvas options tracks ∧
      ∀ made ∈ t.tracks, made.isMain = (made.role == .mainVideo) := by
  obtain ⟨_, _, canvas, _, same⟩ := extract_ok_iff.1 done
  obtain rfl := (Prod.mk.inj same).1
  have roles := extractTracks_roles ⟨library, canvas, options⟩
    (tracks.zip (assignRoles library canvas options tracks)) ⟨ids.skip 1, [], [], [], []⟩
  constructor
  · have assigned := forall₂_iff_map.1 (roles.imp fun _ _ each => each.1.symm)
    rw [List.map_snd_zip (Nat.le_of_eq (length_assignRoles library canvas options tracks))] at assigned
    exact assigned.symm
  · have marked := roles.flip.imp fun made entry each =>
      (⟨by rw [each.2, each.1], trivial⟩ : made.isMain = (made.role == .mainVideo) ∧ True)
    exact ((List.forall₂_and_left (R := fun _ _ => True) _ _).1 marked).1

/-- A track that is given a role has it. -/
theorem given_assignRoles {made : List (Template.Track τ)}
    (assigned : made.map (·.role) = assignRoles library canvas options tracks) :
    List.Forall₂ (fun track made =>
      ∀ role, options.roleOverrides.get? track.id = some role → made.role = role) tracks made := by
  have placed : List.Forall₂ (fun entry made => roleAt library canvas options
      (mainPlace? library canvas options tracks) entry.2 entry.1 = made.role) tracks.zipIdx made :=
    forall₂_iff_map.2 assigned.symm
  have given : List.Forall₂ (fun entry made =>
      ∀ role, options.roleOverrides.get? entry.1.id = some role → made.role = role)
      tracks.zipIdx made := placed.imp fun entry made same role known => by
    rw [← same, roleAt, known]
  have firsts := (List.forall₂_map_left_iff (f := Prod.fst)
    (R := fun (track : Track τ) (made : Template.Track τ) =>
      ∀ role, options.roleOverrides.get? track.id = some role → made.role = role)).2 given
  rwa [List.zipIdx_map_fst] at firsts

end Extraction

/-- **The main track**: tracks have the roles that options give them, and are marked by their roles.
Where options make one track the main one at most, so does the template, unless there are rivals: one
track that options make the main one and another one, without a given role, that seems to be it. -/
theorem extract_oneMain [Measure τ] (project : Source.Project) (tracks : List (Source.Track τ))
    (library : List (MediaFile τ)) (options : ExtractOptions τ) (now : Instant)
    (ids left : IdSupply) (t : Template τ)
    (done : extract project tracks library options now ids = .ok (t, left)) :
    List.Forall₂ (fun track made =>
        ∀ role, options.roleOverrides.get? track.id = some role → made.role = role)
      tracks t.tracks ∧
    (∀ made ∈ t.tracks, made.isMain = (made.role == .mainVideo)) ∧
    (tracks.countP options.makesMain ≤ 1 →
      (t.tracks.countP (·.role == .mainVideo) ≤ 1 ↔
        ¬ Rivalled library t.canvas options tracks)) := by
  obtain ⟨assigned, marked⟩ := roles_of_extract done
  refine ⟨given_assignRoles assigned, marked, fun once => ?_⟩
  rw [← countP_assignRoles_le_one once, ← assigned, List.countP_map]
  rfl

def interviewProject : Source.Project :=
  { id := "interview", name := "Interview", canvas := some .landscape }

/-- Two tracks, the first of which is marked as the main one. -/
def interview : List (Source.Track Float) :=
  [{ id := "talk", name := "Talk", kind := .media, isMain := true },
    { id := "hands", name := "Hands", kind := .media }]

/-- The second track is given a role. -/
def interviewOptions (role : TrackRole) : ExtractOptions Float :=
  { roleOverrides := [("hands", role)], relativeTimingTolerance := 0.5 }

theorem extract_interview :
    ∃ t left, extract interviewProject interview [] (interviewOptions .overlay) ⟨0, 0⟩
        ⟨tally, 0⟩ = .ok (t, left) ∧
      interview.countP (interviewOptions .overlay).makesMain ≤ 1 ∧
      t.tracks.map (·.role) = [.mainVideo, .overlay] ∧
      t.tracks.countP (·.role == .mainVideo) ≤ 1 := by
  obtain ⟨t, left, done, roles⟩ : ∃ t left, extract interviewProject interview []
      (interviewOptions .overlay) ⟨0, 0⟩ ⟨tally, 0⟩ = .ok (t, left) ∧
      t.tracks.map (·.role) = [.mainVideo, .overlay] := ⟨_, _, rfl, rfl⟩
  have once : interview.countP (interviewOptions .overlay).makesMain ≤ 1 := by decide
  obtain ⟨_, _, main⟩ := extract_oneMain interviewProject interview [] (interviewOptions .overlay)
    ⟨0, 0⟩ ⟨tally, 0⟩ left t done
  refine ⟨t, left, done, once, roles, (main once).2 ?_⟩
  rintro ⟨-, ⟨track, member, given⟩, -⟩
  have none : ∀ track ∈ interview, (interviewOptions .overlay).makesMain track = false := by decide
  rw [none track member] at given
  cases given

/-- Two main tracks, although options make no more than one track the main one. -/
theorem not_oneMain_interview :
    (interview.map (·.id)).Nodup ∧
      interview.countP (interviewOptions .mainVideo).makesMain ≤ 1 ∧
      ∃ t left, extract interviewProject interview [] (interviewOptions .mainVideo) ⟨0, 0⟩
          ⟨tally, 0⟩ = .ok (t, left) ∧
        ¬ (t.tracks.countP (·.role == .mainVideo) ≤ 1) ∧ ¬ (t.tracks.countP (·.isMain) ≤ 1) := by
  obtain ⟨t, left, done, roles, marks⟩ : ∃ t left, extract interviewProject interview []
      (interviewOptions .mainVideo) ⟨0, 0⟩ ⟨tally, 0⟩ = .ok (t, left) ∧
      t.tracks.map (·.role) = [.mainVideo, .mainVideo] ∧ t.tracks.map (·.isMain) = [true, true] :=
    ⟨_, _, rfl, rfl, rfl⟩
  have mains := List.countP_map (p := (· == .mainVideo)) (f := fun t => t.role) (l := t.tracks)
  have marked := List.countP_map (p := id) (f := fun t => t.isMain) (l := t.tracks)
  rw [roles] at mains
  rw [marks] at marked
  refine ⟨by decide, by decide, t, left, done, fun one => ?_, fun one => ?_⟩
  · exact absurd (Nat.le_trans (Nat.le_of_eq mains) one) (by decide)
  · exact absurd (Nat.le_trans (Nat.le_of_eq marked) one) (by decide)

end Storyboard
