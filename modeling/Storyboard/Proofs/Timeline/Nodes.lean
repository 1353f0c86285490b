import Storyboard.Proofs.Timeline.Dependency
import Storyboard.Timeline

/-!
# Nodes and the template they come from

The nodes that the work on a timeline runs over are the elements of the template in track order, and
the places that a node needs are those of the elements that its element depends on. The second fact
rests on distinct ids: a place is looked up by id.
-/

namespace Storyboard.Timeline

open Template (DependsOn pairUp successions)

variable {τ : Type}

/-- The element at the place after a node, where its track goes on. -/
def Node.nextElement (ns : List (Node τ)) (n : Node τ) : Option (Template.Element τ) :=
  n.next.bind fun place => ns[place]?.map (·.element)

/-- What the node at a place needs. -/
def needsAt (ns : List (Node τ)) (place : Nat) : List Nat :=
  (ns[place]?.map (needs ns)).getD []

/-- Every need of a node is the place of a node. -/
def Closed (ns : List (Node τ)) : Prop := ∀ n ∈ ns, ∀ place ∈ needs ns n, place < ns.length

/-! ## Tracks as nodes -/

@[simp] theorem length_trackNodes (first : Nat) (es : List (Template.Element τ)) :
    (trackNodes first es).length = es.length := by
  fun_induction trackNodes first es <;> simp_all

theorem head?_trackNodes (first : Nat) (es : List (Template.Element τ)) :
    (trackNodes first es).head?.map (·.element) = es.head? := by
  cases es with
  | nil => rfl
  | cons e rest => cases rest <;> rfl

/-- The nodes of a track that stands inside a list of nodes point at their next elements. -/
theorem trackNodes_view (ns : List (Node τ)) (es : List (Template.Element τ)) :
    ∀ before after, ns = before ++ trackNodes before.length es ++ after →
      (trackNodes before.length es).map (fun n => (n.element, n.nextElement ns)) = pairUp es := by
  induction es with
  | nil => intro before after _; rfl
  | cons e rest ih =>
    intro before after split
    cases rest with
    | nil => rfl
    | cons second rest =>
      have moved := ih (before ++ [⟨e, some (before.length + 1)⟩]) after (by
        simpa [trackNodes] using split)
      have found : ns[before.length + 1]?.map (·.element) = some second := by
        have head := head?_trackNodes (before.length + 1) (second :: rest)
        rw [split]
        simpa [trackNodes, List.head?_eq_getElem?, List.getElem?_append] using head
      simp only [List.length_append, List.length_singleton] at moved
      rw [trackNodes, List.map_cons, moved]
      · simp only [Node.nextElement, Option.bind_some, found]
        rfl
      · simp

theorem nodesFrom_view (ns : List (Node τ)) (tracks : List (Template.Track τ)) :
    ∀ before, ns = before ++ nodesFrom before.length tracks →
      (nodesFrom before.length tracks).map (fun n => (n.element, n.nextElement ns)) =
        tracks.flatMap fun track => pairUp track.elements := by
  induction tracks with
  | nil => intro before _; rfl
  | cons track rest ih =>
    intro before split
    have here := trackNodes_view ns track.elements before _ (by
      simpa [nodesFrom] using split)
    have later := ih (before ++ trackNodes before.length track.elements) (by
      simpa [nodesFrom] using split)
    simp only [List.length_append, length_trackNodes] at later
    simp only [nodesFrom, List.map_append, here, later, List.flatMap_cons]

/-- **The nodes of a template** are its elements in track order, each with its next element. -/
theorem nodes_view (t : Template τ) :
    (nodes t).map (fun n => (n.element, n.nextElement (nodes t))) = t.successions :=
  nodesFrom_view (nodes t) t.tracks [] rfl

theorem map_element_nodes (t : Template τ) : (nodes t).map (·.element) = t.elements := by
  rw [← Template.map_fst_successions, ← nodes_view, List.map_map]
  rfl

theorem map_id_nodes (t : Template τ) :
    (nodes t).map (·.element.id) = t.elements.map (·.id) := by
  rw [← map_element_nodes, List.map_map]
  rfl

theorem next_lt_trackNodes (first : Nat) (es : List (Template.Element τ)) :
    ∀ n ∈ trackNodes first es, ∀ place, n.next = some place → place < first + es.length := by
  fun_induction trackNodes first es with
  | case1 => simp
  | case2 => simp
  | case3 first e rest _ ih =>
    intro n member place next
    simp only [List.mem_cons] at member
    rcases member with rfl | member
    · have positive : 0 < rest.length := by
        cases rest with
        | nil => contradiction
        | cons => simp
      simp only [Option.some.injEq] at next
      simp only [List.length_cons]
      omega
    · have := ih n member place next
      simp only [List.length_cons]
      omega

theorem next_lt_nodesFrom (tracks : List (Template.Track τ)) (first : Nat) :
    ∀ n ∈ nodesFrom first tracks, ∀ place, n.next = some place →
      place < first + (nodesFrom first tracks).length := by
  induction tracks generalizing first with
  | nil => simp [nodesFrom]
  | cons track rest ih =>
    intro n member place next
    simp only [nodesFrom, List.mem_append] at member
    simp only [nodesFrom, List.length_append, length_trackNodes]
    rcases member with member | member
    · have := next_lt_trackNodes first _ n member place next
      omega
    · have := ih _ n member place next
      omega

theorem next_lt_nodes {t : Template τ} {n : Node τ} (member : n ∈ nodes t) {place : Nat}
    (next : n.next = some place) : place < (nodes t).length := by
  simpa [nodes] using next_lt_nodesFrom t.tracks 0 n member place next

theorem nextElement_none_iff {t : Template τ} {n : Node τ} (member : n ∈ nodes t) :
    n.nextElement (nodes t) = none ↔ n.next = none := by
  cases there : n.next with
  | none => simp [Node.nextElement, there]
  | some place => simp [Node.nextElement, there, next_lt_nodes member there]

/-- Each node stands where its element stands. -/
theorem stands_of_mem_nodes {t : Template τ} {n : Node τ} (member : n ∈ nodes t) :
    t.Stands n.element (n.nextElement (nodes t)) := by
  rw [← Template.mem_successions, ← nodes_view]
  exact List.mem_map_of_mem member

theorem exists_node_of_stands {t : Template τ} {e : Template.Element τ}
    {next : Option (Template.Element τ)} (stands : t.Stands e next) :
    ∃ n ∈ nodes t, n.element = e ∧ n.nextElement (nodes t) = next := by
  rw [← Template.mem_successions, ← nodes_view] at stands
  obtain ⟨n, member, pair⟩ := List.mem_map.1 stands
  exact ⟨n, member, (Prod.mk.inj pair).1, (Prod.mk.inj pair).2⟩

/-! ## Looking nodes up by id -/

theorem place?_some {ns : List (Node τ)} {id : String} {place : Nat}
    (found : place? ns id = some place) : ∃ n, ns[place]? = some n ∧ n.element.id = id := by
  obtain ⟨inside, same, _⟩ := List.findIdx?_eq_some_iff_getElem.1 found
  exact ⟨ns[place], List.getElem?_eq_getElem inside, by simpa using same⟩

theorem isSome_place?_iff {ns : List (Node τ)} {id : String} :
    (place? ns id).isSome = true ↔ ∃ n ∈ ns, n.element.id = id := by
  simp [place?, List.findIdx?_isSome]

theorem node_unique {t : Template τ} (distinct : t.DistinctIds) {n m : Node τ} (hn : n ∈ nodes t)
    (hm : m ∈ nodes t) (same : n.element.id = m.element.id) : n = m := by
  have nodup : ((nodes t).map (·.element.id)).Nodup := by rw [map_id_nodes]; exact distinct
  exact List.inj_on_of_nodup_map nodup hn hm same

/-- Where ids are distinct, each node is found by the id of its element. -/
theorem place?_node {t : Template τ} (distinct : t.DistinctIds) {place : Nat} {n : Node τ}
    (inside : (nodes t)[place]? = some n) : place? (nodes t) n.element.id = some place := by
  have nodup : ((nodes t).map (·.element.id)).Nodup := by rw [map_id_nodes]; exact distinct
  obtain ⟨other, found⟩ := Option.isSome_iff_exists.1
    (isSome_place?_iff.2 ⟨n, List.mem_of_getElem? inside, rfl⟩)
  obtain ⟨m, there, same⟩ := place?_some found
  have bound := (List.getElem?_eq_some_iff.1 there).1
  have equal : other = place :=
    (List.getElem?_inj (by simpa using bound) nodup).1 (by simp [inside, there, same])
  rw [found, equal]

theorem mem_needs {ns : List (Node τ)} {n : Node τ} {place : Nat} :
    place ∈ needs ns n ↔
      (∃ id, n.element.timing.anchorId? = some id ∧ place? ns id = some place) ∨
        n.element.duration.isFillGap = true ∧ n.next = some place := by
  simp only [needs, List.mem_append, Option.mem_toList, Option.bind_eq_some_iff]
  split <;> simp_all

theorem mem_needsAt {ns : List (Node τ)} {place need : Nat} :
    need ∈ needsAt ns place ↔ ∃ n, ns[place]? = some n ∧ need ∈ needs ns n := by
  unfold needsAt
  cases ns[place]? <;> simp

theorem closed_nodes (t : Template τ) : Closed (nodes t) := by
  intro n member place need
  rcases mem_needs.1 need with ⟨id, _, found⟩ | ⟨_, next⟩
  · obtain ⟨m, inside, _⟩ := place?_some found
    exact (List.getElem?_eq_some_iff.1 inside).1
  · exact next_lt_nodes member next

/-! ## Needs are dependencies -/

theorem dependsOn_of_needs {t : Template τ} {n m : Node τ} {place : Nat} (member : n ∈ nodes t)
    (need : place ∈ needs (nodes t) n) (inside : (nodes t)[place]? = some m) :
    t.DependsOn n.element.id m.element.id := by
  have stands := stands_of_mem_nodes member
  rcases mem_needs.1 need with ⟨id, anchor, found⟩ | ⟨gap, next⟩
  · obtain ⟨m', inside', rfl⟩ := place?_some found
    obtain rfl : m = m' := Option.some.inj (inside.symm.trans inside')
    exact .anchor stands anchor
  · have after : n.nextElement (nodes t) = some m.element := by
      simp [Node.nextElement, next, inside]
    exact .gap (after ▸ stands) gap

theorem exists_need_of_dependsOn {t : Template τ} (distinct : t.DistinctIds)
    (anchors : t.AnchorsExist) {n : Node τ} {id : String} (member : n ∈ nodes t)
    (depends : t.DependsOn n.element.id id) :
    ∃ place ∈ needs (nodes t) n, ∃ m, (nodes t)[place]? = some m ∧ m.element.id = id := by
  generalize source : n.element.id = own at depends
  cases depends with
  | @anchor e next _ stands anchor =>
    obtain ⟨n', member', rfl, _⟩ := exists_node_of_stands stands
    obtain rfl := node_unique distinct member member' source
    obtain ⟨a, inside, same⟩ := anchors _ stands.mem id anchor
    rw [← map_element_nodes] at inside
    obtain ⟨m, hm, rfl⟩ := List.mem_map.1 inside
    obtain ⟨place, found⟩ := Option.isSome_iff_exists.1 (isSome_place?_iff.2 ⟨m, hm, same⟩)
    exact ⟨place, mem_needs.2 (.inl ⟨id, anchor, found⟩), place?_some found⟩
  | @gap e next stands gap =>
    obtain ⟨n', member', rfl, after⟩ := exists_node_of_stands stands
    obtain rfl := node_unique distinct member member' source
    obtain ⟨place, hplace, found⟩ := Option.bind_eq_some_iff.1 after
    obtain ⟨m, inside, rfl⟩ := Option.map_eq_some_iff.1 found
    exact ⟨place, mem_needs.2 (.inr ⟨gap, hplace⟩), m, inside, rfl⟩

end Storyboard.Timeline
