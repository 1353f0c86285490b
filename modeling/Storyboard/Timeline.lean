import Storyboard.Failure

/-!
# Timelines

Working out when every element of a template starts and how long it lasts. An element that is placed
relative to another one needs that one first, and an element that fills a gap needs the next element
of its track. Elements are settled in rounds: each round takes one element whose needs are all
settled and counts down the open needs of those that wait for it. A gap at the end of a track of a
timeline without a given length is put off until nothing else is ready, since it runs to the latest
end so far. What is never ready waits for itself.
-/

namespace Storyboard

/-- When an element starts and how long it lasts; a provisional start only stands in. -/
structure Span (τ : Type) where
  start : τ
  duration : τ
  provisional : Bool
  deriving BEq

/-- When an element ends. -/
def Span.finish {τ : Type} [Measure τ] (s : Span τ) : τ := s.start + s.duration

namespace Timeline

variable {τ : Type}

/-- An element and, where its track goes on, the place of the next one in the list of all. -/
structure Node (τ : Type) where
  element : Template.Element τ
  next : Option Nat

/-- The nodes of a track whose first element has a given place. -/
def trackNodes (first : Nat) : List (Template.Element τ) → List (Node τ)
  | [] => []
  | [e] => [⟨e, none⟩]
  | e :: rest => ⟨e, some (first + 1)⟩ :: trackNodes (first + 1) rest

/-- The nodes of a list of tracks, in their order. -/
def nodesFrom (first : Nat) : List (Template.Track τ) → List (Node τ)
  | [] => []
  | t :: rest => trackNodes first t.elements ++ nodesFrom (first + t.elements.length) rest

/-- The nodes of a template, in track order. -/
def nodes (t : Template τ) : List (Node τ) := nodesFrom 0 t.tracks

/-- The place of the element with an id. -/
def place? (nodes : List (Node τ)) (id : String) : Option Nat :=
  nodes.findIdx? fun n => n.element.id == id

/-- The first id that an earlier element has too. -/
def repeated? (seen : List String) : List String → Option String
  | [] => none
  | id :: rest => if seen.contains id then some id else repeated? (id :: seen) rest

/-- The anchor of a node, if the node is placed relative to an element that does not exist. -/
def lostAnchor? (nodes : List (Node τ)) (n : Node τ) : Option String :=
  n.element.timing.anchorId?.filter fun id => (place? nodes id).isNone

/-- The places of the elements that a node needs first: its anchor, then the end of its gap. -/
def needs (nodes : List (Node τ)) (n : Node τ) : List Nat :=
  (n.element.timing.anchorId?.bind (place? nodes)).toList
    ++ if n.element.duration.isFillGap then n.next.toList else []

/-- The places of the nodes that need a place, once for each time they do. -/
def dependents (nodes : List (Node τ)) (place : Nat) : List Nat :=
  nodes.zipIdx.flatMap fun (n, i) => ((needs nodes n).filter (· == place)).map fun _ => i

/-- Whether a node fills the rest of a timeline that has no given length. -/
def isTrailingGap (timelineDuration : Option τ) (n : Node τ) : Bool :=
  timelineDuration.isNone && n.next.isNone && n.element.duration.isFillGap

/-- How far the work has come. -/
structure Progress (τ : Type) where
  /-- For each node, how many of its needs are open. -/
  pending : List Nat
  /-- The places that can be settled. -/
  ready : List Nat
  /-- The places of gaps that can be settled but are put off. -/
  deferred : List Nat
  /-- For each node, its span once it is settled. -/
  settled : List (Option (Span τ))
  /-- The latest end of a settled node. -/
  latestEnd : τ

namespace Progress

/-- The progress with a place in the queue that it belongs to. -/
def enqueue (nodes : List (Node τ)) (timelineDuration : Option τ) (p : Progress τ) (place : Nat) :
    Progress τ :=
  if nodes[place]?.any (isTrailingGap timelineDuration) then
    { p with deferred := p.deferred ++ [place] }
  else { p with ready := p.ready ++ [place] }

/-- One need of a place less; a place without open needs joins its queue. -/
def release (nodes : List (Node τ)) (timelineDuration : Option τ) (p : Progress τ) (place : Nat) :
    Progress τ :=
  let left := (p.pending[place]?.getD 0) - 1
  let p := { p with pending := p.pending.set place left }
  if left = 0 then p.enqueue nodes timelineDuration place else p

/-- The place to settle next and the progress without it: a ready one, else one put off. -/
def next? (p : Progress τ) : Option (Nat × Progress τ) :=
  match p.ready, p.deferred with
  | place :: rest, _ => some (place, { p with ready := rest })
  | [], place :: rest => some (place, { p with deferred := rest })
  | [], [] => none

/-- The span of a place, where it is settled. -/
def span? (p : Progress τ) (place : Nat) : Option (Span τ) := (p.settled[place]?).join

end Progress

variable [Measure τ]

/-- Before the first round: places without needs are queued. -/
def Progress.initial (nodes : List (Node τ)) (timelineDuration : Option τ) : Progress τ :=
  let pending := nodes.map fun n => (needs nodes n).length
  let start : Progress τ := ⟨pending, [], [], nodes.map fun _ => none, Measure.zero⟩
  (pending.zipIdx.filter fun (count, _) => count == 0).foldl
    (fun p (_, place) => p.enqueue nodes timelineDuration place) start

/-- The start of a node and whether it is provisional. -/
def startOf (nodes : List (Node τ)) (p : Progress τ) (n : Node τ) :
    Except (Failure τ) (τ × Bool) :=
  match n.element.timing with
  | .absolute start => .ok (start, false)
  | .relative anchorId offset anchor =>
    match (place? nodes anchorId).bind p.span? with
    | some span => .ok (relativeStart span.start span.duration anchor offset, false)
    | none => .error (.timing n.element.id .anchorPending)
  | .dynamic _ => .ok (Measure.zero, true)

/-- The length of a gap that starts at a time. -/
def gapLength (p : Progress τ) (timelineDuration : Option τ) (n : Node τ) (start : τ)
    (limit : Option τ) : Except (Failure τ) τ :=
  let gap (finish : τ) := Measure.capAt limit (Measure.nonneg (finish - start))
  match n.next with
  | some place =>
    match p.span? place with
    | some span => .ok (gap span.start)
    | none => .error (.timing n.element.id .nextPending)
  | none => .ok (gap (timelineDuration.getD p.latestEnd))

/-- The span of a node whose needs are settled. -/
def spanOf (nodes : List (Node τ)) (timelineDuration : Option τ)
    (durationOf : Template.Element τ → Except (Failure τ) τ) (p : Progress τ) (n : Node τ) :
    Except (Failure τ) (Span τ) := do
  let (start, provisional) ← startOf nodes p n
  let duration ← match n.element.duration with
    | .fillGap limit => gapLength p timelineDuration n start limit
    | _ => durationOf n.element
  return ⟨start, duration, provisional⟩

/-- The progress with a node settled and those that waited for it released. -/
def settle (nodes : List (Node τ)) (timelineDuration : Option τ) (p : Progress τ) (place : Nat)
    (span : Span τ) : Progress τ :=
  (dependents nodes place).foldl (fun p dependent => p.release nodes timelineDuration dependent)
    { p with
      settled := p.settled.set place (some span)
      latestEnd := Measure.later p.latestEnd span.finish }

/-- Rounds until nothing is ready, at most a given number of them. -/
def rounds (nodes : List (Node τ)) (timelineDuration : Option τ)
    (durationOf : Template.Element τ → Except (Failure τ) τ) :
    Nat → Progress τ → Except (Failure τ) (Progress τ)
  | 0, p => .ok p
  | left + 1, p =>
    match p.next? with
    | none => .ok p
    | some (place, p) =>
      match nodes[place]? with
      | none => .ok p
      | some n => do
        let span ← spanOf nodes timelineDuration durationOf p n
        rounds nodes timelineDuration durationOf left (settle nodes timelineDuration p place span)

/-- The spans of all nodes; a node without one waits for itself. -/
def collect : List (Node τ) → List (Option (Span τ)) → Except (Failure τ) (List (String × Span τ))
  | n :: rest, some span :: spans => do return (n.element.id, span) :: (← collect rest spans)
  | n :: _, _ => .error (.timing n.element.id .circular)
  | [], _ => .ok []

end Timeline

/-- The spans of the elements of a template, in track order. -/
abbrev Timeline (τ : Type) := List (String × Span τ)

namespace Timeline

variable {τ : Type}

/-- The span of an element. -/
def span? (timeline : Timeline τ) (id : String) : Option (Span τ) := List.lookup id timeline

variable [Measure τ]

/-- The latest end of an element. -/
def finish (timeline : Timeline τ) : τ :=
  Measure.latest (timeline.map fun (_, span) => span.finish)

/-- Works out the spans of all elements. The durations that do not follow from the timeline are
given by `durationOf`. -/
def resolve (t : Template τ) (timelineDuration : Option τ)
    (durationOf : Template.Element τ → Except (Failure τ) τ) : Except (Failure τ) (Timeline τ) := do
  let ns := nodes t
  if let some id := repeated? [] (ns.map (·.element.id)) then
    throw (.timing id .duplicateId)
  if let some n := ns.find? fun n => (lostAnchor? ns n).isSome then
    throw (.timing n.element.id (.unknownAnchor ((lostAnchor? ns n).getD "")))
  let p ← rounds ns timelineDuration durationOf ns.length (.initial ns timelineDuration)
  collect ns p.settled

/-- The duration of an element as far as it is known before any input is: a fixed one, or the one
that was recorded when the template was made. -/
def hintedDuration (e : Template.Element τ) : τ :=
  match e.duration with
  | .fixed value => value
  | .content limit hint => Measure.capAt limit (hint.getD Measure.zero)
  | .matchAudio _ hint => hint.getD Measure.zero
  | .fillGap _ => Measure.zero

/-- The spans of all elements by their recorded durations. -/
def hinted (t : Template τ) (timelineDuration : Option τ) : Except (Failure τ) (Timeline τ) :=
  resolve t timelineDuration fun e => .ok (hintedDuration e)

end Timeline

end Storyboard
