import Storyboard.Template
import Storyboard.Failure

/-!
# Transcripts

Spoken words with their times, and the phrases and sentences they form. A group of words ends with a
word that ends in a break character, or with the last word.
-/

namespace Storyboard

/-- A piece of a transcript. -/
structure Segment (τ : Type) where
  text : String
  start : τ
  finish : τ
  deriving BEq

namespace Segment

variable {τ : Type}

/-- Whether a word ends in one of the break characters, blanks at its end aside. -/
def endsIn (breaks : List Char) (word : Segment τ) : Bool :=
  ((Text.dropBlankEnd word.text.toList).getLast?).any breaks.contains

/-- A group with one more word, after a space. -/
def extend (group word : Segment τ) : Segment τ :=
  { group with text := group.text ++ " " ++ word.text, finish := word.finish }

/-- The groups of words that follow an unfinished group, if there is one. -/
def groupFrom (breaks : List Char) : Option (Segment τ) → List (Segment τ) → List (Segment τ)
  | unfinished, [] => unfinished.toList
  | unfinished, word :: rest =>
    let group := unfinished.elim word (·.extend word)
    if word.endsIn breaks then group :: groupFrom breaks none rest
    else groupFrom breaks (some group) rest

/-- The groups that words form between breaks. -/
def group (breaks : List Char) (words : List (Segment τ)) : List (Segment τ) :=
  groupFrom breaks none words

end Segment

/-- The characters that end a sentence. -/
def sentenceBreaks : List Char := ['.', '!', '?']

/-- The characters that end a phrase. -/
def phraseBreaks : List Char := ['.', '!', '?', ',', ';', ':']

/-- The segments of a list of words. -/
def Granularity.segments {τ : Type} (g : Granularity) (words : List (Segment τ)) :
    List (Segment τ) :=
  match g with
  | .word => words
  | .sentence => Segment.group sentenceBreaks words
  | .phrase => Segment.group phraseBreaks words

/-- The words of transcripts, by name. -/
abbrev Transcripts (τ : Type) := Keyed (List (Segment τ))

/-- The segments of a transcript; the one called `default` where none is named. -/
def Transcripts.segments {τ : Type} (transcripts : Transcripts τ) (name : Option String)
    (g : Granularity) : Except (Failure τ) (List (Segment τ)) :=
  let key := name.getD "default"
  match transcripts.get? key with
  | some words => .ok (g.segments words)
  | none => .error (.lookup (.transcript key))

end Storyboard
