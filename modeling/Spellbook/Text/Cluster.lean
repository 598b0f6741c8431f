import Spellbook.Text.ClusterRanges
set_option autoImplicit false

/-!
# Clusters

A cluster is what a reader takes for one character: a letter with its marks, a
syllable of jamo, an emoji made of several.  A text is cut into clusters by saying
for each character whether it joins the ones before it.
-/

namespace Spellbook.Text

/-- How a character joins its neighbours. -/
inductive Joint where
  | carriageReturn
  | lineFeed
  | control
  /-- Joins the character before it. -/
  | joining
  /-- Joins the character before it, and emoji on its two sides. -/
  | joiner
  /-- Joins the character before it and has a width. -/
  | spacing
  /-- Joins the character after it. -/
  | prepended
  /-- Half of a flag. -/
  | region
  | leading
  | vowel
  | trailing
  /-- A syllable that a jamo can still end. -/
  | openSyllable
  | closedSyllable
  | other
  deriving DecidableEq, Inhabited

namespace Joint

/-- How a character joins its neighbours. -/
def of (c : Char) : Joint :=
  let n := c.toNat
  if 0x20 ≤ n ∧ n < 0x7f then other
  else if c = '\r' then carriageReturn
  else if c = '\n' then lineFeed
  else if controls.has c then control
  else if joiningMarks.has c then joining
  else if c = '\u200d' then joiner
  else if spacingMarks.has c then spacing
  else if prependedSigns.has c then prepended
  else if 0x1f1e6 ≤ n ∧ n ≤ 0x1f1ff then region
  else if leadingJamo.has c then leading
  else if vowelJamo.has c then vowel
  else if trailingJamo.has c then trailing
  else if 0xac00 ≤ n ∧ n ≤ 0xd7a3 then
    if (n - 0xac00) % 28 = 0 then openSyllable else closedSyllable
  else other

/-- Whether nothing joins a character from either side, a line end apart. -/
def isControl : Joint → Bool
  | carriageReturn | lineFeed | control => true
  | _ => false

end Joint

/-- What the end of a cluster says about the next character. -/
structure ClusterEnd where
  last : Joint
  /-- Whether the cluster ends with half of a flag. -/
  halfFlag : Bool
  /-- Whether it ends with a pictograph and marks. -/
  pictograph : Bool
  /-- Whether it ends with a pictograph, marks and a joiner. -/
  joinedPictograph : Bool
  /-- Whether it ends with a consonant and marks. -/
  consonant : Bool
  /-- Whether a linker is among these marks. -/
  linked : Bool
  deriving DecidableEq, Inhabited

namespace ClusterEnd

/-- The end of a cluster that is one character. -/
def of (c : Char) : ClusterEnd :=
  let j := Joint.of c
  ⟨j, j = .region, pictographs.has c, false, linkingConsonants.has c, false⟩

/-- The end of a cluster that a character has joined. -/
def push (e : ClusterEnd) (c : Char) : ClusterEnd :=
  let j := Joint.of c
  let mark := j = .joining ∨ j = .joiner
  let kept := e.consonant && mark && c ≠ '\u200c'
  { last := j
    halfFlag := j = .region && !e.halfFlag
    pictograph := pictographs.has c || (e.pictograph && j = .joining)
    joinedPictograph := e.pictograph && j = .joiner
    consonant := linkingConsonants.has c || kept
    linked := kept && (e.linked || linkers.has c) }

/-- Whether a character joins a cluster with this end. -/
def joins (e : ClusterEnd) (c : Char) : Bool :=
  match e.last, Joint.of c with
  | .carriageReturn, .lineFeed => true
  | .leading, .leading | .leading, .vowel | .leading, .openSyllable
  | .leading, .closedSyllable => true
  | .openSyllable, .vowel | .openSyllable, .trailing | .vowel, .vowel | .vowel, .trailing => true
  | .closedSyllable, .trailing | .trailing, .trailing => true
  | last, j =>
    if last.isControl || j.isControl then false
    else if j = .joining ∨ j = .joiner ∨ j = .spacing ∨ last = .prepended then true
    else (e.linked && linkingConsonants.has c) || (e.joinedPictograph && pictographs.has c)
      || (e.halfFlag && j = .region)

end ClusterEnd

/-- The clusters of a text that goes on after a cluster with this end. -/
def clustersAfter (e : ClusterEnd) : List Char → List (List Char)
  | [] => [[]]
  | c :: rest =>
    if e.joins c then
      match clustersAfter (e.push c) rest with
      | [] => [[c]]
      | first :: others => (c :: first) :: others
    else
      match clustersAfter (.of c) rest with
      | [] => [[], [c]]
      | first :: others => [] :: (c :: first) :: others

/-- The clusters of a text. -/
def clusters : List Char → List (List Char)
  | [] => []
  | c :: rest =>
    match clustersAfter (.of c) rest with
    | [] => [[c]]
    | first :: others => (c :: first) :: others

theorem flatten_clustersAfter (e : ClusterEnd) (cs : List Char) :
    (clustersAfter e cs).flatten = cs := by
  induction cs generalizing e with
  | nil => rfl
  | cons c rest ih =>
    unfold clustersAfter
    split
    · have h := ih (e.push c)
      split <;> simp_all
    · have h := ih (.of c)
      split <;> simp_all

/-- The clusters hold the whole text in its order. -/
theorem flatten_clusters (cs : List Char) : (clusters cs).flatten = cs := by
  cases cs with
  | nil => rfl
  | cons c rest =>
    have h := flatten_clustersAfter (.of c) rest
    simp only [clusters]
    split <;> simp_all

end Spellbook.Text
