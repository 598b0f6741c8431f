import Spellbook.Text.Blank
import Spellbook.Text.Cluster
import Spellbook.Text.Width
set_option autoImplicit false

/-!
# Breaking a text into lines

A line that is too wide is broken between words.  The blanks that stand at the
break are dropped as far as they fit on the line before it.  A word that is wider
than a line is broken where the line is full.
-/

namespace Spellbook.Text

/-- A cluster as it is shown. -/
structure Glyph where
  text : List Char
  /-- How many cells it takes. -/
  width : Nat
  /-- Whether a line may be broken at it. -/
  blank : Bool
  deriving DecidableEq, Inhabited

namespace Glyph

/-- A cluster as it is shown.  The blank that keeps words together is none, and the
space without a width is one. -/
def ofCluster (cs : List Char) : Glyph :=
  ⟨cs, cellWidth cs, cs = ['\u200b'] || (cs.all isBlank && cs ≠ ['\u00a0'])⟩

/-- The clusters of a text; a line end shows nothing. -/
def ofText (s : String) : List Glyph :=
  ((clusters s.toList).filter (· ≠ ['\n'])).map ofCluster

/-- How a glyph fills its cells. -/
def cells (g : Glyph) : List Char :=
  if g.width = 0 then [] else g.text ++ List.replicate (g.width - 1) ' '

end Glyph

/-- Some glyphs in a row, the last one first, and the cells they take. -/
structure Stretch where
  glyphs : List Glyph
  width : Nat
  deriving DecidableEq, Inhabited

namespace Stretch

/-- No glyphs. -/
def empty : Stretch := ⟨[], 0⟩

/-- A stretch with one more glyph. -/
def push (s : Stretch) (g : Glyph) : Stretch := ⟨g :: s.glyphs, s.width + g.width⟩

/-- A stretch and then another one. -/
def append (s t : Stretch) : Stretch := ⟨t.glyphs ++ s.glyphs, s.width + t.width⟩

/-- The glyphs without the first ones that fit into so many cells. -/
def dropFitting (room : Nat) : List Glyph → List Glyph
  | [] => []
  | g :: rest => if g.width ≤ room then dropFitting (room - g.width) rest else g :: rest

/-- A stretch without its first glyphs that fit into so many cells. -/
def withoutFitting (s : Stretch) (room : Nat) : Stretch :=
  let kept := dropFitting room s.glyphs.reverse
  ⟨kept.reverse, (kept.map Glyph.width).foldl (· + ·) 0⟩

end Stretch

/-- How far a text has been broken into lines. -/
structure Wrapping where
  /-- The lines that are complete, the last one first. -/
  lines : List Stretch
  /-- The words and blanks of the line that is not. -/
  line : Stretch
  /-- The blanks after that line. -/
  blanks : Stretch
  /-- The word after those blanks. -/
  word : Stretch
  /-- Whether a word may go on or has just ended. -/
  inWord : Bool
  deriving DecidableEq, Inhabited

namespace Wrapping

/-- Nothing of a text. -/
def start : Wrapping := ⟨[], .empty, .empty, .empty, false⟩

/-- Adds the blanks and the word to the line. -/
def settle (w : Wrapping) : Wrapping :=
  { w with line := (w.line.append w.blanks).append w.word, blanks := .empty, word := .empty }

/-- Whether the word has ended, or must be broken because it is wider than a line. -/
def settles (w : Wrapping) (max : Nat) (g : Glyph) : Bool :=
  (w.inWord && g.blank) ||
    (w.line.glyphs.isEmpty && max < w.word.width + w.blanks.width + g.width)

/-- Whether the line ends before a glyph. -/
def breaks (w : Wrapping) (max : Nat) (g : Glyph) : Bool :=
  max ≤ w.line.width ||
    (g.width ≠ 0 && max ≤ w.line.width + w.blanks.width + w.word.width)

/-- Ends the line. -/
def endLine (w : Wrapping) (max : Nat) : Wrapping :=
  { w with
    lines := w.line :: w.lines
    line := .empty
    blanks := w.blanks.withoutFitting (max - w.line.width) }

/-- Adds a glyph to the blanks or to the word. -/
def push (w : Wrapping) (g : Glyph) : Wrapping :=
  if g.blank then { w with blanks := w.blanks.push g, inWord := false }
  else { w with word := w.word.push g, inWord := true }

/-- Takes the next glyph.  One that is wider than a line is passed over, and so is
the blank at which a line ends. -/
def feed (max : Nat) (w : Wrapping) (g : Glyph) : Wrapping :=
  if max < g.width then w
  else
    let w := if w.settles max g then w.settle else w
    if w.breaks max g then
      let w := w.endLine max
      if g.blank && w.blanks.glyphs.isEmpty then w else w.push g
    else w.push g

/-- All lines, with an empty one before blanks that are left over alone. -/
def finish (w : Wrapping) : List (List Glyph) :=
  let rest := w.settle.line
  let alone := w.line.glyphs.isEmpty && w.word.glyphs.isEmpty && !w.blanks.glyphs.isEmpty
  let lines := if alone then .empty :: w.lines else w.lines
  let lines := if rest.glyphs.isEmpty then lines else rest :: lines
  if lines.isEmpty then [[]] else (lines.map (fun s => s.glyphs.reverse)).reverse

end Wrapping

/-- Breaks a text into lines of at most so many cells, save that the last glyph of a
line may reach beyond them. -/
def wrap (max : Nat) (glyphs : List Glyph) : List (List Glyph) :=
  (glyphs.foldl (Wrapping.feed max) .start).finish

end Spellbook.Text
