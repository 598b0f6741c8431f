import Spellbook.Play.Screen
import Spellbook.Text.Padding
import Spellbook.Text.Wrap
set_option autoImplicit false

/-!
# What the full-screen mode shows

The screen is a column of rows, each in one style.  A text is cut to the width
counted in characters; where its characters are wider than one cell, it goes on in
the next row.  Of the two lists, a window of rows around the selected one is shown.
-/

namespace Spellbook.Play

/-- The colours of a row. -/
inductive Color where
  | plain
  | gray
  | cyan
  | green
  | yellow
  | red
  | magenta
  deriving DecidableEq, Inhabited

/-- How a row looks. -/
structure Style where
  color : Color
  bold : Bool
  deriving DecidableEq, Inhabited

namespace Style

/-- The style of a colour that is not bold. -/
def of (c : Color) : Style := ⟨c, false⟩

/-- No style at all. -/
def plain : Style := of .plain

/-- The bold style of a colour. -/
def boldOf (c : Color) : Style := ⟨c, true⟩

end Style

/-- One row of the screen. -/
structure Row where
  style : Style
  text : String
  deriving DecidableEq, Inhabited

/-- How many rows of a list are shown. -/
def listRows : Nat := 8

/-- How many rows of the log are shown. -/
def logRows : Nat := 6

/-- The first row of the window on a list that keeps the selected row in sight.  A
window of no rows starts at the top. -/
def windowStart (selected total rows : Nat) : Nat :=
  if total ≤ rows ∨ rows = 0 then 0 else min (selected - (rows - 1)) (total - rows)

/-- The rows of a list that are shown, with their places. -/
def window {α : Type} (selected : Nat) (items : List α) : List (α × Nat) :=
  (items.zipIdx.drop (windowStart selected items.length listRows)).take listRows

/-- The width that texts are cut to on a screen of this width. -/
def contentWidth (width : Nat) : Nat := max (width - 2) 16

/-- A row whose text is cut to the width. -/
def row (width : Nat) (style : Style) (text : String) : Row :=
  ⟨style, Text.truncate (contentWidth width) text⟩

/-- The heading of a list. -/
def heading (width : Nat) (text : String) (focused : Bool) : Row :=
  row width ⟨.cyan, focused⟩ text

namespace Screen

/-- The row of a block of the catalog. -/
def catalogRow (s : Screen) (width : Nat) (b : Block) (index : Nat) : Row :=
  let selected := s.focus = .catalog ∧ index = s.catalogIndex
  let mark := if selected then "> " else "  "
  row width (if selected then .of .green else .plain) s!"{mark}{b.category.name} {b.label}"

/-- The row of a block of the program. -/
def programRow (s : Screen) (width : Nat) (p : Placed) (index : Nat) : Row :=
  let selected := s.focus = .program ∧ index = s.programIndex
  let active := s.active = some p.number
  let mark := if active then "* " else if selected then "> " else "  "
  row width
    (if active then .boldOf .yellow else if selected then .of .green else .plain)
    s!"{mark}{Text.padLeft 2 (toString (index + 1))}. {Text.padRight 26 p.block.label} {p.block.code}"

/-- The row of a step in the log. -/
def logRow (width : Nat) (e : Severity × String) : Row :=
  let style : Style := match e.1 with
    | .info => .plain
    | .warning => .of .yellow
    | .failure => .of .red
  row width style e.2

/-- The rows above the lists. -/
def headerRows (s : Screen) (width : Nat) : List Row :=
  let w := s.workbench
  let vars := w.scene.vars.entries.map (fun e => s!"{e.1}={e.2}")
  [row width .plain s!"{w.level.name} | {w.rules.title} | seed {w.setup.seed.toNat}",
   row width (.of .gray) s!"program file: {s.path}",
   row width (.of .gray) s!"status: {s.status}",
   row width .plain s!"track: {w.scene.world.track}",
   row width (.of .gray) ("variables: " ++ " ".intercalate vars)]

/-- The rows of the catalog. -/
def catalogRows (s : Screen) (width : Nat) : List Row :=
  heading width "blocks" (s.focus = .catalog) ::
    (window s.catalogIndex s.workbench.catalog.blocks).map
      (fun p => s.catalogRow width p.1 p.2)

/-- The rows of the program. -/
def programRows (s : Screen) (width : Nat) : List Row :=
  let placed := s.workbench.program.placed
  heading width "program" (s.focus = .program) ::
    (if placed.isEmpty then [⟨.of .gray, "  (empty)"⟩] else []) ++
    (window s.programIndex placed).map (fun p => s.programRow width p.1 p.2)

/-- The rows of the last steps and of the outcome. -/
def resultRows (s : Screen) (width : Nat) : List Row :=
  ⟨.of .gray, String.ofList (List.replicate (contentWidth width) '─')⟩ ::
    (s.log.drop (s.log.length - logRows)).map (logRow width) ++
    (match s.banner with
      | none => []
      | some (success, text) =>
        [row width (.boldOf (if success then .green else .red)) text])

/-- What the keys are for. -/
def keysLine : String :=
  "keys: tab focus | up/down move | enter add | d remove | c clear | r run | x stop | z reset | s save | l load | h help | q quit"

/-- The line that the help key shows. -/
def helpLine : String :=
  "the program cannot change while it runs. press x to stop a run early."

/-- The rows below the result. -/
def footerRows (s : Screen) (width : Nat) : List Row :=
  row width (.of .yellow) keysLine ::
    (if s.helpShown then [row width (.of .magenta) helpLine] else [])

/-- All rows for a screen of this width. -/
def rows (s : Screen) (width : Nat) : List Row :=
  s.headerRows width ++ s.catalogRows width ++ s.programRows width ++ s.resultRows width
    ++ s.footerRows width

/-- The rows for a screen of this width, broken where they are too wide. -/
def lines (s : Screen) (width : Nat) : List (Style × List Text.Glyph) :=
  (s.rows width).flatMap (fun r =>
    (Text.wrap width (Text.Glyph.ofText r.text)).map (fun line => (r.style, line)))

/-- A row of cells.  The style is that of the first cell; a row of no cells has none,
and neither has one whose first cell is covered.  Blanks at the end are left out. -/
def cellRow (covered : Bool) (style : Style) (glyphs : List Text.Glyph) : Row :=
  match glyphs.filter (·.width ≠ 0) with
  | [] => ⟨.plain, ""⟩
  | first :: rest =>
    let start := if covered then List.replicate first.width ' ' else first.cells
    let cells := start ++ rest.flatMap Text.Glyph.cells
    ⟨if covered then .plain else style,
      String.ofList (cells.reverse.dropWhile Text.isBlank).reverse⟩

/-- Whether the last glyph of a line begins in the last cell and reaches beyond it. -/
def overhangs (width : Nat) (glyphs : List Text.Glyph) : Bool :=
  match (glyphs.filter (·.width ≠ 0)).reverse with
  | [] => false
  | last :: before =>
    1 < last.width && (before.map Text.Glyph.width).foldl (· + ·) 0 + 1 = width

/-- Rows of cells one below the other.  A glyph that reaches beyond the end of its row
covers the first cell of the next. -/
def cellRows (width : Nat) : Bool → List (Style × List Text.Glyph) → List Row
  | _, [] => []
  | covered, (style, glyphs) :: rest =>
    cellRow covered style glyphs :: cellRows width (overhangs width glyphs) rest

/-- The screen of this size: as many rows as fit, and blank ones below them. -/
def view (s : Screen) (width height : Nat) : List Row :=
  let shown := cellRows width false ((s.lines width).take height)
  shown ++ List.replicate (height - shown.length) ⟨.plain, ""⟩

end Screen

end Spellbook.Play
