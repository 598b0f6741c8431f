import Spellbook.Text.WidthRanges
set_option autoImplicit false

/-!
# The width of a cluster

A terminal shows a cluster in none, one or more of its cells.  Most characters add
cells of their own; some add fewer or more because of what follows them, so a
cluster is measured from its end.
-/

namespace Spellbook.Text

/-- What follows a character, as far as that changes its width. -/
inductive Following where
  | lineFeed
  /-- The selector that asks for an emoji. -/
  | emojiSelector
  /-- The selector that asks for a narrow character. -/
  | textSelector
  | emoji
  | skinTone
  /-- A joiner before an emoji. -/
  | joiner
  /-- The selector that asks for an emoji, before a joiner and an emoji. -/
  | joinerSelector
  /-- A letter that can be subjoined. -/
  | subjoined
  | other
  deriving DecidableEq, Inhabited

/-- Whether a character is a skin tone. -/
def isSkinTone (c : Char) : Bool := 0x1f3fb ≤ c.toNat && c.toNat ≤ 0x1f3ff

/-- The cells of a character on its own, and what it is to the one before it. -/
def ownWidth (c : Char) : Int × Following :=
  if c.toNat ≤ 0xa0 then if c = '\n' then (0, .lineFeed) else (1, .other)
  else if c = '\ufe0f' then (0, .emojiSelector)
  else if c = '\ufe0e' then (0, .textSelector)
  else if widthless.has c then (0, .other)
  else if isSkinTone c then (2, .skinTone)
  else if emoji.has c then (2, .emoji)
  else if subjoinedLetters.has c then (1, .subjoined)
  else if c = '\u17d8' then (3, .other)
  else if c = '\u17a4' || wide.has c then (2, .other)
  else (1, .other)

/-- The cells that a character adds before what follows it, and what both are to the
one before them. -/
def addedWidth (c : Char) (next : Following) : Int × Following :=
  match next with
  | .lineFeed => if c = '\r' then (0, .other) else ownWidth c
  | .emojiSelector => if emojiStyled.has c then (2, .emoji) else ownWidth c
  | .joinerSelector => if emojiStyled.has c then (0, .emoji) else ownWidth c
  | .textSelector => if textStyled.has c then (1, .other) else ownWidth c
  | .emoji => if c = '\u200d' then (0, .joiner) else ownWidth c
  | .skinTone =>
    if modifierBases.has c then (0, .emoji)
    else if c = '\u200d' then (0, .joiner)
    else ownWidth c
  | .joiner =>
    if c = '\ufe0f' then (0, .joinerSelector)
    else if isSkinTone c then (0, .skinTone)
    else if emoji.has c then (0, .emoji)
    else ownWidth c
  | .subjoined => if c = '\u17d2' then (-1, .other) else ownWidth c
  | .other => ownWidth c

/-- The cells of a cluster, and what it is to what stands before it. -/
def measure : List Char → Int × Following
  | [] => (0, .other)
  | c :: rest =>
    let (cells, next) := measure rest
    let (added, here) := addedWidth c next
    (cells + added, here)

/-- How many cells of a terminal a cluster takes. -/
def cellWidth (cs : List Char) : Nat := (measure cs).1.toNat

end Spellbook.Text
