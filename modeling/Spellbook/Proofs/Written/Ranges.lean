import Spellbook.Case
import Spellbook.Proofs.Json.Records
import Spellbook.SavedProgram
import Spellbook.Written.Block
set_option autoImplicit false

/-!
# What fits

Positions, lengths, indices and the numbers of blocks are written with 64 bits, rounds with 32
bits.  A value fits if all its numbers do.  Whatever is read fits (`ofJson?_fits`).
-/

namespace Spellbook

open Json (Gives)

/-- How many positions, lengths, indices and block numbers there are. -/
def wordLimit : Nat := 0x10000000000000000

/-- How many numbers of rounds there are. -/
def roundLimit : Nat := 0x100000000

theorem nat64_gives : Gives Json.nat64? (· < wordLimit) := Gives.natBelow _

theorem nat32_gives : Gives Json.nat32? (· < roundLimit) := Gives.natBelow _

/-- Opens a record of which the fields are known. -/
theorem exists_row {α : Type} {names : List String} {least : Nat} {j : Json} {a : α}
    {build : List (Option Json) → Option α}
    (h : (j.slots names least).bind build = some a) : ∃ row, build row = some a := by
  obtain ⟨row, -, hrow⟩ := Option.bind_eq_some_iff.1 h
  exact ⟨row, hrow⟩

/-! ## Things and worlds -/

/-- The thing's square has a number. -/
def Thing.Fits (t : Thing) : Prop := t.position < wordLimit

theorem Thing.ofJson?_fits : Gives Thing.ofJson? Thing.Fits := by
  intro j t h
  obtain ⟨row, h⟩ := exists_row h
  split at h
  · simp only [Option.bind_eq_bind, Option.bind_eq_some_iff] at h
    obtain ⟨id, -, kind, -, position, hposition, resolved, -, ⟨⟩⟩ := h
    exact nat64_gives.required hposition
  · cases h

/-- The squares of the world have numbers. -/
structure World.Fits (w : World) : Prop where
  position : w.position < wordLimit
  trackLength : w.trackLength < wordLimit
  things : ∀ t ∈ w.things, t.Fits

theorem World.ofJson?_fits : Gives World.ofJson? World.Fits := by
  intro j w h
  obtain ⟨row, h⟩ := exists_row h
  split at h
  · simp only [Option.bind_eq_bind, Option.bind_eq_some_iff] at h
    obtain ⟨position, hposition, trackLength, hlength, things, hthings, flags, -, target, -,
      ⟨⟩⟩ := h
    exact ⟨nat64_gives.required hposition, nat64_gives.required hlength,
      (Thing.ofJson?_fits.list).required hthings⟩
  · cases h

/-! ## Operations and blocks -/

/-- The rounds of a counted loop have a number. -/
def Op.Fits : Op → Prop
  | .repeatTimes times => times < roundLimit
  | _ => True

namespace Op

variable {α β γ : Type} {fields : Json}

theorem ofBare?_inv {a b : α} (h : ofBare? a fields = some b) : a = b := by
  obtain ⟨row, -, hab⟩ := Option.map_eq_some_iff.1 h
  exact hab

theorem ofOne?_inv {name : String} {read : Json → Option α} {make : α → β} {b : β}
    (h : ofOne? name read make fields = some b) :
    ∃ slot a, Json.required read slot = some a ∧ make a = b := by
  obtain ⟨row, h⟩ := exists_row h
  split at h
  · obtain ⟨a, ha, hb⟩ := Option.bind_eq_some_iff.1 h
    exact ⟨_, a, ha, Option.some.inj hb⟩
  · cases h

theorem ofTwo?_inv {name₁ name₂ : String} {read₁ : Json → Option α} {read₂ : Json → Option β}
    {make : α → β → γ} {c : γ} (h : ofTwo? name₁ read₁ name₂ read₂ make fields = some c) :
    ∃ a b, make a b = c := by
  obtain ⟨row, h⟩ := exists_row h
  split at h
  · obtain ⟨a, -, h⟩ := Option.bind_eq_some_iff.1 h
    obtain ⟨b, -, hc⟩ := Option.bind_eq_some_iff.1 h
    exact ⟨a, b, Option.some.inj hc⟩
  · cases h

theorem ofCompare?_inv {op : Op} (h : ofCompare? fields = some op) :
    ∃ name comparison value, compare name comparison value = op := by
  obtain ⟨row, h⟩ := exists_row h
  split at h
  · simp only [Option.bind_eq_bind, Option.bind_eq_some_iff] at h
    obtain ⟨name, -, comparison, -, value, -, hop⟩ := h
    exact ⟨name, comparison, value, Option.some.inj hop⟩
  · cases h

theorem ofKind?_fits {kind : String} {op : Op} (h : ofKind? kind fields = some op) : op.Fits := by
  unfold ofKind? at h
  split at h
  case h_4 =>
    obtain ⟨name, comparison, value, rfl⟩ := ofCompare?_inv h
    trivial
  case h_16 =>
    obtain ⟨slot, times, htimes, rfl⟩ := ofOne?_inv h
    exact nat32_gives.required htimes
  case h_6 | h_9 | h_10 | h_11 | h_18 =>
    obtain rfl := ofBare?_inv h
    trivial
  case h_2 | h_5 | h_7 | h_8 | h_12 =>
    obtain ⟨slot, field, -, rfl⟩ := ofOne?_inv h
    trivial
  case h_1 | h_3 | h_13 | h_14 | h_15 | h_17 =>
    obtain ⟨first, second, rfl⟩ := ofTwo?_inv h
    trivial
  case h_19 => cases h

theorem ofJson?_fits : Gives Op.ofJson? Op.Fits := by
  intro j op h
  obtain ⟨tagged, -, h⟩ := Option.bind_eq_some_iff.1 h
  exact ofKind?_fits h

end Op

/-- The operation fits. -/
def Block.Fits (b : Block) : Prop := b.op.Fits

theorem Block.ofJson?_fits : Gives Block.ofJson? Block.Fits := by
  intro j b h
  obtain ⟨row, h⟩ := exists_row h
  split at h
  · simp only [Option.bind_eq_bind, Option.bind_eq_some_iff] at h
    obtain ⟨id, -, category, -, label, -, code, -, description, -, op, hop, ⟨⟩⟩ := h
    exact Op.ofJson?_fits.required hop
  · cases h

/-- The number of the block has its 64 bits, and the block fits. -/
structure Placed.Fits (p : Placed) : Prop where
  number : p.number < wordLimit
  block : p.block.Fits

theorem Placed.ofJson?_fits : Gives Placed.ofJson? Placed.Fits := by
  intro j p h
  obtain ⟨row, h⟩ := exists_row h
  split at h
  · simp only [Option.bind_eq_bind, Option.bind_eq_some_iff] at h
    obtain ⟨number, hnumber, block, hblock, ⟨⟩⟩ := h
    exact ⟨nat64_gives.required hnumber, Block.ofJson?_fits.required hblock⟩
  · cases h

/-! ## Events and reports -/

/-- The event's numbers and its world fit. -/
structure Event.Fits (e : Event) : Prop where
  index : e.index < wordLimit
  round : ∀ n ∈ e.round, n < roundLimit
  number : e.number < wordLimit
  world : e.scene.world.Fits

theorem Event.ofJson?_fits : Gives Event.ofJson? Event.Fits := by
  intro j e h
  obtain ⟨row, h⟩ := exists_row h
  split at h
  · simp only [Option.bind_eq_bind, Option.bind_eq_some_iff] at h
    obtain ⟨index, hindex, round, hround, number, hnumber, blockId, -, label, -, message, -,
      severity, -, world, hworld, vars, -, ⟨⟩⟩ := h
    exact ⟨nat64_gives.required hindex, nat32_gives.optional hround, nat64_gives.required hnumber,
      World.ofJson?_fits.required hworld⟩
  · cases h

/-- The events and the final world fit. -/
structure Report.Fits (r : Report) : Prop where
  events : ∀ e ∈ r.events, e.Fits
  world : r.final.world.Fits

theorem Report.ofJson?_fits : Gives Report.ofJson? Report.Fits := by
  intro j r h
  obtain ⟨row, h⟩ := exists_row h
  split at h
  · simp only [Option.bind_eq_bind, Option.bind_eq_some_iff] at h
    obtain ⟨level, -, outcome, -, events, hevents, world, hworld, vars, -, ⟨⟩⟩ := h
    exact ⟨Event.ofJson?_fits.list.required hevents, World.ofJson?_fits.required hworld⟩
  · cases h

/-! ## Cases -/

/-- The expected number of steps and the expected square have their 64 bits. -/
structure Case.Fits (c : Case) : Prop where
  steps : ∀ n ∈ c.steps?, n < wordLimit
  position : ∀ n ∈ c.position?, n < wordLimit

theorem Case.ofJson?_fits : Gives Case.ofJson? Case.Fits := by
  intro j c h
  obtain ⟨row, h⟩ := exists_row h
  split at h
  · simp only [Option.bind_eq_bind, Option.bind_eq_some_iff] at h
    obtain ⟨schema, -, level, -, seed, -, weather, -, monsters, -, blocks, -, expected, -, steps,
      hsteps, position, hposition, messages, -, vars, -, ⟨⟩⟩ := h
    exact ⟨nat64_gives.optional hsteps, nat64_gives.optional hposition⟩
  · cases h

end Spellbook
