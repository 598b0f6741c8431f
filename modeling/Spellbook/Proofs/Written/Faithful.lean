import Spellbook.Proofs.Written.RoundTrip
set_option autoImplicit false

/-!
# Faithful writing

A type is written faithfully if whatever fits is read back as it was, from the compact and from
the laid-out form, and if nothing that does not fit is ever read.  So a text of which something
is read can be read and written again as often as one likes and is the same from the first time
on, whatever it held besides.  Every type that is written to a file or to the screen is written
faithfully (`written_faithful`).
-/

namespace Spellbook

open Json (Gives Holds)

/-- The forms in which a value is written. -/
inductive Layout where
  | compact
  | pretty
  deriving DecidableEq, Inhabited

namespace Layout

/-- A value in this form. -/
def lay : Layout → Json → String
  | compact => Json.compact
  | pretty => Json.pretty

theorem ofText?_lay {depth : Nat} {j : Json} (h : Json.Neat depth j)
    (hdepth : depth ≤ Json.maxDepth) (layout : Layout) :
    Json.ofText? (layout.lay j) = some j := by
  cases layout with
  | compact => exact Json.ofText?_compact h hdepth
  | pretty => exact Json.ofText?_pretty h hdepth

end Layout

variable {α : Type} {write : α → Json} {read : Json → Option α} {fits : α → Prop}

/-- What a reader of values finds in a text. -/
def readText (read : Json → Option α) (s : String) : Option α := (Json.ofText? s).bind read

/-- What is written for what was read from a text. -/
def rewritten (layout : Layout) (write : α → Json) (read : Json → Option α) (s : String) :
    Option String :=
  (readText read s).map (fun a => layout.lay (write a))

/-- What fits is read back from what is written for it, and what is read fits. -/
structure Faithful (write : α → Json) (read : Json → Option α) (fits : α → Prop) : Prop where
  /-- What fits is read back as it was. -/
  readText_lay : ∀ (layout : Layout) (a : α), fits a → readText read (layout.lay (write a)) = some a
  /-- What is read fits. -/
  fits_of_readText : ∀ (s : String) (a : α), readText read s = some a → fits a
  /-- What was read and written stays as it is when it is read and written again. -/
  rewritten_rewritten : ∀ (layout : Layout) (s t : String),
    rewritten layout write read s = some t → rewritten layout write read t = some t
  /-- Two values are not written alike. -/
  eq_of_lay_eq : ∀ (layout : Layout) (a b : α), fits a → fits b →
    layout.lay (write a) = layout.lay (write b) → a = b

namespace Faithful

/-- What a type holds itself in is read back. -/
theorem of_holds {depth : Nat} (hdepth : depth ≤ Json.maxDepth)
    (hwrite : ∀ a, fits a → Holds read depth (write a) a) (hread : Gives read fits) :
    Faithful write read fits := by
  have hback (layout : Layout) (a : α) (ha : fits a) :
      readText read (layout.lay (write a)) = some a := by
    rw [readText, layout.ofText?_lay (hwrite a ha).neat hdepth, Option.bind_some,
      (hwrite a ha).read_eq]
  have hfits (s : String) (a : α) (ha : readText read s = some a) : fits a := by
    obtain ⟨j, -, hj⟩ := Option.bind_eq_some_iff.1 ha
    exact hread j a hj
  refine ⟨hback, hfits, fun layout s t hst => ?_, fun layout a b ha hb hsame => ?_⟩
  · obtain ⟨a, ha, rfl⟩ := Option.map_eq_some_iff.1 hst
    rw [rewritten, hback layout a (hfits s a ha), Option.map_some]
  · have hread := hback layout a ha
    rw [hsame, hback layout b hb] at hread
    exact (Option.some.inj hread).symm

/-- A type of which every value fits. -/
theorem of_holds_all {depth : Nat} (hdepth : depth ≤ Json.maxDepth)
    (hwrite : ∀ a, Holds read depth (write a) a) : Faithful write read (fun _ => True) :=
  of_holds hdepth (fun a _ => hwrite a) fun _ _ _ => trivial

end Faithful

/-- All that is written is read back: values, named values, things, worlds, operations, blocks,
the blocks of a program, outcomes, events, reports, cases and saved programs.  A value is of the
kind that it was, and a text stays a text whatever it looks like. -/
theorem written_faithful :
    Faithful Value.toJson Value.ofJson? (fun _ => True) ∧
    Faithful Bindings.toJson Bindings.ofJson? (fun _ => True) ∧
    Faithful Thing.toJson Thing.ofJson? Thing.Fits ∧
    Faithful World.toJson World.ofJson? World.Fits ∧
    Faithful Op.toJson Op.ofJson? Op.Fits ∧
    Faithful Block.toJson Block.ofJson? Block.Fits ∧
    Faithful Placed.toJson Placed.ofJson? Placed.Fits ∧
    Faithful Outcome.toJson Outcome.ofJson? (fun _ => True) ∧
    Faithful Event.toJson Event.ofJson? Event.Fits ∧
    Faithful Report.toJson Report.ofJson? Report.Fits ∧
    Faithful Case.toJson Case.ofJson? Case.Fits ∧
    Faithful SavedProgram.toJson SavedProgram.ofJson? (fun _ => True) ∧
    (∀ (layout : Layout) (v w : Value), v.typeName ≠ w.typeName →
      layout.lay v.toJson ≠ layout.lay w.toJson) ∧
    ∀ (layout : Layout) (s : String),
      readText Value.ofJson? (layout.lay (Value.text s).toJson) = some (.text s) := by
  have hvalue : Faithful Value.toJson Value.ofJson? (fun _ => True) :=
    .of_holds_all (by decide) Value.holds_toJson
  refine ⟨hvalue, ?_, ?_, ?_, ?_, ?_, ?_, ?_, ?_, ?_, ?_, ?_, ?_, ?_⟩
  · exact .of_holds_all (by decide) Bindings.holds_toJson
  · exact .of_holds (by decide) (fun _ => Thing.holds_toJson) Thing.ofJson?_fits
  · exact .of_holds (by decide) (fun _ => World.holds_toJson) World.ofJson?_fits
  · exact .of_holds (by decide) (fun _ => Op.holds_toJson) Op.ofJson?_fits
  · exact .of_holds (by decide) (fun _ => Block.holds_toJson) Block.ofJson?_fits
  · exact .of_holds (by decide) (fun _ => Placed.holds_toJson) Placed.ofJson?_fits
  · exact .of_holds_all (by decide) Outcome.holds_toJson
  · exact .of_holds (by decide) (fun _ => Event.holds_toJson) Event.ofJson?_fits
  · exact .of_holds (by decide) (fun _ => Report.holds_toJson) Report.ofJson?_fits
  · exact .of_holds (by decide) (fun _ => Case.holds_toJson) Case.ofJson?_fits
  · exact .of_holds_all (by decide) SavedProgram.holds_toJson
  · intro layout v w hkind hsame
    exact hkind (congrArg Value.typeName (hvalue.eq_of_lay_eq layout v w trivial trivial hsame))
  · exact fun layout s => hvalue.readText_lay layout (.text s) trivial

end Spellbook
