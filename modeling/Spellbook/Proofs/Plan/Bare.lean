import Spellbook.Proofs.Plan.Append
set_option autoImplicit false

/-!
# Plans without the places of their lines

What a plan is made of depends on the blocks of its program alone, not on where they stand
(`assemble_bare`).  So the plan of a program with a loop can be compared with that of another
program which has other blocks in the place of the loop (`exists_plan_of_looped`).
-/

namespace Spellbook

/-- A line that does not say where its block stands. -/
def Line.bare (l : Line) : Line := ⟨0, 0, l.block⟩

@[simp] theorem Line.block_bare (l : Line) : l.bare.block = l.block := rfl

@[simp] theorem Line.category_bare (l : Line) : l.bare.category = l.category := rfl

/-- A loop whose lines do not say where they stand. -/
def Loop.bare (l : Loop) : Loop := ⟨l.header.bare, l.body.map Line.bare, l.marker.map Line.bare⟩

/-- An item whose lines do not say where they stand. -/
def Plan.Item.bare : Plan.Item → Plan.Item
  | single line => single line.bare
  | loop l => loop l.bare

namespace Line

theorem map_block_ofProgram (program : List Placed) :
    (ofProgram program).map block = program.map Placed.block := by
  apply List.ext_getElem?
  intro i
  simp [getElem?_ofProgram, Function.comp_def, block]

/-- No other line stands where one of these two does. -/
theorem index_ne_of_ofProgram {program : List Placed} {before inner behind : List Line}
    {first last : Line} (h : ofProgram program = before ++ first :: (inner ++ last :: behind))
    {l : Line} (hl : l ∈ before ∨ l ∈ inner ∨ l ∈ behind) :
    l.index ≠ first.index ∧ l.index ≠ last.index := by
  have hascending := ofProgram_ascending program
  rw [h, List.pairwise_append, List.pairwise_cons, List.pairwise_append,
    List.pairwise_cons] at hascending
  obtain ⟨-, ⟨hfirst, -, ⟨hlast, -⟩, hinner⟩, hbefore⟩ := hascending
  rcases hl with hl | hl | hl
  · have hlower := hbefore l hl first List.mem_cons_self
    have hlower' := hbefore l hl last (by simp)
    exact ⟨Nat.ne_of_lt hlower, Nat.ne_of_lt hlower'⟩
  · have hgreater := hfirst l (List.mem_append_left _ hl)
    have hlower := hinner l hl last List.mem_cons_self
    exact ⟨Nat.ne_of_gt hgreater, Nat.ne_of_lt hlower⟩
  · have hgreater := hfirst l (List.mem_append_right inner (List.mem_cons_of_mem last hl))
    have hgreater' := hlast l hl
    exact ⟨Nat.ne_of_gt hgreater, Nat.ne_of_gt hgreater'⟩

/-- Lines of the same blocks are the same but for their places. -/
theorem map_bare_eq_of_map_block_eq {lines others : List Line}
    (h : lines.map block = others.map block) : lines.map bare = others.map bare := by
  have hbare : bare = (fun b => ⟨0, 0, b⟩) ∘ block := rfl
  rw [hbare, ← List.map_map, ← List.map_map, h]

end Line

namespace Plan

/-- Lines are planned alike wherever they stand. -/
theorem assemble_bare {pending : Option (Line × List Line)} {lines : List Line}
    {items : List Item} (h : assemble pending lines = .ok items) :
    assemble (pending.map (fun open_ => (open_.1.bare, open_.2.map Line.bare)))
      (lines.map Line.bare) = .ok (items.map Item.bare) := by
  induction lines generalizing pending items with
  | nil => cases pending <;> cases h <;> rfl
  | cons line rest ih =>
    cases pending with
    | none =>
      simp only [assemble] at h
      rw [List.map_cons, Option.map_none, assemble]
      split at h
      · rename_i hloop
        rw [if_pos (show line.bare.category = .loop from hloop)]
        exact ih h
      · rename_i hloop
        obtain ⟨later, hlater, rfl⟩ := map_eq_ok_iff.1 h
        have hrest := ih hlater
        rw [Option.map_none] at hrest
        rw [if_neg (show line.bare.category ≠ .loop from hloop), hrest]
        rfl
    | some open_ =>
      obtain ⟨header, body⟩ := open_
      simp only [assemble] at h
      rw [List.map_cons, Option.map_some, assemble]
      split at h
      · rename_i hmarker
        obtain ⟨later, hlater, rfl⟩ := map_eq_ok_iff.1 h
        have hrest := ih hlater
        rw [Option.map_none] at hrest
        simp only [Line.category_bare, hmarker, hrest]
        rfl
      · cases h
      · rename_i hmarker hloop
        have hrest := ih h
        rw [Option.map_some, List.map_append] at hrest
        rw [← hrest]
        split
        · exact absurd ‹_› hmarker
        · exact absurd ‹_› hloop
        · rfl

/-! ## A loop and the copies of its body -/

theorem closed_of_ne_loop {categories : List Category} (h : ∀ c ∈ categories, c ≠ .loop) :
    Closed categories := by
  rintro before after rfl
  exact absurd rfl (h .loop (by simp))

variable {before behind : List Line} {items later : List Item}

/-- An open loop takes lines of other kinds up to its end marker. -/
theorem assemble_body {header marker : Line} (hmarker : marker.category = .marker)
    {body : List Line} (hbody : ∀ l ∈ body, l.category ≠ .loop ∧ l.category ≠ .marker)
    (taken rest : List Line) :
    assemble (some (header, taken)) (body ++ marker :: rest) =
      (Item.loop ⟨header, taken ++ body, some marker⟩ :: ·) <$> assemble none rest := by
  induction body generalizing taken with
  | nil => simp [assemble, hmarker]
  | cons line body ih =>
    obtain ⟨hloop, hother⟩ := hbody line List.mem_cons_self
    have htaken := ih (fun l hl => hbody l (List.mem_cons_of_mem line hl)) (taken ++ [line])
    rw [List.append_assoc, List.singleton_append] at htaken
    rw [List.cons_append, assemble, ← htaken]
    split
    · exact absurd ‹_› hother
    · exact absurd ‹_› hloop
    · rfl

/-- The plan of lines with a loop among them. -/
theorem assemble_looped (hclosed : Closed (before.map Line.category))
    (hitems : assemble none before = .ok items) {header marker : Line}
    (hheader : header.category = .loop) (hmarker : marker.category = .marker)
    {body : List Line} (hbody : ∀ l ∈ body, l.category ≠ .loop ∧ l.category ≠ .marker) :
    assemble none (before ++ header :: (body ++ marker :: behind)) =
      (fun later => items ++ .loop ⟨header, body, some marker⟩ :: later) <$>
        assemble none behind := by
  rw [assemble_none_append hclosed hitems, assemble, if_pos hheader, assemble_body hmarker hbody]
  cases assemble none behind <;> rfl

/-- The plan of lines with others among them that have no loops. -/
theorem assemble_copied (hclosed : Closed (before.map Line.category))
    (hitems : assemble none before = .ok items) {copies : List Line}
    (hcopies : ∀ l ∈ copies, l.category ≠ .loop) (hlater : assemble none behind = .ok later) :
    assemble none (before ++ (copies ++ behind)) =
      .ok (items ++ (copies.map .single ++ later)) := by
  have hopen : Closed (copies.map Line.category) := by
    apply closed_of_ne_loop
    intro c hc
    obtain ⟨l, hl, rfl⟩ := List.mem_map.1 hc
    exact hcopies l hl
  rw [assemble_none_append hclosed hitems, assemble_none_append hopen (assemble_of_ne_loop hcopies), hlater]
  rfl

/-- The plan of lines with a loop among them, and that of the same lines with others in the
place of the loop: they have the same items around it. -/
theorem exists_plan_around_loop {header marker : Line} {body : List Line}
    (hheader : header.category = .loop) (hmarker : marker.category = .marker)
    (hbody : ∀ l ∈ body, l.category ≠ .loop ∧ l.category ≠ .marker) {looped : List Item}
    (hlooped : assemble none (before ++ header :: (body ++ marker :: behind)) = .ok looped)
    {copies others : List Line} (hcopies : ∀ l ∈ copies, l.category ≠ .loop)
    (hothers : others.map Line.bare = (before ++ (copies ++ behind)).map Line.bare)
    {flat : List Item} (hflat : assemble none others = .ok flat) :
    ∃ items later, looped = items ++ .loop ⟨header, body, some marker⟩ :: later ∧
      flat.map Item.bare =
        items.map Item.bare ++ ((copies.map Line.bare).map .single ++ later.map Item.bare) ∧
      items.flatMap Item.lines = before ∧ later.flatMap Item.lines = behind := by
  have hunnested := (exists_assemble_iff none _).1 ⟨looped, hlooped⟩
  rw [Option.toList_none, List.map_nil, List.nil_append, List.map_append, List.map_cons,
    hheader] at hunnested
  obtain ⟨items, hitems⟩ := (exists_assemble_iff none before).2 hunnested.left
  have hclosed := hunnested.closed_of_loop
  rw [assemble_looped hclosed hitems hheader hmarker hbody] at hlooped
  obtain ⟨later, hlater, rfl⟩ := map_eq_ok_iff.1 hlooped
  have hcopied := assemble_bare (assemble_copied hclosed hitems hcopies hlater)
  have hbare := assemble_bare hflat
  rw [Option.map_none] at hcopied hbare
  rw [hothers, hcopied] at hbare
  refine ⟨items, later, rfl, ?_, flatMap_lines_of_assemble hitems,
    flatMap_lines_of_assemble hlater⟩
  rw [← Except.ok.inj hbare, List.map_append, List.map_append, List.map_map, List.map_map]
  rfl

/-- The plan of a program with a counted loop, and that of the program with copies of the
blocks inside it: the lines of the loop stand where they are in the program. -/
theorem exists_plan_of_looped {program others : List Placed} {p body q : List Block}
    {header marker : Block} {times : Nat} (hheader : header.category = .loop)
    (hmarker : marker.category = .marker)
    (hbody : ∀ b ∈ body, b.category ≠ .loop ∧ b.category ≠ .marker)
    (hprogram : program.map Placed.block = p ++ header :: (body ++ marker :: q))
    (hothers : others.map Placed.block = p ++ ((List.replicate times body).flatten ++ q))
    {looped flat : List Item} (hlooped : ofProgram program = .ok looped)
    (hflat : ofProgram others = .ok flat) :
    ∃ items first inner last later,
      looped = items ++ .loop ⟨first, inner, some last⟩ :: later ∧
      flat.map Item.bare = items.map Item.bare ++
        (((List.replicate times inner).flatten.map Line.bare).map .single ++
          later.map Item.bare) ∧
      Line.ofProgram program =
        items.flatMap Item.lines ++ first :: (inner ++ last :: later.flatMap Item.lines) ∧
      first.block = header ∧ first.index = p.length ∧
      last.index = p.length + 1 + body.length := by
  rw [← Line.map_block_ofProgram] at hprogram hothers
  obtain ⟨before, tail₁, hlines, rfl, htail₁⟩ := List.map_eq_append_iff.1 hprogram
  obtain ⟨first, tail₂, rfl, rfl, htail₂⟩ := List.map_eq_cons_iff.1 htail₁
  obtain ⟨inner, tail₃, rfl, rfl, htail₃⟩ := List.map_eq_append_iff.1 htail₂
  obtain ⟨last, behind, rfl, rfl, rfl⟩ := List.map_eq_cons_iff.1 htail₃
  have hinner : ∀ l ∈ inner, l.category ≠ .loop ∧ l.category ≠ .marker :=
    fun l hl => hbody l.block (List.mem_map_of_mem hl)
  have hcopies : ∀ l ∈ (List.replicate times inner).flatten, l.category ≠ .loop := by
    intro l hl
    obtain ⟨copy, hcopy, hmem⟩ := List.mem_flatten.1 hl
    rw [List.eq_of_mem_replicate hcopy] at hmem
    exact (hinner l hmem).1
  have hblocks : (Line.ofProgram others).map Line.block =
      (before ++ ((List.replicate times inner).flatten ++ behind)).map Line.block := by
    simp [hothers, List.map_flatten]
  rw [ofProgram, hlines] at hlooped
  obtain ⟨items, later, rfl, hbare, rfl, rfl⟩ := exists_plan_around_loop hheader hmarker hinner
    hlooped hcopies (Line.map_bare_eq_of_map_block_eq hblocks) hflat
  have hfirst := Line.index_of_ofProgram hlines
  have hlast : last.index = (items.flatMap Item.lines ++ first :: inner).length :=
    Line.index_of_ofProgram (by rw [hlines, List.append_assoc, List.cons_append])
  refine ⟨items, first, inner, last, later, rfl, hbare, hlines, rfl, ?_, ?_⟩
  · rw [hfirst, List.length_map]
  · rw [hlast, List.length_append, List.length_cons, List.length_map, List.length_map]
    omega

end Plan

end Spellbook
