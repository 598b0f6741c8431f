import Spellbook.Proofs.Plan.Bare
import Spellbook.Proofs.Run.Agreement
set_option autoImplicit false

/-!
# Counted loops written out

A counted loop does what its body does when it is written out so many times
(`play_unrolled`).  The two programs have other plans and other places, so their runs are
compared part by part as they are told: `Stretch.Matches` passes over where the blocks stand
and over the events of the loop's own two lines.
-/

namespace Spellbook

open Plan (Item)
open Run (start)
open Stretch (idle stop)

/-! ## Parts of runs that tell the same -/

/-- What an event tells apart from where its block stands. -/
def Event.content (e : Event) : String × String × String × Severity × Scene :=
  (e.blockId, e.label, e.message, e.severity, e.scene)

variable {kept : Nat → Bool}

namespace Stretch

/-- Both parts tell and leave the same, if only those events of the first count whose
places are kept. -/
structure Matches (kept : Nat → Bool) (a b : Stretch) : Prop where
  content_eq : (a.events.filter (fun e => kept e.index)).map Event.content =
    b.events.map Event.content
  scene_eq : a.scene = b.scene
  answer_eq : a.answer = b.answer
  outcome_eq : a.outcome = b.outcome

theorem matches_stop (kept : Nat → Bool) (o : Outcome) (s : Scene) (answer : Option Bool) :
    (stop o s answer).Matches kept (stop o s answer) :=
  ⟨rfl, rfl, rfl, rfl⟩

theorem Matches.andThen {a b : Stretch} {f g : Scene → Option Bool → Stretch}
    (h : a.Matches kept b) (hnext : ∀ s answer, (f s answer).Matches kept (g s answer)) :
    (a.andThen f).Matches kept (b.andThen g) := by
  cases hfinal : a.outcome.isFinal with
  | true =>
    have hother : b.outcome.isFinal = true := by rw [← h.outcome_eq, hfinal]
    rw [andThen_of_isFinal hfinal, andThen_of_isFinal hother]
    exact h
  | false =>
    have hrunning : a.outcome = .running := Run.isFinal_eq_false_iff.1 hfinal
    have hrest := hnext a.scene a.answer
    rw [andThen_of_running hrunning, andThen_of_running (h.outcome_eq.symm.trans hrunning),
      ← h.scene_eq, ← h.answer_eq]
    refine ⟨?_, hrest.scene_eq, hrest.answer_eq, hrest.outcome_eq⟩
    rw [List.filter_append, List.map_append, List.map_append, h.content_eq, hrest.content_eq]

theorem andThen_idle (a : Stretch) : a.andThen idle = a := by
  cases hfinal : a.outcome.isFinal with
  | true => exact andThen_of_isFinal hfinal idle
  | false =>
    have hrunning := Run.isFinal_eq_false_iff.1 hfinal
    rw [andThen_of_running hrunning]
    simp [idle, stop, ← hrunning]

end Stretch

namespace Rules

open Stretch

variable {rules : Rules} {line : Line} {lines : List Line} {l : Loop} {items : List Item}

/-! ## Wherever the blocks stand -/

theorem matches_tellStep (h : kept line.index = true) (round round' : Option Nat)
    (done : Step) :
    (rules.tellStep line round done).Matches kept (rules.tellStep line.bare round' done) := by
  refine ⟨?_, rfl, rfl, rfl⟩
  simp [tellStep, record, Event.content, Line.bare, Line.block, h]

theorem matches_tellLine (h : kept line.index = true) (round round' : Option Nat) (s : Scene)
    (answer : Option Bool) :
    (rules.tellLine round line s answer).Matches kept
      (rules.tellLine round' line.bare s answer) :=
  matches_tellStep h round round' _

theorem matches_tellLines (h : ∀ line ∈ lines, kept line.index = true)
    (round round' : Option Nat) (s : Scene) (answer : Option Bool) :
    (rules.tellLines round lines s answer).Matches kept
      (rules.tellLines round' (lines.map Line.bare) s answer) := by
  induction lines generalizing s answer with
  | nil => exact matches_stop kept .running s answer
  | cons line rest ih =>
    have hrest := ih (fun l hl => h l (List.mem_cons_of_mem line hl))
    exact (matches_tellLine (h line List.mem_cons_self) round round' s answer).andThen hrest

theorem matches_tellMarker (h : ∀ marker, l.marker = some marker → kept marker.index = true)
    (rounds : Nat) (s : Scene) (answer : Option Bool) :
    (rules.tellMarker l rounds s answer).Matches kept
      (rules.tellMarker l.bare rounds s answer) := by
  cases hmarker : l.marker with
  | none =>
    simp only [tellMarker, Loop.bare, hmarker, Option.map_none]
    exact matches_stop kept .running s answer
  | some marker =>
    simp only [tellMarker, Loop.bare, hmarker, Option.map_some]
    exact matches_tellStep (h marker hmarker) none none _

theorem matches_tellTimes (h : ∀ line ∈ l.body, kept line.index = true) (k n : Nat)
    (s : Scene) (answer : Option Bool) :
    (rules.tellTimes l k n s answer).Matches kept (rules.tellTimes l.bare k n s answer) := by
  induction n generalizing k s answer with
  | zero => exact matches_stop kept .running s answer
  | succ n ih => exact (matches_tellLines h (some k) (some k) s answer).andThen (ih (k + 1))

theorem matches_tellWhile (hbody : ∀ line ∈ l.body, kept line.index = true)
    (hmarker : ∀ marker, l.marker = some marker → kept marker.index = true) (name : String)
    (below : Number) (k left : Nat) (s : Scene) (answer : Option Bool) :
    (rules.tellWhile l name below k left s answer).Matches kept
      (rules.tellWhile l.bare name below k left s answer) := by
  cases hvalue : s.vars.number? name with
  | none =>
    rw [tellWhile_of_none hvalue, tellWhile_of_none hvalue]
    exact matches_stop kept _ s answer
  | some value =>
    by_cases hlow : below.val ≤ value.val
    · rw [tellWhile_of_le hvalue hlow, tellWhile_of_le hvalue hlow]
      exact matches_tellMarker hmarker (k - 1) s answer
    · by_cases hempty : l.body = []
      · have hbare : l.bare.body = [] := List.map_eq_nil_iff.2 hempty
        rw [tellWhile_of_empty hvalue hlow hempty, tellWhile_of_empty hvalue hlow hbare]
        exact matches_stop kept _ s answer
      · have hbare : l.bare.body ≠ [] := fun h => hempty (List.map_eq_nil_iff.1 h)
        rw [tellWhile_of_lt hvalue hlow hempty, tellWhile_of_lt hvalue hlow hbare]
        cases left with
        | zero => exact matches_stop kept _ s answer
        | succ left =>
          exact (matches_tellLines hbody (some k) (some k) s answer).andThen
            (matches_tellWhile hbody hmarker name below (k + 1) left)
termination_by left

theorem matches_tellRepeat (hbody : ∀ line ∈ l.body, kept line.index = true)
    (hmarker : ∀ marker, l.marker = some marker → kept marker.index = true) (times : Nat)
    (s : Scene) (answer : Option Bool) :
    (rules.tellRepeat l times s answer).Matches kept
      (rules.tellRepeat l.bare times s answer) := by
  by_cases hempty : l.body = []
  · have hbare : l.bare.body = [] := List.map_eq_nil_iff.2 hempty
    rw [tellRepeat, tellRepeat, if_pos hempty, if_pos hbare]
    exact matches_tellMarker hmarker 0 s answer
  · have hbare : l.bare.body ≠ [] := fun h => hempty (List.map_eq_nil_iff.1 h)
    rw [tellRepeat, tellRepeat, if_neg hempty, if_neg hbare]
    refine (matches_tellTimes hbody 1 _ s answer).andThen (fun s answer => ?_)
    by_cases hmany : 100 < times
    · rw [tellCounted_of_lt hmany, tellCounted_of_lt hmany]
      exact matches_stop kept _ s answer
    · rw [tellCounted_of_le (Nat.not_lt.1 hmany), tellCounted_of_le (Nat.not_lt.1 hmany)]
      exact matches_tellMarker hmarker times s answer

/-- An item tells the same wherever its lines stand, if all of them count. -/
theorem matches_tellItem {item : Item} (h : ∀ line ∈ item.lines, kept line.index = true)
    (s : Scene) (answer : Option Bool) :
    (rules.tellItem item s answer).Matches kept (rules.tellItem item.bare s answer) := by
  cases item with
  | single line => exact matches_tellLine (h line (by simp [Item.lines])) none none s answer
  | loop l =>
    have hheader : kept l.header.index = true := h l.header (by simp [Item.lines])
    have hbody : ∀ line ∈ l.body, kept line.index = true :=
      fun line hline => h line (by simp [Item.lines, hline])
    have hmarker : ∀ marker, l.marker = some marker → kept marker.index = true :=
      fun marker heq => h marker (by simp [Item.lines, heq])
    refine (matches_tellLine hheader none none s answer).andThen (fun s answer => ?_)
    have hbare : l.bare.header.block.op = l.header.block.op := rfl
    unfold tellRounds
    rw [hbare]
    cases l.header.block.op with
    | repeatTimes times => exact matches_tellRepeat hbody hmarker times s answer
    | repeatWhile name below =>
      exact matches_tellWhile hbody hmarker name below 1 100 s answer
    | _ => exact matches_stop kept .running s answer

/-- Items before other parts of a run. -/
theorem matches_tellItems_append (h : ∀ item ∈ items, ∀ line ∈ item.lines, kept line.index = true)
    {rest others : List Item}
    (hrest : ∀ s answer, (rules.tellItems rest s answer).Matches kept
      (rules.tellItems others s answer)) (s : Scene) (answer : Option Bool) :
    (rules.tellItems (items ++ rest) s answer).Matches kept
      (rules.tellItems (items.map Item.bare ++ others) s answer) := by
  induction items generalizing s answer with
  | nil => exact hrest s answer
  | cons item later ih =>
    exact (matches_tellItem (h item List.mem_cons_self) s answer).andThen
      (ih (fun i hi => h i (List.mem_cons_of_mem item hi)))

theorem matches_tellItems (h : ∀ item ∈ items, ∀ line ∈ item.lines, kept line.index = true)
    (s : Scene) (answer : Option Bool) :
    (rules.tellItems items s answer).Matches kept
      (rules.tellItems (items.map Item.bare) s answer) := by
  have hgoal : ∀ s answer, (rules.tellItems [] s answer).Matches kept
      (rules.tellItems [] s answer) :=
    fun s answer => matches_stop kept (rules.goal s).outcome s answer
  simpa using matches_tellItems_append h hgoal s answer

/-! ## A loop and the copies of its body -/

theorem tellLines_append (rules : Rules) (round : Option Nat) (lines more : List Line)
    (s : Scene) (answer : Option Bool) :
    rules.tellLines round (lines ++ more) s answer =
      (rules.tellLines round lines s answer).andThen (rules.tellLines round more) := by
  induction lines generalizing s answer with
  | nil => rfl
  | cons line rest ih =>
    rw [List.cons_append, tellLines, tellLines, andThen_assoc]
    exact congrArg _ (funext fun s => funext fun answer => ih s answer)

theorem tellItems_map_single_append (rules : Rules) (lines : List Line) (items : List Item)
    (s : Scene) (answer : Option Bool) :
    rules.tellItems (lines.map .single ++ items) s answer =
      (rules.tellLines none lines s answer).andThen (rules.tellItems items) := by
  induction lines generalizing s answer with
  | nil => rfl
  | cons line rest ih =>
    rw [List.map_cons, List.cons_append, tellItems, tellLines, andThen_assoc]
    exact congrArg _ (funext fun s => funext fun answer => ih s answer)

/-- The rounds of a body are its copies. -/
theorem matches_tellTimes_copies (h : ∀ line ∈ l.body, kept line.index = true) (k n : Nat)
    (s : Scene) (answer : Option Bool) :
    (rules.tellTimes l k n s answer).Matches kept
      (rules.tellLines none ((List.replicate n l.body).flatten.map Line.bare) s answer) := by
  induction n generalizing k s answer with
  | zero => exact matches_stop kept .running s answer
  | succ n ih =>
    rw [List.replicate_succ, List.flatten_cons, List.map_append, tellLines_append]
    exact (matches_tellLines h (some k) none s answer).andThen (ih (k + 1))

/-- A step that does not count and does not end its run leaves only its scene. -/
theorem matches_tellStep_idle (heager : rules.eager = false) (h : kept line.index = false)
    (round : Option Nat) {done : Step} (hgood : done.effect.outcome = .running) :
    (rules.tellStep line round done).Matches kept (idle done.scene done.answer) := by
  refine ⟨?_, rfl, rfl, verdict_eq_running hgood (by simp [heager])⟩
  simp [tellStep, record, idle, stop, h]

theorem matches_tellMarker_idle (heager : rules.eager = false)
    (h : ∀ marker, l.marker = some marker → kept marker.index = false) (rounds : Nat)
    (s : Scene) (answer : Option Bool) :
    (rules.tellMarker l rounds s answer).Matches kept (idle s answer) := by
  cases hmarker : l.marker with
  | none =>
    rw [tellMarker_of_none hmarker]
    exact matches_stop kept .running s answer
  | some marker =>
    rw [tellMarker_of_some hmarker]
    exact matches_tellStep_idle heager (h marker hmarker) none rfl

/-- A counted loop tells what the copies of its body tell, if its header and its end marker
do not count. -/
theorem matches_tellLoop_copies (heager : rules.eager = false) {times : Nat}
    (hcategory : l.header.category = .loop) (hop : l.header.block.op = .repeatTimes times)
    (htimes : times ≤ maxRounds) (hheader : kept l.header.index = false)
    (hbody : ∀ line ∈ l.body, kept line.index = true)
    (hmarker : ∀ marker, l.marker = some marker → kept marker.index = false) (s : Scene)
    (answer : Option Bool) :
    (rules.tellLoop l s answer).Matches kept
      (rules.tellLines none ((List.replicate times l.body).flatten.map Line.bare) s answer) := by
  have hrun : l.header.block.run rules answer s = ⟨.done s!"Repeat {times} times:", s, answer⟩ := by
    simp [Block.run, show l.header.block.category = .loop from hcategory, Block.runHeader, hop]
  have hidle : (rules.tellLine none l.header s answer).Matches kept (idle s answer) := by
    rw [tellLine, hrun]
    exact matches_tellStep_idle heager hheader none rfl
  rw [← idle_andThen s answer (rules.tellLines none _), tellLoop]
  refine hidle.andThen (fun s answer => ?_)
  simp only [tellRounds, hop, tellRepeat]
  by_cases hempty : l.body = []
  · rw [if_pos hempty, hempty]
    have hnone : (List.replicate times ([] : List Line)).flatten = [] := by simp
    rw [hnone]
    exact matches_tellMarker_idle heager hmarker 0 s answer
  · have hlimit : times ≤ 100 := htimes
    rw [if_neg hempty, Nat.min_eq_left hlimit, ← andThen_idle (rules.tellLines none _ s answer)]
    refine (matches_tellTimes_copies hbody 1 times s answer).andThen (fun s answer => ?_)
    rw [tellCounted_of_le hlimit]
    exact matches_tellMarker_idle heager hmarker times s answer

/-- A plan with a counted loop tells what it tells with copies of the body instead, if all
its lines count but the header and the end marker of this loop. -/
theorem matches_tellItems_loop (heager : rules.eager = false) {program : List Placed}
    {header marker : Line} {body : List Line} {later : List Item}
    (hlines : Line.ofProgram program = items.flatMap Item.lines ++
      header :: (body ++ marker :: later.flatMap Item.lines))
    {times : Nat} (hcategory : header.category = .loop)
    (hop : header.block.op = .repeatTimes times) (htimes : times ≤ maxRounds)
    (hkept : ∀ i, kept i = false ↔ i = header.index ∨ i = marker.index) (s : Scene)
    (answer : Option Bool) :
    (rules.tellItems (items ++ .loop ⟨header, body, some marker⟩ :: later) s answer).Matches kept
      (rules.tellItems (items.map Item.bare ++
        (((List.replicate times body).flatten.map Line.bare).map .single ++
          later.map Item.bare)) s answer) := by
  have hcounts : ∀ line, line ∈ items.flatMap Item.lines ∨ line ∈ body ∨
      line ∈ later.flatMap Item.lines → kept line.index = true := by
    intro line hline
    obtain ⟨hfirst, hlast⟩ := Line.index_ne_of_ofProgram hlines hline
    rw [← Bool.not_eq_false, hkept]
    exact fun h => h.elim hfirst hlast
  have hitems : ∀ item ∈ items, ∀ line ∈ item.lines, kept line.index = true := by
    intro item hitem line hline
    exact hcounts line (.inl (List.mem_flatMap.2 ⟨item, hitem, hline⟩))
  have hbody : ∀ line ∈ body, kept line.index = true := by
    intro line hline
    exact hcounts line (.inr (.inl hline))
  have hlater : ∀ item ∈ later, ∀ line ∈ item.lines, kept line.index = true := by
    intro item hitem line hline
    exact hcounts line (.inr (.inr (List.mem_flatMap.2 ⟨item, hitem, hline⟩)))
  refine matches_tellItems_append hitems (fun s answer => ?_) s answer
  rw [tellItems_map_single_append]
  have hloop := matches_tellLoop_copies (l := ⟨header, body, some marker⟩) heager hcategory hop
    htimes ((hkept _).2 (.inl rfl)) hbody (by rintro _ ⟨⟩; exact (hkept _).2 (.inr rfl)) s answer
  exact hloop.andThen (matches_tellItems hlater)

/-! ## Whole runs -/

/-- A level that waits for the end of the program has runs as their plans tell. -/
theorem play_of_ofProgram (heager : rules.eager = false) {program : List Placed}
    (hover : (start program).isOver = false) (hplan : Plan.ofProgram program = .ok items)
    (s : Scene) :
    let told := rules.tellItems items rules.openingScene none
    let p := rules.play program .never s
    p.events = told.events ∧ p.scene = told.scene ∧ p.run.outcome = told.outcome := by
  obtain ⟨hne, -⟩ := Run.exists_ofProgram_of_start hover
  have hstart := Run.start_of_ofProgram hne hplan
  have hstretch := Run.stretch_finish rules (start program) rules.openingScene
    (by rw [hstart]) (.inl heager)
  rw [show (start program).cursor = .ofItems items by rw [hstart],
    show (start program).answer = none by rw [hstart], Cursor.tell_ofItems] at hstretch
  obtain ⟨-, houtcome⟩ := Run.outcome_finish rules (start program) rules.openingScene
  intro told p
  have hp : p = _ := play_never hover rules s
  have htold : told = _ := hstretch.symm
  rw [hp, htold]
  exact ⟨rfl, rfl, houtcome⟩

/-- A counted loop that is not asked for too many rounds can be written out: if the blocks
inside it stand there as many times as it has rounds, the run ends alike in the same scene,
and apart from the header and the end marker of the loop its events tell the same. -/
theorem play_unrolled (heager : rules.eager = false) {looped unrolled : List Placed}
    {p body q : List Block} {header marker : Block} {times : Nat}
    (hheader : header.category = .loop) (hop : header.op = .repeatTimes times)
    (htimes : times ≤ maxRounds) (hmarker : marker.category = .marker)
    (hbody : ∀ b ∈ body, b.category ≠ .loop ∧ b.category ≠ .marker)
    (hlooped : looped.map Placed.block = p ++ header :: (body ++ marker :: q))
    (hunrolled : unrolled.map Placed.block = p ++ ((List.replicate times body).flatten ++ q))
    (hloopedStart : (start looped).isOver = false)
    (hunrolledStart : (start unrolled).isOver = false) (s : Scene) :
    let a := rules.play looped .never s
    let b := rules.play unrolled .never s
    a.run.outcome = b.run.outcome ∧ a.scene = b.scene ∧
      (a.events.filter (fun e =>
          e.index ≠ p.length ∧ e.index ≠ p.length + 1 + body.length)).map Event.content =
        b.events.map Event.content := by
  obtain ⟨-, whole, hwhole⟩ := Run.exists_ofProgram_of_start hloopedStart
  obtain ⟨-, flat, hflat⟩ := Run.exists_ofProgram_of_start hunrolledStart
  obtain ⟨items, first, inner, last, later, rfl, hbare, hlines, rfl, hfirst, hlast⟩ :=
    Plan.exists_plan_of_looped hheader hmarker hbody hlooped hunrolled hwhole hflat
  have hkept : ∀ i, decide (i ≠ p.length ∧ i ≠ p.length + 1 + body.length) = false ↔
      i = first.index ∨ i = last.index := by
    intro i
    rw [hfirst, hlast, decide_eq_false_iff_not]
    omega
  have hloop := matches_tellItems_loop heager hlines hheader hop htimes hkept
    rules.openingScene none
  have hcopied : (rules.tellItems flat rules.openingScene none).Matches (fun _ => true) _ :=
    matches_tellItems (fun _ _ _ _ => rfl) rules.openingScene none
  rw [hbare] at hcopied
  obtain ⟨haevents, hascene, haoutcome⟩ := play_of_ofProgram heager hloopedStart hwhole s
  obtain ⟨hbevents, hbscene, hboutcome⟩ := play_of_ofProgram heager hunrolledStart hflat s
  intro a b
  refine ⟨?_, ?_, ?_⟩
  · rw [haoutcome, hboutcome, hloop.outcome_eq, hcopied.outcome_eq]
  · rw [hascene, hbscene, hloop.scene_eq, hcopied.scene_eq]
  · have hall := hcopied.content_eq
    rw [List.filter_eq_self.2 (fun _ _ => rfl)] at hall
    rw [haevents, hbevents, hloop.content_eq, hall]

/-- The crossing of the bridge with its ten rounds written out. -/
def striding : List Placed :=
  (Program.ofIds Bridge.blocks
    ("create-steps" :: (List.replicate 10 ["step-forward", "count-step"]).flatten)).placed

/-- The crossing succeeds alike, and with the same steps. -/
theorem play_striding :
    Bridge.rules.eager = false ∧ (start Run.crossing).isOver = false ∧
      (start striding).isOver = false ∧
      let a := Bridge.rules.play Run.crossing .never Bridge.rules.openingScene
      let b := Bridge.rules.play striding .never Bridge.rules.openingScene
      a.run.outcome = b.run.outcome ∧ a.scene = b.scene ∧ b.events.length = 21 ∧
        (a.events.filter (fun e => e.index ≠ 1 ∧ e.index ≠ 4)).map Event.content =
          b.events.map Event.content := by
  obtain ⟨c, r, f, n, e, hblocks, hheader, hop, hmarker, hf, hn, hcopies⟩ :
      ∃ c r f n e : Block, Run.crossing.map Placed.block = [c] ++ r :: ([f, n] ++ e :: []) ∧
        r.category = .loop ∧ r.op = .repeatTimes 10 ∧ e.category = .marker ∧
        f.category = .movement ∧ n.category = .math ∧
        striding.map Placed.block = [c] ++ ((List.replicate 10 [f, n]).flatten ++ []) := by
    refine ⟨_, _, _, _, _, rfl, ?_, ?_, ?_, ?_, ?_, ?_⟩ <;> decide +kernel
  have hbody : ∀ b ∈ [f, n], b.category ≠ .loop ∧ b.category ≠ .marker := by
    simp [hf, hn]
  have hlooped : (start Run.crossing).isOver = false := by decide +kernel
  have hunrolled : (start striding).isOver = false := by decide +kernel
  have heager : Bridge.rules.eager = false := rfl
  obtain ⟨houtcome, hscene, hevents⟩ := play_unrolled heager hheader hop (by decide) hmarker
    hbody hblocks hcopies hlooped hunrolled Bridge.rules.openingScene
  exact ⟨heager, hlooped, hunrolled, houtcome, hscene, by decide +kernel, hevents⟩

end Rules

end Spellbook
