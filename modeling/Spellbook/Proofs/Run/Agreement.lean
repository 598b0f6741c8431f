import Spellbook.Level.Rules
import Spellbook.Program
import Spellbook.Proofs.Run.Finish
import Spellbook.Proofs.Run.Start
import Spellbook.Proofs.Run.Telling
set_option autoImplicit false

/-!
# Stepping a run and telling it agree

`Cursor.tell` tells what is left to run from a cursor.  One step of a run unrolls one
block of it (`Cursor.tell_eq`), so a run that is stepped to its end is the told one
(`finish_start_eq_tell`).  The level must not end a run at once when its goal is met, or
the program must have no loop: a loop that stops the run comes before the goal.
-/

namespace Spellbook

open Plan (Item)
open Stretch (idle stop)

/-! ## Telling a loop from any of its rounds -/

/-- A loop from the moment on when round `k` is due. -/
def Rules.tellFrom (rules : Rules) (l : Loop) (k : Nat) (s : Scene) (answer : Option Bool) :
    Stretch :=
  match l.header.block.op with
  | .repeatTimes times =>
    if l.body = [] then rules.tellMarker l 0 s answer
    else if times < k then rules.tellMarker l times s answer
    else (rules.tellTimes l k (min times 100 + 1 - k) s answer).andThen
      (rules.tellCounted l times)
  | .repeatWhile name below => rules.tellWhile l name below k (101 - k) s answer
  | _ => idle s answer

/-- What is left to run from a cursor. -/
def Cursor.tell (rules : Rules) : Cursor → Scene → Option Bool → Stretch
  | item i rest, s, answer => rules.tellItems (i :: rest) s answer
  | body l round line left rest, s, answer =>
    ((rules.tellLines (some round) (line :: left) s answer).andThen
      (rules.tellFrom l (round + 1))).andThen (rules.tellItems rest)
  | close marker rounds rest, s, answer =>
    (rules.tellStep marker none ⟨.done (closing rounds), s, answer⟩).andThen
      (rules.tellItems rest)
  | done, s, answer => stop (rules.judge s) s answer

/-- What is left to run once a step has found where the run goes. -/
def Cursor.tellNext (rules : Rules) (s : Scene) (answer : Option Bool) :
    Except LoopFault Cursor → Stretch
  | .error fault => stop fault.outcome s answer
  | .ok c => c.tell rules s answer

variable {rules : Rules}

theorem tellFrom_one (rules : Rules) (l : Loop) : rules.tellFrom l 1 = rules.tellRounds l := by
  funext s answer
  cases hop : l.header.block.op with
  | repeatTimes times =>
    simp only [Rules.tellFrom, Rules.tellRounds, Rules.tellRepeat, hop, Nat.add_sub_cancel]
    by_cases hbody : l.body = []
    · rw [if_pos hbody, if_pos hbody]
    · rw [if_neg hbody, if_neg hbody]
      by_cases htimes : times < 1
      · obtain rfl : times = 0 := by omega
        rfl
      · rw [if_neg htimes]
  | repeatWhile name below => simp [Rules.tellFrom, Rules.tellRounds, hop]
  | _ => simp [Rules.tellFrom, Rules.tellRounds, hop]

@[simp] theorem Cursor.tell_ofItems (items : List Item) :
    (ofItems items).tell rules = rules.tellItems items := by
  cases items <;> rfl

theorem Cursor.tell_close (l : Loop) (rounds : Nat) (rest : List Item) (s : Scene)
    (answer : Option Bool) :
    (l.close rounds rest).tell rules s answer =
      (rules.tellMarker l rounds s answer).andThen (rules.tellItems rest) := by
  unfold Loop.close
  cases hmarker : l.marker with
  | some marker =>
    rw [Rules.tellMarker_of_some hmarker]
    rfl
  | none => rw [Rules.tellMarker_of_none hmarker, Cursor.tell_ofItems, Stretch.idle_andThen]

/-- A counted loop that has a round left runs it, and is then asked for the next one. -/
theorem tellFrom_repeat (rules : Rules) {l : Loop} {k times : Nat}
    (hop : l.header.block.op = .repeatTimes times) (hne : l.body ≠ [])
    (htimes : k ≤ times) (hk : k ≤ 100) (s : Scene) (answer : Option Bool) :
    rules.tellFrom l k s answer =
      (rules.tellLines (some k) l.body s answer).andThen (rules.tellFrom l (k + 1)) := by
  have hleft : min times 100 + 1 - k = min times 100 + 1 - (k + 1) + 1 := by omega
  have hnext : rules.tellFrom l (k + 1) = fun s answer =>
      (rules.tellTimes l (k + 1) (min times 100 + 1 - (k + 1)) s answer).andThen
        (rules.tellCounted l times) := by
    funext s answer
    simp only [Rules.tellFrom, hop, if_neg hne]
    split
    · -- the last round is over, so none is left to run
      obtain rfl : times = k := by omega
      have hnone : min times 100 + 1 - (times + 1) = 0 := by omega
      rw [hnone, Rules.tellTimes, Stretch.idle_andThen, Rules.tellCounted_of_le hk]
    · rfl
  rw [hnext]
  simp only [Rules.tellFrom, hop, if_neg hne, if_neg (Nat.not_lt.2 htimes)]
  rw [hleft, Rules.tellTimes, Stretch.andThen_assoc]

/-- A loop with a test that holds runs a round that it has left, and is then asked for
the next one. -/
theorem tellFrom_while (rules : Rules) {l : Loop} {k : Nat} {name : String}
    {below value : Number} {s : Scene} (hop : l.header.block.op = .repeatWhile name below)
    (hne : l.body ≠ []) (hvalue : s.vars.number? name = some value)
    (hlow : ¬ below.val ≤ value.val) (hk : k ≤ 100) (answer : Option Bool) :
    rules.tellFrom l k s answer =
      (rules.tellLines (some k) l.body s answer).andThen (rules.tellFrom l (k + 1)) := by
  have hleft : 101 - k = 101 - (k + 1) + 1 := by omega
  have hnext : rules.tellFrom l (k + 1) =
      rules.tellWhile l name below (k + 1) (101 - (k + 1)) := by
    funext s answer
    simp only [Rules.tellFrom, hop]
  rw [hnext]
  simp only [Rules.tellFrom, hop]
  rw [hleft, Rules.tellWhile_of_lt hvalue hlow hne]

theorem tellFrom_andThen_of_repeat (rules : Rules) {l : Loop} {times : Nat}
    (hop : l.header.block.op = .repeatTimes times) (k : Nat) (rest : List Item) (s : Scene)
    (answer : Option Bool) :
    (rules.tellFrom l k s answer).andThen (rules.tellItems rest) =
      Cursor.tellNext rules s answer (l.enter k s.vars rest) := by
  cases hbody : l.body with
  | nil => simp [Rules.tellFrom, Loop.enter, hop, hbody, Cursor.tellNext, Cursor.tell_close]
  | cons first left =>
    have hne : l.body ≠ [] := by simp [hbody]
    by_cases htimes : times < k
    · simp [Rules.tellFrom, Loop.enter, hop, hbody, htimes, Cursor.tellNext, Cursor.tell_close]
    · by_cases hk : maxRounds < k
      · have hlimit : 100 < k := hk
        have hnone : min times 100 + 1 - k = 0 := by omega
        have hmany : 100 < times := by omega
        simp only [Rules.tellFrom, Loop.enter, hop, if_neg hne, if_neg htimes, hnone]
        rw [Rules.tellTimes, Stretch.idle_andThen, Rules.tellCounted_of_lt hmany,
          Stretch.stop_andThen rfl]
        simp only [hbody, if_pos hk, Cursor.tellNext]
      · have hround := tellFrom_repeat rules hop hne (Nat.not_lt.1 htimes)
          (Nat.not_lt.1 hk) s answer
        simp only [Loop.enter, hop, hbody, if_neg htimes, if_neg hk]
        rw [hround, hbody]
        rfl

theorem tellFrom_andThen_of_while (rules : Rules) {l : Loop} {name : String} {below : Number}
    (hop : l.header.block.op = .repeatWhile name below) (k : Nat) (rest : List Item)
    (s : Scene) (answer : Option Bool) :
    (rules.tellFrom l k s answer).andThen (rules.tellItems rest) =
      Cursor.tellNext rules s answer (l.enter k s.vars rest) := by
  have hfrom : rules.tellFrom l k s answer =
      rules.tellWhile l name below k (101 - k) s answer := by
    simp only [Rules.tellFrom, hop]
  cases hvalue : s.vars.number? name with
  | none =>
    rw [hfrom, Rules.tellWhile_of_none hvalue, Stretch.stop_andThen rfl]
    simp only [Loop.enter, hop, hvalue, Cursor.tellNext]
  | some value =>
    by_cases hlow : below.val ≤ value.val
    · rw [hfrom, Rules.tellWhile_of_le hvalue hlow, ← Cursor.tell_close]
      simp only [Loop.enter, hop, hvalue, if_pos hlow, Cursor.tellNext]
    · cases hbody : l.body with
      | nil =>
        rw [hfrom, Rules.tellWhile_of_empty hvalue hlow hbody, Stretch.stop_andThen rfl]
        simp only [Loop.enter, hop, hvalue, if_neg hlow, hbody, Cursor.tellNext]
      | cons first left =>
        have hne : l.body ≠ [] := by simp [hbody]
        by_cases hk : maxRounds < k
        · have hnone : 101 - k = 0 := Nat.sub_eq_zero_of_le hk
          rw [hfrom, Rules.tellWhile_of_lt hvalue hlow hne, hnone, Stretch.stop_andThen rfl]
          simp only [Loop.enter, hop, hvalue, if_neg hlow, hbody, if_pos hk, Cursor.tellNext]
        · have hround := tellFrom_while rules hop hne hvalue hlow (Nat.not_lt.1 hk) answer
          simp only [Loop.enter, hop, hvalue, if_neg hlow, hbody, if_neg hk]
          rw [hround, hbody]
          rfl

/-- A round that is due: the loop begins it, is left behind or stops the run. -/
theorem tellFrom_andThen (l : Loop) (k : Nat) (rest : List Item) (s : Scene)
    (answer : Option Bool) :
    (rules.tellFrom l k s answer).andThen (rules.tellItems rest) =
      Cursor.tellNext rules s answer (l.enter k s.vars rest) := by
  cases hop : l.header.block.op with
  | repeatTimes times => exact tellFrom_andThen_of_repeat rules hop k rest s answer
  | repeatWhile name below => exact tellFrom_andThen_of_while rules hop k rest s answer
  | _ => simp [Rules.tellFrom, Loop.enter, hop, Cursor.tellNext]

/-! ## One step of a run -/

/-- A step unrolls the block that comes next. -/
theorem Cursor.tell_eq {c : Cursor} {line : Line} {round : Option Nat}
    (h : c.line? = some (line, round)) (s : Scene) (answer : Option Bool) :
    c.tell rules s answer =
      (rules.tellStep line round (c.perform line rules answer s)).andThen
        (fun s answer => Cursor.tellNext rules s answer (c.next s.vars)) := by
  cases c with
  | item i rest =>
    cases i with
    | single single =>
      cases h
      simp only [Cursor.next, Cursor.tellNext, Cursor.tell_ofItems]
      rfl
    | loop l =>
      cases h
      simp only [Cursor.tell, Rules.tellItems, Rules.tellItem, Rules.tellLoop, Rules.tellLine,
        Stretch.andThen_assoc, ← tellFrom_one, tellFrom_andThen, Cursor.perform, Cursor.next]
  | body l k shown left rest =>
    cases h
    cases left with
    | nil =>
      simp only [Cursor.tell, Rules.tellLines, Rules.tellLine, Stretch.andThen_assoc,
        Stretch.idle_andThen, tellFrom_andThen, Cursor.perform, Cursor.next]
    | cons next left =>
      simp only [Cursor.tell, Rules.tellLines, Rules.tellLine, Stretch.andThen_assoc,
        Cursor.perform, Cursor.next, Cursor.tellNext]
  | close marker rounds rest =>
    cases h
    simp only [Cursor.next, Cursor.tellNext, Cursor.tell_ofItems]
    rfl
  | done => cases h

/-- No loop is left to run. -/
def Cursor.Straight : Cursor → Prop
  | item i rest => ∀ j ∈ i :: rest, ∃ line, j = .single line
  | done => True
  | _ => False

theorem Cursor.straight_ofItems {items : List Item} (h : ∀ j ∈ items, ∃ line, j = .single line) :
    (ofItems items).Straight := by
  cases items with
  | nil => trivial
  | cons i rest => exact h

/-- Where no loop is left, none can stop the run. -/
theorem Cursor.Straight.next {c : Cursor} (h : c.Straight) (vars : Bindings) :
    ∃ c', c.next vars = .ok c' ∧ c'.Straight := by
  cases c with
  | item i rest =>
    obtain ⟨line, rfl⟩ := h i List.mem_cons_self
    exact ⟨_, rfl, straight_ofItems (fun j hj => h j (List.mem_cons_of_mem _ hj))⟩
  | body l k line left rest => cases h
  | close marker rounds rest => cases h
  | done => exact ⟨_, rfl, trivial⟩

/-! ## The whole run -/

/-- What is to see of an ending. -/
def Ending.stretch (ending : Ending) : Stretch :=
  ⟨ending.events, ending.scene, ending.run.answer, ending.outcome⟩

namespace Run

/-- A step that ends its run is the last. -/
theorem stretch_cons_of_isFinal {r : Run} (h : r.outcome.isFinal = true) (e : Event)
    (rules : Rules) (s : Scene) :
    ((r.finish rules s).cons e).stretch = ⟨[e], s, r.answer, r.outcome⟩ := by
  rw [finish_of_isOver h]
  rfl

/-- A run that goes on, stepped to its end, is what its cursor tells. -/
theorem stretch_finish (rules : Rules) (r : Run) (s : Scene) (hrunning : r.outcome = .running)
    (hcalm : rules.eager = false ∨ r.cursor.Straight) :
    (r.finish rules s).stretch = r.cursor.tell rules s r.answer := by
  induction r, s using finish_induction rules with
  | hfinished r s o r' s' h =>
    have hover : r.isOver = false := by rw [isOver, hrunning]; rfl
    obtain ⟨hend, -⟩ := of_step_eq_finished h
    have hdone : r.cursor = .done := hend.resolve_left (by simp [hover])
    rw [finish_of_finished (step_of_done hover hdone rules s), hdone, Cursor.tell,
      Rules.judge_eq_outcome]
    rfl
  | hstep r s e r' s' h ih =>
    obtain ⟨line, round, hmade⟩ := made_of_step_eq h
    have hsettles := hmade.settles
    rw [finish_of_step h, Cursor.tell_eq hmade.line?_eq, hmade.event_eq, hmade.scene_eq,
      ← Rules.record_eq_event]
    rw [hmade.scene_eq, hmade.answer_eq] at ih
    change _ = (rules.tellStep line round (r.performed line rules s)).andThen _
    have hanswer := hmade.answer_eq
    generalize r.performed line rules s = done at *
    generalize hcursor : r'.cursor = c' at *
    generalize houtcome : r'.outcome = o at *
    cases hsettles with
    | failed heffect =>
      have hverdict := Rules.verdict_of_fail rules heffect
      rw [stretch_cons_of_isFinal (by rw [houtcome]; rfl), hanswer, houtcome,
        Rules.tellStep, hverdict, Stretch.andThen_of_isFinal rfl]
    | halted hgood hnext =>
      obtain heager | hstraight := hcalm
      · have hverdict : rules.verdict done = .running :=
          Rules.verdict_eq_running hgood (by simp [heager])
        rw [stretch_cons_of_isFinal (by rw [houtcome]; rfl), hanswer, houtcome,
          Rules.tellStep, hverdict, Stretch.andThen_of_running rfl, hnext]
        rfl
      · obtain ⟨c', hc', -⟩ := hstraight.next done.scene.vars
        rw [hc'] at hnext
        cases hnext
    | won hgood hnext heager hmet =>
      have hverdict := Rules.verdict_of_met hgood heager hmet
      rw [stretch_cons_of_isFinal (by rw [houtcome]; rfl), hanswer, houtcome,
        Rules.tellStep, hverdict, Stretch.andThen_of_isFinal rfl]
    | onward hgood hnext hgoal =>
      have hverdict := Rules.verdict_eq_running hgood hgoal
      have hlater : rules.eager = false ∨ c'.Straight := by
        refine hcalm.imp id (fun hstraight => ?_)
        obtain ⟨c'', hc'', hstraight'⟩ := hstraight.next done.scene.vars
        rw [hc''] at hnext
        cases hnext
        exact hstraight'
      have hrest := ih rfl hlater
      rw [Rules.tellStep, hverdict, Stretch.andThen_of_running rfl, hnext]
      simp only [Cursor.tellNext, ← hrest]
      rfl

/-- A program without loops is a plan of single blocks. -/
theorem straight_of_ne_loop {program : List Placed} {items : List Item}
    (hplan : Plan.ofProgram program = .ok items)
    (h : ∀ placed ∈ program, placed.block.category ≠ .loop) : (Cursor.ofItems items).Straight := by
  have hlines : ∀ l ∈ Line.ofProgram program, l.category ≠ .loop := by
    intro l hl
    exact h l.placed (List.mem_of_getElem? (Line.getElem?_of_mem_ofProgram hl))
  rw [Plan.ofProgram, Plan.assemble_of_ne_loop hlines] at hplan
  obtain rfl := Except.ok.inj hplan
  refine Cursor.straight_ofItems (fun j hj => ?_)
  obtain ⟨line, -, rfl⟩ := List.mem_map.1 hj
  exact ⟨line, rfl⟩

/-- Stepping a program that is accepted to its end gives the events, the outcome and the
scene that its blocks tell, from any scene and under any rules; only where the level ends
a run at once must the program have no loop. -/
theorem finish_start_eq_tell {rules : Rules} {program : List Placed} (hne : program ≠ [])
    (hflat : Plan.Unnested (program.map (fun placed => placed.block.category)))
    (hcalm : rules.eager = false ∨ ∀ placed ∈ program, placed.block.category ≠ .loop)
    (s : Scene) :
    ((start program).finish rules s).stretch = rules.tell (Line.ofProgram program) s none := by
  obtain ⟨items, hplan⟩ := (Plan.exists_ofProgram_iff program).2 hflat
  have hstart := start_of_ofProgram hne hplan
  have hstraight : rules.eager = false ∨ (start program).cursor.Straight := by
    rw [hstart]
    exact hcalm.imp id (straight_of_ne_loop hplan)
  rw [stretch_finish rules _ s (by rw [hstart]) hstraight, hstart, Cursor.tell_ofItems,
    ← Rules.tell_eq_tellItems rules hplan]

/-- The bridge in ten rounds, with a step and its count in each. -/
def crossing : List Placed :=
  let ids := ["create-steps", "repeat-10", "step-forward", "count-step", "end-loop"]
  let blocks := ids.filterMap (fun id => Bridge.blocks.find? (fun b => b.id = id))
  (Program.empty.appendAll blocks).placed

/-- A crossing of the bridge as told, up to its success. -/
theorem finish_crossing_eq_tell :
    crossing ≠ [] ∧ Plan.Unnested (crossing.map (fun placed => placed.block.category)) ∧
      ((start crossing).finish Bridge.rules Bridge.rules.openingScene).stretch =
        Bridge.rules.tell (Line.ofProgram crossing) Bridge.rules.openingScene none ∧
      (Bridge.rules.tell (Line.ofProgram crossing) Bridge.rules.openingScene none).outcome =
        .success "The wizard crossed all 10 planks and counted every step!" := by
  have hne : crossing ≠ [] := by decide +kernel
  have hflat : Plan.Unnested (crossing.map (fun placed => placed.block.category)) :=
    (Plan.exists_ofProgram_iff crossing).1 ⟨_, rfl⟩
  exact ⟨hne, hflat, finish_start_eq_tell hne hflat (.inl rfl) _, by decide +kernel⟩

end Run

end Spellbook
