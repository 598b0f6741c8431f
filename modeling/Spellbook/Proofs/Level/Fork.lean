import Mathlib.Data.List.Induction
import Spellbook.Proofs.Execution.Failures
import Spellbook.Proofs.Execution.Sparing
import Spellbook.Proofs.Level.Guarded
set_option autoImplicit false

/-!
# One choice at the crossroads

A step at the crossroads leaves the flags alone, or it takes a path at the fork, and fails
if the path is a wrong one (`Crossroads.Turn`).  A path that is taken stays taken, so a run
has one choice at most, and what it has chosen decides how it ends (`Crossroads.OneChoice`).
-/

namespace Spellbook.Crossroads

open Run (start Trace Made Left EndsBy)

variable {weather : Weather} {b : Block} {answer : Option Bool} {s s' : Scene} {path : Path}

/-! ## One step -/

/-- What a step can come to at the crossroads. -/
inductive Turn (weather : Weather) (b : Block) (answer : Option Bool) (s : Scene)
    (done : Step) : Prop
  /-- No path is taken, and the step does not fail for a choice. -/
  | onward (hflags : done.scene.world.flags = s.world.flags) (hplain : done.effect.Plain)
  | safe {message : String} (hchooses : Chooses b answer s.world (safePath weather))
      (hdone : done = ⟨.done message, s.taking (safePath weather), none⟩)
  | wrong {path : Path} {message : String} (hchooses : Chooses b answer s.world path)
      (hne : path ≠ safePath weather)
      (hdone : done = ⟨.fail .wrongChoice message, s.taking path, none⟩)

theorem perform_rules (weather : Weather) : (rules weather).perform = perform weather := rfl

theorem turn_of_chooses (h : Chooses b answer s.world path) :
    Turn weather b answer s (b.run (rules weather) answer s) := by
  obtain ⟨rfl, message, hdone⟩ | ⟨hne, message, hdone⟩ :=
    Block.run_of_chooses (perform_rules weather) h
  · exact .safe h hdone
  · exact .wrong h hne hdone

/-- The crossroads have no other actions than paths. -/
theorem perform_of_ne {op : Op} (h : ∀ path, op ≠ .takePath path) (weather : Weather)
    (s : Scene) :
    supports op = false ∧ ∃ message, perform weather op s = (.noEffect message, s) := by
  cases op with
  | takePath path => exact absurd rfl (h path)
  | _ => exact ⟨rfl, _, rfl⟩

theorem turn_run (weather : Weather) (b : Block) (answer : Option Bool) (s : Scene) :
    Turn weather b answer s (b.run (rules weather) answer s) := by
  by_cases hcategory : b.category = .action
  · by_cases hop : ∃ path, b.op = .takePath path
    · obtain ⟨path, hop⟩ := hop
      have hgates : (rules weather).Gates b :=
        ⟨hcategory, by rw [hop]; exact nofun, by rw [hop]; rfl⟩
      have hrun := Block.run_of_gates hgates answer s
      match answer with
      | none =>
        rw [hrun]
        exact .onward rfl (by simp)
      | some false =>
        rw [hrun]
        exact .onward rfl (by simp)
      | some true =>
        by_cases hopen : Undecided s.world
        · exact turn_of_chooses ⟨hcategory, hop, rfl, hopen⟩
        · obtain ⟨message, hkept⟩ := takePath_of_not_undecided hopen weather path
          have hperform : (rules weather).perform b.op s = (.noEffect message, s) := by
            rw [hop]
            exact hkept
          rw [hrun, hperform]
          exact .onward rfl (by simp)
    · obtain ⟨hfree, message, hkept⟩ :=
        perform_of_ne (fun path hpath => hop ⟨path, hpath⟩) weather s
      have hcheck : (rules weather).needsCheck b.op = false := hfree
      have hperform : (rules weather).perform b.op s = (.noEffect message, s) := hkept
      simp only [Block.run, hcategory, Block.runAction, hcheck, hperform]
      split
      · exact .onward rfl (by simp)
      · exact .onward rfl (by simp)
  · obtain ⟨-, hflags⟩ :=
      Block.things_flags_run_of_ne_action hcategory (rules weather) answer s
    exact .onward hflags (Block.plain_run hcategory (rules weather) answer s)

/-! ## One event -/

variable {program : List Placed} {r r' last : Run} {e : Event} {line : Line}
  {round : Option Nat} {events before after : List Event}

theorem turn_performed (h : Made r (rules weather) s e r' s' line round)
    (hcursor : r.cursor.WellFormed program) :
    Turn weather line.block r.answer s (r.performed line (rules weather) s) := by
  rw [Run.performed]
  rcases hcursor.perform_cases h.line?_eq (rules weather) r.answer s with
    hrun | ⟨-, rounds, hclose⟩
  · rw [hrun]
    exact turn_run weather line.block r.answer s
  · rw [hclose]
    exact .onward rfl (by simp)

/-- How a step can fail its run at the crossroads. -/
theorem fails_of_made (h : Made r (rules weather) s e r' s' line round)
    (hcursor : r.cursor.WellFormed program) {kind : FailureKind} {reason : String}
    (houtcome : r'.outcome = .failure kind reason) :
    (kind ≠ .wrongChoice ∧ kind ≠ .incompleteGoal ∧ kind ≠ .cancelled) ∨
      (kind = .wrongChoice ∧ ∃ path, path ≠ safePath weather ∧ s' = s.taking path) := by
  have hturn := turn_performed h hcursor
  rw [h.scene_eq]
  obtain heffect | ⟨fault, rfl⟩ := h.of_failure houtcome
  · cases hturn with
    | onward hflags hplain =>
      obtain rfl | rfl := hplain kind reason heffect
      · exact .inl ⟨nofun, nofun, nofun⟩
      · exact .inl ⟨nofun, nofun, nofun⟩
    | safe hchooses hdone =>
      rw [hdone] at heffect
      cases heffect
    | wrong hchooses hne hdone =>
      rw [hdone] at heffect ⊢
      cases heffect
      exact .inr ⟨rfl, _, hne, rfl⟩
  · obtain hkind | hkind := fault.kind_eq
    · exact .inl (by simp [hkind])
    · exact .inl (by simp [hkind])

/-- Who chooses a path takes it, and fails if it is a wrong one. -/
theorem made_of_chooses (h : Made r (rules weather) s e r' s' line round)
    (hcursor : r.cursor.WellFormed program)
    (hchooses : Chooses line.block r.answer s.world path) :
    e.scene = s.taking path ∧
      ((path = safePath weather ∧ e.severity = .info) ∨
        (path ≠ safePath weather ∧ r'.outcome = .failure .wrongChoice e.message)) := by
  have hrun := h.performed_eq_run_of_action hcursor hchooses.category_eq
  have hsettles := h.settles
  rw [h.event_eq]
  obtain ⟨hsafe, message, hdone⟩ | ⟨hne, message, hdone⟩ :=
    Block.run_of_chooses (perform_rules weather) hchooses
  · rw [hrun, hdone]
    exact ⟨rfl, .inl ⟨hsafe, rfl⟩⟩
  · rw [hrun, hdone] at hsettles ⊢
    exact ⟨rfl, .inr ⟨hne, hsettles.outcome_of_fail rfl⟩⟩

/-- This event takes this path: its block chooses it in the scene that the events before have
left, and nothing else is changed. -/
structure Decides (rules : Rules) (program : List Placed) (before : List Event) (e : Event)
    (path : Path) : Prop where
  chooses : ∃ placed, program[e.index]? = some placed ∧
    Chooses placed.block (pendingAnswer program before)
      (rules.openingScene.behind before).world path
  scene_eq : e.scene = (rules.openingScene.behind before).taking path

/-- Each event leaves the flags alone or decides. -/
theorem kept_or_decides (h : Trace (rules weather) (start program) (rules weather).openingScene
      (before ++ e :: after) last s) :
    e.scene.world.flags = ((rules weather).openingScene.behind before).world.flags ∨
      ∃ path, Decides (rules weather) program before e path := by
  obtain ⟨r, r', line, round, hbefore, hmade, -, hplaced, hanswer⟩ := h.exists_made
  have hturn := turn_performed hmade hbefore.wellFormed
  rw [hanswer] at hturn
  have hscene := hmade.scene_eq
  cases hturn with
  | onward hflags hplain =>
    rw [hscene]
    exact .inl hflags
  | safe hchooses hdone =>
    rw [hdone] at hscene
    exact .inr ⟨_, ⟨line.placed, hplaced, hchooses⟩, hscene⟩
  | wrong hchooses hne hdone =>
    rw [hdone] at hscene
    exact .inr ⟨_, ⟨line.placed, hplaced, hchooses⟩, hscene⟩

theorem decides_of_chooses
    (h : Trace (rules weather) (start program) (rules weather).openingScene
      (before ++ e :: after) last s) {placed : Placed} (hplaced : program[e.index]? = some placed)
    (hchooses : Chooses placed.block (pendingAnswer program before)
      ((rules weather).openingScene.behind before).world path) :
    Decides (rules weather) program before e path := by
  obtain ⟨r, r', line, round, hbefore, hmade, -, hline, hanswer⟩ := h.exists_made
  have hsame := hplaced
  rw [hline] at hsame
  cases hsame
  refine ⟨⟨_, hplaced, hchooses⟩, ?_⟩
  rw [← hanswer] at hchooses
  exact (made_of_chooses hmade hbefore.wellFormed hchooses).1

/-! ## A path that is taken -/

@[simp] theorem flag?_taking (s : Scene) (path : Path) :
    (s.taking path).world.flag? "chosenPath" = some (.text path.name) :=
  Bindings.get?_insert_self s.world.flags "chosenPath" _

theorem path_eq_of_name {path path' : Path} (h : path.name = path'.name) : path = path' := by
  have hread (path : Path) : Named.ofName? path.name = some path := by
    cases path <;> decide
  exact Named.name_injective hread h

/-- Once a path is taken, the flags stay as they are. -/
theorem flags_of_taken (h : Trace (rules weather) r s events r' s')
    (hcursor : r.cursor.WellFormed program) (htaken : s.world.flag? "chosenPath" ≠ none) :
    s'.world.flags = s.world.flags := by
  apply h.keeps (P := fun t => t.world.flags = s.world.flags) hcursor ?_ rfl
  intro placed hplaced answer t hkept
  have hopen : ¬ Undecided t.world := by
    intro hopen
    have hnone := hopen.flag?_eq
    rw [World.flag?, hkept] at hnone
    exact htaken hnone
  cases turn_run weather placed.block answer t with
  | onward hflags hplain => exact hflags.trans hkept
  | safe hchooses hdone => exact absurd hchooses.undecided hopen
  | wrong hchooses hne hdone => exact absurd hchooses.undecided hopen

theorem flag?_of_decides
    (h : Trace (rules weather) (start program) (rules weather).openingScene
      (before ++ e :: after) last s)
    (hdecides : Decides (rules weather) program before e path) :
    s.world.flag? "chosenPath" = some (.text path.name) := by
  obtain ⟨r, scene, next, hbefore, hstep, hafter⟩ := h.step_of_eq_append
  have hcursor := (hbefore.append (.cons hstep (.nil next e.scene))).wellFormed
  have hflag : e.scene.world.flag? "chosenPath" = some (.text path.name) := by
    rw [hdecides.scene_eq]
    exact flag?_taking _ path
  have hkept := flags_of_taken hafter hcursor (by rw [hflag]; exact nofun)
  rw [World.flag?, hkept]
  exact hflag

/-- How it goes on behind a decision. -/
theorem of_decides
    (h : Trace (rules weather) (start program) (rules weather).openingScene
      (before ++ e :: after) last s)
    (hdecides : Decides (rules weather) program before e path) :
    (path = safePath weather ∧ e.severity = .info) ∨
      (path ≠ safePath weather ∧ after = [] ∧
        last.outcome = .failure .wrongChoice e.message) := by
  obtain ⟨placed, hplaced, hchooses⟩ := hdecides.chooses
  obtain ⟨r, r', line, round, hbefore, hmade, hafter, hline, hanswer⟩ := h.exists_made
  rw [hline] at hplaced
  cases hplaced
  rw [← hanswer] at hchooses
  obtain ⟨-, hsafe | ⟨hne, houtcome⟩⟩ := made_of_chooses hmade hbefore.wellFormed hchooses
  · exact .inl hsafe
  · obtain ⟨hnil, rfl, -⟩ := hafter.of_isOver (Run.isOver_of_failure houtcome)
    exact .inr ⟨hne, hnil, houtcome⟩

theorem not_decides_twice {between : List Event} {e' : Event} {path' : Path}
    (h : Trace (rules weather) (start program) (rules weather).openingScene
      (before ++ e :: (between ++ e' :: after)) last s)
    (hdecides : Decides (rules weather) program before e path) :
    ¬ Decides (rules weather) program (before ++ e :: between) e' path' := by
  intro hagain
  obtain ⟨placed, -, hchooses⟩ := hagain.chooses
  have hopen := hchooses.undecided.flag?_eq
  rw [← List.cons_append, ← List.append_assoc] at h
  obtain ⟨middle, scene, hfirst, -⟩ := h.split
  rw [← hfirst.scene_eq, flag?_of_decides hfirst hdecides] at hopen
  cases hopen

/-- A run that fails for a wrong choice has taken the wrong path. -/
theorem flag?_of_wrong
    (h : Trace (rules weather) (start program) (rules weather).openingScene events last s)
    (hwrong : last.outcome.failureKind? = some .wrongChoice) :
    ∃ path, path ≠ safePath weather ∧ s.world.flag? "chosenPath" = some (.text path.name) := by
  obtain ⟨before, r, s₁, e, line, round, hbefore, hmade⟩ := h.exists_wrong_step hwrong
  obtain ⟨reason, houtcome⟩ := Outcome.failureKind?_eq_some_iff.1 hwrong
  obtain ⟨hother, -⟩ | ⟨-, path, hne, rfl⟩ := fails_of_made hmade hbefore.wellFormed houtcome
  · exact absurd rfl hother
  · exact ⟨path, hne, flag?_taking s₁ path⟩

/-- Where no event decides, the flags stay as they were at the start. -/
theorem flags_eq_or_exists_decides
    (h : ∀ before e after, events = before ++ e :: after →
      e.scene.world.flags = ((rules weather).openingScene.behind before).world.flags ∨
        ∃ path, Decides (rules weather) program before e path) :
    ((rules weather).openingScene.behind events).world.flags =
        (rules weather).openingScene.world.flags ∨
      ∃ before e after path, events = before ++ e :: after ∧
        Decides (rules weather) program before e path := by
  induction events using List.reverseRecOn with
  | nil => exact .inl rfl
  | append_singleton events e ih =>
    obtain hkept | ⟨path, hdecides⟩ := h events e [] rfl
    · have hearlier : ∀ before e' after, events = before ++ e' :: after →
          e'.scene.world.flags = ((rules weather).openingScene.behind before).world.flags ∨
            ∃ path, Decides (rules weather) program before e' path := by
        rintro before e' after rfl
        exact h before e' (after ++ [e]) (by simp)
      obtain hsame | ⟨before, e', after, path, rfl, hdecides⟩ := ih hearlier
      · left
        rw [Scene.behind_append_cons, Scene.behind_nil, hkept, hsame]
      · exact .inr ⟨before, e', after ++ [e], path, by simp, hdecides⟩
    · exact .inr ⟨events, e, [], path, rfl, hdecides⟩

/-! ## The goal -/

theorem goal_of_taken (weather : Weather)
    (h : s.world.flag? "chosenPath" = some (.text path.name)) :
    (path = safePath weather ∧ ∃ message, goal weather s = .met message) ∨
      (path ≠ safePath weather ∧ ∃ reason, goal weather s = .unmet reason) := by
  unfold goal
  rw [h]
  dsimp only [Option.bind_some, Value.text?]
  by_cases hsafe : path = safePath weather
  · rw [if_pos (by rw [hsafe])]
    exact .inl ⟨hsafe, _, rfl⟩
  · rw [if_neg fun hname => hsafe (path_eq_of_name hname)]
    exact .inr ⟨hsafe, _, rfl⟩

theorem flag?_ne_none_of_met {message : String} (h : goal weather s = .met message) :
    s.world.flag? "chosenPath" ≠ none := by
  intro hnone
  unfold goal at h
  rw [hnone] at h
  cases h

theorem flag?_opening (weather : Weather) :
    (rules weather).openingScene.world.flag? "chosenPath" = none := by
  cases weather <;> decide +kernel

/-- How the reason begins that the goal gives where a path has been taken. -/
theorem take_reason_of_taken {chosen reason : String}
    (htaken : (s.world.flag? "chosenPath").bind Value.text? = some chosen)
    (hreason : goal weather s = .unmet reason) :
    reason.toList.take 12 = "The wizard t".toList := by
  unfold goal at hreason
  rw [htaken] at hreason
  dsimp only at hreason
  split at hreason
  · cases hreason
  · cases hreason
    simp [toString]

/-- Where no path has been taken it begins in another way. -/
theorem take_reason_of_open {reason : String} (hopen : s.world.flag? "chosenPath" = none)
    (hreason : goal weather s = .unmet reason) :
    reason.toList.take 12 = "The wizard n".toList := by
  unfold goal at hreason
  rw [hopen] at hreason
  cases hreason
  simp [toString]

/-! ## Whole runs -/

/-- What there is to know of a run at the crossroads about its choice. -/
structure OneChoice (weather : Weather) (program : List Placed) (p : Playback) : Prop where
  /-- The flags change with a choice alone. -/
  kept_or_decides : ∀ before e after, p.events = before ++ e :: after →
    e.scene.world.flags = ((rules weather).openingScene.behind before).world.flags ∨
      ∃ path, Decides (rules weather) program before e path
  /-- Whoever can choose does. -/
  decides_of_chooses : ∀ before e after placed path, p.events = before ++ e :: after →
    program[e.index]? = some placed →
    Chooses placed.block (pendingAnswer program before)
      ((rules weather).openingScene.behind before).world path →
      Decides (rules weather) program before e path
  decides_once : ∀ before e between e' after path path',
    p.events = before ++ e :: (between ++ e' :: after) →
    Decides (rules weather) program before e path →
      ¬ Decides (rules weather) program (before ++ e :: between) e' path'
  /-- A wrong choice is the last step, and the reason for the end. -/
  wrong_last : ∀ before e after path, p.events = before ++ e :: after →
    Decides (rules weather) program before e path → path ≠ safePath weather →
      after = [] ∧ p.run.outcome = .failure .wrongChoice e.message
  /-- Behind the right one there is no wrong choice any more. -/
  never_wrong : ∀ before e after, p.events = before ++ e :: after →
    Decides (rules weather) program before e (safePath weather) →
      p.run.outcome.failureKind? ≠ some .wrongChoice
  /-- Unless it is stopped, a run succeeds with the right choice, if then no step fails and
  no loop stops it. -/
  isSuccess_iff : p.run.outcome.failureKind? ≠ some .cancelled →
    (p.run.outcome.isSuccess = true ↔
      (∃ before e after, p.events = before ++ e :: after ∧
        Decides (rules weather) program before e (safePath weather) ∧
        ∀ e' ∈ after, e'.severity ≠ .failure) ∧
      ∀ items, Plan.ofProgram program = .ok items → ¬ p.Halted items)
  /-- No run ends with what the goal says of a wrong path. -/
  not_misled : ∀ s chosen reason,
    (s.world.flag? "chosenPath").bind Value.text? = some chosen →
    goal weather s = .unmet reason → p.run.outcome ≠ .failure .incompleteGoal reason

variable {i : Interruption}

/-- What is known of a run with a choice in it. -/
theorem exists_trace_of_decides
    (hevents : ((rules weather).play program i s).events = before ++ e :: after)
    (hdecides : Decides (rules weather) program before e path) :
    let p := (rules weather).play program i s
    (start program).isOver = false ∧
      ∃ last, Trace (rules weather) (start program) (rules weather).openingScene p.events last
          p.scene ∧
        Left (rules weather) last p.scene p.run ∧
        p.scene.world.flag? "chosenPath" = some (.text path.name) ∧
        ((path = safePath weather ∧ e.severity = .info) ∨
          (path ≠ safePath weather ∧ after = [] ∧
            last.outcome = .failure .wrongChoice e.message)) := by
  intro p
  have hover := Rules.isOver_start_of_events hevents
  obtain ⟨last, htrace, hleft⟩ := Rules.exists_trace_left hover (rules weather) i s
  have hsplit := htrace
  rw [hevents] at hsplit
  exact ⟨hover, last, htrace, hleft, flag?_of_decides hsplit hdecides,
    of_decides hsplit hdecides⟩

theorem kept_or_decides_play
    (hevents : ((rules weather).play program i s).events = before ++ e :: after) :
    e.scene.world.flags = ((rules weather).openingScene.behind before).world.flags ∨
      ∃ path, Decides (rules weather) program before e path := by
  obtain ⟨last, s', htrace, -⟩ := Rules.exists_trace_events (rules weather) program i s
  rw [hevents] at htrace
  exact kept_or_decides htrace

theorem wrong_last
    (hevents : ((rules weather).play program i s).events = before ++ e :: after)
    (hdecides : Decides (rules weather) program before e path) (hne : path ≠ safePath weather) :
    after = [] ∧
      ((rules weather).play program i s).run.outcome = .failure .wrongChoice e.message := by
  obtain ⟨-, last, -, hleft, -, ⟨hsafe, -⟩ | ⟨-, hnil, houtcome⟩⟩ :=
    exists_trace_of_decides hevents hdecides
  · exact absurd hsafe hne
  · exact ⟨hnil, hleft.outcome_of_failure houtcome⟩

theorem never_wrong
    (hevents : ((rules weather).play program i s).events = before ++ e :: after)
    (hdecides : Decides (rules weather) program before e (safePath weather)) :
    ((rules weather).play program i s).run.outcome.failureKind? ≠ some .wrongChoice := by
  intro hwrong
  obtain ⟨-, last, htrace, hleft, hflag, -⟩ := exists_trace_of_decides hevents hdecides
  obtain ⟨path, hne, hpath⟩ := flag?_of_wrong htrace (hleft.outcome_of_wrong hwrong)
  rw [hflag] at hpath
  exact hne (path_eq_of_name (Value.text.inj (Option.some.inj hpath))).symm

/-- In the end no path has been taken, or some event has decided. -/
theorem flag?_eq_none_or_exists_decides (hover : (start program).isOver = false)
    (weather : Weather) (i : Interruption) (s : Scene) :
    let p := (rules weather).play program i s
    p.scene.world.flag? "chosenPath" = none ∨
      ∃ before e after path, p.events = before ++ e :: after ∧
        Decides (rules weather) program before e path := by
  intro p
  have hkept : ∀ before e after, p.events = before ++ e :: after →
      e.scene.world.flags = ((rules weather).openingScene.behind before).world.flags ∨
        ∃ path, Decides (rules weather) program before e path :=
    fun before e after hevents => kept_or_decides_play hevents
  obtain hsame | hdecides := flags_eq_or_exists_decides hkept
  · left
    rw [show p.scene = _ from Rules.scene_play hover (rules weather) i s, World.flag?, hsame]
    exact flag?_opening weather
  · exact .inr hdecides

theorem exists_decides_of_success
    (hwon : ((rules weather).play program i s).run.outcome.isSuccess = true) :
    ∃ before e after, ((rules weather).play program i s).events = before ++ e :: after ∧
      Decides (rules weather) program before e (safePath weather) ∧
      ∀ e' ∈ after, e'.severity ≠ .failure := by
  obtain ⟨hover, message, hmet⟩ := Rules.goal_of_success hwon
  obtain hopen | ⟨before, e, after, path, hevents, hdecides⟩ :=
    flag?_eq_none_or_exists_decides hover weather i s
  · exact absurd hopen (flag?_ne_none_of_met hmet)
  · obtain ⟨-, last, -, -, hflag, -⟩ := exists_trace_of_decides hevents hdecides
    obtain ⟨rfl, -⟩ | ⟨-, reason, hunmet⟩ := goal_of_taken weather hflag
    · refine ⟨before, e, after, hevents, hdecides, fun e' he' => ?_⟩
      exact Rules.severity_of_success hwon e' (by simp [hevents, he'])
    · rw [show goal weather _ = _ from hmet] at hunmet
      cases hunmet

/-- Behind the right choice a run succeeds, if no step fails, no loop stops it and nothing
else does. -/
theorem success_of_decides
    (hevents : ((rules weather).play program i s).events = before ++ e :: after)
    (hdecides : Decides (rules weather) program before e (safePath weather))
    (hgood : ∀ e' ∈ after, e'.severity ≠ .failure) :
    let p := (rules weather).play program i s
    (∀ items, Plan.ofProgram program = .ok items → ¬ p.Halted items) →
      p.run.outcome.failureKind? ≠ some .cancelled → p.run.outcome.isSuccess = true := by
  intro p hgoing hleave
  obtain ⟨hover, last, htrace, hleft, hflag, hchosen⟩ := exists_trace_of_decides hevents hdecides
  obtain ⟨-, hinfo⟩ | ⟨hwrong, -⟩ := hchosen
  · obtain ⟨hne, items, hplan⟩ := Run.exists_ofProgram_of_start hover
    cases (hleft.endsBy hover htrace).resolve_left hleave with
    | @step earlier e' r scene hsplit hbefore hstep hended =>
      -- The step that ended the run is the choice itself or a later one.
      have hlast : e' ∈ e :: after := by
        have hend := congrArg List.getLast? (hevents.symm.trans hsplit)
        apply List.mem_of_getLast?
        simpa [List.getLast?_append, List.getLast?_cons] using hend
      have hsound : e'.severity ≠ .failure := by
        obtain rfl | hlater := List.mem_cons.1 hlast
        · simp [hinfo]
        · exact hgood e' hlater
      have hends : (⟨p.notices, earlier ++ [e'], p.run, p.scene⟩ : Playback).Won (rules weather) ∨
          (⟨p.notices, earlier ++ [e'], p.run, p.scene⟩ : Playback).Halted items :=
        Playback.won_or_halted hplan hbefore hstep hended hsound
      rw [← hsplit] at hends
      obtain ⟨message, hwon, -⟩ | hhalted := hends
      · rw [show p.run.outcome = _ from hwon]
        rfl
      · exact absurd hhalted (hgoing items hplan)
    | goal hwhole hdone hrunning houtcome =>
      obtain ⟨-, message, hmet⟩ | ⟨hwrong, -⟩ := goal_of_taken weather hflag
      · rw [houtcome, show (rules weather).goal _ = _ from hmet]
        rfl
      · exact absurd rfl hwrong
  · exact absurd rfl hwrong

/-- A run that was accepted falls short of its goal for what the goal says in the end. -/
theorem unmet_of_incomplete {reason : String} (hover : (start program).isOver = false)
    (houtcome : ((rules weather).play program i s).run.outcome =
      .failure .incompleteGoal reason) :
    goal weather ((rules weather).play program i s).scene = .unmet reason := by
  obtain ⟨last, htrace, hleft⟩ := Rules.exists_trace_left hover (rules weather) i s
  have hleave : ((rules weather).play program i s).run.outcome.failureKind? ≠
      some .cancelled := by
    rw [houtcome]
    exact nofun
  cases (hleft.endsBy hover htrace).resolve_left hleave with
  | step hsplit hbefore hstep hended =>
    obtain ⟨line, round, hmade⟩ := Run.made_of_step_eq hstep
    obtain ⟨-, hother, -⟩ | ⟨hother, -⟩ := fails_of_made hmade hbefore.wellFormed houtcome
    · exact absurd rfl hother
    · cases hother
  | goal hwhole hdone hrunning hgoal =>
    exact (Goal.of_outcome_failure (hgoal.symm.trans houtcome)).2

/-- And then no path has been taken. -/
theorem flag?_of_incomplete {reason : String} (hover : (start program).isOver = false)
    (houtcome : ((rules weather).play program i s).run.outcome =
      .failure .incompleteGoal reason) :
    ((rules weather).play program i s).scene.world.flag? "chosenPath" = none := by
  obtain hopen | ⟨before, e, after, path, hevents, hdecides⟩ :=
    flag?_eq_none_or_exists_decides hover weather i s
  · exact hopen
  · obtain ⟨-, -, -, -, hflag, -⟩ := exists_trace_of_decides hevents hdecides
    obtain ⟨-, message, hmet⟩ | ⟨hne, -⟩ := goal_of_taken weather hflag
    · rw [unmet_of_incomplete hover houtcome] at hmet
      cases hmet
    · obtain ⟨-, hwrong⟩ := wrong_last hevents hdecides hne
      rw [hwrong] at houtcome
      cases houtcome

theorem not_misled {chosen reason : String} {s' : Scene}
    (htaken : (s'.world.flag? "chosenPath").bind Value.text? = some chosen)
    (hreason : goal weather s' = .unmet reason) :
    ((rules weather).play program i s).run.outcome ≠ .failure .incompleteGoal reason := by
  intro houtcome
  have hbegins := take_reason_of_taken htaken hreason
  cases hover : (start program).isOver with
  | true =>
    rw [Rules.play_of_isOver hover] at houtcome
    unfold start at houtcome
    split at houtcome
    · cases houtcome
      exact absurd hbegins (by decide)
    · split at houtcome <;> cases houtcome
  | false =>
    rw [take_reason_of_open (flag?_of_incomplete hover houtcome)
      (unmet_of_incomplete hover houtcome)] at hbegins
    exact absurd hbegins (by decide)

theorem not_cancelled_of_never (weather : Weather) (program : List Placed) (s : Scene) :
    ((rules weather).play program .never s).run.outcome.failureKind? ≠ some .cancelled := by
  intro hcancelled
  cases hover : (start program).isOver with
  | true =>
    rw [Rules.play_of_isOver hover] at hcancelled
    exact absurd hcancelled (Run.failureKind?_start_ne program nofun nofun)
  | false =>
    obtain ⟨events, last, r', s', htrace, hlast, hwhole⟩ :=
      Rules.exists_trace_play hover (rules weather) s
    rw [hwhole] at hcancelled
    cases htrace.endsBy hover hlast with
    | step hsplit hbefore hstep hended =>
      obtain ⟨line, round, hmade⟩ := Run.made_of_step_eq hstep
      obtain ⟨reason, houtcome⟩ := Outcome.failureKind?_eq_some_iff.1 hcancelled
      obtain ⟨-, -, hother⟩ | ⟨hother, -⟩ := fails_of_made hmade hbefore.wellFormed houtcome
      · exact absurd rfl hother
      · cases hother
    | goal hwhole hdone hrunning hgoal =>
      obtain ⟨reason, houtcome⟩ := Outcome.failureKind?_eq_some_iff.1 hcancelled
      cases (Goal.of_outcome_failure (hgoal.symm.trans houtcome)).1

/-- Whatever the program, a run at the crossroads has one choice at most, made at the fork by
a block whose check said yes, and no other flag ever changes.  A wrong choice ends the run,
and behind the right one the run succeeds, unless it is stopped, a later step fails or a loop
stops it. -/
theorem play_one_choice {setup : Setup} (hlevel : setup.level = .crossroads)
    (program : List Placed) (i : Interruption) (s : Scene) :
    let p := setup.rules.play program i s
    OneChoice setup.weather program p ∧
      (i = .never → p.run.outcome.failureKind? ≠ some .cancelled) := by
  have hrules : setup.rules = rules setup.weather := by
    rw [Setup.rules_eq, hlevel]
  rw [hrules]
  intro p
  obtain ⟨last, s', htrace, -⟩ := Rules.exists_trace_events (rules setup.weather) program i s
  constructor
  · exact {
      kept_or_decides := fun _ _ _ hevents => kept_or_decides_play hevents
      decides_of_chooses := by
        intro before e after placed path hevents hplaced hchooses
        rw [show (Rules.play _ _ _ _).events = _ from hevents] at htrace
        exact decides_of_chooses htrace hplaced hchooses
      decides_once := by
        intro before e between e' after path path' hevents hdecides
        rw [show (Rules.play _ _ _ _).events = _ from hevents] at htrace
        exact not_decides_twice htrace hdecides
      wrong_last := fun _ _ _ _ hevents hdecides hne => wrong_last hevents hdecides hne
      never_wrong := fun _ _ _ hevents hdecides => never_wrong hevents hdecides
      isSuccess_iff := by
        intro hleave
        constructor
        · intro hwon
          refine ⟨exists_decides_of_success hwon, ?_⟩
          rintro items - hhalted
          have hkind := hhalted.failureKind?
          cases houtcome : p.run.outcome <;> simp [houtcome, Outcome.failureKind?] at hkind hwon
          cases hwon
        · rintro ⟨⟨before, e, after, hevents, hdecides, hgood⟩, hgoing⟩
          exact success_of_decides hevents hdecides hgood hgoing hleave
      not_misled := fun _ _ _ htaken hreason => not_misled htaken hreason }
  · rintro rfl
    exact not_cancelled_of_never setup.weather program s

/-- In a storm the journey takes the path to the cave. -/
theorem play_journey_one_choice :
    let setup : Setup := ⟨.crossroads, none, none, some .stormy, none⟩
    let program := (Program.empty.appendAll journey).placed
    let p := setup.rules.play program .never default
    p.run.outcome.isSuccess = true ∧ ∃ before e after, p.events = before ++ e :: after ∧
      Decides (rules .stormy) program before e .cave := by
  intro setup program p
  have hwon : p.run.outcome.isSuccess = true := by decide +kernel
  have hlevel : setup.level = .crossroads := rfl
  obtain ⟨hchoice, hleave⟩ := play_one_choice hlevel program .never default
  obtain ⟨⟨before, e, after, hevents, hdecides, -⟩, -⟩ :=
    (hchoice.isSuccess_iff (hleave rfl)).1 hwon
  exact ⟨hwon, before, e, after, hevents, hdecides⟩

end Spellbook.Crossroads
