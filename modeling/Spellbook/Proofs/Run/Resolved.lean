import Spellbook.Proofs.Execution.Resolving
import Spellbook.Proofs.Run.Success
set_option autoImplicit false

/-!
# What a run resolves

A `Scene.Ledger` lists the things that the events of a run resolve, one after another.  Since
the wizard never goes back and nothing is resolved twice, the list goes up the track and
holds just what was still to be resolved and no longer is (`Run.Trace.exists_ledger`).  If
nothing is left it is the list of the things themselves (`Run.Trace.ledger_things`).
`Rules.play_resolves` says of whole runs that each thing in it was earned.
-/

namespace Spellbook

open Run (start Trace Made)

/-- These events, which begin in this scene, resolve these things one after another. -/
inductive Scene.Ledger : Scene → List Event → List Thing → Prop
  | nil (s : Scene) : Ledger s [] []
  | kept {s : Scene} {e : Event} {rest : List Event} {ts : List Thing}
      (hkept : e.scene.world.things = s.world.things) (hrest : Ledger e.scene rest ts) :
      Ledger s (e :: rest) ts
  | resolved {s : Scene} {e : Event} {rest : List Event} {t : Thing} {ts : List Thing}
      (hresolves : s.world.Resolves e.scene.world t) (hrest : Ledger e.scene rest ts) :
      Ledger s (e :: rest) (t :: ts)

namespace Scene.Ledger

variable {s : Scene} {events : List Event} {t : Thing} {ts : List Thing}

/-- Where the first thing of a ledger is resolved. -/
theorem exists_first (h : s.Ledger events (t :: ts)) :
    ∃ before e after, events = before ++ e :: after ∧
      (s.behind before).world.Resolves e.scene.world t ∧ e.scene.Ledger after ts := by
  generalize htodo : t :: ts = todo at h
  induction h with
  | nil s => cases htodo
  | @kept s e rest todo hkept hrest ih =>
    obtain ⟨before, e', after, rfl, hresolves, hledger⟩ := ih htodo
    exact ⟨e :: before, e', after, rfl, by rwa [Scene.behind_cons], hledger⟩
  | @resolved s e rest t todo hresolves hrest ih =>
    cases htodo
    exact ⟨[], e, rest, rfl, hresolves, hrest⟩

/-- Where nothing is resolved, the things stay as they are. -/
theorem things_eq (h : s.Ledger events []) :
    (s.behind events).world.things = s.world.things := by
  generalize htodo : ([] : List Thing) = todo at h
  induction h with
  | nil s => rfl
  | @kept s e rest todo hkept hrest ih => rw [Scene.behind_cons, ih htodo, hkept]
  | resolved hresolves hrest ih => cases htodo

end Scene.Ledger

namespace World

variable {w w' : World}

theorem unresolved_of_kept (h : w'.things = w.things) : w'.unresolved = w.unresolved := by
  rw [unresolved, unresolved, h]

theorem unresolved_of_fresh (h : ∀ t ∈ w.things, t.resolved = false) :
    w.unresolved = w.things := by
  apply List.filter_eq_self.2
  intro t ht
  rw [h t ht]
  rfl

theorem unresolved_of_all (h : ∀ t ∈ w.things, t.resolved = true) : w.unresolved = [] := by
  apply List.filter_eq_nil_iff.2
  intro t ht
  rw [h t ht]
  exact nofun

/-- What a thing is stays the same, so its id does. -/
theorem LeadsTo.nodup (h : w.LeadsTo w') (hids : (w.things.map Thing.id).Nodup) :
    (w'.things.map Thing.id).Nodup := by
  have heq := congrArg (List.map Prod.fst) h.things_eq
  rw [List.map_map, List.map_map] at heq
  have hsame : w'.things.map Thing.id = w.things.map Thing.id := heq
  rw [hsame]
  exact hids

/-- What all things are at the start they are at any time. -/
theorem LeadsTo.forall_identity (h : w.LeadsTo w') {P : String × Thing.Kind × Nat → Prop}
    (hw : ∀ t ∈ w.things, P t.identity) : ∀ t ∈ w'.things, P t.identity := by
  intro t ht
  have hmem : t.identity ∈ w.things.map Thing.identity := by
    rw [← h.things_eq]
    exact List.mem_map_of_mem ht
  obtain ⟨u, hu, hsame⟩ := List.mem_map.1 hmem
  rw [← hsame]
  exact hw u hu

theorem LeadsTo.forall_kind (h : w.LeadsTo w') {P : Thing.Kind → Prop}
    (hw : ∀ t ∈ w.things, P t.kind) : ∀ t ∈ w'.things, P t.kind :=
  h.forall_identity (P := fun identity => P identity.2.1) hw

end World

/-- The kind of thing that an event has collected, if its block collects and all went well. -/
def Event.collected? (program : List Placed) (e : Event) : Option Thing.Kind :=
  match e.severity, program[e.index]? with
  | .info, some placed =>
    match placed.block.category, placed.block.op with
    | .action, .collect item => some item
    | _, _ => none
  | _, _ => none

theorem Event.collected?_eq_some_iff {program : List Placed} {e : Event} {item : Thing.Kind} :
    e.collected? program = some item ↔ e.severity = .info ∧ ∃ placed,
      program[e.index]? = some placed ∧ placed.block.category = .action ∧
        placed.block.op = .collect item := by
  unfold collected?
  split
  · rename_i placed hseverity hplaced
    split
    · rename_i hcategory hop
      simp [hseverity, hplaced, hcategory, hop]
    · rename_i hother
      constructor
      · intro h
        cases h
      · rintro ⟨-, other, hsome, hcategory, hop⟩
        rw [hplaced] at hsome
        cases hsome
        exact absurd hop (hother item hcategory)
  · rename_i hother
    constructor
    · intro h
      cases h
    · rintro ⟨hseverity, placed, hplaced, -⟩
      exact absurd hplaced (hother placed hseverity)

namespace Run

variable {program : List Placed} {rules : Rules} {setup : Setup} {r r' : Run} {s s' : Scene}
  {e : Event} {events : List Event} {line : Line} {round : Option Nat} {t : Thing}
  {ts : List Thing}

/-! ## One step -/

/-- What comes of the things with a step. -/
theorem Made.deed (h : Made r rules s e r' s' line round) (hcursor : r.cursor.WellFormed program)
    (hperform : rules.perform = setup.rules.perform)
    (hids : (s.world.things.map Thing.id).Nodup) :
    Deed setup.level line.block.op
      (line.block.Accomplishes rules r.answer s e.message e.scene) s.world e.scene.world := by
  rw [h.event_eq]
  simp only [event, performed]
  rcases hcursor.perform_cases h.line?_eq rules r.answer s with hrun | ⟨hmarker, rounds, hclose⟩
  · rw [hrun]
    exact Block.deed_run hids hperform line.block r.answer
  · rw [hclose]
    apply Block.deed_of_not_accomplishes rfl
    intro haccomplished
    have hcategory := haccomplished.acts.1
    rw [show line.block.category = .marker from hmarker] at hcategory
    cases hcategory

/-- What comes of the things with each event of a run. -/
theorem Trace.exists_deed {before after : List Event}
    (h : Trace rules (start program) s (before ++ e :: after) r' s')
    (hperform : rules.perform = setup.rules.perform)
    (hids : (s.world.things.map Thing.id).Nodup) :
    ∃ placed, program[e.index]? = some placed ∧
      Deed setup.level placed.block.op
        (placed.block.Accomplishes rules (pendingAnswer program before) (s.behind before)
          e.message e.scene)
        (s.behind before).world e.scene.world := by
  have hacted : ∀ op (s : Scene), s.world.Acted (rules.perform op s).2.world := by
    rw [hperform]
    exact setup.acted_perform
  obtain ⟨r, next, line, round, hbefore, hmade, -, hplaced, hanswer⟩ := h.exists_made
  have hleads := hbefore.leadsTo (wellFormed_start program) hacted
  rw [← hanswer]
  exact ⟨line.placed, hplaced, hmade.deed hbefore.wellFormed hperform (hleads.nodup hids)⟩

/-! ## The ledger of a trace -/

/-- What there is to know of a ledger: it goes up the track from where the wizard stands, and
it holds what was to be resolved at the start and no longer is. -/
structure Kept (s s' : Scene) (events : List Event) (ts : List Thing) : Prop where
  ledger : s.Ledger events ts
  ascending : ts.Pairwise (fun t u => t.position ≤ u.position)
  ahead : ∀ t ∈ ts, s.world.position ≤ t.position
  perm : s.world.unresolved.Perm (ts ++ s'.world.unresolved)

theorem Trace.exists_ledger (h : Trace rules r s events r' s')
    (hcursor : r.cursor.WellFormed program) (hperform : rules.perform = setup.rules.perform)
    (hids : (s.world.things.map Thing.id).Nodup) :
    ∃ ts, Kept s s' events ts := by
  have hacted : ∀ op (s : Scene), s.world.Acted (rules.perform op s).2.world := by
    rw [hperform]
    exact setup.acted_perform
  induction h with
  | nil r s =>
    exact ⟨[], .nil s, .nil, fun t ht => absurd ht List.not_mem_nil, List.Perm.refl _⟩
  | @cons r r₁ r' s s₁ s' e events hstep hrest ih =>
    obtain ⟨line, round, hmade⟩ := made_of_step_eq hstep
    have hnext := wellFormed_call hcursor (.step rules s)
    rw [call, hstep] at hnext
    have hleads := World.leadsTo_of_changes (hmade.changes hcursor hacted)
    obtain ⟨ts, hkept⟩ := ih hnext (hleads.nodup hids)
    have hahead : ∀ t ∈ ts, s.world.position ≤ t.position :=
      fun t ht => Nat.le_trans hleads.position_le (hkept.ahead t ht)
    have hdeed := hmade.deed hcursor hperform hids
    obtain rfl := hmade.scene_event
    cases hdeed with
    | idle hsame hidle =>
      refine ⟨ts, .kept hsame hkept.ledger, hkept.ascending, hahead, ?_⟩
      rw [← World.unresolved_of_kept hsame]
      exact hkept.perm
    | @earned t hdone hearns hhere hresolves =>
      refine ⟨t :: ts, .resolved hresolves hkept.ledger, ?_, ?_, ?_⟩
      · refine List.pairwise_cons.2 ⟨?_, hkept.ascending⟩
        intro u hu
        rw [hhere]
        exact hahead u hu
      · intro u hu
        rcases List.mem_cons.1 hu with rfl | hu
        · exact Nat.le_of_eq hhere.symm
        · exact hahead u hu
      · exact hresolves.perm_unresolved.trans (hkept.perm.cons t)

/-- If all things lie ahead one behind the other and none is left in the end, then they have
been resolved in their order. -/
theorem Trace.ledger_things (h : Trace rules r s events r' s')
    (hcursor : r.cursor.WellFormed program) (hperform : rules.perform = setup.rules.perform)
    (hids : (s.world.things.map Thing.id).Nodup)
    (hfresh : ∀ t ∈ s.world.things, t.resolved = false)
    (hascending : s.world.things.Pairwise (fun t u => t.position < u.position))
    (hall : ∀ t ∈ s'.world.things, t.resolved = true) :
    s.Ledger events s.world.things := by
  obtain ⟨ts, hkept⟩ := h.exists_ledger hcursor hperform hids
  have hperm := hkept.perm
  rw [World.unresolved_of_fresh hfresh, World.unresolved_of_all hall, List.append_nil] at hperm
  -- No two things stand on one square, so the ledger goes strictly up the track.
  have hapart : ts.Pairwise (fun t u => t.position ≠ u.position) :=
    (hascending.imp Nat.ne_of_lt).perm hperm fun hne => hne.symm
  have hstrict : ts.Pairwise (fun t u => t.position < u.position) :=
    (hkept.ascending.and hapart).imp fun hle => Nat.lt_of_le_of_ne hle.1 hle.2
  have hsame : s.world.things = ts :=
    hperm.eq_of_pairwise (fun t u _ _ h h' => absurd h' (Nat.lt_asymm h)) hascending hstrict
  rw [hsame]
  exact hkept.ledger

/-! ## The potion workshop -/

variable {item : Thing.Kind}

theorem Made.severity_eq_info_of_accomplishes (h : Made r rules s e r' s' line round)
    (hcursor : r.cursor.WellFormed program)
    (haccomplished : line.block.Accomplishes rules r.answer s e.message e.scene) :
    e.severity = .info := by
  rw [h.severity_eq, h.performed_eq_run_of_action hcursor haccomplished.acts.1,
    haccomplished.run_eq]
  rfl

/-- Where no action needs a check, one that went well has been performed by the level. -/
theorem Made.accomplishes_of_severity (h : Made r rules s e r' s' line round)
    (hcursor : r.cursor.WellFormed program)
    (hacts : line.block.category = .action ∧ line.block.op ≠ .celebrate)
    (hfree : rules.needsCheck line.block.op = false) (hgood : e.severity = .info) :
    line.block.Accomplishes rules r.answer s e.message e.scene := by
  have hadmitted : rules.needsCheck line.block.op = true → r.answer = some true := by
    rw [hfree]
    exact nofun
  have hrun := h.performed_eq_run_of_action hcursor hacts.1
  rw [Block.run_of_admitted hacts hadmitted] at hrun
  rw [h.severity_eq, hrun] at hgood
  obtain ⟨message, hmessage⟩ := Effect.severity_eq_info_iff.1 hgood
  have hdone : rules.perform line.block.op s = (.done message, (rules.perform line.block.op s).2) :=
    Prod.ext hmessage rfl
  rw [hdone] at hrun
  rw [h.event_eq, hrun]
  exact ⟨hacts, hadmitted, hdone⟩

/-- In the workshop an event tells by itself what it has collected. -/
theorem Made.collected?_eq_some_iff (h : Made r Potion.rules s e r' s' line round)
    (hcursor : r.cursor.WellFormed program) :
    e.collected? program = some item ↔ line.block.op = .collect item ∧
      line.block.Accomplishes Potion.rules r.answer s e.message e.scene := by
  rw [Event.collected?_eq_some_iff, h.getElem?_index hcursor]
  constructor
  · rintro ⟨hgood, placed, hplaced, hcategory, hop⟩
    cases hplaced
    have hacts : line.block.category = .action ∧ line.block.op ≠ .celebrate := by
      refine ⟨hcategory, ?_⟩
      rw [show line.block.op = .collect item from hop]
      exact nofun
    exact ⟨hop, h.accomplishes_of_severity hcursor hacts rfl hgood⟩
  · rintro ⟨hop, haccomplished⟩
    exact ⟨h.severity_eq_info_of_accomplishes hcursor haccomplished, line.placed, rfl,
      haccomplished.acts.1, hop⟩

/-- What is collected in the workshop is what a ledger has. -/
theorem Trace.filterMap_collected? (h : Trace Potion.rules r s events r' s')
    (hcursor : r.cursor.WellFormed program) (hids : (s.world.things.map Thing.id).Nodup)
    (hledger : s.Ledger events ts) :
    events.filterMap (Event.collected? program) = ts.map Thing.kind := by
  generalize hrules : Potion.rules = rules at h
  induction h generalizing ts with
  | nil r s =>
    cases hledger
    rfl
  | @cons r r₁ r' s s₁ s' e events hstep hrest ih =>
    subst hrules
    obtain ⟨line, round, hmade⟩ := made_of_step_eq hstep
    have hnext := wellFormed_call hcursor (.step Potion.rules s)
    rw [call, hstep] at hnext
    have hids' :=
      (World.leadsTo_of_changes (hmade.changes hcursor Potion.acted_perform)).nodup hids
    have hlevel : Potion.rules.perform = (Setup.ofLevel .collection).rules.perform := rfl
    have hdeed := hmade.deed hcursor hlevel hids
    obtain rfl := hmade.scene_event
    cases hledger with
    | kept hkept hledger =>
      have hnone : e.collected? program = none := by
        apply Option.eq_none_iff_forall_ne_some.2
        intro item hitem
        obtain ⟨hop, haccomplished⟩ := (hmade.collected?_eq_some_iff hcursor).1 hitem
        obtain ⟨t, hresolves⟩ := hdeed.exists_resolves haccomplished (by rw [hop]; rfl)
        exact hresolves.not_kept hkept
      rw [List.filterMap_cons_none hnone]
      exact ih hnext hids' hledger
    | resolved hresolves hledger =>
      obtain ⟨haccomplished, hop, -⟩ := hdeed.of_resolves hresolves
      have hsome := (hmade.collected?_eq_some_iff hcursor).2 ⟨hop, haccomplished⟩
      rw [List.filterMap_cons_some hsome, ih hnext hids' hledger]
      rfl

end Run

namespace Potion

/-- With the goal met, everything that is an ingredient has been collected. -/
theorem resolved_of_met {s : Scene} {message : String} (h : goal s = .met message) :
    ∀ t ∈ s.world.things, isIngredient t.kind = true → t.resolved = true := by
  intro t ht hingredient
  unfold goal at h
  dsimp only at h
  split at h
  · cases h
  · rename_i hnone
    have hempty : missing s.world = [] := by simpa using hnone
    have hall := List.map_eq_nil_iff.1 hempty
    have hnot := List.filter_eq_nil_iff.1 hall t ht
    simpa [hingredient] using hnot

/-- A run of the workshop that succeeds has collected the four ingredients in the order in
which they lie. -/
theorem collected_of_success {program : List Placed} {i : Interruption} {s : Scene}
    (hwon : (rules.play program i s).run.outcome.isSuccess = true) :
    (rules.play program i s).events.filterMap (Event.collected? program) =
      [.mushroom, .crystal, .herbs, .water] := by
  obtain ⟨hover, message, hmet⟩ := Rules.goal_of_success hwon
  obtain ⟨last, htrace, -⟩ := Rules.exists_trace_left hover rules i s
  have hlevel : rules.perform = (Setup.ofLevel .collection).rules.perform := rfl
  have hcursor := Run.wellFormed_start program
  have hids : (rules.openingScene.world.things.map Thing.id).Nodup := by decide
  have hleads := htrace.leadsTo hcursor acted_perform
  have hingredients : ∀ t ∈ rules.openingScene.world.things, isIngredient t.kind = true := by
    decide
  have hall : ∀ t ∈ (rules.play program i s).scene.world.things, t.resolved = true := by
    intro t ht
    exact resolved_of_met hmet t ht
      (hleads.forall_kind (P := fun kind => isIngredient kind = true) hingredients t ht)
  have hledger := htrace.ledger_things hcursor hlevel hids (by decide) (by decide) hall
  exact htrace.filterMap_collected? hcursor hids hledger

end Potion

namespace Rules

/-- With the actions of a level, and in any world where no two things have the same id:
each event of a run leaves the things as they were, or resolves one of them.  In that case
the level has performed the action of its block, as the pending answer allows, and called it
done; the operation is one that earns such a thing, and the wizard stood on its square.  And
whenever an operation that resolves things is done, it has resolved just one.  Things that
are resolved later never stand further back.  So who succeeds in the workshop has collected
the four ingredients one after the other, and nothing else. -/
theorem play_resolves {rules : Rules} {setup : Setup}
    (hlevel : rules.perform = setup.rules.perform)
    (hids : (rules.initialWorld.things.map Thing.id).Nodup) (program : List Placed)
    (i : Interruption) (s : Scene) :
    let p := rules.play program i s
    let scene := fun events => rules.openingScene.behind events
    (∀ before e after, p.events = before ++ e :: after →
      ∃ placed, program[e.index]? = some placed ∧
        let b := placed.block
        let done := b.Accomplishes rules (pendingAnswer program before) (scene before)
          e.message e.scene
        (e.scene.world.things = (scene before).world.things ∨
          ∃ t, (scene before).world.Resolves e.scene.world t) ∧
        (∀ t, (scene before).world.Resolves e.scene.world t →
          done ∧ setup.level.Earns b.op t ∧ t.position = (scene before).world.position) ∧
        (done → b.op.resolves = true → ∃! t, (scene before).world.Resolves e.scene.world t)) ∧
    (∀ before e between e' after t t', p.events = before ++ e :: (between ++ e' :: after) →
      (scene before).world.Resolves e.scene.world t →
      (scene (before ++ e :: between)).world.Resolves e'.scene.world t' →
      t.position ≤ t'.position) ∧
    (rules = Potion.rules → p.run.outcome.isSuccess = true →
      p.events.filterMap (Event.collected? program) = [.mushroom, .crystal, .herbs, .water]) := by
  have hacted : ∀ op (s : Scene), s.world.Acted (rules.perform op s).2.world := by
    rw [hlevel]
    exact setup.acted_perform
  obtain ⟨last, s', htrace, -⟩ := exists_trace_events rules program i s
  intro p scene
  have hdeed : ∀ before e after, p.events = before ++ e :: after →
      ∃ placed, program[e.index]? = some placed ∧
        Deed setup.level placed.block.op
          (placed.block.Accomplishes rules (pendingAnswer program before) (scene before)
            e.message e.scene)
          (scene before).world e.scene.world := by
    intro before e after hevents
    rw [show (rules.play program i s).events = _ from hevents] at htrace
    exact htrace.exists_deed hlevel hids
  refine ⟨?_, ?_, ?_⟩
  · intro before e after hevents
    obtain ⟨placed, hplaced, hdone⟩ := hdeed before e after hevents
    refine ⟨placed, hplaced, hdone.kept_or, fun t => hdone.of_resolves, ?_⟩
    intro haccomplished hresolving
    obtain ⟨t, hresolves⟩ := hdone.exists_resolves haccomplished hresolving
    exact hresolves.existsUnique
  · intro before e between e' after t t' hevents hresolves hresolves'
    obtain ⟨placed, -, hdone⟩ := hdeed before e _ hevents
    obtain ⟨placed', -, hdone'⟩ :=
      hdeed (before ++ e :: between) e' after (by rw [hevents, List.append_assoc]; rfl)
    obtain ⟨-, -, hhere⟩ := hdone.of_resolves hresolves
    obtain ⟨-, -, hhere'⟩ := hdone'.of_resolves hresolves'
    have hsplit : (rules.play program i s).events =
        before ++ ((e :: between) ++ (e' :: after)) := hevents
    rw [hsplit] at htrace
    rw [hhere, hhere']
    exact (htrace.leadsTo_between hacted).position_le
  · rintro hpotion hwon
    subst hpotion
    exact Potion.collected_of_success hwon

/-- A potion of four ingredients, with the total shared out among them. -/
def sharing : List Placed :=
  (Program.ofIds Potion.blocks
    ["create-total", "create-count", "step-forward", "collect-mushroom", "step-forward",
     "step-forward", "collect-crystal", "step-forward", "step-forward", "collect-herbs",
     "step-forward", "step-forward", "collect-water", "divide-total-by-count"]).placed

/-- It is brewed as the recipe says. -/
theorem play_sharing_resolves :
    let p := Potion.rules.play sharing .never default
    (Potion.rules.initialWorld.things.map Thing.id).Nodup ∧ p.run.outcome.isSuccess = true ∧
      p.events.filterMap (Event.collected? sharing) = [.mushroom, .crystal, .herbs, .water] := by
  intro p
  have hids : (Potion.rules.initialWorld.things.map Thing.id).Nodup := by decide
  have hwon : p.run.outcome.isSuccess = true := by decide +kernel
  have hlevel : Potion.rules.perform = (Setup.ofLevel .collection).rules.perform := rfl
  obtain ⟨-, -, hcollected⟩ := play_resolves hlevel hids sharing .never default
  exact ⟨hids, hwon, hcollected rfl hwon⟩

end Rules

end Spellbook
