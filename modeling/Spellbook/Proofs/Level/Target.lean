import Spellbook.Proofs.Level.Victory
set_option autoImplicit false

/-!
# What the wizard aims at

In the gauntlet the target is always live: if something is scanned, then it is a monster that
stands unresolved on the wizard's square (`Aimed.run`).  A scan finds it there, a step forward
leaves it behind and forgets it, and the spell that strikes it forgets it too.  So a spell that
is performed comes to one of three ends, and each that has a target is about this target
(`trace_aims`).
-/

namespace Spellbook

open Run (start Trace Made)

/-- Where no two things have the same id, that of a thing finds it. -/
theorem World.find?_of_mem {w : World} {t : Thing} (hids : (w.things.map Thing.id).Nodup)
    (h : t ∈ w.things) : w.find? t.id = some t :=
  find?_of_nodup_map hids h

/-- A step whose block is an action that its check admits does what the level performs, and if
that fails, the run is over with it. -/
theorem Run.Trace.performs {rules : Rules} {program : List Placed} {s₀ s s' : Scene}
    {events : List Event} {r r' : Run} {e : Event} {placed : Placed}
    (h : Trace rules (start program) s₀ events r s)
    (hstep : r.step rules s = (.step e, r', s')) (hplaced : program[e.index]? = some placed)
    (hacts : placed.block.category = .action ∧ placed.block.op ≠ .celebrate)
    (hadmitted : rules.needsCheck placed.block.op = true →
      pendingAnswer program events = some true) :
    let done := rules.perform placed.block.op s
    e.message = done.1.message ∧ e.severity = done.1.severity ∧ s' = done.2 ∧
      ∀ kind reason, done.1 = .fail kind reason → r'.outcome = .failure kind reason := by
  obtain ⟨line, round, hmade⟩ := made_of_step_eq hstep
  obtain rfl : line.placed = placed :=
    Option.some.inj ((hmade.getElem?_index h.wellFormed).symm.trans hplaced)
  rw [← h.answer_eq_pendingAnswer hmade.isOver_eq] at hadmitted
  have hperformed := hmade.performed_eq_run_of_action h.wellFormed hacts.1
  rw [Line.block, Block.run_of_admitted hacts hadmitted] at hperformed
  refine ⟨?_, ?_, ?_, ?_⟩
  · rw [hmade.event_eq, hperformed]
    rfl
  · rw [hmade.event_eq, hperformed]
    rfl
  · rw [hmade.scene_eq, hperformed]
  · intro kind reason hfailed
    exact hmade.settles.outcome_of_fail (by rw [hperformed, hfailed])

namespace Gauntlet

/-- The wizard has scanned this monster, which stands unresolved on the same square. -/
structure Aims (w : World) (t : Thing) : Prop where
  target_eq : w.target = some t.id
  mem : t ∈ w.things
  isMonster : t.kind.isMonster = true
  unresolved : t.resolved = false
  position_eq : t.position = w.position

/-- Nothing is scanned, or something unresolved on the wizard's square. -/
def Aimed (w : World) : Prop :=
  w.target = none ∨
    ∃ t ∈ w.things, w.target = some t.id ∧ t.resolved = false ∧ t.position = w.position

variable {w w' : World} {s : Scene} {t : Thing}

/-! ## What every block keeps -/

/-- What is aimed at stays so while the wizard stays and the things are as they were. -/
theorem Aimed.of_eq (h : Aimed w) (htarget : w'.target = w.target)
    (hthings : w'.things = w.things) (hposition : w'.position = w.position) : Aimed w' := by
  rw [Aimed, htarget, hthings, hposition]
  exact h

/-- A spell that strikes forgets its target, and no other spell changes anything. -/
theorem Aimed.perform (h : Aimed s.world) (op : Op) : Aimed (perform op s).2.world := by
  unfold Gauntlet.perform
  split
  · unfold cast
    split
    · exact h
    · dsimp only
      split
      · exact h
      · split
        · exact .inl rfl
        · exact h
  · exact h

theorem Aimed.runAction (h : Aimed s.world) (monsters : List Thing.Kind) (b : Block)
    (answer : Option Bool) : Aimed (b.runAction (rules monsters) answer s).2.world := by
  unfold Block.runAction
  split
  · exact h
  · split
    · split
      · exact h
      · exact h
      · exact h.perform b.op
    · exact h.perform b.op

/-- Whatever block runs, the target is live behind it if it was before. -/
theorem Aimed.run (h : Aimed s.world) (monsters : List Thing.Kind) (b : Block)
    (answer : Option Bool) : Aimed (b.run (rules monsters) answer s).scene.world := by
  by_cases hcategory : b.category = .action
  · simp only [Block.run, hcategory]
    exact h.runAction monsters b answer
  · obtain ⟨hthings, -⟩ :=
      Block.things_flags_run_of_ne_action hcategory (rules monsters) answer s
    have hchanges : b.Changes (b.run (rules monsters) answer s).effect.severity s.world
        (b.run (rules monsters) answer s).scene.world :=
      Block.changes_run acted_perform b answer s
    rcases hchanges.target with htarget | hnone | ⟨t, hfinds, htarget⟩
    · by_cases hmoves : b.category = .movement ∧
          (b.run (rules monsters) answer s).effect.severity = .info
      · exact .inl (hchanges.target_of_move hmoves.1 hmoves.2)
      · have hposition := hchanges.position_eq
        rw [if_neg hmoves, Nat.add_zero] at hposition
        exact h.of_eq htarget hthings hposition
    · exact .inl hnone
    · obtain ⟨hbinding, -, hmem, hopen, hhere⟩ := hfinds
      have hposition := hchanges.position_eq
      rw [if_neg (by simp [hbinding]), Nat.add_zero] at hposition
      refine .inr ⟨t, ?_, htarget, hopen, hhere.trans hposition.symm⟩
      rw [hthings]
      exact hmem

theorem aimed_opening (monsters : List Thing.Kind) : Aimed (rules monsters).openingScene.world := by
  left
  show (world monsters).target = none
  rw [world, addThings]
  rfl

/-! ## What comes of a spell -/

/-- What comes of a spell in a scene: there is no target, the spell defeats it and nothing
else, or it is the wrong one against it. -/
inductive ComesTo (spell : Spell) (s : Scene) : Effect → Scene → Prop
  | aimless (hnone : s.world.target = none) :
      ComesTo spell s (.fail .missingPrecondition
        s!"The wizard has no scanned monster to cast {spell.name} at. Scan first.") s
  | defeats {t : Thing} {s' : Scene} (haims : Aims s.world t)
      (hweak : weakness? t.kind = some spell)
      (hscene : s' = s.mapWorld (fun w => { w.resolve t.id with target := none }))
      (hresolves : s.world.Resolves s'.world t) :
      ComesTo spell s (.done s!"The {spell.name} spell defeats the {t.kind.name}!") s'
  | fails {t : Thing} {weakness : Spell} (haims : Aims s.world t)
      (hweak : weakness? t.kind = some weakness) (hother : weakness ≠ spell) :
      ComesTo spell s (.fail .wrongChoice
        s!"{spell.name} does nothing to the {t.kind.name}! A {t.kind.name} is weak to {weakness.name}.") s

theorem exists_weakness {kind : Thing.Kind} (h : kind.isMonster = true) :
    ∃ spell, weakness? kind = some spell := by
  cases kind with
  | goblin => exact ⟨.fire, rfl⟩
  | troll => exact ⟨.lightning, rfl⟩
  | dragon => exact ⟨.ice, rfl⟩
  | _ => cases h

/-- What is on the track in the gauntlet: monsters, no two of them with the same id. -/
structure Stage (w : World) : Prop where
  nodup : (w.things.map Thing.id).Nodup
  isMonster : ∀ t ∈ w.things, t.kind.isMonster = true

theorem Aimed.exists_aims (h : Aimed w) (hstage : Stage w) :
    w.target = none ∨ ∃ t, Aims w t := by
  rcases h with hnone | ⟨t, hmem, htarget, hopen, hhere⟩
  · exact .inl hnone
  · exact .inr ⟨t, htarget, hmem, hstage.isMonster t hmem, hopen, hhere⟩

theorem Aims.find?_target (h : Aims w t) (hids : (w.things.map Thing.id).Nodup) :
    w.target.bind w.find? = some t := by
  rw [h.target_eq, Option.bind_some, World.find?_of_mem hids h.mem]

/-- What is aimed at is not left out for being resolved or out of reach. -/
theorem Aims.target?_eq (h : Aims w t) (hids : (w.things.map Thing.id).Nodup) :
    target? w = some t := by
  have hcounts : (!t.resolved && t.position == w.position) = true := by
    simp [h.unresolved, h.position_eq]
  rw [target?, h.find?_target hids, Option.filter_some, if_pos hcounts]

theorem Aimed.target?_eq (h : Aimed w) (hstage : Stage w) :
    target? w = w.target.bind w.find? := by
  rcases h.exists_aims hstage with hnone | ⟨t, haims⟩
  · rw [target?, hnone]
    rfl
  · rw [haims.target?_eq hstage.nodup, haims.find?_target hstage.nodup]

/-- A spell comes to one of three ends where the target is live. -/
theorem comesTo_cast (h : Aimed s.world) (hstage : Stage s.world) (spell : Spell) :
    ComesTo spell s (cast spell s).1 (cast spell s).2 := by
  rcases h.exists_aims hstage with hnone | ⟨t, haims⟩
  · rw [cast, target?, hnone]
    exact .aimless hnone
  · obtain ⟨weakness, hweak⟩ := exists_weakness haims.isMonster
    simp only [cast, haims.target?_eq hstage.nodup, hweak]
    split
    · rename_i hsame
      exact .defeats haims (by rw [hweak, hsame]) rfl
        (World.resolves_resolve hstage.nodup haims.mem haims.unresolved)
    · rename_i hother
      exact .fails haims hweak hother

/-! ## Whole runs -/

variable {setup : Setup} {program : List Placed} {events : List Event} {r : Run}

theorem stage_opening (hlevel : setup.level = .combat) :
    Stage setup.rules.openingScene.world := by
  obtain ⟨k₁, k₂, k₃, hmonsters, hkinds⟩ := exists_drawMonsters setup.seed setup.monsters?
  refine ⟨nodup_opening hlevel, ?_⟩
  rw [things_opening hlevel hmonsters]
  simpa [Thing.fresh] using hkinds

theorem stage_of_trace (hlevel : setup.level = .combat)
    (h : Trace setup.rules (start program) setup.rules.openingScene events r s) :
    Stage s.world := by
  have hleads := h.leadsTo (Run.wellFormed_start program) setup.acted_perform
  have hopening := stage_opening hlevel
  exact ⟨hleads.nodup hopening.nodup,
    hleads.forall_kind (P := fun kind => kind.isMonster = true) hopening.isMonster⟩

theorem aimed_of_trace (hlevel : setup.level = .combat)
    (h : Trace setup.rules (start program) setup.rules.openingScene events r s) :
    Aimed s.world := by
  rw [rules_eq hlevel] at h
  exact h.keeps (P := fun s => Aimed s.world) (Run.wellFormed_start program)
    (fun placed _ answer _ haimed => haimed.run _ placed.block answer) (aimed_opening _)

/-- On the gauntlet, whatever the seed, the fixed monsters and the program, in every state of a
run there is no target, or it is a monster that stands unresolved on the wizard's square; so
the target is never one that does not count.  A spell that is performed there fails without a
target, defeats the target and nothing else, or is the wrong one against it, and a step that
casts a spell behind a check that said yes tells just that. -/
theorem trace_aims (hlevel : setup.level = .combat)
    (h : Trace setup.rules (start program) setup.rules.openingScene events r s) :
    (s.world.target = none ∨ ∃ t, Aims s.world t) ∧
    target? s.world = s.world.target.bind s.world.find? ∧
    ∀ spell,
      let done := setup.rules.perform (.castSpell spell) s
      ComesTo spell s done.1 done.2 ∧
      ∀ e r' s' placed, r.step setup.rules s = (.step e, r', s') →
        program[e.index]? = some placed → placed.block.category = .action →
        placed.block.op = .castSpell spell → pendingAnswer program events = some true →
        e.message = done.1.message ∧ e.severity = done.1.severity ∧ s' = done.2 ∧
          ∀ kind reason, done.1 = .fail kind reason → r'.outcome = .failure kind reason := by
  have haimed := aimed_of_trace hlevel h
  have hstage := stage_of_trace hlevel h
  refine ⟨haimed.exists_aims hstage, haimed.target?_eq hstage, ?_⟩
  intro spell done
  constructor
  · have hdone : done = cast spell s := by
      show setup.rules.perform (.castSpell spell) s = cast spell s
      rw [rules_eq hlevel]
      rfl
    rw [hdone]
    exact comesTo_cast haimed hstage spell
  · intro e r' s' placed hstep hplaced hcategory hop hyes
    have hacts : placed.block.category = .action ∧ placed.block.op ≠ .celebrate :=
      ⟨hcategory, by rw [hop]; exact nofun⟩
    have hperformed := h.performs hstep hplaced hacts (fun _ => hyes)
    rw [hop] at hperformed
    exact hperformed

/-- The wizard scans what stands on the third square and strikes it with ice if it is a
dragon. -/
def ambush : List Placed :=
  (Program.ofIds blocks
    ["step-forward", "step-forward", "scan-monster", "if-dragon", "cast-ice"]).placed

/-- Where a dragon stands there, it is the target before the last step, and it alone is
defeated. -/
theorem trace_aims_ambush :
    let rules := (⟨.combat, some 7, none, none, some [.dragon, .troll]⟩ : Setup).rules
    ∃ events r s e r' t, Trace rules (start ambush) rules.openingScene events r s ∧
      r.step rules s = (.step e, r', e.scene) ∧ Aims s.world t ∧
      s.world.Resolves e.scene.world t ∧ e.scene.world.target = none ∧
      e.message = "The ice spell defeats the dragon!" := by
  intro rules
  let p := rules.play ambush .never default
  have hover : (start ambush).isOver = false := by decide +kernel
  obtain ⟨last, htrace, -⟩ := Rules.exists_trace_left hover rules .never default
  have hlast : (p.events.drop 4).map (fun e => (e.index, e.severity, e.message)) =
      [(4, .info, "The ice spell defeats the dragon!")] := by
    decide +kernel
  obtain ⟨e, hdrop, htold⟩ := List.map_eq_singleton_iff.1 hlast
  obtain ⟨hindex, hinfo, hmessage⟩ : e.index = 4 ∧ e.severity = .info ∧
      e.message = "The ice spell defeats the dragon!" := by
    simpa using htold
  have hevents : p.events = p.events.take 4 ++ e :: [] := by
    rw [← hdrop, List.take_append_drop]
  rw [show (rules.play ambush .never default).events = _ from hevents] at htrace
  obtain ⟨r, s, r', hbefore, hstep, -⟩ := htrace.step_of_eq_append
  obtain ⟨-, -, hspells⟩ := trace_aims rfl hbefore
  obtain ⟨hcomes, hsteps⟩ := hspells .ice
  have hyes : pendingAnswer ambush (p.events.take 4) = some true := by decide +kernel
  have hplaced : ambush[e.index]? = some ⟨5, spellBlock .ice⟩ := by
    rw [hindex]
    decide +kernel
  obtain ⟨-, hseverity, hscene, -⟩ := hsteps e r' e.scene _ hstep hplaced rfl rfl hyes
  rw [hinfo] at hseverity
  rw [← hscene] at hcomes
  generalize (Setup.rules _).perform (.castSpell .ice) s = done at hcomes hseverity
  obtain ⟨effect, s'⟩ := done
  cases hcomes with
  | aimless hnone => cases hseverity
  | fails haims hweak hother => cases hseverity
  | @defeats t _ haims hweak heq hresolves =>
    refine ⟨_, r, s, e, r', t, hbefore, hstep, haims, hresolves, ?_, hmessage⟩
    rw [heq]
    rfl

end Gauntlet

end Spellbook
