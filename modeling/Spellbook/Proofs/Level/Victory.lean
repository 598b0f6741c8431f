import Spellbook.Proofs.Level.Guarded
import Spellbook.Proofs.Run.Resolved
set_option autoImplicit false

/-!
# How the gauntlet is won

A run of the gauntlet that succeeds has defeated its three monsters one after the other, each
on its square and behind a check that said yes, with the spell that it is weak to, and it was
over with the third (`Gauntlet.play_victory`).  The ledger of the run has the monsters in
their order, since they stand one behind the other and are all resolved in the end.
-/

namespace Spellbook.Gauntlet

open Run (start Trace)

/-! ## The monsters -/

theorem length_drawSlots (n : Nat) (fixed : List Thing.Kind) (state : UInt32) :
    (drawSlots n fixed state).length = n := by
  induction n generalizing fixed state with
  | zero => rfl
  | succ n ih =>
    unfold drawSlots
    split
    · split <;> simp [ih]
    · simp [ih]

theorem isMonster_of_pick (state : UInt32) :
    (Draw.pick Thing.Kind.goblin [.troll, .dragon] state).1.isMonster = true := by
  have hall : ∀ kind ∈ [Thing.Kind.goblin, .troll, .dragon], kind.isMonster = true := by decide
  exact hall _ (Draw.pick_mem _ _ state)

theorem isMonster_of_mem_drawSlots {n : Nat} {fixed : List Thing.Kind} {state : UInt32}
    {kind : Thing.Kind} (h : kind ∈ drawSlots n fixed state) : kind.isMonster = true := by
  induction n generalizing fixed state with
  | zero => cases h
  | succ n ih =>
    unfold drawSlots at h
    split at h
    · split at h
      · rename_i hmonster
        rcases List.mem_cons.1 h with rfl | h
        · exact hmonster
        · exact ih h
      · rcases List.mem_cons.1 h with rfl | h
        · exact isMonster_of_pick state
        · exact ih h
    · rcases List.mem_cons.1 h with rfl | h
      · exact isMonster_of_pick state
      · exact ih h

/-- Whatever the seed and the fixed monsters, there are three. -/
theorem exists_drawMonsters (seed : UInt32) (fixed : Option (List Thing.Kind)) :
    ∃ k₁ k₂ k₃, drawMonsters seed fixed = [k₁, k₂, k₃] ∧
      ∀ kind ∈ [k₁, k₂, k₃], kind.isMonster = true := by
  have hlength : (drawMonsters seed fixed).length = 3 := length_drawSlots 3 _ _
  obtain ⟨k₁, k₂, k₃, hmonsters⟩ := List.length_eq_three.1 hlength
  refine ⟨k₁, k₂, k₃, hmonsters, ?_⟩
  rw [← hmonsters]
  exact fun kind h => isMonster_of_mem_drawSlots h

theorem things_world (monsters : List Thing.Kind) :
    (world monsters).things = placeMonsters monsters := by
  rw [world, addThings]
  rfl

theorem placeMonsters_triple (k₁ k₂ k₃ : Thing.Kind) :
    placeMonsters [k₁, k₂, k₃] =
      [.fresh "monster-1" k₁ 2, .fresh "monster-2" k₂ 4, .fresh "monster-3" k₃ 6] := by
  have hids : (List.range' 0 3).map (fun i => s!"monster-{i + 1}") =
      ["monster-1", "monster-2", "monster-3"] := by decide
  simp only [List.range'_succ, List.map_cons, List.cons.injEq] at hids
  obtain ⟨hfirst, hsecond, hthird, -⟩ := hids
  simp only [placeMonsters, squares, List.zip_cons_cons, List.zipIdx_cons, List.map_cons,
    hfirst, hsecond, hthird]
  rfl

/-- With the goal met, every monster has been defeated. -/
theorem resolved_of_met {s : Scene} {message : String} (h : goal s = .met message) :
    ∀ t ∈ s.world.things, t.kind.isMonster = true → t.resolved = true := by
  intro t ht hmonster
  unfold goal at h
  dsimp only at h
  split at h
  · rename_i hcount
    have hnone : standing s.world = [] := List.length_eq_zero_iff.1 hcount
    have hnot := List.filter_eq_nil_iff.1 hnone t ht
    simpa [hmonster] using hnot
  · cases h

theorem met_of_resolved {s : Scene} (h : ∀ t ∈ s.world.things, t.resolved = true) :
    ∃ message, goal s = .met message := by
  have hnone : standing s.world = [] := by
    apply List.filter_eq_nil_iff.2
    intro t ht
    simp [h t ht]
  exact ⟨_, by rw [goal, hnone]; rfl⟩

/-! ## Three blows -/

/-- This event defeats this monster: its block casts the spell that the monster is weak to,
behind a check that said yes, with the wizard on the square of the monster. -/
structure Defeats (rules : Rules) (program : List Placed) (before : List Event) (e : Event)
    (t : Thing) : Prop where
  casts : ∃ placed spell, program[e.index]? = some placed ∧ placed.block.category = .action ∧
    placed.block.op = .castSpell spell ∧ weakness? t.kind = some spell
  answer_eq : pendingAnswer program before = some true
  position_eq : (rules.openingScene.behind before).world.position = t.position
  resolves : (rules.openingScene.behind before).world.Resolves e.scene.world t

variable {setup : Setup} {program : List Placed} {before after : List Event} {e : Event}
  {last : Run} {s : Scene} {t : Thing}

theorem defeats_of_resolves (hlevel : setup.level = .combat)
    (hids : (setup.rules.openingScene.world.things.map Thing.id).Nodup)
    (htrace : Trace setup.rules (start program) setup.rules.openingScene
      (before ++ e :: after) last s)
    (hresolves : (setup.rules.openingScene.behind before).world.Resolves e.scene.world t) :
    Defeats setup.rules program before e t := by
  obtain ⟨placed, hplaced, hdeed⟩ := htrace.exists_deed rfl hids
  obtain ⟨haccomplished, hearns, hhere⟩ := hdeed.of_resolves hresolves
  rw [hlevel] at hearns
  obtain ⟨spell, hop, hweak⟩ := hearns
  have hneeds : setup.rules.needsCheck placed.block.op = true := by
    rw [Setup.rules_eq, hlevel, hop]
    rfl
  exact ⟨⟨placed, spell, hplaced, haccomplished.acts.1, hop, hweak⟩,
    haccomplished.admitted hneeds, hhere.symm, hresolves⟩

/-- A blow is struck from where the wizard stands. -/
theorem Defeats.position_behind (h : Defeats setup.rules program before e t)
    (htrace : Trace setup.rules (start program) setup.rules.openingScene
      (before ++ e :: after) last s) : e.scene.world.position = t.position := by
  obtain ⟨placed, spell, hplaced, hcategory, -⟩ := h.casts
  obtain ⟨placed', hplaced', hchanges⟩ := htrace.changes setup.acted_perform
  rw [hplaced] at hplaced'
  obtain rfl := Option.some.inj hplaced'
  have hposition := hchanges.position_eq
  rw [Scene.behind_append_cons, Scene.behind_nil, if_neg (by simp [hcategory]), Nat.add_zero,
    h.position_eq] at hposition
  exact hposition

/-! ## The whole run -/

theorem rules_eq (hlevel : setup.level = .combat) : setup.rules = rules setup.monsters := by
  rw [Setup.rules_eq, hlevel]

theorem goal_eq (hlevel : setup.level = .combat) : setup.rules.goal = goal := by
  rw [rules_eq hlevel]
  rfl

theorem things_opening (hlevel : setup.level = .combat) {k₁ k₂ k₃ : Thing.Kind}
    (hmonsters : setup.monsters = [k₁, k₂, k₃]) :
    setup.rules.openingScene.world.things =
      [.fresh "monster-1" k₁ 2, .fresh "monster-2" k₂ 4, .fresh "monster-3" k₃ 6] := by
  rw [rules_eq hlevel, hmonsters, ← placeMonsters_triple]
  exact things_world _

theorem nodup_opening (hlevel : setup.level = .combat) :
    (setup.rules.openingScene.world.things.map Thing.id).Nodup := by
  rw [rules_eq hlevel]
  exact (scanned_opening _).nodup

/-- Once nothing is left to be resolved the goal is met, and the run is over. -/
theorem last_blow (hlevel : setup.level = .combat)
    (htrace : Trace setup.rules (start program) setup.rules.openingScene
      (before ++ e :: after) last s)
    (hledger : e.scene.Ledger after []) (hresolved : ∀ t ∈ s.world.things, t.resolved = true) :
    after = [] := by
  have hscene : s = e.scene.behind after := by
    rw [htrace.scene_eq, Scene.behind_append_cons]
  obtain ⟨message, hmet⟩ : ∃ message, setup.rules.goal e.scene = .met message := by
    rw [goal_eq hlevel]
    apply met_of_resolved
    rw [← hledger.things_eq, ← hscene]
    exact hresolved
  have heager : setup.rules.eager = true := by
    rw [rules_eq hlevel]
    rfl
  exact htrace.met_last heager hmet

/-- Who succeeds has resolved all things in their order. -/
theorem ledger_of_success (hlevel : setup.level = .combat) {i : Interruption}
    (hwon : (setup.rules.play program i s).run.outcome.isSuccess = true) :
    let p := setup.rules.play program i s
    (∃ last, Trace setup.rules (start program) setup.rules.openingScene p.events last p.scene) ∧
      setup.rules.openingScene.Ledger p.events setup.rules.openingScene.world.things ∧
      ∀ t ∈ p.scene.world.things, t.resolved = true := by
  intro p
  obtain ⟨k₁, k₂, k₃, hmonsters, hkinds⟩ := exists_drawMonsters setup.seed setup.monsters?
  have hthings := things_opening hlevel hmonsters
  obtain ⟨hover, message, hmet⟩ := Rules.goal_of_success hwon
  rw [goal_eq hlevel] at hmet
  obtain ⟨last, htrace, -⟩ := Rules.exists_trace_left hover setup.rules i s
  have hcursor := Run.wellFormed_start program
  have hmonster : ∀ t ∈ p.scene.world.things, t.kind.isMonster = true := by
    apply (htrace.leadsTo hcursor setup.acted_perform).forall_kind
      (P := fun kind => kind.isMonster = true)
    rw [hthings]
    simpa [Thing.fresh] using hkinds
  have hresolved : ∀ t ∈ p.scene.world.things, t.resolved = true :=
    fun t ht => resolved_of_met hmet t ht (hmonster t ht)
  refine ⟨⟨last, htrace⟩, ?_, hresolved⟩
  exact htrace.ledger_things hcursor rfl (nodup_opening hlevel)
    (by simp [hthings, Thing.fresh]) (by simp [hthings, Thing.fresh]) hresolved

/-- Who succeeds in the gauntlet has defeated its three monsters in their order, each on its
square with the spell that it is weak to and behind a check that said yes.  The third blow was
the last step of the run, so the wizard is left where the third monster stood. -/
theorem play_victory (hlevel : setup.level = .combat) {i : Interruption}
    (hwon : (setup.rules.play program i s).run.outcome.isSuccess = true) :
    let p := setup.rules.play program i s
    let defeats := Defeats setup.rules program
    ∃ k₁ k₂ k₃ first e₁ second e₂ third e₃,
      setup.monsters = [k₁, k₂, k₃] ∧
      p.events = first ++ e₁ :: (second ++ e₂ :: (third ++ [e₃])) ∧
      defeats first e₁ (.fresh "monster-1" k₁ 2) ∧
      defeats (first ++ e₁ :: second) e₂ (.fresh "monster-2" k₂ 4) ∧
      defeats (first ++ e₁ :: (second ++ e₂ :: third)) e₃ (.fresh "monster-3" k₃ 6) ∧
      p.scene.world.position = 6 := by
  obtain ⟨k₁, k₂, k₃, hmonsters, -⟩ := exists_drawMonsters setup.seed setup.monsters?
  obtain ⟨⟨last, htrace⟩, hledger, hresolved⟩ := ledger_of_success hlevel hwon
  rw [things_opening hlevel hmonsters] at hledger
  obtain ⟨first, e₁, rest, hevents, hresolves₁, hledger⟩ := hledger.exists_first
  obtain ⟨second, e₂, rest, rfl, hresolves₂, hledger⟩ := hledger.exists_first
  obtain ⟨third, e₃, rest, rfl, hresolves₃, hledger⟩ := hledger.exists_first
  intro p defeats
  have hsecond : p.events = (first ++ e₁ :: second) ++ e₂ :: (third ++ e₃ :: rest) := by
    rw [hevents, List.append_assoc]
    rfl
  have hthird : p.events = (first ++ e₁ :: (second ++ e₂ :: third)) ++ e₃ :: rest := by
    rw [hsecond]
    simp
  have hblow {before e after t} (hsplit : p.events = before ++ e :: after)
      (hresolves : (setup.rules.openingScene.behind before).world.Resolves e.scene.world t) :
      defeats before e t := by
    rw [hsplit] at htrace
    exact defeats_of_resolves hlevel (nodup_opening hlevel) htrace hresolves
  obtain rfl : rest = [] := by
    rw [hthird] at htrace
    exact last_blow hlevel htrace hledger hresolved
  have hthree := hblow hthird (by
    rw [Scene.behind_append_cons, Scene.behind_append_cons]
    exact hresolves₃)
  refine ⟨k₁, k₂, k₃, first, e₁, second, e₂, third, e₃, hmonsters, hevents,
    hblow hevents hresolves₁, hblow hsecond ?_, hthree, ?_⟩
  · rw [Scene.behind_append_cons]
    exact hresolves₂
  · rw [hthird] at htrace
    rw [show p.scene = _ from htrace.scene_eq, Scene.behind_append_cons]
    exact hthree.position_behind htrace

/-- Three duels, whatever the monsters. -/
def duels : List Placed := (Program.empty.appendAll (duel ++ duel ++ duel)).placed

/-- They are won against a dragon, a troll, and the monster that the seed draws. -/
theorem play_duels_victory :
    let setup : Setup := ⟨.combat, some 7, none, none, some [.dragon, .troll]⟩
    let p := setup.rules.play duels .never default
    p.run.outcome.isSuccess = true ∧ p.scene.world.position = 6 := by
  intro setup p
  have hwon : p.run.outcome.isSuccess = true := by decide +kernel
  obtain ⟨k₁, k₂, k₃, first, e₁, second, e₂, third, e₃, -, -, -, -, -, hposition⟩ :=
    play_victory rfl hwon
  exact ⟨hwon, hposition⟩

end Spellbook.Gauntlet
