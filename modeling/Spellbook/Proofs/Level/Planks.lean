import Spellbook.Proofs.Run.Choices
import Spellbook.Proofs.Run.Resolved
set_option autoImplicit false

/-!
# The planks are counted

On the bridge the one flag of the world counts the planks that have been repaired
(`Bridge.Tally`), through whatever rounds and repairs (`Bridge.Tally.run`).  A plank is repaired
where the wizard stands and there is one on each square, so the count never runs ahead of the
wizard, and one more is always in range (`Bridge.play_tallied`).
-/

namespace Spellbook

open Run (start Trace)

/-! ## How many things are resolved -/

namespace World

variable {w w' : World} {t : Thing}

theorem Resolves.countP_resolved (h : w.Resolves w' t) :
    w'.things.countP Thing.resolved = w.things.countP Thing.resolved + 1 := by
  obtain ⟨hopen, front, back, hthings, hresolved⟩ := h
  simp only [hthings, hresolved, List.countP_append, List.countP_cons, hopen]
  simp only [if_true, Bool.false_eq_true, if_false]
  omega

/-- Something is still to be resolved, so not all things are counted. -/
theorem Resolves.countP_lt_length (h : w.Resolves w' t) :
    w.things.countP Thing.resolved < w.things.length := by
  obtain ⟨hopen, front, back, hthings, -⟩ := h
  apply Nat.lt_of_le_of_ne List.countP_le_length
  intro hall
  have hmem : t ∈ w.things := by simp [hthings]
  have hresolved := List.countP_eq_length.1 hall t hmem
  rw [hopen] at hresolved
  cases hresolved

/-- What is resolved was so before or stood where the thing did that now is. -/
theorem Resolves.forall_resolved (h : w.Resolves w' t) {P : Nat → Prop} (ht : P t.position)
    (hw : ∀ u ∈ w.things, u.resolved = true → P u.position) :
    ∀ u ∈ w'.things, u.resolved = true → P u.position := by
  obtain ⟨-, front, back, hthings, hresolved⟩ := h
  intro u hu hres
  rw [hresolved] at hu
  rcases List.mem_append.1 hu with hfront | hrest
  · exact hw u (by simp [hthings, hfront]) hres
  · rcases List.mem_cons.1 hrest with rfl | hback
    · exact ht
    · exact hw u (by simp [hthings, hback]) hres

end World

namespace Bridge

/-- The only flag is the number of the planks that are repaired, and the wizard has come to all
of them. -/
structure Tally (w : World) (n : Number) : Prop where
  flag_eq : w.flag? repairedFlag = some (.number n)
  no_other : ∀ name, name ≠ repairedFlag → w.flag? name = none
  val_eq : n.val = w.things.countP Thing.resolved
  reached : ∀ t ∈ w.things, t.resolved = true → t.position ≤ w.position

variable {w w' : World} {s : Scene} {n : Number}

/-! ## What every block keeps -/

theorem Tally.of_eq (h : Tally w n) (hthings : w'.things = w.things) (hflags : w'.flags = w.flags)
    (hposition : w.position ≤ w'.position) : Tally w' n := by
  refine ⟨?_, ?_, ?_, ?_⟩
  · rw [World.flag?, hflags]
    exact h.flag_eq
  · intro name hname
    rw [World.flag?, hflags]
    exact h.no_other name hname
  · rw [hthings]
    exact h.val_eq
  · rw [hthings]
    exact fun t ht hresolved => Nat.le_trans (h.reached t ht hresolved) hposition

/-- A plank that is repaired is counted. -/
theorem Tally.repair (h : Tally s.world n) (hids : (s.world.things.map Thing.id).Nodup)
    (hfew : s.world.things.length < 0x8000000000000000) :
    ∃ n', Tally (repair s).2.world n' := by
  unfold Bridge.repair
  split
  · exact ⟨n, h⟩
  · rename_i plank hfound
    obtain ⟨hmem, hopen, hhere⟩ := World.of_unresolvedHere? hfound
    have hresolves := World.resolves_resolve hids hmem hopen
    have hcount := hresolves.countP_resolved
    have hless := hresolves.countP_lt_length
    have hval := h.val_eq
    have hnext : n.succWrap.val = n.val + 1 := Number.val_succWrap (by omega)
    have hbefore : ((s.world.flag? repairedFlag).bind Value.number?).getD .zero = n := by
      rw [h.flag_eq]
      rfl
    rw [hbefore]
    refine ⟨n.succWrap, ?_, ?_, ?_, ?_⟩
    · exact Bindings.get?_insert_self _ _ _
    · intro name hname
      exact (Bindings.get?_insert_of_ne _ _ hname).trans (h.no_other name hname)
    · show _ = ((s.world.resolve plank.id).things.countP Thing.resolved : Int)
      omega
    · exact hresolves.forall_resolved (P := (· ≤ s.world.position)) (Nat.le_of_eq hhere) h.reached

theorem Tally.perform (h : Tally s.world n) (hids : (s.world.things.map Thing.id).Nodup)
    (hfew : s.world.things.length < 0x8000000000000000) (op : Op) :
    ∃ n', Tally (perform op s).2.world n' := by
  unfold Bridge.perform
  split
  · exact h.repair hids hfew
  · exact ⟨n, h⟩

/-- Whatever block runs, the planks are counted behind it if they were before. -/
theorem Tally.run (h : Tally s.world n) (hleads : world.LeadsTo s.world) (b : Block)
    (answer : Option Bool) : ∃ n', Tally (b.run rules answer s).scene.world n' := by
  have hids : (s.world.things.map Thing.id).Nodup := hleads.nodup (by decide +kernel)
  have hlength : s.world.things.length = planks := by
    have hsame := congrArg List.length hleads.things_eq
    rwa [List.length_map, List.length_map] at hsame
  by_cases hcategory : b.category = .action
  · simp only [Block.run, hcategory, Block.runAction]
    split
    · exact ⟨n, h⟩
    · exact h.perform hids (by rw [hlength]; decide) b.op
  · obtain ⟨hthings, hflags⟩ :=
      Block.things_flags_run_of_ne_action hcategory rules answer s
    have hchanges : b.Changes (b.run rules answer s).effect.severity s.world
        (b.run rules answer s).scene.world := Block.changes_run acted_perform b answer s
    exact ⟨n, h.of_eq hthings hflags (World.leadsTo_of_changes hchanges).position_le⟩

theorem flags_world :
    world.flags = Bindings.empty.insert repairedFlag (.number .zero) := by
  decide +kernel

theorem tally_opening : Tally world .zero where
  flag_eq := by rw [World.flag?, flags_world, Bindings.get?_insert_self]
  no_other name hname := by
    rw [World.flag?, flags_world, Bindings.get?_insert_of_ne _ _ hname, Bindings.get?_empty]
  val_eq := by decide +kernel
  reached := by decide +kernel

/-- In every state of a run the planks are counted. -/
theorem exists_tally_of_trace {program : List Placed} {events : List Event} {r : Run}
    (h : Trace rules (start program) rules.openingScene events r s) :
    world.LeadsTo s.world ∧ ∃ n, Tally s.world n := by
  apply h.keeps (P := fun s => world.LeadsTo s.world ∧ ∃ n, Tally s.world n)
    (Run.wellFormed_start program)
  · rintro placed - answer s ⟨hleads, n, htally⟩
    have hchanges : placed.block.Changes (placed.block.run rules answer s).effect.severity
        s.world (placed.block.run rules answer s).scene.world :=
      Block.changes_run acted_perform placed.block answer s
    exact ⟨hleads.trans (World.leadsTo_of_changes hchanges), htally.run hleads _ answer⟩
  · exact ⟨.refl _, .zero, tally_opening⟩

/-! ## The count and the wizard -/

/-- Of the first squares behind the start so many are not beyond a given one. -/
theorem countP_range_le (squares p : Nat) :
    (List.range squares).countP (fun i => i + 1 ≤ p) = min squares p := by
  induction squares with
  | zero => simp
  | succ squares ih =>
    rw [List.range_succ, List.countP_append, ih, List.countP_singleton]
    split <;> simp_all <;> omega

theorem map_position_world : world.things.map Thing.position = (List.range planks).map (· + 1) := by
  decide +kernel

/-- There is one plank on a square, so the count does not run ahead of the wizard. -/
theorem Tally.val_le (h : Tally w n) (hleads : world.LeadsTo w) : n.val ≤ w.position := by
  have hpositions : w.things.map Thing.position = (List.range planks).map (· + 1) := by
    have hsame := congrArg (List.map fun identity => identity.2.2) hleads.things_eq
    rw [List.map_map, List.map_map] at hsame
    exact hsame.trans map_position_world
  have hreached : w.things.countP Thing.resolved ≤
      w.things.countP (fun t => decide (t.position ≤ w.position)) :=
    List.countP_mono_left fun t ht hresolved => decide_eq_true (h.reached t ht hresolved)
  have hsquares : w.things.countP (fun t => decide (t.position ≤ w.position)) =
      min planks w.position := by
    let upTo : Nat → Bool := fun square => decide (square ≤ w.position)
    calc w.things.countP (fun t => upTo t.position)
        = (w.things.map Thing.position).countP upTo := by rw [List.countP_map]; rfl
      _ = (List.range planks).countP (fun i => upTo (i + 1)) := by
        rw [hpositions, List.countP_map]
        rfl
      _ = min planks w.position := countP_range_le planks w.position
  have hval := h.val_eq
  omega

theorem position_le_planks (hleads : world.LeadsTo w) : w.position ≤ planks := by
  have hlength : world.trackLength = planks + 1 := by decide +kernel
  have hwizard := hleads.position_lt (by decide +kernel)
  rw [hleads.trackLength_eq, hlength] at hwizard
  exact Nat.lt_succ_iff.1 hwizard

/-- Whatever the program, and however long it runs: in each of its states the flag of the
bridge counts the things that are resolved, and there is no other flag.  All of them stand
where the wizard has been, so there are at most as many as squares that the wizard has gone,
and at most ten.  So the next one is always counted by a number in range. -/
theorem play_tallied (program : List Placed) (i : Interruption) (s : Scene) :
    let p := rules.play program i s
    let world := fun events => (rules.openingScene.behind events).world
    (∀ before after, p.events = before ++ after →
      ∃ n, Tally (world before) n ∧ n.val ≤ (world before).position ∧
        (world before).position ≤ 10 ∧ n.add? .one = some n.succWrap) ∧
    ((start program).isOver = false → p.scene.world = world p.events) := by
  obtain ⟨last, s', htrace, hfinal⟩ := Rules.exists_trace_events rules program i s
  intro p world
  refine ⟨?_, ?_⟩
  · intro before after hevents
    rw [show (rules.play program i s).events = _ from hevents] at htrace
    obtain ⟨r, scene, hbefore, -⟩ := htrace.split
    obtain ⟨hleads, n, htally⟩ := exists_tally_of_trace hbefore
    rw [hbefore.scene_eq] at hleads htally
    have hval := htally.val_le hleads
    have hposition := position_le_planks hleads
    refine ⟨n, htally, hval, hposition, ?_⟩
    rw [planks] at hposition
    exact Number.ofInt?_eq_some_iff.2 (Number.val_succWrap (by omega))
  · intro haccepted
    rw [← hfinal haccepted, htrace.scene_eq]

/-- The wizard repairs each plank, the last one twice. -/
def mending : List Placed :=
  (Program.ofIds blocks
    ["repeat-10", "step-forward", "repair-plank", "end-loop", "repair-plank"]).placed

/-- The second time there is nothing to repair, and ten planks are counted. -/
theorem play_tallied_mending :
    let p := rules.play mending .never default
    p.events.length = 23 ∧ p.events = p.events ++ [] ∧
      ∃ n, Tally p.scene.world n ∧ n.val = 10 ∧ n.val ≤ p.scene.world.position := by
  intro p
  obtain ⟨hstates, hfinal⟩ := play_tallied mending .never default
  have hevents : p.events = p.events ++ [] := (List.append_nil _).symm
  obtain ⟨n, htally, hval, -⟩ := hstates p.events [] hevents
  rw [← show p.scene.world = _ from hfinal (by decide +kernel)] at htally hval
  have hcount : p.scene.world.things.countP Thing.resolved = 10 := by decide +kernel
  refine ⟨by decide +kernel, hevents, n, htally, ?_, hval⟩
  rw [htally.val_eq, hcount]
  rfl

end Bridge

end Spellbook
