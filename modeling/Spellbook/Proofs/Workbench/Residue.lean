import Spellbook.Proofs.Run.Renumbered
import Spellbook.Proofs.Workbench.Locking
set_option autoImplicit false

/-!
# What earlier runs leave for the next one

The blocks of a program are those of the catalog, the catalog is that of the level, and the
policy that is kept is the one that the setup leads to now, also when the seed has changed
(`Stocked`).  So the ids of a program say all about it but its numbers, and the setup says
all about the rules.  A program that is not refused begins in the world of its level without
variables, whatever is left on the workbench.  So the report of a run depends on the ids, the
level and what is drawn for it alone, up to the numbers of the blocks
(`reachable_without_residue`).
-/

namespace Spellbook

/-! ## Setups of one game -/

namespace Setup

variable {s s' : Setup}

/-- Both setups lead to the same game: the level, and the weather and the monsters in effect
are the same, whether they are fixed or drawn. -/
structure Alike (s s' : Setup) : Prop where
  level_eq : s.level = s'.level
  weather_eq : s.weather = s'.weather
  monsters_eq : s.monsters = s'.monsters

/-- A seed matters for what is drawn from it, and it does not matter how it came about. -/
theorem Alike.of_seed (hlevel : s.level = s'.level) (hseed : s.seed = s'.seed)
    (hweather : s.weather? = s'.weather?) (hmonsters : s.monsters? = s'.monsters?) :
    s.Alike s' := by
  refine ⟨hlevel, ?_, ?_⟩
  · rw [weather, weather, hweather, hseed]
  · rw [monsters, monsters, hmonsters, hseed]

theorem Alike.policy_eq (h : s.Alike s') : s.policy = s'.policy := by
  unfold policy
  rw [h.level_eq, h.weather_eq, h.monsters_eq]

end Setup

/-! ## Reports without numbers -/

/-- A report that does not tell a block from its copies. -/
def Report.unnumbered (r : Report) : Report :=
  { r with events := r.events.map (Event.renumber (fun _ => 0)) }

/-- Programs of the same blocks are the same but for the numbers. -/
theorem Program.map_renumber_eq {program others : List Placed}
    (h : program.map Placed.block = others.map Placed.block) :
    program.map (Placed.renumber (fun _ => 0)) = others.map (Placed.renumber (fun _ => 0)) := by
  have hplaced : Placed.renumber (fun _ => 0) = (fun b => ⟨0, b⟩) ∘ Placed.block := rfl
  rw [hplaced, ← List.map_map, ← List.map_map, h]

theorem Program.blockIds_eq (p : Program) :
    p.blockIds = (p.placed.map Placed.block).map Block.id := by
  rw [List.map_map]
  rfl

namespace Workbench

variable {w w' : Workbench} {c : Call} {i : Interruption} {report : Report}

/-! ## What stays on a workbench -/

/-- The policy that is kept is the one that the setup leads to, the catalog is that of the
level, each block of the program is the one that the catalog has under its id, and the setup
is one from which a workbench is made. -/
structure Stocked (w : Workbench) : Prop where
  policy_eq : w.policy = w.setup.policy
  catalog_eq : w.catalog = w.level.catalog
  find?_eq : ∀ placed ∈ w.program.placed, w.catalog.find? placed.block.id = some placed.block
  fit : monstersFit w.setup = .ok ()

theorem Stocked.rules_eq (hw : w.Stocked) : w.rules = w.setup.rules := by
  rw [rules, hw.policy_eq]
  rfl

theorem find?_of_offers (hw : w.Stocked) {b : Block} (h : w.Offers b) :
    w.catalog.find? b.id = some b := by
  rcases h with hold | hfound
  · obtain ⟨placed, hmem, rfl⟩ := List.mem_map.1 hold
    exact hw.find?_eq placed hmem
  · exact hfound

theorem Served.stocked (h : w.Served c w') (hw : w.Stocked) : w'.Stocked := by
  have hpolicy := hw.policy_eq
  have hcatalog := hw.catalog_eq
  cases h with
  | kept => exact hw
  | edited hidle hoffered =>
    exact ⟨hpolicy, hcatalog, fun placed hmem => find?_of_offers hw (hoffered placed hmem), hw.fit⟩
  | restored hrenews hoffered =>
    exact ⟨hpolicy, hcatalog, fun placed hmem => find?_of_offers hw (hoffered placed hmem), hw.fit⟩
  | redrawn hidle => exact ⟨rfl, hcatalog, hw.find?_eq, hw.fit⟩
  | begun hidle => exact ⟨hpolicy, hcatalog, hw.find?_eq, hw.fit⟩
  | stepped hrun hstep => exact ⟨hpolicy, hcatalog, hw.find?_eq, hw.fit⟩
  | found hrun hstep => exact ⟨hpolicy, hcatalog, hw.find?_eq, hw.fit⟩
  | stopped hrun => exact ⟨hpolicy, hcatalog, hw.find?_eq, hw.fit⟩
  | ended hidle => exact ⟨hpolicy, hcatalog, hw.find?_eq, hw.fit⟩

theorem Reachable.stocked (h : w.Reachable) : w.Stocked := by
  induction h with
  | create hcreate =>
    obtain ⟨hfit, rfl⟩ := create_eq_ok_iff.1 hcreate
    exact ⟨rfl, rfl, fun placed hmem => absurd hmem List.not_mem_nil, hfit⟩
  | call h c ih => exact (served_call _ c).stocked ih

/-- The ids of a program say which blocks of the catalog it has. -/
theorem Stocked.getAll_eq (hw : w.Stocked) :
    w.catalog.getAll w.program.blockIds = .ok (w.program.placed.map Placed.block) := by
  rw [Program.blockIds_eq]
  apply Catalog.getAll_map_id
  intro b hmem
  obtain ⟨placed, hplaced, rfl⟩ := List.mem_map.1 hmem
  exact hw.find?_eq placed hplaced

theorem Stocked.map_block_eq (hw : w.Stocked) (hw' : w'.Stocked) (hlevel : w.level = w'.level)
    (hids : w.program.blockIds = w'.program.blockIds) :
    w.program.placed.map Placed.block = w'.program.placed.map Placed.block := by
  have hcatalog : w.catalog = w'.catalog := by
    rw [hw.catalog_eq, hw'.catalog_eq, hlevel]
  have hget := hw.getAll_eq
  rw [hcatalog, hids, hw'.getAll_eq] at hget
  exact (Except.ok.inj hget).symm

/-! ## What a run reports -/

/-- To play the program now gives this report, before whatever observer. -/
def Reports (w : Workbench) (i : Interruption) (report : Report) : Prop :=
  ∀ (σ : Type) (o : Observer σ) (state : σ),
    ∃ w' state', w.playFor o i state = (.ok report, w', state')

theorem Reports.eq {other : Report} (h : w.Reports i report) (h' : w.Reports i other) :
    report = other := by
  let silent : Observer Unit := ⟨fun _ _ => (), fun _ _ => ()⟩
  obtain ⟨_, _, hplay⟩ := h Unit silent ()
  obtain ⟨_, _, hplay'⟩ := h' Unit silent ()
  rw [hplay'] at hplay
  cases hplay
  rfl

/-- The report of the program under the rules of the level, beginning in its world. -/
def openingReport (w : Workbench) (i : Interruption) : Report :=
  w.reportOf ((Run.start w.program.placed).drive w.rules i 0 0 w.rules.openingScene)

/-- The scene that is on the workbench leaves no mark in the report. -/
theorem reports_openingReport (hidle : w.isRunning = false)
    (hruns : (Run.start w.program.placed).isOver = false) (i : Interruption) :
    w.Reports i (w.openingReport i) := by
  intro σ o state
  have hplay := playFor_eq hidle o i state
  rw [Rules.play_of_not_isOver hruns] at hplay
  exact ⟨_, _, hplay⟩

theorem Stocked.rules_eq_of_alike (hw : w.Stocked) (hw' : w'.Stocked)
    (halike : w'.setup.Alike w.setup) : w'.rules = w.rules := by
  rw [rules, rules, hw'.policy_eq, hw.policy_eq, halike.policy_eq]

theorem openingReport_of_alike (hw : w.Stocked) (hw' : w'.Stocked)
    (halike : w'.setup.Alike w.setup) (hprogram : w'.program = w.program) (i : Interruption) :
    w'.openingReport i = w.openingReport i := by
  have hrules := hw.rules_eq_of_alike hw' halike
  simp only [openingReport, reportOf, level, hrules, hprogram, halike.level_eq]

/-- Programs of the same blocks have the same report but for their numbers. -/
theorem unnumbered_openingReport (hw : w.Stocked) (hw' : w'.Stocked)
    (halike : w'.setup.Alike w.setup)
    (hblocks : w'.program.placed.map Placed.block = w.program.placed.map Placed.block)
    (i : Interruption) : (w'.openingReport i).unnumbered = (w.openingReport i).unnumbered := by
  have hrules := hw.rules_eq_of_alike hw' halike
  have hunnumbered (v : Workbench) : (v.openingReport i).unnumbered =
      v.reportOf ((Run.start (v.program.placed.map (Placed.renumber (fun _ => 0)))).drive
        v.rules i 0 0 v.rules.openingScene) := by
    rw [Run.start_renumber, Run.drive_renumber]
    rfl
  rw [hunnumbered, hunnumbered, Program.map_renumber_eq hblocks]
  simp only [reportOf, level, hrules, halike.level_eq]

theorem isOver_start_eq {program others : List Placed}
    (h : program.map Placed.block = others.map Placed.block) :
    (Run.start program).isOver = (Run.start others).isOver := by
  rw [← Run.isOver_renumber (f := fun _ => 0), ← Run.start_renumber,
    Program.map_renumber_eq h, Run.start_renumber, Run.isOver_renumber]

/-- Two workbenches of the same game with the same blocks report the same of their programs,
up to the numbers, whatever was done on each of them before. -/
theorem Reachable.reports_alike (h : w.Reachable) (h' : w'.Reachable)
    (hidle' : w'.isRunning = false) (halike : w'.setup.Alike w.setup)
    (hids : w'.program.blockIds = w.program.blockIds)
    (hruns : (Run.start w.program.placed).isOver = false) (i : Interruption) :
    ∃ report', w'.Reports i report' ∧ report'.unnumbered = (w.openingReport i).unnumbered := by
  have hblocks := h'.stocked.map_block_eq h.stocked halike.level_eq hids
  have hruns' : (Run.start w'.program.placed).isOver = false := by
    rw [isOver_start_eq hblocks, hruns]
  exact ⟨_, reports_openingReport hidle' hruns' i,
    unnumbered_openingReport h.stocked h'.stocked halike hblocks i⟩

theorem Stocked.load_fresh (hw : w.Stocked) {setup : Setup} (hlevel : setup.level = w.level) :
    ∃ program,
      (fresh setup).load w.program.blockIds =
        (.ok program.numbers, { fresh setup with program := program }) ∧
      program.blockIds = w.program.blockIds := by
  have hcatalog : (fresh setup).catalog = w.catalog := by
    rw [hw.catalog_eq, fresh, hlevel]
  let blocks := w.program.placed.map Placed.block
  refine ⟨Program.empty.appendAll blocks, ?_, ?_⟩
  · simp only [load, hcatalog, hw.getAll_eq]
    rfl
  · have hblocks : (Program.empty.appendAll blocks).placed.map Placed.block = blocks :=
      Program.map_block_appendAll Program.empty blocks
    rw [Program.blockIds_eq, hblocks, ← Program.blockIds_eq]

/-- What two workbenches without a run going on report of their programs is the same up to
the numbers of the blocks, if the game is the same, the programs have the same ids and are
not refused: whatever was run, stopped, edited or drawn on each of them before.  The policy
that is kept is always that of the setup, and a draw makes it anew.  In particular a workbench
that is made anew for the same game and loads these ids reports the same, and it does not
matter whether the last run is put away or the seed in effect is drawn again before the
program is played. -/
theorem reachable_without_residue (h : w.Reachable) (h' : w'.Reachable)
    (hidle : w.isRunning = false) (hidle' : w'.isRunning = false)
    (halike : w'.setup.Alike w.setup) (hids : w'.program.blockIds = w.program.blockIds)
    (hruns : (Run.start w.program.placed).isOver = false) (i : Interruption) :
    ∃ report, w.Reports i report ∧
      (∃ report', w'.Reports i report' ∧ report'.unnumbered = report.unnumbered) ∧
      (w.policy = w.setup.policy ∧ w'.policy = w.policy ∧
        ∀ seed, (w.reseed seed).2.setup = { w.setup with seed? := some seed } ∧
          (w.reseed seed).2.policy = ({ w.setup with seed? := some seed } : Setup).policy) ∧
      (∃ made, create w.setup = .ok made) ∧
      (∀ setup made, create setup = .ok made → setup.Alike w.setup →
        ∃ numbers loaded report', made.load w.program.blockIds = (.ok numbers, loaded) ∧
          loaded.Reports i report' ∧ report'.unnumbered = report.unnumbered) ∧
      w.reset.Reports i report ∧
      ∃ again, w.reseed w.setup.seed = (.ok (), again) ∧ again.Reports i report := by
  have hpolicy : w'.policy = w.policy := by
    rw [h'.stocked.policy_eq, h.stocked.policy_eq, halike.policy_eq]
  refine ⟨w.openingReport i, reports_openingReport hidle hruns i,
    h.reports_alike h' hidle' halike hids hruns i,
    ⟨h.stocked.policy_eq, hpolicy, fun seed => ?_⟩,
    ⟨fresh w.setup, create_eq_ok_iff.2 ⟨h.stocked.fit, rfl⟩⟩, ?_, ?_, ?_⟩
  · rw [reseed_eq hidle]
    exact ⟨rfl, rfl⟩
  · intro setup made hmade hsame
    obtain ⟨program, hload, hprogram⟩ := h.stocked.load_fresh hsame.level_eq
    obtain ⟨-, rfl⟩ := create_eq_ok_iff.1 hmade
    have hloaded : Reachable { fresh setup with program := program } := by
      have hcall : (fresh setup).call (.load w.program.blockIds) =
          { fresh setup with program := program } := by
        rw [call, attempt, hload]
        rfl
      rw [← hcall]
      exact (Reachable.create hmade).call _
    obtain ⟨report', hreports, heq⟩ := h.reports_alike hloaded rfl hsame hprogram hruns i
    exact ⟨_, _, report', hload, hreports, heq⟩
  · exact reports_openingReport (w := w.reset) rfl hruns i
  · let again := w.redrawn w.setup.seed
    have hseed : w.reseed w.setup.seed = (.ok (), again) := reseed_eq hidle _
    have hagain : again.Reachable := by
      have hcall : w.call (.reseed w.setup.seed) = again := congrArg Prod.snd hseed
      rw [← hcall]
      exact h.call _
    have hsame : again.setup.Alike w.setup := .of_seed rfl rfl rfl rfl
    have hreport : again.openingReport i = w.openingReport i :=
      openingReport_of_alike h.stocked hagain.stocked hsame rfl i
    refine ⟨again, hseed, ?_⟩
    rw [← hreport]
    exact reports_openingReport (w := again) rfl hruns i

/-- A gauntlet of a goblin, a troll and a dragon. -/
def gauntlet (seed? : Option UInt32) : Setup :=
  ⟨.combat, seed?, none, none, some [.goblin, .troll, .dragon]⟩

/-- The way to the goblin, and the spell against it. -/
def goblinHunt : List String :=
  ["step-forward", "step-forward", "scan-monster", "if-goblin", "cast-fire"]

/-- The gauntlet after a hunt, with the same hunt loaded once more. -/
def hunted : Workbench :=
  (fresh (gauntlet none)).after [.load goblinHunt, .play .never, .load goblinHunt]

/-- The gauntlet after a hunt was given up with the goblin scanned and put together anew. -/
def givenUp : Workbench :=
  (fresh (gauntlet (some 9))).after
    [.append "celebrate", .append "step-forward", .append "step-forward", .append "scan-monster",
     .reseed 1, .start, .advance, .advance, .advance, .advance, .abandon,
     .remove 1, .append "if-goblin", .append "cast-fire"]

/-- The goblin that one has defeated and the other has scanned stands again for both, and
their hunts are told alike, though no block has the same number. -/
theorem hunts_without_residue :
    hunted.Reachable ∧ givenUp.Reachable ∧ givenUp.setup.Alike hunted.setup ∧
      hunted.program.numbers = [6, 7, 8, 9, 10] ∧ givenUp.program.numbers = [2, 3, 4, 5, 6] ∧
      givenUp.scene.world.target = some "monster-1" ∧
      ∃ report report', hunted.Reports .never report ∧ givenUp.Reports .never report' ∧
        report'.unnumbered = report.unnumbered ∧ report.events.length = 5 ∧
        report.final.world.resolvedIds = ["monster-1"] := by
  have hcreate (seed? : Option UInt32) :
      create (gauntlet seed?) = .ok (fresh (gauntlet seed?)) :=
    create_eq_ok_iff.2 ⟨rfl, rfl⟩
  have hreach : hunted.Reachable := (Reachable.create (hcreate none)).after _
  have hreach' : givenUp.Reachable := (Reachable.create (hcreate (some 9))).after _
  have halike : givenUp.setup.Alike hunted.setup :=
    .of_seed (by decide +kernel) (by decide +kernel) (by decide +kernel) (by decide +kernel)
  obtain ⟨report, hreports, ⟨report', hreports', heq⟩, -⟩ :=
    reachable_without_residue hreach hreach' (by decide +kernel) (by decide +kernel) halike
      (by decide +kernel) (by decide +kernel) .never
  refine ⟨hreach, hreach', halike, by decide +kernel, by decide +kernel, by decide +kernel,
    report, report', hreports, hreports', heq, ?_⟩
  rw [hreports.eq (reports_openingReport (by decide +kernel) (by decide +kernel) .never)]
  exact ⟨by decide +kernel, by decide +kernel⟩

end Workbench

end Spellbook
