import Spellbook.Proofs.Workbench.Playing
set_option autoImplicit false

/-!
# Calls on a workbench

Whoever holds a workbench may edit its program, put its last run away, draw the level anew,
and begin, advance, abandon or play a run, in any order.  A call that is refused leaves the
workbench as it was (`attempt_of_error`).  `Served` lists all that a call can make of a
workbench and `served_call` reads it off, so other proofs hardly open the operations.
-/

namespace Spellbook

namespace Workbench

/-- A call on a workbench.  A run is played before some observer, which makes no difference
to the workbench. -/
inductive Call where
  | append (id : String)
  | remove (number : Nat)
  | clear
  | load (ids : List String)
  | reset
  | resetAll
  | reseed (seed : UInt32)
  | start
  | advance
  | abandon
  | play (i : Interruption)
  deriving DecidableEq, Inhabited

namespace Call

/-- The fault with which a workbench refuses the call while a run is going on, if it does. -/
def lock? : Call → Option Fault
  | append _ | remove _ | clear | load _ => some .programLocked
  | reseed _ | start | play _ => some .runInProgress
  | reset | resetAll | advance | abandon => none

/-- Whether the call puts the last run away or begins another one. -/
def renews : Call → Bool
  | reset | resetAll | reseed _ | start | play _ => true
  | append _ | remove _ | clear | load _ | advance | abandon => false

end Call

variable {w w' : Workbench} {c : Call} {fault : Fault}

/-- An answer of which only is told whether it is a fault. -/
def plain {α : Type} (answer : Except Fault α × Workbench) : Except Fault Unit × Workbench :=
  (answer.1.map (fun _ => ()), answer.2)

theorem plain_eq_ok_iff {α : Type} {answer : Except Fault α × Workbench} :
    plain answer = (.ok (), w') ↔ ∃ a, answer = (.ok a, w') := by
  obtain ⟨result, w⟩ := answer
  cases result <;> simp [plain, Except.map]

theorem plain_eq_error_iff {α : Type} {answer : Except Fault α × Workbench} :
    plain answer = (.error fault, w') ↔ answer = (.error fault, w') := by
  obtain ⟨result, w⟩ := answer
  cases result <;> simp [plain, Except.map]

/-- Whether a call is refused and with which fault, and the workbench that it leaves. -/
def attempt (w : Workbench) : Call → Except Fault Unit × Workbench
  | .append id => plain (w.append id)
  | .remove number => plain (w.remove number)
  | .clear => w.clear
  | .load ids => plain (w.load ids)
  | .reset => (.ok (), w.reset)
  | .resetAll => (.ok (), w.resetAll)
  | .reseed seed => w.reseed seed
  | .start => plain w.start
  | .advance => plain w.advance
  | .abandon => (.ok (), w.abandon.2)
  | .play i => plain (w.play i)

/-- The workbench after a call. -/
def call (w : Workbench) (c : Call) : Workbench := (w.attempt c).2

/-- The workbench after some calls. -/
def after (w : Workbench) (calls : List Call) : Workbench := calls.foldl call w

@[simp] theorem after_nil (w : Workbench) : w.after [] = w := rfl

@[simp] theorem after_cons (w : Workbench) (c : Call) (rest : List Call) :
    w.after (c :: rest) = (w.call c).after rest := rfl

theorem call_of_attempt {answer : Except Fault Unit} (h : w.attempt c = (answer, w')) :
    w.call c = w' := by
  rw [call, h]

/-- A workbench that some setup and some calls lead to. -/
inductive Reachable : Workbench → Prop
  | create {setup : Setup} {w : Workbench} (h : create setup = .ok w) : Reachable w
  | call {w : Workbench} (h : Reachable w) (c : Call) : Reachable (w.call c)

theorem Reachable.after (h : w.Reachable) (calls : List Call) : (w.after calls).Reachable := by
  induction calls generalizing w with
  | nil => exact h
  | cons c rest ih => exact ih (h.call c)

theorem create_eq_ok_iff {setup : Setup} :
    create setup = .ok w ↔ monstersFit setup = .ok () ∧ w = fresh setup := by
  have hcatalog : Catalog.ofBlocks setup.policy.rules setup.policy.rules.blocks =
      .ok setup.level.catalog := setup.ofBlocks_rules
  unfold create
  simp only [hcatalog]
  cases hfit : monstersFit setup with
  | error fault => simp
  | ok fits =>
    simp only [Except.ok.injEq, true_and]
    exact eq_comm

/-! ## Whether a run is going on -/

theorem isRunning_eq_true_iff :
    w.isRunning = true ↔ ∃ r, w.run? = some r ∧ r.isOver = false := by
  unfold isRunning
  cases w.run? <;> simp

theorem isRunning_eq_false_iff :
    w.isRunning = false ↔ ∀ r, w.run? = some r → r.isOver = true := by
  unfold isRunning
  cases w.run? <;> simp

/-! ## Calls that are refused -/

theorem append_of_isRunning (h : w.isRunning = true) (id : String) :
    w.append id = (.error .programLocked, w) := by
  simp [append, h]

theorem remove_of_isRunning (h : w.isRunning = true) (number : Nat) :
    w.remove number = (.error .programLocked, w) := by
  simp [remove, h]

theorem load_of_isRunning (h : w.isRunning = true) (ids : List String) :
    w.load ids = (.error .programLocked, w) := by
  simp [load, h]

theorem start_of_isRunning (h : w.isRunning = true) : w.start = (.error .runInProgress, w) := by
  simp [start, h]

theorem play_of_isRunning (h : w.isRunning = true) (i : Interruption) :
    w.play i = (.error .runInProgress, w) := by
  simp [play, start_of_isRunning h]

theorem attempt_of_isRunning (h : w.isRunning = true) (hlock : c.lock? = some fault) :
    w.attempt c = (.error fault, w) := by
  cases c with
  | append id => cases hlock; rw [attempt, append_of_isRunning h]; rfl
  | remove number => cases hlock; rw [attempt, remove_of_isRunning h]; rfl
  | clear => cases hlock; simp [attempt, clear, h]
  | load ids => cases hlock; rw [attempt, load_of_isRunning h]; rfl
  | reseed seed => cases hlock; simp [attempt, reseed, h]
  | start => cases hlock; rw [attempt, start_of_isRunning h]; rfl
  | play i => cases hlock; rw [attempt, play_of_isRunning h]; rfl
  | reset => cases hlock
  | resetAll => cases hlock
  | advance => cases hlock
  | abandon => cases hlock

theorem isRunning_of_attempt (h : w.attempt c = (.ok (), w')) (hlock : c.lock? = some fault) :
    w.isRunning = false := by
  cases hrunning : w.isRunning with
  | false => rfl
  | true =>
    rw [attempt_of_isRunning hrunning hlock] at h
    cases h

theorem playFor_of_isRunning {σ : Type} (h : w.isRunning = true) (o : Observer σ)
    (i : Interruption) (state : σ) :
    w.playFor o i state = (.error .runInProgress, w, state) := by
  simp [playFor, start_of_isRunning h]

/-- Without a run going on, only a block that the catalog lacks is refused, and an advance
without any run; all is left as it was. -/
theorem refused_of_not_isRunning (h : w.isRunning = false)
    (hfault : (w.attempt c).1 = .error fault) :
    w.attempt c = (.error fault, w) ∧
      ((∃ id, fault = .blockUnknown id w.catalog.level) ∨ fault = .noActiveRun) := by
  cases c with
  | append id =>
    cases hget : w.catalog.get id with
    | ok b => simp [attempt, plain, append, h, hget, Except.map] at hfault
    | error unknown =>
      have hrefused : w.append id = (.error unknown, w) := by simp [append, h, hget]
      rw [attempt, hrefused] at hfault ⊢
      cases hfault
      exact ⟨rfl, .inl ⟨id, Catalog.fault_of_get hget⟩⟩
  | load ids =>
    cases hget : w.catalog.getAll ids with
    | ok blocks => simp [attempt, plain, load, h, hget, Except.map] at hfault
    | error unknown =>
      have hrefused : w.load ids = (.error unknown, w) := by simp [load, h, hget]
      rw [attempt, hrefused] at hfault ⊢
      cases hfault
      exact ⟨rfl, .inl (Catalog.fault_of_getAll hget)⟩
  | advance =>
    cases hrun : w.run? with
    | some r => simp [attempt, plain, advance, hrun, Except.map] at hfault
    | none =>
      have hrefused : w.advance = (.error .noActiveRun, w) := by simp [advance, hrun]
      rw [attempt, hrefused] at hfault ⊢
      cases hfault
      exact ⟨rfl, .inr rfl⟩
  | remove number => simp [attempt, plain, remove, h, Except.map] at hfault
  | clear => simp [attempt, clear, h] at hfault
  | reset => simp [attempt] at hfault
  | resetAll => simp [attempt] at hfault
  | reseed seed => simp [attempt, reseed, h] at hfault
  | start => simp [attempt, plain, start, h, Except.map] at hfault
  | abandon => simp [attempt] at hfault
  | play i => simp [attempt, plain, play_eq h, Except.map] at hfault

/-- A call that is refused leaves all as it was. -/
theorem attempt_of_error (hfault : (w.attempt c).1 = .error fault) :
    w.attempt c = (.error fault, w) := by
  cases hrunning : w.isRunning with
  | false => exact (refused_of_not_isRunning hrunning hfault).1
  | true =>
    cases hlock : c.lock? with
    | some lock =>
      have hrefused := attempt_of_isRunning hrunning hlock
      rw [hrefused] at hfault ⊢
      cases hfault
      rfl
    | none =>
      -- A run that is going on can be advanced.
      obtain ⟨r, hrun, -⟩ := isRunning_eq_true_iff.1 hrunning
      cases c with
      | reset => simp [attempt] at hfault
      | resetAll => simp [attempt] at hfault
      | advance => simp [attempt, plain, advance, hrun, Except.map] at hfault
      | abandon => simp [attempt] at hfault
      | _ => cases hlock

/-- A call is done or refused. -/
theorem attempt_cases (w : Workbench) (c : Call) :
    w.attempt c = (.ok (), w.call c) ∨ ∃ fault, w.attempt c = (.error fault, w) := by
  rcases hattempt : w.attempt c with ⟨answer, w'⟩
  cases answer with
  | ok done =>
    rw [call_of_attempt hattempt]
    exact .inl rfl
  | error fault =>
    have hkept := attempt_of_error (show (w.attempt c).1 = .error fault by rw [hattempt])
    exact .inr ⟨fault, hattempt.symm.trans hkept⟩

/-! ## What the answers say of the program -/

theorem append_eq_ok_iff {id : String} {n : Nat} :
    w.append id = (.ok n, w') ↔
      w.isRunning = false ∧ ∃ b, w.catalog.find? id = some b ∧ n = w.program.nextNumber ∧
        w' = { w with program := w.program.append b } := by
  cases hrunning : w.isRunning with
  | true => simp [append, hrunning]
  | false =>
    cases hget : w.catalog.get id with
    | error fault =>
      have hnone : ∀ b, w.catalog.find? id ≠ some b := by
        intro b hfound
        rw [Catalog.get_eq_ok_iff.2 hfound] at hget
        cases hget
      simp [append, hrunning, hget, hnone]
    | ok b =>
      simp [append, hrunning, hget, Catalog.get_eq_ok_iff.1 hget, eq_comm]

theorem load_eq_ok_iff {ids : List String} {numbers : List Nat} :
    w.load ids = (.ok numbers, w') ↔
      w.isRunning = false ∧ ∃ blocks, w.catalog.getAll ids = .ok blocks ∧
        w' = { w with program := w.program.clear.appendAll blocks } ∧
        numbers = w'.program.numbers := by
  cases hrunning : w.isRunning with
  | true => simp [load, hrunning]
  | false =>
    cases hget : w.catalog.getAll ids with
    | error fault => simp [load, hrunning, hget]
    | ok blocks =>
      simp only [load, hrunning, hget, Bool.false_eq_true, if_false, Prod.mk.injEq,
        Except.ok.injEq, true_and, exists_eq_left']
      constructor
      · rintro ⟨rfl, rfl⟩
        exact ⟨rfl, rfl⟩
      · rintro ⟨rfl, rfl⟩
        exact ⟨rfl, rfl⟩

theorem remove_eq_ok_iff {n : Nat} {found : Bool} :
    w.remove n = (.ok found, w') ↔
      w.isRunning = false ∧ found = w.program.has n ∧
        w' = { w with program := w.program.remove n } := by
  cases hrunning : w.isRunning with
  | true => simp [remove, hrunning]
  | false => simp [remove, hrunning, eq_comm]

theorem clear_eq_ok_iff :
    w.clear = (.ok (), w') ↔
      w.isRunning = false ∧ w' = { w with program := w.program.clear } := by
  cases hrunning : w.isRunning with
  | true => simp [clear, hrunning]
  | false => simp [clear, hrunning, eq_comm]

theorem program_advance (w : Workbench) : w.advance.2.program = w.program := by
  unfold advance
  split <;> rfl

theorem program_abandon (w : Workbench) : w.abandon.2.program = w.program := by
  unfold abandon
  split
  · rfl
  · split <;> rfl

/-! ## What a call makes of a workbench -/

/-- A block that stood in the program before, or one that the catalog has. -/
def Offers (w : Workbench) (b : Block) : Prop :=
  b ∈ w.program.placed.map Placed.block ∨ w.catalog.find? b.id = some b

/-- The workbench with another seed and what is drawn from it, at its opening scene. -/
def redrawn (w : Workbench) (seed : UInt32) : Workbench :=
  { w with
    setup := { w.setup with seed? := some seed }
    policy := ({ w.setup with seed? := some seed } : Setup).policy }.reset

theorem reseed_eq (h : w.isRunning = false) (seed : UInt32) :
    w.reseed seed = (.ok (), w.redrawn seed) := by
  simp [reseed, h, redrawn]

/-- All that a call can make of a workbench. -/
inductive Served (w : Workbench) : Call → Workbench → Prop
  /-- The call was refused, or there was no run to abandon. -/
  | kept {c : Call} : Served w c w
  /-- The program was edited. -/
  | edited {c : Call} {program : Program} (hidle : w.isRunning = false)
      (hoffered : ∀ placed ∈ program.placed, w.Offers placed.block) :
      Served w c { w with program := program }
  /-- The last run was put away, perhaps with the program. -/
  | restored {c : Call} {program : Program} (hrenews : c.renews = true)
      (hoffered : ∀ placed ∈ program.placed, w.Offers placed.block) :
      Served w c { w.reset with program := program }
  /-- The level was drawn anew, with a policy of the new setup. -/
  | redrawn {seed : UInt32} (hidle : w.isRunning = false) : Served w (.reseed seed) (w.redrawn seed)
  | begun (hidle : w.isRunning = false) : Served w .start w.started
  | stepped {r r' : Run} {e : Event} {s : Scene} (hrun : w.run? = some r)
      (hstep : r.step w.rules w.scene = (.step e, r', s)) :
      Served w .advance { w with run? := some r', scene := s, history := w.history ++ [e] }
  /-- The run was found over, or came to its end just now. -/
  | found {r r' : Run} {o : Outcome} (hrun : w.run? = some r)
      (hstep : r.step w.rules w.scene = (.finished o, r', w.scene)) :
      Served w .advance { w with run? := some r' }
  | stopped {r : Run} (hrun : w.run? = some r) :
      Served w .abandon { w with run? := some r.cancel }
  | ended {i : Interruption} (hidle : w.isRunning = false) :
      Served w (.play i) (w.played (w.rules.play w.program.placed i w.scene))

theorem offers_of_mem {placed : Placed} (h : placed ∈ w.program.placed) :
    w.Offers placed.block :=
  .inl (List.mem_map_of_mem h)

/-- Adding blocks of the catalog leaves only blocks that the workbench offers. -/
theorem offers_of_map_block {before program : Program} {bs : List Block}
    (hblocks : program.placed.map Placed.block = before.placed.map Placed.block ++ bs)
    (hbefore : ∀ placed ∈ before.placed, w.Offers placed.block)
    (hfound : ∀ b ∈ bs, w.catalog.find? b.id = some b) :
    ∀ placed ∈ program.placed, w.Offers placed.block := by
  intro placed hmem
  have hblock : placed.block ∈ before.placed.map Placed.block ++ bs := by
    rw [← hblocks]
    exact List.mem_map_of_mem hmem
  rcases List.mem_append.1 hblock with hold | hnew
  · obtain ⟨old, hold, heq⟩ := List.mem_map.1 hold
    rw [← heq]
    exact hbefore old hold
  · exact .inr (hfound _ hnew)

theorem served_of_error (hfault : (w.attempt c).1 = .error fault) : w.Served c (w.call c) := by
  rw [call_of_attempt (attempt_of_error hfault)]
  exact .kept

theorem served_edit (c : Call) (program : Program) (h : w.isRunning = false)
    (hattempt : w.attempt c = (.ok (), { w with program := program }))
    (hoffered : ∀ placed ∈ program.placed, w.Offers placed.block) : w.Served c (w.call c) := by
  rw [call_of_attempt hattempt]
  exact .edited h hoffered

theorem served_append (h : w.isRunning = false) (id : String) :
    w.Served (.append id) (w.call (.append id)) := by
  cases hget : w.catalog.get id with
  | error unknown =>
    have hfault : (w.attempt (.append id)).1 = .error unknown := by
      simp [attempt, plain, append, h, hget, Except.map]
    exact served_of_error hfault
  | ok b =>
    apply served_edit _ (w.program.append b) h
    · simp [attempt, plain, append, h, hget, Except.map]
    · have hfound := Catalog.get_eq_ok_iff.1 hget
      refine offers_of_map_block (Program.map_block_append _ b) (fun _ => offers_of_mem) ?_
      intro b' hmem
      obtain rfl := List.mem_singleton.1 hmem
      rw [Catalog.id_of_find? hfound, hfound]

theorem served_load (h : w.isRunning = false) (ids : List String) :
    w.Served (.load ids) (w.call (.load ids)) := by
  cases hget : w.catalog.getAll ids with
  | error unknown =>
    have hfault : (w.attempt (.load ids)).1 = .error unknown := by
      simp [attempt, plain, load, h, hget, Except.map]
    exact served_of_error hfault
  | ok blocks =>
    apply served_edit _ (w.program.clear.appendAll blocks) h
    · simp [attempt, plain, load, h, hget, Except.map]
    · exact offers_of_map_block (Program.map_block_appendAll _ blocks)
        (fun placed hmem => absurd hmem List.not_mem_nil) (Catalog.of_getAll hget).2

theorem served_remove (h : w.isRunning = false) (number : Nat) :
    w.Served (.remove number) (w.call (.remove number)) := by
  apply served_edit _ (w.program.remove number) h
  · simp [attempt, plain, remove, h, Except.map]
  · intro placed hmem
    exact offers_of_mem (List.mem_filter.1 hmem).1

theorem served_clear (h : w.isRunning = false) : w.Served .clear (w.call .clear) := by
  apply served_edit _ w.program.clear h
  · simp [attempt, clear, h]
  · intro placed hmem
    exact absurd hmem List.not_mem_nil

theorem served_advance (w : Workbench) : w.Served .advance (w.call .advance) := by
  cases hrun : w.run? with
  | none =>
    have hfault : (w.attempt .advance).1 = .error .noActiveRun := by
      simp [attempt, plain, advance, hrun, Except.map]
    exact served_of_error hfault
  | some r =>
    rcases hstep : r.step w.rules w.scene with ⟨a, r', s⟩
    cases a with
    | step e =>
      rw [call, attempt, advance_of_step hrun hstep]
      exact .stepped hrun hstep
    | finished o =>
      obtain ⟨-, -, rfl, -⟩ := Run.of_step_eq_finished hstep
      rw [call, attempt, advance_of_finished hrun hstep]
      exact .found hrun hstep

theorem abandon_of_isRunning {r : Run} (hrun : w.run? = some r) (hover : r.isOver = false) :
    w.abandon = (some r.cancel.outcome, { w with run? := some r.cancel }) := by
  simp [abandon, hrun, hover]

theorem abandon_of_not_isRunning (h : w.isRunning = false) : w.abandon = (none, w) := by
  unfold abandon
  split
  · rfl
  · rename_i r hrun
    rw [if_pos (isRunning_eq_false_iff.1 h r hrun)]

/-- All that a call can make of a workbench is in `Served`. -/
theorem served_call (w : Workbench) (c : Call) : w.Served c (w.call c) := by
  cases hrunning : w.isRunning with
  | true =>
    cases hlock : c.lock? with
    | some fault =>
      exact served_of_error (congrArg Prod.fst (attempt_of_isRunning hrunning hlock))
    | none =>
      obtain ⟨r, hrun, hover⟩ := isRunning_eq_true_iff.1 hrunning
      cases c with
      | reset => exact .restored rfl (fun _ => offers_of_mem)
      | resetAll =>
        exact .restored rfl (fun placed hmem => absurd hmem List.not_mem_nil)
      | advance => exact served_advance w
      | abandon =>
        rw [call, attempt, abandon_of_isRunning hrun hover]
        exact .stopped hrun
      | _ => cases hlock
  | false =>
    cases c with
    | append id => exact served_append hrunning id
    | remove number => exact served_remove hrunning number
    | clear => exact served_clear hrunning
    | load ids => exact served_load hrunning ids
    | reset => exact .restored rfl (fun _ => offers_of_mem)
    | resetAll =>
      exact .restored rfl (fun placed hmem => absurd hmem List.not_mem_nil)
    | reseed seed =>
      rw [call, attempt, reseed_eq hrunning]
      exact .redrawn hrunning
    | start =>
      rw [call, attempt, start_eq hrunning]
      exact .begun hrunning
    | advance => exact served_advance w
    | abandon =>
      rw [call, attempt, abandon_of_not_isRunning hrunning]
      exact .kept
    | play i =>
      rw [call, attempt, play_eq hrunning]
      exact .ended hrunning

end Workbench

end Spellbook
