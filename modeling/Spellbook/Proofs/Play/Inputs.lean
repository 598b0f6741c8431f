import Spellbook.Play.Screen
import Spellbook.Proofs.Workbench.Calls
set_option autoImplicit false

/-!
# What the full-screen mode makes of its inputs

Keys are pressed and the loop comes round in any order.  An input asks the workbench for one
call at most, and `Turns` lists all that it can make of the run and of what is shown of it;
`turns_take` reads it off, so no later proof opens the keys.  The status tells the reason where
an input is refused (`Turns.status_of_fault`), and only there (`Turns.tells`).
-/

namespace Spellbook

namespace Workbench

variable {w w' : Workbench} {c : Call} {fault : Fault}

/-- The fault with which a call is refused. -/
def fault? (w : Workbench) (c : Call) : Option Fault :=
  match (w.attempt c).1 with
  | .ok () => none
  | .error fault => some fault

theorem fault?_eq_some_iff : w.fault? c = some fault ↔ (w.attempt c).1 = .error fault := by
  unfold fault?
  cases (w.attempt c).1 <;> simp

theorem fault?_of_ok (h : w.attempt c = (.ok (), w')) : w.fault? c = none := by
  rw [fault?, h]

/-- An edit changes nothing but the program. -/
theorem exists_program_of_attempt (hlock : c.lock? = some .programLocked)
    (h : w.attempt c = (.ok (), w')) : ∃ program, w' = { w with program := program } := by
  have hserved := served_call w c
  rw [call_of_attempt h] at hserved
  cases hserved with
  | kept => exact ⟨w.program, rfl⟩
  | edited hidle hoffered => exact ⟨_, rfl⟩
  | restored hrenews hoffered => cases c <;> cases hlock <;> cases hrenews
  | _ => cases hlock

theorem exists_step_of_advance {e : Event} (h : w.advance = (.ok (.step e), w')) :
    ∃ r r' s, w.run? = some r ∧ r.step w.rules w.scene = (.step e, r', s) := by
  cases hrun : w.run? with
  | none => simp [advance, hrun] at h
  | some r =>
    rcases hstep : r.step w.rules w.scene with ⟨a, r', s⟩
    cases a with
    | step e' =>
      rw [advance_of_step hrun hstep] at h
      cases h
      exact ⟨r, r', s, rfl, hstep⟩
    | finished o =>
      rw [advance_of_finished hrun hstep] at h
      cases h

end Workbench

namespace Play

/-- What can come before the screen. -/
inductive Input where
  | key (k : Key)
  /-- The loop comes round, and the next step is due or not. -/
  | tick (due : Bool)
  /-- The files are changed from outside. -/
  | elsewhere (files : FileSystem)

namespace Screen

/-- The screen after an input.  A key that ends the mode changes nothing by itself. -/
def take (s : Screen) : Input → Screen
  | .key k => s.press k
  | .tick due => if due then s.tick else s
  | .elsewhere files => { s with files := files }

/-- The screen after some inputs. -/
def after (s : Screen) (inputs : List Input) : Screen := inputs.foldl take s

@[simp] theorem after_nil (s : Screen) : s.after [] = s := rfl

@[simp] theorem after_cons (s : Screen) (i : Input) (rest : List Input) :
    s.after (i :: rest) = (s.take i).after rest := rfl

theorem after_append (s : Screen) (before rest : List Input) :
    s.after (before ++ rest) = (s.after before).after rest :=
  List.foldl_append

/-! ## What an input asks for -/

/-- The call that an input makes on the workbench. -/
def call? (s : Screen) : Input → Option Workbench.Call
  | .key .enter =>
    match s.focus with
    | .program => none
    | .catalog => s.workbench.catalog.blocks[s.catalogIndex]?.map (fun b => .append b.id)
  | .key .backspace | .key .delete | .key (.char 'd') =>
    s.workbench.program.placed[s.programIndex]?.map (fun placed => .remove placed.number)
  | .key (.char 'c') => some .clear
  | .key (.char 'r') => some .start
  | .key (.char 'x') => some .abandon
  | .key (.char 'z') => some .reset
  | .key (.char 'l') =>
    match SavedProgram.loadFor s.workbench.level.name s.path s.files with
    | .ok p => some (.load p.blocks)
    | .error _ => none
  | .tick true => if s.running then some .advance else none
  | _ => none

/-- The fault of an input that works on the file of the program. -/
def fileFault? (s : Screen) : Input → Option Fault
  | .key (.char 's') =>
    match (s.workbench.save s.path s.files).1 with
    | .ok () => none
    | .error fault => some fault
  | .key (.char 'l') =>
    match SavedProgram.loadFor s.workbench.level.name s.path s.files with
    | .ok _ => none
    | .error fault => some fault
  | _ => none

/-- The fault with which an input is refused. -/
def fault? (s : Screen) (i : Input) : Option Fault :=
  ((s.call? i).bind s.workbench.fault?).or (s.fileFault? i)

variable {s s' : Screen} {w : Workbench} {i : Input} {c : Workbench.Call} {fault : Fault}

theorem fault?_of_attempt (hcall : s.call? i = some c)
    (h : s.workbench.attempt c = (.error fault, w)) : s.fault? i = some fault := by
  rw [fault?, hcall, Option.bind_some, Workbench.fault?_eq_some_iff.2 (by rw [h]), Option.some_or]

theorem fault?_of_ok (hcall : s.call? i = some c) (h : s.workbench.attempt c = (.ok (), w))
    (hfile : s.fileFault? i = none) : s.fault? i = none := by
  rw [fault?, hcall, Option.bind_some, Workbench.fault?_of_ok h, hfile, Option.or_none]

theorem fault?_of_none (hcall : s.call? i = none) : s.fault? i = s.fileFault? i := by
  rw [fault?, hcall, Option.bind_none, Option.none_or]

/-! ## Edits by keys -/

theorem addSelected_of_block {b : Block} (hfocus : s.focus = .catalog)
    (hb : s.workbench.catalog.blocks[s.catalogIndex]? = some b) :
    s.addSelected =
      match s.workbench.attempt (.append b.id) with
      | (.error fault, w) => ({ s with workbench := w } : Screen).refuse fault
      | (.ok (), w) => ({ s with
          workbench := w, programIndex := w.program.length - 1 } : Screen).say s!"added {b.id}" := by
  rw [addSelected, hfocus]
  simp only [hb, Workbench.attempt, Workbench.plain]
  rcases s.workbench.append b.id with ⟨answer, w⟩
  cases answer <;> rfl

theorem removeSelected_of_placed {placed : Placed}
    (hplaced : s.workbench.program.placed[s.programIndex]? = some placed) :
    s.removeSelected =
      match s.workbench.attempt (.remove placed.number) with
      | (.error fault, w) => ({ s with workbench := w } : Screen).refuse fault
      | (.ok (), w) => ({ s with workbench := w } : Screen).clamp.say "removed block" := by
  rw [removeSelected]
  simp only [hplaced, Workbench.attempt, Workbench.plain]
  rcases s.workbench.remove placed.number with ⟨answer, w⟩
  cases answer <;> rfl

theorem clear_eq (s : Screen) :
    s.clear =
      match s.workbench.attempt .clear with
      | (.error fault, w) => ({ s with workbench := w } : Screen).refuse fault
      | (.ok (), w) => ({ s with workbench := w } : Screen).clamp.say "program cleared" := rfl

theorem load_of_loadFor {p : SavedProgram}
    (hread : SavedProgram.loadFor s.workbench.level.name s.path s.files = .ok p) :
    s.load =
      match s.workbench.attempt (.load p.blocks) with
      | (.error fault, w) => ({ s with workbench := w } : Screen).refuse fault
      | (.ok (), w) => ({ s with workbench := w } : Screen).clamp.say s!"loaded from {s.path}" := by
  rw [load, Workbench.loadFile, hread]
  simp only [Workbench.attempt, Workbench.plain]
  rcases s.workbench.load p.blocks with ⟨answer, w⟩
  cases answer <;> rfl

/-! ## What an input changes -/

/-- The run on the workbench, and what is shown of it. -/
structure Progress where
  run? : Option Run
  history : List Event
  log : List (Severity × String)
  running : Bool
  active : Option Nat
  banner : Option (Bool × String)

/-- The run and what is shown of it. -/
def progress (s : Screen) : Progress :=
  ⟨s.workbench.run?, s.workbench.history, s.log, s.running, s.active, s.banner⟩

/-- What the screen tells when an input has been met. -/
inductive Tells (s : Screen) : String → Prop
  | nothing : Tells s s.status
  | empty : Tells s "program is empty"
  | added (id : String) : Tells s s!"added {id}"
  | removed : Tells s "removed block"
  | cleared : Tells s "program cleared"
  | saved : Tells s s!"saved to {s.path}"
  | loaded : Tells s s!"loaded from {s.path}"
  | begun : Tells s "running"
  | finished : Tells s "finished"
  | stopped : Tells s "stopped"
  | reset : Tells s "world reset"

/-- All that an input can make of the run and of what is shown of it. -/
inductive Turns (s : Screen) : Input → Screen → Prop
  /-- The input has to do with something else. -/
  | kept {i : Input} {s' : Screen} (hfault : s.fault? i = none)
      (hkeeps : s'.progress = s.progress) (htells : s.Tells s'.status)
      (hquiet : i ≠ .key (.char 'r') ∧ i ≠ .key (.char 'x')) : Turns s i s'
  | refused {i : Input} {fault : Fault} {files : FileSystem} (hfault : s.fault? i = some fault) :
      Turns s i (({ s with files := files } : Screen).refuse fault)
  | begun (hidle : s.workbench.isRunning = false) :
      Turns s (.key (.char 'r'))
        { s with
          workbench := s.workbench.started
          log := []
          banner := none
          running := true
          status := "running" }
  | stopped : Turns s (.key (.char 'x')) s.stop
  | reset : Turns s (.key (.char 'z')) s.reset
  | stepped {r r' : Run} {e : Event} {scene : Scene} (hrunning : s.running = true)
      (hrun : s.workbench.run? = some r)
      (hstep : r.step s.workbench.rules s.workbench.scene = (.step e, r', scene)) :
      Turns s (.tick true)
        { s with
          workbench :=
            { s.workbench with
              run? := some r', scene := scene, history := s.workbench.history ++ [e] }
          log := s.log ++ [(e.severity, e.description)]
          active := some e.number }
  | finished {r r' : Run} {o : Outcome} (hrunning : s.running = true)
      (hrun : s.workbench.run? = some r)
      (hstep : r.step s.workbench.rules s.workbench.scene =
        (.finished o, r', s.workbench.scene)) :
      Turns s (.tick true)
        { s with
          workbench := { s.workbench with run? := some r' }
          running := false
          active := none
          banner := some (o.isSuccess, o.description)
          status := "finished" }
  /-- There is no run to go on with. -/
  | lost (hrunning : s.running = true) (hnone : s.workbench.run? = none) :
      Turns s (.tick true) (({ s with active := none } : Screen).refuse .noActiveRun)

/-- An edit keeps the run, and so does what is shown when it is done. -/
theorem turns_edit {done : Workbench → Screen} (hcall : s.call? i = some c)
    (hlock : c.lock? = some .programLocked) (hfile : s.fileFault? i = none)
    (hquiet : i ≠ .key (.char 'r') ∧ i ≠ .key (.char 'x'))
    (hdone : ∀ w, (done w).progress = ({ s with workbench := w } : Screen).progress)
    (htells : ∀ w, s.Tells (done w).status) :
    s.Turns i (match s.workbench.attempt c with
      | (.error fault, w) => ({ s with workbench := w } : Screen).refuse fault
      | (.ok (), w) => done w) := by
  rcases s.workbench.attempt_cases c with hok | ⟨fault, hrefused⟩
  · obtain ⟨program, hprogram⟩ := Workbench.exists_program_of_attempt hlock hok
    rw [hok, hprogram]
    exact .kept (fault?_of_ok hcall hok hfile) (hdone _) (htells _) hquiet
  · rw [hrefused]
    exact .refused (fault?_of_attempt hcall hrefused)

theorem turns_addSelected (s : Screen) : s.Turns (.key .enter) s.addSelected := by
  cases hfocus : s.focus with
  | program =>
    have hcall : s.call? (.key .enter) = none := by simp [call?, hfocus]
    rw [addSelected, hfocus]
    exact .kept (fault?_of_none hcall) rfl .nothing (by simp)
  | catalog =>
    cases hb : s.workbench.catalog.blocks[s.catalogIndex]? with
    | none =>
      have hcall : s.call? (.key .enter) = none := by simp [call?, hfocus, hb]
      rw [addSelected, hfocus, hb]
      exact .kept (fault?_of_none hcall) rfl .nothing (by simp)
    | some b =>
      have hcall : s.call? (.key .enter) = some (.append b.id) := by simp [call?, hfocus, hb]
      rw [addSelected_of_block hfocus hb]
      exact turns_edit hcall rfl rfl (by simp) (fun _ => rfl) (fun _ => .added b.id)

/-- Three keys drop the selected block. -/
theorem turns_removeSelected
    (hcall : s.call? i = s.workbench.program.placed[s.programIndex]?.map
      (fun placed => .remove placed.number))
    (hfile : s.fileFault? i = none) (hquiet : i ≠ .key (.char 'r') ∧ i ≠ .key (.char 'x')) :
    s.Turns i s.removeSelected := by
  cases hplaced : s.workbench.program.placed[s.programIndex]? with
  | none =>
    rw [hplaced, Option.map_none] at hcall
    rw [removeSelected, hplaced]
    exact .kept ((fault?_of_none hcall).trans hfile) rfl .empty hquiet
  | some placed =>
    rw [hplaced, Option.map_some] at hcall
    rw [removeSelected_of_placed hplaced]
    exact turns_edit hcall rfl hfile hquiet (fun _ => rfl) (fun _ => .removed)

theorem turns_clear (s : Screen) : s.Turns (.key (.char 'c')) s.clear := by
  rw [clear_eq]
  exact turns_edit rfl rfl rfl (by simp) (fun _ => rfl) (fun _ => .cleared)

theorem turns_load (s : Screen) : s.Turns (.key (.char 'l')) s.load := by
  cases hread : SavedProgram.loadFor s.workbench.level.name s.path s.files with
  | error fault =>
    have hfault : s.fault? (.key (.char 'l')) = some fault := by
      simp [fault?, call?, fileFault?, hread]
    rw [load, Workbench.loadFile, hread]
    exact .refused hfault
  | ok p =>
    have hcall : s.call? (.key (.char 'l')) = some (.load p.blocks) := by simp [call?, hread]
    have hfile : s.fileFault? (.key (.char 'l')) = none := by simp [fileFault?, hread]
    rw [load_of_loadFor hread]
    exact turns_edit hcall rfl hfile (by simp) (fun _ => rfl) (fun _ => .loaded)

theorem turns_save (s : Screen) : s.Turns (.key (.char 's')) s.save := by
  have hcall : s.call? (.key (.char 's')) = none := rfl
  unfold save
  split
  · rename_i files hsaved
    have hfile : s.fileFault? (.key (.char 's')) = none := by simp [fileFault?, hsaved]
    exact .kept ((fault?_of_none hcall).trans hfile) rfl .saved (by simp)
  · rename_i fault files hsaved
    have hfile : s.fileFault? (.key (.char 's')) = some fault := by simp [fileFault?, hsaved]
    exact .refused ((fault?_of_none hcall).trans hfile)

/-- A run can be begun unless another one is going on. -/
theorem fault?_begin (hidle : s.workbench.isRunning = false) :
    s.fault? (.key (.char 'r')) = none := by
  have hstart : s.workbench.attempt .start = (.ok (), s.workbench.started) :=
    Workbench.plain_eq_ok_iff.2 ⟨_, Workbench.start_eq hidle⟩
  exact fault?_of_ok rfl hstart rfl

theorem turns_beginRun (s : Screen) : s.Turns (.key (.char 'r')) s.beginRun := by
  cases hrunning : s.workbench.isRunning with
  | true =>
    have hrefused : s.workbench.attempt .start = (.error .runInProgress, s.workbench) :=
      Workbench.attempt_of_isRunning hrunning rfl
    rw [beginRun, Workbench.start_of_isRunning hrunning]
    exact .refused (fault?_of_attempt rfl hrefused)
  | false =>
    rw [beginRun, Workbench.start_eq hrunning]
    exact .begun hrunning

theorem turns_moveUp (s : Screen) : s.Turns (.key .up) s.moveUp := by
  unfold moveUp
  split <;> exact .kept rfl rfl .nothing (by simp)

theorem turns_moveDown (s : Screen) : s.Turns (.key .down) s.moveDown := by
  unfold moveDown
  split <;> exact .kept rfl rfl .nothing (by simp)

theorem turns_press (s : Screen) (k : Key) : s.Turns (.key k) (s.press k) := by
  unfold press
  -- The keys come in the order of `press`, and the last case is that of all other keys.
  split
  · exact .kept rfl rfl .nothing (by simp)
  · exact .kept rfl rfl .nothing (by simp)
  · exact s.turns_moveUp
  · exact s.turns_moveDown
  · exact s.turns_addSelected
  · exact turns_removeSelected rfl rfl (by simp)
  · exact turns_removeSelected rfl rfl (by simp)
  · exact turns_removeSelected rfl rfl (by simp)
  · exact s.turns_clear
  · exact s.turns_beginRun
  · exact .stopped
  · exact .reset
  · exact s.turns_save
  · exact s.turns_load
  · have hcall : s.call? (.key k) = none := by
      unfold call?
      split <;> simp_all
    have hfile : s.fileFault? (.key k) = none := by
      unfold fileFault?
      split <;> simp_all
    refine .kept ((fault?_of_none hcall).trans hfile) rfl .nothing ?_
    constructor <;> simp_all

/-- The block that a step runs is the one that was announced, so it is shown as running. -/
theorem tick_of_step {r r' : Run} {e : Event} {scene : Scene} (hrunning : s.running = true)
    (hrun : s.workbench.run? = some r)
    (hstep : r.step s.workbench.rules s.workbench.scene = (.step e, r', scene)) :
    s.tick =
      { s with
        workbench :=
          { s.workbench with
            run? := some r', scene := scene, history := s.workbench.history ++ [e] }
        log := s.log ++ [(e.severity, e.description)]
        active := some e.number } := by
  have hupcoming : s.workbench.upcoming = some e.notice := by
    rw [Workbench.upcoming, hrun, Option.bind_some, Run.upcoming_of_step_eq hstep]
  simp [tick, hrunning, Workbench.advance_of_step hrun hstep, hupcoming, Event.notice]

theorem turns_tick (s : Screen) (hrunning : s.running = true) : s.Turns (.tick true) s.tick := by
  cases hrun : s.workbench.run? with
  | none =>
    have hlost : s.tick = ({ s with active := none } : Screen).refuse .noActiveRun := by
      simp [tick, hrunning, Workbench.advance, Workbench.upcoming, hrun]
    rw [hlost]
    exact .lost hrunning hrun
  | some r =>
    rcases hstep : r.step s.workbench.rules s.workbench.scene with ⟨a, r', scene⟩
    cases a with
    | step e =>
      rw [tick_of_step hrunning hrun hstep]
      exact .stepped hrunning hrun hstep
    | finished o =>
      obtain ⟨-, -, rfl, -⟩ := Run.of_step_eq_finished hstep
      simp only [tick, hrunning, Workbench.advance_of_finished hrun hstep]
      exact .finished hrunning hrun hstep

/-- All that an input can make of the run and of what is shown of it is in `Turns`. -/
theorem turns_take (s : Screen) (i : Input) : s.Turns i (s.take i) := by
  cases i with
  | key k => exact s.turns_press k
  | tick due =>
    cases due with
    | false => exact .kept rfl rfl .nothing (by simp)
    | true =>
      cases hrunning : s.running with
      | true => exact s.turns_tick hrunning
      | false =>
        have hcall : s.call? (.tick true) = none := by simp [call?, hrunning]
        have hidle : s.take (.tick true) = s := by simp [take, tick, hrunning]
        rw [hidle]
        exact .kept (fault?_of_none hcall) rfl .nothing (by simp)
  | elsewhere files => exact .kept rfl rfl .nothing (by simp)

/-! ## What is told -/

theorem call?_tick (hrunning : s.running = true) : s.call? (.tick true) = some .advance := by
  simp [call?, hrunning]

/-- A run can always be advanced, so no tick fails while there is one. -/
theorem fault?_tick {r : Run} (hrun : s.workbench.run? = some r) (due : Bool) :
    s.fault? (.tick due) = none := by
  have hadvances : s.workbench.fault? .advance = none := by
    simp [Workbench.fault?, Workbench.attempt, Workbench.plain, Workbench.advance, hrun, Except.map]
  have hcall : s.call? (.tick due) = none ∨ s.call? (.tick due) = some .advance := by
    cases due
    · exact .inl rfl
    · cases hrunning : s.running
      · exact .inl (by simp [call?, hrunning])
      · exact .inr (call?_tick hrunning)
  rcases hcall with hcall | hcall <;> simp [fault?, hcall, hadvances, fileFault?]

theorem fault?_tick_of_none (hrunning : s.running = true) (hnone : s.workbench.run? = none) :
    s.fault? (.tick true) = some .noActiveRun := by
  have hrefused : s.workbench.attempt .advance = (.error .noActiveRun, s.workbench) := by
    simp [Workbench.attempt, Workbench.plain, Workbench.advance, hnone, Except.map]
  exact fault?_of_attempt (call?_tick hrunning) hrefused

/-- Where an input is met, no reason is shown. -/
theorem Turns.tells (h : s.Turns i s') (hfault : s.fault? i = none) : s.Tells s'.status := by
  cases h with
  | kept hnone hkeeps htells hquiet => exact htells
  | refused hrefused =>
    rw [hrefused] at hfault
    cases hfault
  | begun hidle => exact .begun
  | stopped => exact .stopped
  | reset => exact .reset
  | stepped hrunning hrun hstep => exact .nothing
  | finished hrunning hrun hstep => exact .finished
  | lost hrunning hnone =>
    rw [fault?_tick_of_none hrunning hnone] at hfault
    cases hfault

/-- Where an input is refused, the reason is shown. -/
theorem Turns.status_of_fault (h : s.Turns i s') (hfault : s.fault? i = some fault) :
    s'.status = fault.message := by
  cases h with
  | kept hnone hkeeps htells hquiet =>
    rw [hnone] at hfault
    cases hfault
  | refused hrefused =>
    rw [hrefused] at hfault
    cases hfault
    rfl
  | begun hidle =>
    rw [fault?_begin hidle] at hfault
    cases hfault
  | stopped => cases hfault
  | reset => cases hfault
  | stepped hrunning hrun hstep =>
    rw [fault?_tick hrun] at hfault
    cases hfault
  | finished hrunning hrun hstep =>
    rw [fault?_tick hrun] at hfault
    cases hfault
  | lost hrunning hnone =>
    rw [fault?_tick_of_none hrunning hnone] at hfault
    cases hfault
    rfl

end Screen

end Play

end Spellbook
