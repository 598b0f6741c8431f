import Spellbook.Proofs.Run.Agreement
import Spellbook.Proofs.Run.Trace
set_option autoImplicit false

/-!
# Runs that are stopped from outside

A run that is stopped at some moment is a beginning of the same run left alone, cut at
that moment (`play_interrupted`).  Both make the same steps up to there
(`Run.drive_of_trace`), and stopping a run changes nothing but its outcome.
-/

namespace Spellbook

namespace Interruption

/-- The run is stopped before it begins. -/
def atStart : Interruption := ⟨true, none, none⟩

/-- The run is stopped during announcement `k`, or in the pause behind it. -/
def duringNotice (k : Nat) : Interruption := ⟨false, some k, none⟩

/-- The run is stopped while event `k` is told. -/
def duringEvent (k : Nat) : Interruption := ⟨false, none, some k⟩

theorem struck_atStart (notices events : Nat) : atStart.struck notices events = true := rfl

theorem struck_duringNotice {k notices events : Nat} :
    (duringNotice k).struck notices events = true ↔ 0 < k ∧ k ≤ notices := by
  simp [duringNotice, struck]

theorem struck_duringEvent {k notices events : Nat} :
    (duringEvent k).struck notices events = true ↔ 0 < k ∧ k ≤ events := by
  simp [duringEvent, struck]

/-- A run with so many events is over before it is stopped. -/
def Misses (i : Interruption) (events : Nat) : Prop :=
  (∀ n, n ≤ events → i.struck n n = false) ∧ ∀ n, n < events → i.struck (n + 1) n = false

theorem misses_duringNotice {k events : Nat} (h : events < k) :
    (duringNotice k).Misses events := by
  constructor <;> intro n hn <;>
    rw [← Bool.not_eq_true, struck_duringNotice] <;> omega

theorem misses_duringEvent {k events : Nat} (h : events < k) :
    (duringEvent k).Misses events := by
  constructor <;> intro n hn <;>
    rw [← Bool.not_eq_true, struck_duringEvent] <;> omega

end Interruption

/-- What is seen is a whole run up to an announcement and up to an event, with the scene
as it was then. -/
structure Playback.CutAt (p whole : Playback) (opening : Scene) (notices events : Nat) :
    Prop where
  notices_eq : p.notices = (whole.events.take notices).map Event.notice
  events_eq : p.events = whole.events.take events
  scene_eq : p.scene = opening.behind (whole.events.take events)

namespace Run

/-- How a run ends that is stopped from outside. -/
def stopped : Outcome := .failure .cancelled "The run was stopped before it finished."

theorem outcome_cancel {r : Run} (h : r.isOver = false) : r.cancel.outcome = stopped := by
  simp [cancel, h, stopped]

end Run

namespace Rules

open Interruption
open Run (start Trace stopped)

variable {rules : Rules} {program : List Placed} {i : Interruption}

theorem play_of_trace {events : List Event} {r : Run} {s' : Scene}
    (hover : (start program).isOver = false)
    (h : Trace rules (start program) rules.openingScene events r s')
    (hquiet : ∀ n, n < events.length → i.struck n n = false ∧ i.struck (n + 1) n = false)
    (s : Scene) :
    rules.play program i s =
      (r.drive rules i events.length events.length s').precededBy events := by
  have hdrive := Run.drive_of_trace (n := 0) h (fun n _ hn => hquiet n (by omega))
  rw [play_of_not_isOver hover, hdrive, Nat.zero_add]

/-! ## Cutting a run at a moment -/

/-- Stopping a run that is over by then changes nothing. -/
theorem play_of_misses (hover : (start program).isOver = false) {s : Scene}
    (h : i.Misses (rules.play program .never s).events.length) :
    rules.play program i s = rules.play program .never s := by
  obtain ⟨events, last, r', s', htrace, hlast, hwhole⟩ := exists_trace_play hover rules s
  rw [hwhole] at h ⊢
  have hquiet : ∀ n, n < events.length → i.struck n n = false ∧ i.struck (n + 1) n = false :=
    fun n hn => ⟨h.1 n (Nat.le_of_lt hn), h.2 n hn⟩
  rw [play_of_trace hover htrace hquiet s,
    Run.drive_of_finished (h.1 _ (Nat.le_refl _)) hlast]
  simp [Playback.precededBy]

/-- A run that is stopped before it begins. -/
theorem play_atStart (hover : (start program).isOver = false) (rules : Rules) (s : Scene) :
    let p := rules.play program .atStart s
    p.CutAt (rules.play program .never s) rules.openingScene 0 0 ∧
      p.run.outcome = stopped := by
  have hplay : rules.play program .atStart s =
      ⟨[], [], (start program).cancel, rules.openingScene⟩ := by
    rw [play_of_not_isOver hover, Run.drive_of_struck (struck_atStart 0 0)]
  rw [hplay]
  exact ⟨⟨rfl, rfl, rfl⟩, Run.outcome_cancel hover⟩

/-- A run that is stopped between announcement `k + 1` and its event. -/
theorem play_duringNotice (hover : (start program).isOver = false) {k : Nat} {s : Scene}
    (hk : k < (rules.play program .never s).events.length) :
    let p := rules.play program (.duringNotice (k + 1)) s
    p.CutAt (rules.play program .never s) rules.openingScene (k + 1) k ∧
      p.run.outcome = stopped := by
  obtain ⟨events, last, r', s', htrace, -, hwhole⟩ := exists_trace_play hover rules s
  rw [hwhole] at hk ⊢
  change k < events.length at hk
  obtain ⟨r, scene, next, hbefore, hstep, -⟩ := htrace.step_of_lt hk
  obtain ⟨line, round, hmade⟩ := Run.made_of_step_eq hstep
  have hlength : (events.take k).length = k := List.length_take_of_le (Nat.le_of_lt hk)
  have hquiet : ∀ n m, n ≤ k → (duringNotice (k + 1)).struck n m = false := by
    intro n m hn
    rw [← Bool.not_eq_true, struck_duringNotice]
    omega
  have hplay := play_of_trace hover hbefore
    (fun n hn => ⟨hquiet n n (by omega), hquiet (n + 1) n (by omega)⟩) s
  rw [hlength, Run.drive_of_struck_between (hquiet k k (Nat.le_refl k))
    (Run.upcoming_of_step_eq hstep)
    (struck_duringNotice.2 ⟨Nat.succ_pos k, Nat.le_refl _⟩)] at hplay
  rw [hplay]
  refine ⟨⟨?_, ?_, hbefore.scene_eq⟩, Run.outcome_cancel hmade.isOver_eq⟩
  · rw [List.take_succ_eq_append_getElem hk, List.map_append]
    rfl
  · exact List.append_nil _

/-- A run that is stopped while event `k + 1` is told: if it was over with this event, it
stays as it is. -/
theorem play_duringEvent (hover : (start program).isOver = false) {k : Nat} {s : Scene}
    (hk : k < (rules.play program .never s).events.length) :
    let whole := rules.play program .never s
    let p := rules.play program (.duringEvent (k + 1)) s
    p.CutAt whole rules.openingScene (k + 1) (k + 1) ∧
      ∃ r scene, Trace rules (start program) rules.openingScene (whole.events.take k) r scene ∧
        (r.cursor.Ends rules whole.events[k] → p = whole) ∧
        (¬ r.cursor.Ends rules whole.events[k] → p.run.outcome = stopped) := by
  obtain ⟨events, last, r', s', htrace, hlast, hwhole⟩ := exists_trace_play hover rules s
  simp only [hwhole] at hk ⊢
  obtain ⟨r, scene, next, hbefore, hstep, hafter⟩ := htrace.step_of_lt hk
  obtain ⟨line, round, hmade⟩ := Run.made_of_step_eq hstep
  have hupto : Trace rules (start program) rules.openingScene (events.take (k + 1)) next
      events[k].scene := by
    rw [List.take_succ_eq_append_getElem hk]
    exact hbefore.append (.cons hstep (.nil next _))
  have hlength : (events.take (k + 1)).length = k + 1 := List.length_take_of_le hk
  have hquiet : ∀ n m, m ≤ k → (duringEvent (k + 1)).struck n m = false := by
    intro n m hm
    rw [← Bool.not_eq_true, struck_duringEvent]
    omega
  have hplay := play_of_trace hover hupto
    (fun n hn => ⟨hquiet n n (by omega), hquiet (n + 1) n (by omega)⟩) s
  rw [hlength, Run.drive_of_struck
    (struck_duringEvent.2 ⟨Nat.succ_pos k, Nat.le_refl _⟩)] at hplay
  rw [hplay]
  refine ⟨⟨by simp [Playback.precededBy], by simp [Playback.precededBy], hupto.scene_eq⟩,
    r, scene, hbefore, ?_, ?_⟩
  · intro hends
    -- Behind an event that ends the run nothing follows, and to stop it does nothing.
    have hended : next.isOver = true := hmade.isOver_iff.2 hends
    obtain ⟨hdrop, rfl, rfl⟩ := hafter.of_isOver hended
    have htake : events.take (k + 1) = events :=
      List.take_of_length_le (List.drop_eq_nil_iff.1 hdrop)
    have hrun : r' = last := by
      rw [Run.step_of_isOver hended] at hlast
      exact congrArg (fun answer => answer.2.1) hlast.symm
    simp [Playback.precededBy, htake, Run.cancel_of_isOver hended, hrun]
  · intro hends
    exact Run.outcome_cancel (Bool.eq_false_iff.2 (fun hended => hends (hmade.isOver_iff.1 hended)))

/-- A run that is stopped from outside, before it begins, behind an announcement or while
an event is told, is the whole run up to this moment, with the scene as it was then.  It
ends as stopped, unless it was already over with its last event; and a moment that the
whole run never comes to changes nothing. -/
theorem play_interrupted (hne : program ≠ [])
    (hflat : Plan.Unnested (program.map (fun placed => placed.block.category)))
    (rules : Rules) (s : Scene) :
    let whole := rules.play program .never s
    let cut := fun i => rules.play program i s
    let opening := rules.openingScene
    ((cut .atStart).CutAt whole opening 0 0 ∧ (cut .atStart).run.outcome = stopped) ∧
    (∀ k, k < whole.events.length →
      (cut (.duringNotice (k + 1))).CutAt whole opening (k + 1) k ∧
        (cut (.duringNotice (k + 1))).run.outcome = stopped) ∧
    (∀ k (_ : k < whole.events.length),
      (cut (.duringEvent (k + 1))).CutAt whole opening (k + 1) (k + 1) ∧
        ∃ r scene, Trace rules (start program) opening (whole.events.take k) r scene ∧
          (r.cursor.Ends rules whole.events[k] → cut (.duringEvent (k + 1)) = whole) ∧
          (¬ r.cursor.Ends rules whole.events[k] →
            (cut (.duringEvent (k + 1))).run.outcome = stopped)) ∧
    ∀ k, whole.events.length ≤ k →
      cut (.duringNotice (k + 1)) = whole ∧ cut (.duringEvent (k + 1)) = whole := by
  have hover := Run.isOver_start_eq_false hne hflat
  intro whole cut opening
  refine ⟨play_atStart hover rules s, fun k hk => play_duringNotice hover hk,
    fun k hk => play_duringEvent hover hk, fun k hk => ⟨?_, ?_⟩⟩
  · exact play_of_misses hover (misses_duringNotice (Nat.lt_succ_of_le hk))
  · exact play_of_misses hover (misses_duringEvent (Nat.lt_succ_of_le hk))

/-- The crossing of the bridge, stopped behind its fourth announcement, and stopped too
late. -/
theorem play_crossing_interrupted :
    Run.crossing ≠ [] ∧
      Plan.Unnested (Run.crossing.map (fun placed => placed.block.category)) ∧
      let whole := Bridge.rules.play Run.crossing .never Bridge.rules.openingScene
      let p := Bridge.rules.play Run.crossing (.duringNotice 4) Bridge.rules.openingScene
      p.events = whole.events.take 3 ∧ p.scene.world.position = 1 ∧ p.run.outcome = stopped ∧
        Bridge.rules.play Run.crossing (.duringEvent 40) Bridge.rules.openingScene = whole := by
  have hne : Run.crossing ≠ [] := by decide +kernel
  have hflat : Plan.Unnested (Run.crossing.map (fun placed => placed.block.category)) :=
    (Plan.exists_ofProgram_iff Run.crossing).1 ⟨_, rfl⟩
  obtain ⟨-, hnotice, -, hlate⟩ :=
    play_interrupted hne hflat Bridge.rules Bridge.rules.openingScene
  obtain ⟨hcut, hstopped⟩ := hnotice 3 (by decide +kernel)
  refine ⟨hne, hflat, hcut.events_eq, ?_, hstopped, (hlate 39 (by decide +kernel)).2⟩
  rw [hcut.scene_eq]
  decide +kernel

end Rules

end Spellbook
