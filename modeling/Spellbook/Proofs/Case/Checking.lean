import Spellbook.Proofs.Case.Messages
import Spellbook.Proofs.Checks
import Spellbook.Proofs.Text.ByteOrder
set_option autoImplicit false

/-!
# What a case accepts

A case accepts a report just if the report is as the case describes it, and otherwise the fault is
the first in a fixed order of all in which the two differ (`Case.check_exact`).
-/

namespace Spellbook

namespace Bindings

variable {b : Bindings} {name : String} {value : Value}

/-- A name has the value that it is listed with. -/
theorem get?_eq_some_iff : b.get? name = some value ↔ (name, value) ∈ b.entries := by
  obtain ⟨entries, hkeys⟩ := b
  show entries.lookup name = _ ↔ _
  induction entries with
  | nil => simp
  | cons e rest ih =>
    obtain ⟨key, held⟩ := e
    obtain ⟨hfirst, hrest⟩ := List.pairwise_cons.1 hkeys
    rw [lookup_cons_eq, List.mem_cons, ← ih hrest, Prod.mk.injEq]
    by_cases h : name = key
    · subst h
      have hnot : rest.lookup name ≠ some value := fun hlookup =>
        String.lt_irrefl name (hfirst _ ((ih hrest).1 hlookup))
      simp [hnot, eq_comm]
    · simp [h]

end Bindings

/-- The outcomes that are as expected. -/
inductive Expected.Allows : Expected → Outcome → Prop
  | success (message : String) : Allows .success (.success message)
  | failure (kind : FailureKind) (reason : String) : Allows (.failure kind) (.failure kind reason)

theorem Expected.accepts_eq_true_iff {e : Expected} {o : Outcome} :
    e.accepts o = true ↔ e.Allows o := by
  constructor
  · intro h
    cases e <;> cases o <;> simp [accepts, Outcome.isSuccess, Outcome.failureKind?] at h
    · exact .success _
    · subst h
      exact .failure _ _
  · rintro (_ | _) <;> simp [accepts, Outcome.isSuccess, Outcome.failureKind?]

/-- The place of a fault in the order in which reports are checked. -/
def CaseFault.rank : CaseFault → Nat
  | outcome .. => 0
  | steps .. => 1
  | position .. => 2
  | variable_ .. => 3
  | message .. => 4
  | _ => 5

namespace Case

/-! ## What is promised -/

/-- A variable has another value than the case expects, or none. -/
structure Unequal (c : Case) (r : Report) (name : String) (value : Value) : Prop where
  expected : c.vars.get? name = some value
  actual : r.final.vars.get? name ≠ some value

/-- The report is as the case describes it.  Texts are looked for in what the steps said, one
after the other, and last in what the outcome says. -/
structure Describes (c : Case) (r : Report) : Prop where
  outcome : c.expected.Allows r.outcome
  steps : ∀ n ∈ c.steps?, r.events.length = n
  position : ∀ n ∈ c.position?, r.final.world.position = n
  vars : ∀ name value, c.vars.get? name = some value → r.final.vars.get? name = some value
  messages : Assigned c.messages (r.events.map Event.message ++ [r.outcome.message])

/-- Something in which a report differs from what a case describes. -/
inductive Violation (c : Case) (r : Report) : CaseFault → Prop
  | outcome (h : ¬ c.expected.Allows r.outcome) : Violation c r (.outcome c.expected r.outcome)
  | steps {n : Nat} (hgiven : c.steps? = some n) (h : r.events.length ≠ n) :
      Violation c r (.steps n r.events.length)
  | position {n : Nat} (hgiven : c.position? = some n) (h : r.final.world.position ≠ n) :
      Violation c r (.position n r.final.world.position)
  | variable_ {name : String} {value : Value} (h : c.Unequal r name value)
      (hfirst : ∀ other held, c.Unequal r other held → Text.bytes name ≤ Text.bytes other) :
      Violation c r (.variable_ name value (r.final.vars.get? name))
  | message {text : String}
      (h : FirstMissing c.messages (r.events.map Event.message ++ [r.outcome.message]) text) :
      Violation c r (.message text (r.events.map Event.message ++ [r.outcome.message]))

variable {c : Case} {r : Report} {n actual : Nat} {expected : Option Nat} {e : String × Value}

/-! ## The order of the checks -/

/-- The report passes the check in this place. -/
def Passes (c : Case) (r : Report) : Nat → Prop
  | 0 => c.expected.Allows r.outcome
  | 1 => ∀ n ∈ c.steps?, r.events.length = n
  | 2 => ∀ n ∈ c.position?, r.final.world.position = n
  | 3 => ∀ name value, c.vars.get? name = some value → r.final.vars.get? name = some value
  | 4 => Assigned c.messages (observed r)
  | _ => True

theorem describes_iff : c.Describes r ↔ ∀ place, c.Passes r place := by
  constructor
  · intro h place
    match place with
    | 0 => exact h.outcome
    | 1 => exact h.steps
    | 2 => exact h.position
    | 3 => exact h.vars
    | 4 => exact h.messages
    | _ + 5 => trivial
  · exact fun h => ⟨h 0, h 1, h 2, h 3, h 4⟩

theorem not_passes {fault : CaseFault} (h : c.Violation r fault) : ¬ c.Passes r fault.rank := by
  cases h with
  | outcome h => exact h
  | steps hgiven h => exact fun hpasses => h (hpasses _ hgiven)
  | position hgiven h => exact fun hpasses => h (hpasses _ hgiven)
  | variable_ h _ => exact fun hpasses => h.actual (hpasses _ _ h.expected)
  | message h =>
    intro hpasses
    have hnone : firstMissing? c.messages (r.events.map Event.message ++ [r.outcome.message]) =
        none :=
      firstMissing?_eq_none_iff.2 hpasses
    rw [firstMissing?_eq_some_iff.2 h] at hnone
    cases hnone

theorem unique {fault other : CaseFault} (h : c.Violation r fault) (h' : c.Violation r other)
    (hrank : fault.rank = other.rank) : fault = other := by
  cases h with
  | outcome h =>
    cases h' with
    | outcome h' => rfl
    | _ => cases hrank
  | steps hgiven h =>
    cases h' with
    | steps hgiven' h' => rw [Option.some.inj (hgiven.symm.trans hgiven')]
    | _ => cases hrank
  | position hgiven h =>
    cases h' with
    | position hgiven' h' => rw [Option.some.inj (hgiven.symm.trans hgiven')]
    | _ => cases hrank
  | variable_ h hfirst =>
    cases h' with
    | variable_ h' hfirst' =>
      have hname := String.le_antisymm (Text.bytes_le_iff.1 (hfirst _ _ h'))
        (Text.bytes_le_iff.1 (hfirst' _ _ h))
      subst hname
      rw [Option.some.inj (h.expected.symm.trans h'.expected)]
    | _ => cases hrank
  | message h =>
    cases h' with
    | message h' =>
      have hsome := (firstMissing?_eq_some_iff.2 h).symm.trans (firstMissing?_eq_some_iff.2 h')
      rw [Option.some.inj hsome]
    | _ => cases hrank

theorem checks (c : Case) (r : Report) : Checks (c.Violation r) CaseFault.rank (c.Passes r) :=
  ⟨not_passes, unique⟩

/-! ## The checks one by one -/

theorem mismatch?_eq_some_iff :
    mismatch? expected actual = some n ↔ expected = some n ∧ actual ≠ n := by
  rw [mismatch?, Option.filter_eq_some_iff, decide_eq_true_iff, ne_comm]

theorem mismatch?_eq_none_iff : mismatch? expected actual = none ↔ ∀ n ∈ expected, actual = n := by
  rw [mismatch?, Option.filter_eq_none_iff]
  exact forall₂_congr fun n _ => by rw [decide_eq_true_iff, ne_eq, not_not, eq_comm]

theorem firstUnequal?_eq_find? (actual : Bindings) (es : List (String × Value)) :
    firstUnequal? actual es = es.find? (fun e => actual.get? e.1 ≠ some e.2) := by
  induction es with
  | nil => rfl
  | cons e rest ih =>
    rw [firstUnequal?, List.find?_cons, ih]
    by_cases h : actual.get? e.1 = some e.2 <;> simp [h]

theorem firstUnequal?_eq_none_iff :
    firstUnequal? r.final.vars c.vars.entries = none ↔ c.Passes r 3 := by
  rw [firstUnequal?_eq_find?, List.find?_eq_none]
  simp [Passes, Bindings.get?_eq_some_iff]

theorem unequal_of_firstUnequal? (h : firstUnequal? r.final.vars c.vars.entries = some e) :
    c.Violation r (.variable_ e.1 e.2 (r.final.vars.get? e.1)) := by
  rw [firstUnequal?_eq_find?, List.find?_eq_some_iff_append] at h
  obtain ⟨hunequal, before, after, hentries, hbefore⟩ := h
  obtain ⟨name, value⟩ := e
  have hmem : (name, value) ∈ c.vars.entries := by rw [hentries]; simp
  refine .variable_ ⟨Bindings.get?_eq_some_iff.2 hmem, by simpa using hunequal⟩ ?_
  intro other held hother
  have hkeys := c.vars.ascending
  have hin := Bindings.get?_eq_some_iff.1 hother.expected
  rw [hentries] at hkeys hin
  rw [Text.bytes_le_iff]
  rcases List.mem_append.1 hin with hin | hin
  · exact absurd hother.actual (by simpa using hbefore _ hin)
  rcases List.mem_cons.1 hin with heq | hin
  · cases heq
    exact String.le_refl _
  · have hbehind := (List.pairwise_cons.1 (List.pairwise_append.1 hkeys).2.1).1
    exact String.not_lt.1 (String.lt_asymm (hbehind _ hin))

/-- A report is accepted, or the first is told in which it differs. -/
theorem settles (c : Case) (r : Report) :
    Settles (c.Violation r) CaseFault.rank (c.Passes r) (c.check r) := by
  have hchecks := c.checks r
  unfold check
  cases haccepts : c.expected.accepts r.outcome with
  | false =>
    have hnot : ¬ c.expected.Allows r.outcome := by
      rw [← Expected.accepts_eq_true_iff, haccepts]
      decide
    exact hchecks.minimalFor (.outcome hnot) rfl nofun
  | true =>
  have houtcome : ∀ before < 1, c.Passes r before :=
    Nat.forall_lt_succ_right.2 ⟨nofun, Expected.accepts_eq_true_iff.1 haccepts⟩
  cases hsteps : mismatch? c.steps? r.events.length with
  | some n =>
    obtain ⟨hgiven, hne⟩ := mismatch?_eq_some_iff.1 hsteps
    exact hchecks.minimalFor (.steps hgiven hne) rfl houtcome
  | none =>
  have hsteps : ∀ before < 2, c.Passes r before :=
    Nat.forall_lt_succ_right.2 ⟨houtcome, mismatch?_eq_none_iff.1 hsteps⟩
  cases hposition : mismatch? c.position? r.final.world.position with
  | some n =>
    obtain ⟨hgiven, hne⟩ := mismatch?_eq_some_iff.1 hposition
    exact hchecks.minimalFor (.position hgiven hne) rfl hsteps
  | none =>
  have hposition : ∀ before < 3, c.Passes r before :=
    Nat.forall_lt_succ_right.2 ⟨hsteps, mismatch?_eq_none_iff.1 hposition⟩
  cases hvars : firstUnequal? r.final.vars c.vars.entries with
  | some e => exact hchecks.minimalFor (unequal_of_firstUnequal? hvars) rfl hposition
  | none =>
  have hvars : ∀ before < 4, c.Passes r before :=
    Nat.forall_lt_succ_right.2 ⟨hposition, firstUnequal?_eq_none_iff.1 hvars⟩
  cases hmessages : firstMissing? c.messages (observed r) with
  | some text =>
    exact hchecks.minimalFor (.message (firstMissing?_eq_some_iff.1 hmessages)) rfl hvars
  | none =>
    exact describes_iff.1 ⟨hvars 0 (by decide), hvars 1 (by decide), hvars 2 (by decide),
      hvars 3 (by decide), firstMissing?_eq_none_iff.1 hmessages⟩

/-- Whatever a case describes and a report tells: the report is accepted just if its outcome is
allowed, the steps, the last square and the variables are as expected and the texts can be assigned
to messages in their order, no two to the same.  Otherwise the first is told in which it differs:
of the variables the first in the order of bytes, and of the texts the first with which those up to
it cannot be assigned. -/
theorem check_exact (c : Case) (r : Report) :
    (c.check r = .ok () ↔ c.Describes r) ∧
      ∀ fault, c.check r = .error fault ↔ MinimalFor (c.Violation r) CaseFault.rank fault := by
  have hchecks := c.checks r
  refine ⟨?_, fun fault => hchecks.eq_error_iff (c.settles r)⟩
  rw [describes_iff, ← hchecks.exists_ok_iff (c.settles r)]
  exact ⟨fun h => ⟨(), h⟩, fun ⟨_, h⟩ => h⟩

end Case

end Spellbook
