import Spellbook.Proofs.Execution.Changes
import Spellbook.Proofs.Execution.Resolving
set_option autoImplicit false

/-!
# Exact arithmetic

A block that calculates gives its variable the exact result, or it fails and changes nothing
(`Block.calculates_runMath`); so does an ingredient that is collected, whose power is added to
the total (`Potion.collected_perform`).  What the exact result is, `Op.Computes` says in whole
numbers without a limit, and the quotient by what is left over (`CutsOff`).
-/

namespace Spellbook

/-! ## Quotients -/

/-- This quotient is cut off toward zero: what is left over is less than the divisor, and it
lies on the same side of zero as the dividend. -/
def CutsOff (a b q : Int) : Prop :=
  ∃ rest, a = b * q + rest ∧ rest.natAbs < b.natAbs ∧ (0 ≤ a → 0 ≤ rest) ∧ (a ≤ 0 → rest ≤ 0)

theorem cutsOff_iff {a b q : Int} (hb : b ≠ 0) : CutsOff a b q ↔ a.tdiv b = q := by
  constructor
  · rintro ⟨rest, hsum, hless, hnonneg, hnonpos⟩
    rcases Int.le_total 0 a with ha | ha
    · exact ((Int.tdiv_tmod_unique ha hb).2 ⟨by omega, hnonneg ha, by omega⟩).1
    · exact ((Int.tdiv_tmod_unique' ha hb).2 ⟨by omega, by omega, hnonpos ha⟩).1
  · rintro rfl
    refine ⟨a.tmod b, (Int.mul_tdiv_add_tmod a b).symm, ?_, Int.tmod_nonneg b, fun ha => ?_⟩
    · rw [Int.natAbs_tmod]
      exact Nat.mod_lt _ (Int.natAbs_pos.2 hb)
    · exact ((Int.tdiv_tmod_unique' ha hb).1 ⟨rfl, rfl⟩).2.2

/-! ## What a calculation asks for and what it comes to -/

namespace Op

/-- The variables that a calculation needs, in the order in which it asks for their numbers. -/
def operands : Op → List String
  | double name | add name _ | subtract name _ => [name]
  | divideBy name divisor => [name, divisor]
  | _ => []

/-- With these variables the calculation gives this variable this value, whether there is
such a number or not. -/
inductive Computes (vars : Bindings) : Op → String → Int → Prop
  | double {name : String} {n : Number} (hname : vars.number? name = some n) :
      Computes vars (double name) name (n.val * 2)
  | add {name : String} {n amount : Number} (hname : vars.number? name = some n) :
      Computes vars (add name amount) name (n.val + amount.val)
  | subtract {name : String} {n amount : Number} (hname : vars.number? name = some n) :
      Computes vars (subtract name amount) name (n.val - amount.val)
  | divideBy {name divisor : String} {n d : Number} {q : Int}
      (hname : vars.number? name = some n) (hdivisor : vars.number? divisor = some d)
      (hzero : d.val ≠ 0) (hquotient : CutsOff n.val d.val q) :
      Computes vars (divideBy name divisor) name q

/-- The first variable that a calculation needs as a number and that holds none. -/
def unusable? (vars : Bindings) (op : Op) : Option String :=
  op.operands.find? (fun name => (vars.number? name).isNone)

variable {vars : Bindings} {op : Op} {name name' : String} {i i' : Int}

theorem Computes.unique (h : op.Computes vars name i) (h' : op.Computes vars name' i') :
    name = name' ∧ i = i' := by
  cases h with
  | double hname | add hname | subtract hname =>
    cases h' with
    | _ hname' =>
      obtain rfl := Option.some.inj (hname.symm.trans hname')
      exact ⟨rfl, rfl⟩
  | divideBy hname hdivisor hzero hquotient =>
    cases h' with
    | divideBy hname' hdivisor' hzero' hquotient' =>
      obtain rfl := Option.some.inj (hname.symm.trans hname')
      obtain rfl := Option.some.inj (hdivisor.symm.trans hdivisor')
      exact ⟨rfl, ((cutsOff_iff hzero).1 hquotient).symm.trans ((cutsOff_iff hzero).1 hquotient')⟩

/-- What comes to something has its numbers. -/
theorem Computes.unusable?_eq (h : op.Computes vars name i) : op.unusable? vars = none := by
  cases h with
  | double hname | add hname | subtract hname => simp [unusable?, operands, hname]
  | divideBy hname hdivisor hzero hquotient => simp [unusable?, operands, hname, hdivisor]

end Op

namespace Block

/-- Why this variable is of no use in a calculation. -/
inductive Lacks (label : String) (vars : Bindings) (name : String) : String → Prop
  | absent (h : vars.get? name = none) :
      Lacks label vars name
        s!"\"{label}\" uses the variable {name}, but nothing has created it yet. Add a block that sets {name} before this one."
  | noNumber {held : Value} (h : vars.get? name = some held) (hheld : held.number? = none) :
      Lacks label vars name s!"{name} holds {held}, which is not a number."

/-- What comes of a calculation: its variable gets the result, or one that it needs is of no
use, or there is no such number. -/
inductive Calculates (label : String) (op : Op) (s : Scene) : Effect → Scene → Prop
  | stores {name message : String} {n : Number} (hresult : op.Computes s.vars name n.val) :
      Calculates label op s (.done message) (s.setVariable name (.number n))
  | lacks {name reason : String} (hfirst : op.unusable? s.vars = some name)
      (hreason : Lacks label s.vars name reason) :
      Calculates label op s (.fail .missingPrecondition reason) s
  | exceeds {reason : String} (husable : op.unusable? s.vars = none)
      (hnone : ∀ name i, op.Computes s.vars name i → ¬ Number.InRange i) :
      Calculates label op s (.fail .invalidArithmetic reason) s

variable {label name shown : String} {vars : Bindings} {op : Op} {s s' : Scene}
  {effect : Effect}

theorem numberOf_eq_ok_iff {n : Number} :
    numberOf label vars name = .ok n ↔ vars.number? name = some n := by
  unfold numberOf Bindings.number?
  split
  · rename_i held hheld
    simp [hheld, Value.number?]
  · rename_i held hother hheld
    cases held with
    | number n => exact absurd rfl (hother n)
    | bool b => simp [hheld, Value.number?]
    | text t => simp [hheld, Value.number?]
  · rename_i habsent
    simp [habsent]

theorem of_numberOf_eq_error (h : numberOf label vars name = .error effect) :
    vars.number? name = none ∧
      ∃ reason, effect = .fail .missingPrecondition reason ∧ Lacks label vars name reason := by
  unfold numberOf at h
  split at h
  · cases h
  · rename_i held hother hheld
    have hnone : held.number? = none := by
      cases held with
      | number n => exact absurd rfl (hother n)
      | bool b => rfl
      | text t => rfl
    cases h
    exact ⟨by simp [Bindings.number?, hheld, hnone], _, rfl, .noNumber hheld hnone⟩
  · rename_i habsent
    cases h
    exact ⟨by simp [Bindings.number?, habsent], _, rfl, .absent habsent⟩

theorem calculates_store {i : Int} (hresult : op.Computes s.vars name i) :
    Calculates label op s (store name shown (Number.ofInt? i) s).1
      (store name shown (Number.ofInt? i) s).2 := by
  cases hn : Number.ofInt? i with
  | some n =>
    obtain rfl := Number.ofInt?_eq_some_iff.1 hn
    exact .stores hresult
  | none =>
    refine .exceeds hresult.unusable?_eq fun name' i' hresult' => ?_
    obtain ⟨-, rfl⟩ := hresult.unique hresult'
    exact Number.ofInt?_eq_none_iff.1 hn

/-- A calculation with one variable. -/
theorem calculates_unary {i : Number → Int} {shown : Number → String}
    (hoperands : op.operands = [name])
    (hresult : ∀ n, s.vars.number? name = some n → op.Computes s.vars name (i n)) :
    let done := match numberOf label s.vars name with
      | .error effect => (effect, s)
      | .ok n => store name (shown n) (Number.ofInt? (i n)) s
    Calculates label op s done.1 done.2 := by
  cases hname : numberOf label s.vars name with
  | error effect =>
    obtain ⟨hnone, reason, rfl, hreason⟩ := of_numberOf_eq_error hname
    exact .lacks (by simp [Op.unusable?, hoperands, hnone]) hreason
  | ok n => exact calculates_store (hresult n (numberOf_eq_ok_iff.1 hname))

theorem calculates_divideBy {divisor : String} (id : String) (category : Category)
    (code description : String) :
    let done := runMath ⟨id, category, label, code, description, .divideBy name divisor⟩ s
    Calculates label (.divideBy name divisor) s done.1 done.2 := by
  dsimp only [runMath]
  cases hname : numberOf label s.vars name with
  | error effect =>
    obtain ⟨hnone, reason, rfl, hreason⟩ := of_numberOf_eq_error hname
    exact .lacks (by simp [Op.unusable?, Op.operands, hnone]) hreason
  | ok n =>
    have hn := numberOf_eq_ok_iff.1 hname
    cases hdivisor : numberOf label s.vars divisor with
    | error effect =>
      obtain ⟨hnone, reason, rfl, hreason⟩ := of_numberOf_eq_error hdivisor
      exact .lacks (by simp [Op.unusable?, Op.operands, hn, hnone]) hreason
    | ok d =>
      have hd := numberOf_eq_ok_iff.1 hdivisor
      by_cases hzero : d.val = 0
      · dsimp only
        rw [if_pos hzero]
        refine .exceeds (by simp [Op.unusable?, Op.operands, hn, hd]) ?_
        rintro name' i (_ | _ | _ | ⟨hn', hd', hne, hquotient⟩)
        rw [hd] at hd'
        cases hd'
        exact absurd hzero hne
      · dsimp only
        rw [if_neg hzero, Number.div?, if_neg hzero]
        exact calculates_store (.divideBy hn hd hzero ((cutsOff_iff hzero).2 rfl))

/-- All that can come of a block that calculates. -/
theorem calculates_runMath {b : Block} (h : b.op.category = .math) (s : Scene) :
    Calculates b.label b.op s (b.runMath s).1 (b.runMath s).2 := by
  obtain ⟨id, category, label, code, description, op⟩ := b
  cases op with
  | double name => exact calculates_unary rfl fun n hn => .double hn
  | add name amount => exact calculates_unary rfl fun n hn => .add hn
  | subtract name amount => exact calculates_unary rfl fun n hn => .subtract hn
  | divideBy name divisor => exact calculates_divideBy id category code description
  | _ => cases h

/-- A calculation is exact.  It is done just if its variables have numbers, nothing is divided
by zero and the result is in range; then it changes its variable and nothing else.  If not, it
changes nothing, and it fails for the first variable that has no number, or else for the
result. -/
structure Calculated (label : String) (op : Op) (s : Scene) (effect : Effect) (s' : Scene) :
    Prop where
  isDone_iff : effect.IsDone ↔ ∃ name i, op.Computes s.vars name i ∧ Number.InRange i
  stored : ∀ name i, op.Computes s.vars name i → Number.InRange i →
    (∃ n : Number, n.val = i ∧ s'.vars.get? name = some (.number n)) ∧
      (∀ other, other ≠ name → s'.vars.get? other = s.vars.get? other) ∧ s'.world = s.world
  lacking : ∀ name, op.unusable? s.vars = some name →
    s' = s ∧ ∃ reason, effect = .fail .missingPrecondition reason ∧ Lacks label s.vars name reason
  exceeding : op.unusable? s.vars = none →
    (∀ name i, op.Computes s.vars name i → ¬ Number.InRange i) →
    s' = s ∧ ∃ reason, effect = .fail .invalidArithmetic reason

theorem Calculates.calculated (h : Calculates label op s effect s') :
    Calculated label op s effect s' := by
  cases h with
  | @stores name message n hresult =>
    have hrange : Number.InRange n.val := ⟨n.lower, n.upper⟩
    refine ⟨⟨fun _ => ⟨name, n.val, hresult, hrange⟩, fun _ => ⟨message, rfl⟩⟩, ?_, ?_, ?_⟩
    · intro name' i hresult' _
      obtain ⟨rfl, rfl⟩ := hresult.unique hresult'
      exact ⟨⟨n, rfl, s.vars.get?_insert_self name _⟩,
        fun other hother => s.vars.get?_insert_of_ne _ hother, rfl⟩
    · intro name' hlacking
      rw [hresult.unusable?_eq] at hlacking
      cases hlacking
    · intro _ hexceeds
      exact absurd hrange (hexceeds name n.val hresult)
  | @lacks name reason hfirst hreason =>
    have hnone : ∀ name' i, ¬ op.Computes s.vars name' i := by
      intro name' i hresult
      rw [hresult.unusable?_eq] at hfirst
      cases hfirst
    refine ⟨by simp [hnone], fun name' i hresult => absurd hresult (hnone name' i), ?_, ?_⟩
    · intro name' hlacking
      obtain rfl := Option.some.inj (hfirst.symm.trans hlacking)
      exact ⟨rfl, reason, rfl, hreason⟩
    · intro husable
      rw [hfirst] at husable
      cases husable
  | @exceeds reason husable hnone =>
    refine ⟨?_, fun name i hresult hrange => absurd hrange (hnone name i hresult), ?_,
      fun _ _ => ⟨rfl, reason, rfl⟩⟩
    · simpa using hnone
    · intro name hlacking
      rw [husable] at hlacking
      cases hlacking

end Block

/-! ## What is collected -/

namespace Potion

/-- An ingredient is collected exactly: its power is added to the total and the count is one
more unless it is the largest number already.  Just if the total would be out of range it fails
and changes nothing. -/
structure Collected (power total count : Number) (thing : Thing) (s : Scene) (effect : Effect)
    (s' : Scene) : Prop where
  isDone_iff : effect.IsDone ↔ Number.InRange (total.val + power.val)
  added : Number.InRange (total.val + power.val) →
    (∃ sum : Number, sum.val = total.val + power.val ∧
      s'.vars.get? "total" = some (.number sum)) ∧
    (∃ more : Number, more.val = min (count.val + 1) 0x7fffffffffffffff ∧
      s'.vars.get? "count" = some (.number more)) ∧
    (∀ other, other ≠ "total" → other ≠ "count" → s'.vars.get? other = s.vars.get? other) ∧
    s'.world = s.world.resolve thing.id
  exceeding : ¬ Number.InRange (total.val + power.val) →
    s' = s ∧ ∃ reason, effect = .fail .invalidArithmetic reason

/-- A kind that is no ingredient has no power to add. -/
theorem collected_perform {item : Thing.Kind} {s : Scene} {total count : Number} {thing : Thing}
    (htotal : s.vars.number? "total" = some total) (hcount : s.vars.number? "count" = some count)
    (hfound : s.world.unresolvedHere? (fun t => t.kind = item) = some thing) :
    Collected ((power? item).getD .zero) total count thing s (perform (.collect item) s).1
      (perform (.collect item) s).2 := by
  dsimp only [perform, collect]
  rw [htotal, hcount]
  dsimp only
  rw [hfound]
  dsimp only [Number.add?]
  cases hsum : Number.ofInt? (total.val + ((power? item).getD .zero).val) with
  | none =>
    have hout := Number.ofInt?_eq_none_iff.1 hsum
    exact ⟨by simp [hout], fun hrange => absurd hrange hout, fun _ => ⟨rfl, _, rfl⟩⟩
  | some sum =>
    have hval := Number.ofInt?_eq_some_iff.1 hsum
    have hrange : Number.InRange (total.val + ((power? item).getD .zero).val) := by
      rw [← hval]
      exact ⟨sum.lower, sum.upper⟩
    refine ⟨⟨fun _ => hrange, fun _ => ⟨_, rfl⟩⟩, fun _ => ⟨⟨sum, hval, ?_⟩, ?_, ?_, rfl⟩,
      fun hout => absurd hrange hout⟩
    · simp [Scene.setVariable, Bindings.get?_insert]
    · exact ⟨count.succSat, count.val_succSat, Bindings.get?_insert_self _ _ _⟩
    · intro other htotal' hcount'
      simp [Scene.setVariable, Scene.mapWorld, Bindings.get?_insert, htotal', hcount']

end Potion

/-- Whatever the variables, the label and the numbers: a block that doubles, adds, subtracts or
divides is exact, and so is an ingredient that is found and collected while total and count are
numbers. -/
theorem exact_arithmetic :
    (∀ (b : Block) (s : Scene), b.op.category = .math →
      Block.Calculated b.label b.op s (b.runMath s).1 (b.runMath s).2) ∧
    ∀ (item : Thing.Kind) (s : Scene) (total count : Number) (thing : Thing),
      s.vars.number? "total" = some total → s.vars.number? "count" = some count →
      s.world.unresolvedHere? (fun t => t.kind = item) = some thing →
      Potion.Collected ((Potion.power? item).getD .zero) total count thing s
        (Potion.rules.perform (.collect item) s).1 (Potion.rules.perform (.collect item) s).2 :=
  ⟨fun _ s hmath => (Block.calculates_runMath hmath s).calculated,
    fun _ _ _ _ _ htotal hcount hfound => Potion.collected_perform htotal hcount hfound⟩

/-- The largest number. -/
def Number.largest : Number := ⟨0x7fffffffffffffff, by decide, by decide⟩

/-- The least number, to which the largest one wraps round. -/
def Number.least : Number := largest.succWrap

/-- The crystal before the wizard, with variables at the edge of the range. -/
def onTheEdge : Scene where
  world := { Potion.world with position := 3 }
  vars := .ofList
    [("debt", .number .least), ("share", .number ⟨-1, by decide, by decide⟩),
     ("total", .number ⟨0x7ffffffffffffff8, by decide, by decide⟩),
     ("count", .number .largest)]

/-- The least number divided by minus one is out of range, and with the crystal so is the
total, by one.  When one is taken away it is not, and the count stays where it is. -/
theorem exact_arithmetic_onTheEdge :
    let divide := Block.ofOp "divide" "Divide" "" "" (.divideBy "debt" "share")
    let subtract := Block.ofOp "subtract" "Subtract" "" "" (.subtract "total" .one)
    let less := (subtract.runMath onTheEdge).2
    let collect := Potion.rules.perform (.collect .crystal)
    ((divide.runMath onTheEdge).2 = onTheEdge ∧
        ∃ reason, (divide.runMath onTheEdge).1 = .fail .invalidArithmetic reason) ∧
      ((collect onTheEdge).2 = onTheEdge ∧
        ∃ reason, (collect onTheEdge).1 = .fail .invalidArithmetic reason) ∧
      ∃ n : Number, n.val = Number.largest.val ∧
        (collect less).2.vars.get? "count" = some (.number n) := by
  intro divide subtract less collect
  obtain ⟨hmath, hcollected⟩ := exact_arithmetic
  let crystal : Thing := .fresh "crystal" .crystal 3
  refine ⟨(hmath divide onTheEdge rfl).exceeding (by decide +kernel) ?_, ?_, ?_⟩
  · rintro name i (_ | _ | _ | ⟨hname, hdivisor, hzero, hquotient⟩) hrange
    have hdebt : onTheEdge.vars.number? "debt" = some .least := by decide +kernel
    have hshare : onTheEdge.vars.number? "share" = some ⟨-1, by decide, by decide⟩ := by
      decide +kernel
    obtain rfl := Option.some.inj (hdebt.symm.trans hname)
    obtain rfl := Option.some.inj (hshare.symm.trans hdivisor)
    obtain rfl := (cutsOff_iff hzero).1 hquotient
    exact absurd hrange (by decide)
  · exact (hcollected .crystal onTheEdge ⟨0x7ffffffffffffff8, by decide, by decide⟩ .largest
      crystal (by decide +kernel) (by decide +kernel) (by decide +kernel)).exceeding (by decide)
  · obtain ⟨-, ⟨more, hmore, hheld⟩, -⟩ :=
      (hcollected .crystal less ⟨0x7ffffffffffffff7, by decide, by decide⟩ .largest crystal
        (by decide +kernel) (by decide +kernel) (by decide +kernel)).added (by decide)
    exact ⟨more, hmore, hheld⟩

end Spellbook
