import Spellbook.Proofs.Run.Place
set_option autoImplicit false

/-!
# How long a run lasts

Whatever the rules and the scenes of its calls are, a run of a program makes a number of
steps that the program alone bounds (`length_replies_le`).  Its events stand at ever
later places of the plan (`events_ascending`), so no line runs twice in one round, and a
run that is over stays as it is.
-/

namespace Spellbook

open Plan (Item)

/-- The event is that of the line at this place of the plan. -/
def Event.StandsAt (items : List Item) (e : Event) (p : Place) : Prop :=
  ∃ line, p.Shows items line e.round ∧ line.index = e.index

/-- A run that no call changes any more: each finds it over with the same outcome, has no
event and leaves the scene. -/
structure Run.Final (r : Run) : Prop where
  after_eq : ∀ calls, r.after calls = r
  replies_eq : ∀ calls, ∀ a ∈ r.replies calls, a = .finished r.outcome
  events_eq : ∀ calls, r.events calls = []
  scene_eq : ∀ rules s, (r.step rules s).2.2 = s

namespace Plan

namespace Item

/-- The lines of an item that run once at most. -/
def outer : Item → List Line
  | single line => [line]
  | loop l => l.header :: l.marker.toList

/-- The lines of an item that run once a round. -/
def inner : Item → List Line
  | single _ => []
  | loop l => l.body

theorem mem_lines_of_outer {item : Item} {x : Line} (h : x ∈ item.outer) : x ∈ item.lines := by
  cases item with
  | single line => exact h
  | loop l =>
    cases h with
    | head => simp [lines]
    | tail _ h => simp [lines, Option.mem_toList.1 h]

theorem mem_lines_of_inner {item : Item} {x : Line} (h : x ∈ item.inner) : x ∈ item.lines := by
  cases item with
  | single line => exact absurd h List.not_mem_nil
  | loop l => exact List.mem_cons_of_mem _ (List.mem_append_left _ h)

end Item

/-- Events that follow the plan: each stands at a later place than those before it, no
line runs twice in one round, and none oftener than its item allows. -/
structure Ordered (items : List Item) (events : List Event) : Prop where
  standsAt : ∀ e ∈ events, ∃ p, e.StandsAt items p
  ascending : events.Pairwise
    (fun a b => ∀ p q, a.StandsAt items p → b.StandsAt items q → p.lt q)
  tags_nodup : (events.map (fun e => (e.index, e.round))).Nodup
  outer_le : ∀ item ∈ items, ∀ line ∈ item.outer,
    events.countP (fun e => e.index = line.index) ≤ 1
  inner_le : ∀ item ∈ items, ∀ line ∈ item.inner,
    events.countP (fun e => e.index = line.index) ≤ maxRounds

namespace Item

/-! ## The weight of a program -/

theorem weight_le (item : Item) : item.weight ≤ maxRounds * item.lines.length := by
  cases item with
  | single line => simp [weight, lines, maxRounds]
  | loop l =>
    simp only [weight, lines, List.length_append, List.length_cons, maxRounds]
    omega

theorem weights_le (items : List Item) :
    weights items ≤ maxRounds * (items.flatMap lines).length := by
  induction items with
  | nil => exact Nat.zero_le _
  | cons item rest ih =>
    have hitem := weight_le item
    rw [weights, List.flatMap_cons, List.length_append, Nat.mul_add]
    omega

end Item

end Plan

theorem Cursor.weight_pos {c : Cursor} {shown : Line × Option Nat} (h : c.line? = some shown) :
    0 < c.weight := by
  cases c with
  | item item rest =>
    cases item with
    | single line => rw [weight_single]; omega
    | loop l => rw [weight_loop]; omega
  | body l round line left rest => rw [weight_body]; omega
  | close marker rounds rest => rw [weight_close]; omega
  | done => cases h

namespace Run

theorem remaining_start_le (program : List Placed) :
    (start program).remaining ≤ maxRounds * program.length + 1 := by
  unfold start
  split
  · exact Nat.zero_le _
  · split
    · rename_i items hplan
      have hweights := Item.weights_le items
      rw [Plan.flatMap_lines_of_ofProgram hplan, Line.length_ofProgram] at hweights
      show (Cursor.ofItems items).weight + 1 ≤ _
      rw [Cursor.weight_ofItems]
      omega
    · exact Nat.zero_le _

theorem remaining_of_isOver {r : Run} (h : r.isOver = true) : r.remaining = 0 := if_pos h

/-- As long as no call finds the run over, there are fewer calls than steps left. -/
theorem length_replies_le {r : Run} {calls : List Call}
    (h : ∀ o, .finished o ∉ r.replies calls) : (r.replies calls).length ≤ r.remaining - 1 := by
  induction calls generalizing r with
  | nil => exact Nat.zero_le _
  | cons c rest ih =>
    simp only [replies_cons, List.mem_append, not_or] at h
    have hrest := ih (fun o => (h o).2)
    cases c with
    | cancel =>
      have hover : (r.call .cancel).remaining = 0 := remaining_of_isOver (isOver_cancel r)
      simp only [replies_cons, reply?, Option.toList_none, List.nil_append]
      omega
    | step rules s =>
      rcases hstep : r.step rules s with ⟨a, r', s'⟩
      cases a with
      | finished o => exact absurd (by simp [reply?, hstep]) (h o).1
      | step e =>
        obtain ⟨line, round, hmade⟩ := made_of_step_eq hstep
        have hpos := Cursor.weight_pos hmade.line?_eq
        have hremaining : r.remaining = r.cursor.weight + 1 :=
          if_neg (Bool.eq_false_iff.1 hmade.isOver_eq)
        have hlt : (r.call (.step rules s)).remaining < r.remaining :=
          step_remaining_lt (show (r.step rules s).1 = .step e by rw [hstep])
        simp only [replies_cons, reply?, Option.toList_some, List.length_append,
          List.length_singleton]
        omega

theorem exists_finished_mem {program : List Placed} {calls : List Call}
    (h : maxRounds * program.length < ((start program).replies calls).length) :
    ∃ o, .finished o ∈ (start program).replies calls := by
  apply Classical.byContradiction
  intro hnone
  have hlength := length_replies_le (not_exists.1 hnone)
  have hstart := remaining_start_le program
  omega

end Run

/-! ## Different places show different lines -/

namespace Place

variable {items : List Item}

/-- Lines of two items have different indexes. -/
theorem item_eq_of_index_eq
    (hasc : (items.flatMap Item.lines).Pairwise (fun a b => a.index < b.index))
    {i j : Nat} {a b : Item} {x y : Line} (ha : items[i]? = some a) (hb : items[j]? = some b)
    (hx : x ∈ a.lines) (hy : y ∈ b.lines) (hindex : x.index = y.index) : i = j := by
  obtain ⟨-, hitems⟩ := List.pairwise_flatMap.1 hasc
  rw [List.pairwise_iff_getElem] at hitems
  obtain ⟨hi, rfl⟩ := List.getElem?_eq_some_iff.1 ha
  obtain ⟨hj, rfl⟩ := List.getElem?_eq_some_iff.1 hb
  rcases Nat.lt_trichotomy i j with hlt | heq | hlt
  · exact absurd (hitems i j hi hj hlt x hx y hy) (by omega)
  · exact heq
  · exact absurd (hitems j i hj hi hlt y hy x hx) (by omega)

/-- Lines of one loop have different indexes. -/
theorem loop_ascending
    (hasc : (items.flatMap Item.lines).Pairwise (fun a b => a.index < b.index))
    {i : Nat} {l : Loop} (hitem : items[i]? = some (.loop l)) :
    (∀ line, l.marker = some line → l.header.index < line.index) ∧
      l.body.Pairwise (fun a b => a.index < b.index) := by
  have hlines := (List.pairwise_flatMap.1 hasc).1 _ (List.mem_of_getElem? hitem)
  simp only [Item.lines, List.cons_append, List.pairwise_cons, List.pairwise_append] at hlines
  refine ⟨fun line hmarker => hlines.1 line ?_, hlines.2.1⟩
  simp [hmarker]

/-- A line and the round that it is tagged with tell its place. -/
theorem Shows.place_eq
    (hasc : (items.flatMap Item.lines).Pairwise (fun a b => a.index < b.index))
    {p q : Place} {x y : Line} {round : Option Nat} (hp : p.Shows items x round)
    (hq : q.Shows items y round) (hindex : x.index = y.index) : p = q := by
  obtain ⟨a, ha, hx⟩ := hp.getElem?
  obtain ⟨b, hb, hy⟩ := hq.getElem?
  have hitem := item_eq_of_index_eq hasc ha hb hx hy hindex
  cases hp with
  | single hi =>
    cases hq with
    | single hj => cases hitem; rfl
    | header hj => cases hitem; rfl
    | marker hj hm => cases hitem; rw [hi] at hj; cases hj
  | header hi =>
    cases hq with
    | single hj => cases hitem; rfl
    | header hj => cases hitem; rfl
    | marker hj hm =>
      cases hitem
      rw [hi] at hj
      cases hj
      exact absurd ((loop_ascending hasc hi).1 _ hm) (by omega)
  | marker hi hm =>
    cases hq with
    | single hj => cases hitem; rw [hi] at hj; cases hj
    | header hj =>
      cases hitem
      rw [hi] at hj
      cases hj
      exact absurd ((loop_ascending hasc hi).1 _ hm) (by omega)
    | marker hj hm' => cases hitem; rfl
  | @body i round o l line hi hline hfirst hlast =>
    cases hq with
    | @body j _ o' l' line' hj hline' hfirst' hlast' =>
      cases hitem
      rw [hi] at hj
      cases hj
      have hbody := List.pairwise_iff_getElem.1 (loop_ascending hasc hi).2
      obtain ⟨ho, rfl⟩ := List.getElem?_eq_some_iff.1 hline
      obtain ⟨ho', rfl⟩ := List.getElem?_eq_some_iff.1 hline'
      rcases Nat.lt_trichotomy o o' with hlt | rfl | hlt
      · exact absurd (hbody o o' ho ho' hlt) (by omega)
      · rfl
      · exact absurd (hbody o' o ho' ho hlt) (by omega)

end Place

namespace Run

/-! ## Events stand at ever later places -/

variable {items : List Item}

theorem events_of_done {r : Run} (h : r.cursor = .done) (calls : List Call) :
    r.events calls = [] := by
  cases calls with
  | nil => rfl
  | cons c rest =>
    cases c with
    | cancel => exact events_cons_of_cancel r rest
    | step rules s =>
      rcases hstep : r.step rules s with ⟨a, r', s'⟩
      cases a with
      | finished o => exact events_cons_of_finished hstep rest
      | step e =>
        obtain ⟨line, round, hmade⟩ := made_of_step_eq hstep
        have hline := hmade.line?_eq
        rw [h] at hline
        cases hline

theorem Made.standsAt {r r' : Run} {rules : Rules} {s s' : Scene} {e : Event} {line : Line}
    {round : Option Nat} {p : Place} (h : Made r rules s e r' s' line round)
    (hat : r.cursor.At items p) : e.StandsAt items p := by
  obtain ⟨line', round', hline, hshows⟩ := hat.shows
  rw [h.line?_eq] at hline
  cases hline
  refine ⟨line, ?_, ?_⟩ <;> rw [h.event_eq]
  · exact hshows
  · rfl

/-- From a place on, the events of a run stand at this place or later, and each one later
than those before it. -/
theorem events_ascending {r : Run} {p : Place} (hat : r.cursor.At items p)
    (calls : List Call) :
    (∀ e ∈ r.events calls, ∃ q, e.StandsAt items q ∧ (q = p ∨ p.lt q)) ∧
      (r.events calls).Pairwise
        (fun a b => ∃ q t, a.StandsAt items q ∧ b.StandsAt items t ∧ q.lt t) := by
  induction calls generalizing r p with
  | nil => simp
  | cons c rest ih =>
    cases c with
    | cancel => simp [events_cons_of_cancel]
    | step rules s =>
      rcases hstep : r.step rules s with ⟨a, r', s'⟩
      cases a with
      | finished o => simp [events_cons_of_finished hstep]
      | step e =>
        obtain ⟨line, round, hmade⟩ := made_of_step_eq hstep
        have hfirst := hmade.standsAt hat
        rw [events_cons_of_step hstep, List.pairwise_cons]
        obtain hdone | ⟨q, hq, hlt⟩ := hmade.settles.at_or_done hat
        · rw [events_of_done hdone]
          simpa using ⟨p, hfirst, .inl rfl⟩
        · obtain ⟨hplaces, hlater⟩ := ih hq
          have hbehind : ∀ b ∈ r'.events rest, ∃ t, b.StandsAt items t ∧ p.lt t := by
            intro b hb
            obtain ⟨t, ht, rfl | hqt⟩ := hplaces b hb
            · exact ⟨_, ht, hlt⟩
            · exact ⟨t, ht, Place.lt_trans hlt hqt⟩
          refine ⟨?_, ?_, hlater⟩
          · intro b hb
            cases hb with
            | head => exact ⟨p, hfirst, .inl rfl⟩
            | tail _ hb =>
              obtain ⟨t, ht, hpt⟩ := hbehind b hb
              exact ⟨t, ht, .inr hpt⟩
          · intro b hb
            obtain ⟨t, ht, hpt⟩ := hbehind b hb
            exact ⟨p, t, hfirst, ht, hpt⟩

end Run

/-! ## How often a line runs -/

namespace Place

variable {items : List Item}

/-- A line outside the rounds of a loop has no round, and a line inside has one. -/
theorem Shows.outer_or_inner {p : Place} {x : Line} {round : Option Nat}
    (h : p.Shows items x round) :
    ∃ item, items[p.item]? = some item ∧
      ((x ∈ item.outer ∧ round = none) ∨
        (x ∈ item.inner ∧ round ∈ (List.range' 1 maxRounds).map some)) := by
  cases h with
  | single hitem => exact ⟨_, hitem, .inl ⟨by simp [Item.outer], rfl⟩⟩
  | header hitem => exact ⟨_, hitem, .inl ⟨by simp [Item.outer], rfl⟩⟩
  | marker hitem hmarker => exact ⟨_, hitem, .inl ⟨by simp [Item.outer, hmarker], rfl⟩⟩
  | body hitem hline hfirst hlast =>
    refine ⟨_, hitem, .inr ⟨by simp [Item.inner, List.mem_of_getElem? hline], ?_⟩⟩
    rw [List.mem_map]
    exact ⟨_, List.mem_range'_1.2 ⟨hfirst, by omega⟩, rfl⟩

theorem outer_inner_index_ne {item : Item}
    (hasc : item.lines.Pairwise (fun a b => a.index < b.index)) {x y : Line}
    (hx : x ∈ item.outer) (hy : y ∈ item.inner) : x.index ≠ y.index := by
  cases item with
  | single line => exact absurd hy List.not_mem_nil
  | loop l =>
    simp only [Item.lines, List.cons_append, List.pairwise_cons, List.pairwise_append] at hasc
    obtain ⟨hheader, -, -, hmarker⟩ := hasc
    have hlt := hheader y (List.mem_append_left _ hy)
    cases hx with
    | head => omega
    | tail _ hx =>
      have hgt := hmarker y hy x hx
      omega

/-- Whether a line has rounds is the same wherever it is shown. -/
theorem Shows.round_of_mem
    (hasc : (items.flatMap Item.lines).Pairwise (fun a b => a.index < b.index))
    {p : Place} {x y : Line} {round : Option Nat} (h : p.Shows items x round) {item : Item}
    (hitem : item ∈ items) (hindex : x.index = y.index) :
    (y ∈ item.outer → round = none) ∧
      (y ∈ item.inner → round ∈ (List.range' 1 maxRounds).map some) := by
  obtain ⟨i, hi⟩ := List.mem_iff_getElem?.1 hitem
  obtain ⟨item', hi', hx⟩ := h.outer_or_inner
  have hlines := (List.pairwise_flatMap.1 hasc).1 item hitem
  have hsame : ∀ z ∈ item.lines, y = z → item' = item := by
    rintro z hz rfl
    obtain ⟨a, ha, hxa⟩ := h.getElem?
    have hplace := item_eq_of_index_eq hasc ha hi hxa hz hindex
    rw [hplace, hi] at hi'
    exact (Option.some.inj hi').symm
  constructor
  · intro hy
    have heq := hsame y (Item.mem_lines_of_outer hy) rfl
    obtain ⟨-, hround⟩ | ⟨hinner, -⟩ := hx
    · exact hround
    · exact absurd hindex.symm (outer_inner_index_ne hlines hy (heq ▸ hinner))
  · intro hy
    have heq := hsame y (Item.mem_lines_of_inner hy) rfl
    obtain ⟨houter, -⟩ | ⟨-, hround⟩ := hx
    · exact absurd hindex (outer_inner_index_ne hlines (heq ▸ houter) hy)
    · exact hround

end Place

/-- Events with different tags pass through a list of rounds at most once each. -/
theorem countP_index_le (rounds : List (Option Nat)) {events : List Event} {i : Nat}
    (hnodup : (events.map (fun e => (e.index, e.round))).Nodup)
    (hrounds : ∀ e ∈ events, e.index = i → e.round ∈ rounds) :
    events.countP (fun e => e.index = i) ≤ rounds.length := by
  let chosen := events.filter (fun e => e.index = i)
  have hmem : ∀ e ∈ chosen, e ∈ events ∧ e.index = i := by
    intro e he
    simpa [chosen] using he
  have hchosen : (chosen.map Event.round).Nodup := by
    have htags := (List.pairwise_map.1 hnodup).filter (fun e => decide (e.index = i))
    refine List.pairwise_map.2 (htags.imp_of_mem ?_)
    intro a b ha hb hne hround
    exact hne (Prod.ext ((hmem a ha).2.trans (hmem b hb).2.symm) hround)
  have hsub : chosen.map Event.round ⊆ rounds := by
    intro round hround
    obtain ⟨e, he, rfl⟩ := List.mem_map.1 hround
    exact hrounds e (hmem e he).1 (hmem e he).2
  have hlength := hchosen.length_le_of_subset hsub
  rwa [List.length_map, ← List.countP_eq_length_filter] at hlength

theorem Event.StandsAt.place_eq {items : List Item}
    (hasc : (items.flatMap Item.lines).Pairwise (fun a b => a.index < b.index))
    {a b : Event} {p q : Place} (ha : a.StandsAt items p) (hb : b.StandsAt items q)
    (hindex : a.index = b.index) (hround : a.round = b.round) : p = q := by
  obtain ⟨x, hx, hxa⟩ := ha
  obtain ⟨y, hy, hyb⟩ := hb
  exact hx.place_eq hasc (hround ▸ hy) (by rw [hxa, hyb, hindex])

namespace Run

variable {program : List Placed} {items : List Item}

theorem final_of_isOver {r : Run} (h : r.isOver = true) : r.Final where
  after_eq := after_of_isOver h
  replies_eq := replies_of_isOver h
  events_eq := events_of_isOver h
  scene_eq rules s := by rw [step_of_isOver h]

theorem events_start_ascending (hplan : Plan.ofProgram program = .ok items)
    (calls : List Call) :
    (∀ e ∈ (start program).events calls, ∃ p, e.StandsAt items p) ∧
      ((start program).events calls).Pairwise
        (fun a b => ∃ p q, a.StandsAt items p ∧ b.StandsAt items q ∧ p.lt q) := by
  obtain hdone | ⟨items', hplan', hat⟩ := start_cursor program
  · simp [events_of_done hdone]
  · cases hplan.symm.trans hplan'
    obtain ⟨hplaces, hlater⟩ := events_ascending hat calls
    refine ⟨fun e he => ?_, hlater⟩
    obtain ⟨p, hp, -⟩ := hplaces e he
    exact ⟨p, hp⟩

theorem ordered_events (hplan : Plan.ofProgram program = .ok items) (calls : List Call) :
    Plan.Ordered items ((start program).events calls) := by
  have hasc := Plan.flatMap_lines_ascending hplan
  obtain ⟨hplaces, hlater⟩ := events_start_ascending hplan calls
  have htags : (((start program).events calls).map (fun e => (e.index, e.round))).Nodup := by
    refine List.pairwise_map.2 (hlater.imp ?_)
    rintro a b ⟨p, q, hp, hq, hlt⟩ htag
    obtain rfl := hp.place_eq hasc hq (congrArg Prod.fst htag) (congrArg Prod.snd htag)
    exact Place.lt_irrefl p hlt
  refine ⟨hplaces, ?_, htags, ?_, ?_⟩
  · refine hlater.imp ?_
    rintro a b ⟨p, q, hp, hq, hlt⟩ p' q' hp' hq'
    rwa [hp'.place_eq hasc hp rfl rfl, hq'.place_eq hasc hq rfl rfl]
  · intro item hitem line hline
    refine countP_index_le [none] htags (fun e he hindex => ?_)
    obtain ⟨p, x, hx, hxe⟩ := hplaces e he
    have hround := (hx.round_of_mem hasc hitem (hxe.trans hindex)).1 hline
    exact List.mem_singleton.2 hround
  · intro item hitem line hline
    have hrounds : ∀ e ∈ (start program).events calls, e.index = line.index →
        e.round ∈ (List.range' 1 maxRounds).map some := by
      intro e he hindex
      obtain ⟨p, x, hx, hxe⟩ := hplaces e he
      exact (hx.round_of_mem hasc hitem (hxe.trans hindex)).2 hline
    have hcount := countP_index_le _ htags hrounds
    simpa using hcount

/-- Whatever is called on a run of a program, in whatever scenes and under whatever
rules: of the first `maxRounds * n + 1` calls for a step, with `n` blocks in the program,
one finds the run over; the events follow the plan; and from the first call that finds
the run over, and from any other end of it, nothing about it changes. -/
theorem ends_within_bound (program : List Placed) (calls : List Call) :
    (maxRounds * program.length < ((start program).replies calls).length →
      ∃ o, .finished o ∈ (start program).replies calls) ∧
    ((start program).events calls ≠ [] → ∃ items, Plan.ofProgram program = .ok items) ∧
    (∀ items, Plan.ofProgram program = .ok items →
      Plan.Ordered items ((start program).events calls)) ∧
    (∀ o, .finished o ∈ (start program).replies calls →
      ((start program).after calls).isOver = true ∧
        ((start program).after calls).outcome = o) ∧
    (((start program).after calls).isOver = true → ((start program).after calls).Final) := by
  refine ⟨exists_finished_mem, ?_, fun items hplan => ordered_events hplan calls,
    fun o ho => after_of_finished_mem ho, final_of_isOver⟩
  intro hevents
  obtain hdone | ⟨items, hplan, -⟩ := start_cursor program
  · exact absurd (events_of_done hdone calls) hevents
  · exact ⟨items, hplan⟩

end Run

end Spellbook
