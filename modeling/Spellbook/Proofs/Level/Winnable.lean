import Spellbook.Proofs.Level.Fork
import Spellbook.Proofs.Level.Victory
import Spellbook.Proofs.Run.Straight
import Spellbook.Proofs.Workbench.Calls
set_option autoImplicit false

/-!
# Every world that is drawn can be won

In the gauntlet one program wins against whatever monsters there are: it walks to the next
monster, scans it and has the right spell ready behind the check for each kind (`endOf_duel`),
three times.  At the crossroads one program looks at the sky and has the right path ready for
each weather.  Checks that say no leave nothing behind, so just the right action is performed
(`every_draw_is_won`).
-/

namespace Spellbook

/-- The level has blocks with these ids, and the program of these blocks succeeds when it is
played, with whatever numbers and whatever scene it finds. -/
def Setup.WonBy (setup : Setup) (ids : List String) : Prop :=
  ∃ catalog blocks, Catalog.ofBlocks setup.rules setup.rules.blocks = .ok catalog ∧
    catalog.getAll ids = .ok blocks ∧
    ∀ program : List Placed, program.map Placed.block = blocks → ∀ s,
      (setup.rules.play program .never s).run.outcome.isSuccess = true

theorem Setup.wonBy_of_endOf {setup : Setup} {ids : List String} {blocks : List Block}
    (hblocks : setup.level.catalog.getAll ids = .ok blocks)
    (hne : blocks ≠ []) (hflat : ∀ b ∈ blocks, b.category ≠ .loop)
    (hwon : (setup.rules.endOf blocks setup.rules.openingScene none).isSuccess = true) :
    setup.WonBy ids := by
  refine ⟨_, blocks, setup.ofBlocks_rules, hblocks, ?_⟩
  rintro program rfl s
  rw [Rules.outcome_play_of_ne_loop (fun hnil => hne (by rw [hnil]; rfl))
    (fun placed hmem => hflat _ (List.mem_map_of_mem hmem))]
  exact hwon

/-- What a check for a text leaves where its variable holds a text. -/
theorem Block.leaves?_ifText {id label variable_ text description held : String}
    {vars : Bindings} (h : vars.get? variable_ = some (.text held)) :
    (ifText id label variable_ text description).leaves? vars =
      some (some (decide (held = text))) := by
  have hvalue : (ifText id label variable_ text description).leaves? vars =
      some ((vars.get? variable_).map (fun current => decide (current = .text text))) := rfl
  rw [hvalue, h]
  simp

/-- A step forward that does not fall off the track leads on. -/
theorem Rules.endOf_stepForward {rules : Rules} {s : Scene} {more : List Block}
    {answer : Option Bool} (hwaits : rules.Waits (s.mapWorld World.stepForward))
    (hroom : s.world.position < s.world.trackEnd) :
    rules.endOf (.stepForward :: more) s answer =
      rules.endOf more (s.mapWorld World.stepForward) answer := by
  have hend : s.world.atTrackEnd = false := by
    simpa [World.atTrackEnd] using hroom
  obtain ⟨message, hmove⟩ :
      ∃ message, Block.runMovement s = (.done message, s.mapWorld World.stepForward) := by
    rw [Block.runMovement, hend]
    exact ⟨_, rfl⟩
  have hrun : Block.stepForward.run rules answer s =
      ⟨.done message, s.mapWorld World.stepForward, answer⟩ := by
    show (⟨(Block.runMovement s).1, (Block.runMovement s).2, answer⟩ : Step) = _
    rw [hmove]
  rw [endOf_cons_of_running (by rw [hrun]; exact verdict_eq_running rfl hwaits), hrun]

/-! ## The gauntlet -/

namespace Gauntlet

/-- The blocks of one duel. -/
def duelIds : List String :=
  ["step-forward", "step-forward", "scan-monster", "if-goblin", "cast-fire", "if-troll",
    "cast-lightning", "if-dragon", "cast-ice"]

/-- A listed monster keeps its slot. -/
theorem getElem?_drawSlots {n slot : Nat} {fixed : List Thing.Kind} {state : UInt32}
    {kind : Thing.Kind} (hslot : slot < n) (hfixed : fixed[slot]? = some kind)
    (hmonster : kind.isMonster = true) : (drawSlots n fixed state)[slot]? = some kind := by
  induction n generalizing slot fixed state with
  | zero => exact absurd hslot (Nat.not_lt_zero slot)
  | succ n ih =>
    cases fixed with
    | nil => cases hfixed
    | cons first rest =>
      rw [drawSlots]
      cases slot with
      | zero =>
        cases hfixed
        rw [if_pos hmonster]
        rfl
      | succ slot =>
        rw [List.getElem?_cons_succ] at hfixed
        have hlater {state : UInt32} : (drawSlots n rest state)[slot]? = some kind :=
          ih (Nat.lt_of_succ_lt_succ hslot) hfixed
        split
        · exact hlater
        · exact hlater

variable {monsters : List Thing.Kind} {s : Scene} {more : List Block} {answer : Option Bool}
  {t : Thing} {past ahead : List Thing}

/-- A run goes on as long as a monster stands. -/
theorem waits_of_standing (h : standing s.world ≠ []) : (rules monsters).Waits s := by
  intro _ message hmet
  have hcount : (standing s.world).length ≠ 0 := fun hzero => h (List.length_eq_zero_iff.1 hzero)
  have hgoal : goal s = .met message := hmet
  rw [goal] at hgoal
  simp only [if_neg hcount] at hgoal
  cases hgoal

/-! ### Scanning -/

/-- The block that scans. -/
def scanBlock : Block :=
  .ofOp "scan-monster" "Scan for monsters" "let monster = wizard.scan();"
    "Look at the monster on this square and remember what it is." (.scan "monster")

/-- The scene in which this monster has been scanned. -/
def spotted (s : Scene) (t : Thing) : Scene :=
  (s.setVariable "monster" (.text t.kind.name)).mapWorld
    (fun w => { w with target := some t.id })

theorem endOf_scanBlock (hstanding : standing s.world ≠ [])
    (hfound : s.world.unresolvedHere? (fun t => t.kind.isMonster) = some t) :
    (rules monsters).endOf (scanBlock :: more) s answer =
      (rules monsters).endOf more (spotted s t) answer := by
  obtain ⟨message, hscan⟩ :
      ∃ message, Block.runScan (rules monsters) "monster" s = (.done message, spotted s t) := by
    unfold Block.runScan
    rw [show s.world.unresolvedHere? (rules monsters).scannable = some t from hfound]
    exact ⟨_, rfl⟩
  have hrun : scanBlock.run (rules monsters) answer s = ⟨.done message, spotted s t, answer⟩ := by
    show (⟨(Block.runScan (rules monsters) "monster" s).1,
      (Block.runScan (rules monsters) "monster" s).2, answer⟩ : Step) = _
    rw [hscan]
  have hwaits : (rules monsters).Waits (spotted s t) := waits_of_standing hstanding
  rw [Rules.endOf_cons_of_running (by rw [hrun]; exact Rules.verdict_eq_running rfl hwaits), hrun]

/-! ### Striking -/

/-- The scene in which this monster has been struck. -/
def struck (s : Scene) (t : Thing) : Scene :=
  s.mapWorld (fun w => { w.resolve t.id with target := none })

/-- The wizard remembers this kind of monster, and some monster stands. -/
structure Recalls (s : Scene) (kind : Thing.Kind) : Prop where
  standing : standing s.world ≠ []
  get?_eq : s.vars.get? "monster" = some (.text kind.name)

/-- The spell against another kind is not cast. -/
theorem endOf_other {kind other : Thing.Kind} (h : Recalls s kind) (hne : kind ≠ other)
    (spell : Spell) :
    (rules monsters).endOf (ifMonster other :: spellBlock spell :: more) s answer =
      (rules monsters).endOf more s none := by
  have hname : kind.name ≠ other.name := fun heq =>
    hne (Named.name_injective Thing.Kind.ofName?_name heq)
  have hleaves : (ifMonster other).leaves? s.vars = some (some false) := by
    rw [ifMonster, Block.leaves?_ifText h.get?_eq, decide_eq_false hname]
  exact Rules.endOf_skipped rfl (gates_spellBlock monsters spell) hleaves
    (waits_of_standing h.standing)

/-- The spell against the scanned monster strikes it, which ends the run if it was the last
one. -/
theorem endOf_same {spell : Spell} (h : Recalls s t.kind) (htarget : target? s.world = some t)
    (hweak : weakness? t.kind = some spell) :
    (rules monsters).endOf (ifMonster t.kind :: spellBlock spell :: more) s answer =
      match goal (struck s t) with
      | .met message => .success message
      | .unmet _ => (rules monsters).endOf more (struck s t) none := by
  have hleaves : (ifMonster t.kind).leaves? s.vars = some (some true) := by
    rw [ifMonster, Block.leaves?_ifText h.get?_eq, decide_eq_true rfl]
  obtain ⟨message, hcast⟩ : ∃ message, cast spell s = (.done message, struck s t) := by
    unfold cast
    simp only [htarget, hweak, if_true]
    exact ⟨_, rfl⟩
  rw [Rules.endOf_admitted rfl (gates_spellBlock monsters spell) hleaves
    (waits_of_standing h.standing) hcast]
  have hverdict : (rules monsters).verdict ⟨.done message, struck s t, none⟩ =
      match goal (struck s t) with
      | .met message => .success message
      | .unmet _ => .running := rfl
  rw [hverdict]
  cases goal (struck s t) with
  | met message => rfl
  | unmet reason => rfl

/-- Whichever monster has been scanned, just the spell against it is cast. -/
theorem endOf_strikes (h : Recalls s t.kind) (htarget : target? s.world = some t)
    (hmonster : t.kind.isMonster = true) :
    (rules monsters).endOf
        (ifMonster .goblin :: spellBlock .fire :: ifMonster .troll :: spellBlock .lightning ::
          ifMonster .dragon :: spellBlock .ice :: more) s answer =
      match goal (struck s t) with
      | .met message => .success message
      | .unmet _ => (rules monsters).endOf more (struck s t) none := by
  have hlater (message : String) (hgoal : goal (struck s t) = .unmet message) :
      Recalls (struck s t) t.kind := by
    refine ⟨fun hnone => ?_, h.get?_eq⟩
    rw [goal, hnone] at hgoal
    cases hgoal
  have hkind : t.kind = .goblin ∨ t.kind = .troll ∨ t.kind = .dragon := by
    simpa [Thing.Kind.isMonster, Thing.Kind.monsters] using hmonster
  rcases hkind with hkind | hkind | hkind
  · rw [← hkind, endOf_same h htarget (by rw [hkind]; rfl)]
    cases hgoal : goal (struck s t) with
    | met message => rfl
    | unmet reason =>
      have hrecalls := hlater reason hgoal
      exact (endOf_other hrecalls (by simp [hkind]) .lightning).trans
        (endOf_other hrecalls (by simp [hkind]) .ice)
  · rw [endOf_other h (by simp [hkind]), ← hkind,
      endOf_same h htarget (by rw [hkind]; rfl)]
    cases hgoal : goal (struck s t) with
    | met message => rfl
    | unmet reason =>
      exact endOf_other (hlater reason hgoal) (by simp [hkind]) .ice
  · rw [endOf_other h (by simp [hkind]), endOf_other h (by simp [hkind]),
      ← hkind, endOf_same h htarget (by rw [hkind]; rfl)]

/-! ### Duels -/

/-- Monsters that stand two squares apart, the first of them two squares behind this one. -/
def Spaced (square : Nat) : List Thing → Prop
  | [] => True
  | t :: rest =>
    t.position = square + 2 ∧ t.kind.isMonster = true ∧ t.resolved = false ∧
      Spaced (square + 2) rest

/-- The wizard has struck all monsters up to here and has the others ahead. -/
structure Faces (s : Scene) (past ahead : List Thing) : Prop where
  things_eq : s.world.things = past ++ ahead
  nodup : (s.world.things.map Thing.id).Nodup
  past_resolved : ∀ t ∈ past, t.resolved = true
  spaced : Spaced s.world.position ahead
  room : s.world.position + 2 * ahead.length < s.world.trackEnd

/-- The scene two squares further, with the monster there scanned. -/
def approached (s : Scene) (t : Thing) : Scene :=
  spotted ((s.mapWorld World.stepForward).mapWorld World.stepForward) t

theorem Faces.standing_ne_nil (h : Faces s past (t :: ahead)) : standing s.world ≠ [] := by
  obtain ⟨-, hmonster, hopen, -⟩ := h.spaced
  have hmem : t ∈ standing s.world := by
    rw [standing, List.mem_filter, h.things_eq]
    simp [hmonster, hopen]
  exact List.ne_nil_of_mem hmem

theorem Faces.id_ne (h : Faces s past (t :: ahead)) : ∀ u ∈ past, u.id ≠ t.id := by
  intro u hu hsame
  have hnodup := h.nodup
  rw [h.things_eq, List.map_append, List.map_cons, List.nodup_append] at hnodup
  obtain ⟨-, -, hapart⟩ := hnodup
  exact hapart u.id (List.mem_map_of_mem hu) t.id List.mem_cons_self hsame

/-- Two squares on stands the next monster. -/
theorem Faces.unresolvedHere?_eq (h : Faces s past (t :: ahead)) {w : World}
    (hthings : w.things = s.world.things) (hposition : w.position = s.world.position + 2) :
    w.unresolvedHere? (fun t => t.kind.isMonster) = some t := by
  obtain ⟨hsquare, hmonster, hopen, -⟩ := h.spaced
  have hnone : past.find?
      (fun u => u.position == w.position && !u.resolved && u.kind.isMonster) = none := by
    apply List.find?_eq_none.2
    intro u hu
    simp [h.past_resolved u hu]
  rw [World.unresolvedHere?, hthings, h.things_eq, List.find?_append, hnone]
  simp [hsquare, hposition, hmonster, hopen]

theorem Faces.target?_approached (h : Faces s past (t :: ahead)) :
    target? (approached s t).world = some t := by
  obtain ⟨hsquare, -, hopen, -⟩ := h.spaced
  have hfind : (approached s t).world.find? t.id = some t := by
    show List.find? (fun u => u.id == t.id) s.world.things = some t
    have hnone : past.find? (fun u => u.id == t.id) = none := by
      apply List.find?_eq_none.2
      intro u hu
      simpa using h.id_ne u hu
    rw [h.things_eq, List.find?_append, hnone]
    simp
  have hstands : (!t.resolved && t.position == (approached s t).world.position) = true := by
    have hhere : (approached s t).world.position = s.world.position + 2 := rfl
    simp [hopen, hsquare, hhere]
  rw [target?, show (approached s t).world.target = some t.id from rfl, Option.bind_some, hfind,
    Option.filter_some, if_pos hstands]

theorem Faces.struck (h : Faces s past (t :: ahead)) :
    Faces (struck (approached s t) t) (past ++ [{ t with resolved := true }]) ahead := by
  obtain ⟨-, -, -, hspaced⟩ := h.spaced
  have hthings : (Gauntlet.struck (approached s t) t).world.things =
      past ++ { t with resolved := true } :: ahead := by
    show World.markResolved t.id s.world.things = _
    rw [h.things_eq, World.markResolved_append h.id_ne]
  refine ⟨by rw [hthings]; simp, ?_, ?_, hspaced, ?_⟩
  · have hnodup := h.nodup
    rw [h.things_eq] at hnodup
    rw [hthings]
    simpa using hnodup
  · intro u hu
    rcases List.mem_append.1 hu with hu | hu
    · exact h.past_resolved u hu
    · obtain rfl := List.mem_singleton.1 hu
      rfl
  · have hroom := h.room
    rw [List.length_cons] at hroom
    show s.world.position + 1 + 1 + 2 * ahead.length < s.world.trackEnd
    omega

theorem duel_eq :
    duel = .stepForward :: .stepForward :: scanBlock ::
      ifMonster .goblin :: spellBlock .fire :: ifMonster .troll :: spellBlock .lightning ::
        ifMonster .dragon :: [spellBlock .ice] := by
  decide +kernel

/-- A duel strikes the next monster, which ends the run if it was the last one. -/
theorem endOf_duel (h : Faces s past (t :: ahead)) :
    (rules monsters).endOf (duel ++ more) s answer =
      match goal (Gauntlet.struck (approached s t) t) with
      | .met message => .success message
      | .unmet _ => (rules monsters).endOf more (Gauntlet.struck (approached s t) t) none := by
  obtain ⟨-, hmonster, -, -⟩ := h.spaced
  have hstanding := h.standing_ne_nil
  have hroom := h.room
  rw [List.length_cons] at hroom
  have hscan := h.unresolvedHere?_eq
    (w := ((s.mapWorld World.stepForward).mapWorld World.stepForward).world) rfl rfl
  have hrecalls : Recalls (approached s t) t.kind :=
    ⟨hstanding, Bindings.get?_insert_self s.vars "monster" (.text t.kind.name)⟩
  rw [duel_eq]
  simp only [List.cons_append, List.nil_append]
  rw [Rules.endOf_stepForward (waits_of_standing hstanding) (by omega),
    Rules.endOf_stepForward (s := s.mapWorld World.stepForward) (waits_of_standing hstanding)
      (by show s.world.position + 1 < s.world.trackEnd; omega),
    endOf_scanBlock (s := (s.mapWorld World.stepForward).mapWorld World.stepForward)
      hstanding hscan]
  exact endOf_strikes hrecalls h.target?_approached hmonster

/-- As many duels as there are monsters ahead win. -/
theorem endOf_duels (h : Faces s past ahead) (hne : ahead ≠ []) :
    ((rules monsters).endOf (List.replicate ahead.length duel).flatten s answer).isSuccess =
      true := by
  induction ahead generalizing s past answer with
  | nil => exact absurd rfl hne
  | cons t rest ih =>
    have hlater := h.struck
    rw [List.length_cons, List.replicate_succ, List.flatten_cons, endOf_duel h]
    cases hgoal : goal (Gauntlet.struck (approached s t) t) with
    | met message => rfl
    | unmet reason =>
      apply ih hlater
      rintro rfl
      -- With no monster ahead all are struck, and the goal is met.
      obtain ⟨message, hmet⟩ := met_of_resolved (s := Gauntlet.struck (approached s t) t) (by
        rw [hlater.things_eq, List.append_nil]
        exact hlater.past_resolved)
      rw [hgoal] at hmet
      cases hmet

theorem faces_opening {setup : Setup} (hlevel : setup.level = .combat) :
    ∃ ahead : List Thing, ahead.length = 3 ∧ Faces setup.rules.openingScene [] ahead := by
  obtain ⟨k₁, k₂, k₃, hmonsters, hkinds⟩ := exists_drawMonsters setup.seed setup.monsters?
  have hthings := things_opening hlevel hmonsters
  simp only [List.mem_cons, List.not_mem_nil, or_false, forall_eq_or_imp, forall_eq] at hkinds
  obtain ⟨hfirst, hsecond, hthird⟩ := hkinds
  have hworld : setup.rules.openingScene.world.position = 0 ∧
      setup.rules.openingScene.world.trackLength = 8 := by
    rw [rules_eq hlevel]
    show (world setup.monsters).position = 0 ∧ (world setup.monsters).trackLength = 8
    rw [world, addThings]
    exact ⟨rfl, rfl⟩
  obtain ⟨hposition, hlength⟩ := hworld
  refine ⟨_, rfl, hthings, nodup_opening hlevel, by simp, ?_, ?_⟩
  · rw [hposition]
    exact ⟨rfl, hfirst, rfl, rfl, hsecond, rfl, rfl, hthird, rfl, trivial⟩
  · rw [hposition, World.trackEnd, hlength]
    show 0 + 2 * 3 < 7
    omega

theorem getAll_duelIds :
    Level.combat.catalog.getAll (List.replicate 3 duelIds).flatten =
      .ok (List.replicate 3 duel).flatten := by
  decide +kernel

theorem wonBy_duelIds {setup : Setup} (hlevel : setup.level = .combat) :
    setup.WonBy (List.replicate 3 duelIds).flatten := by
  have hblocks : setup.level.catalog.getAll
      (List.replicate 3 duelIds).flatten = .ok (List.replicate 3 duel).flatten := by
    rw [hlevel]
    exact getAll_duelIds
  refine Setup.wonBy_of_endOf hblocks ?_ ?_ ?_
  · decide +kernel
  · decide +kernel
  · obtain ⟨ahead, hlength, hfaces⟩ := faces_opening hlevel
    rw [rules_eq hlevel] at hfaces ⊢
    rw [← hlength]
    apply endOf_duels hfaces
    rintro rfl
    cases hlength

end Gauntlet

/-! ## The crossroads -/

namespace Crossroads

/-- The blocks that look at the sky at the fork and take the path that is safe. -/
def passageIds : List String :=
  ["step-forward", "step-forward", "check-weather", "if-sunny", "take-mountain-path",
    "if-rainy", "take-forest-path", "if-stormy", "take-cave-path"]

/-- The block that looks at the sky. -/
def lookBlock : Block :=
  .ofOp "check-weather" "Check the weather" "let weather = sky.weather;"
    "Look at the sky and remember the weather in a variable." (.readFlag "weather" "weather")

/-- The way to the fork, a look at the sky, and the safe path for each weather. -/
def passage : List Block :=
  .stepForward :: .stepForward :: lookBlock ::
    Weather.all.flatMap (fun weather => [ifWeather weather, pathBlock (safePath weather)])

variable {weather : Weather} {s : Scene} {more : List Block} {answer : Option Bool}

theorem waits (weather : Weather) (s : Scene) : (rules weather).Waits s :=
  nofun

/-- The path for another weather is not taken. -/
theorem endOf_other (hseen : s.vars.get? "weather" = some (.text weather.name))
    (other : Weather) (hne : weather ≠ other) (path : Path) :
    (rules weather).endOf (ifWeather other :: pathBlock path :: more) s answer =
      (rules weather).endOf more s none := by
  have hread (w : Weather) : Named.ofName? w.name = some w := by
    cases w <;> decide
  have hname : weather.name ≠ other.name := fun heq => hne (Named.name_injective hread heq)
  have hleaves : (ifWeather other).leaves? s.vars = some (some false) := by
    rw [ifWeather, Block.leaves?_ifText hseen, decide_eq_false hname]
  exact Rules.endOf_skipped rfl (gates_pathBlock weather path) hleaves (waits weather s)

/-- The safe path is taken at the fork. -/
theorem endOf_same (hseen : s.vars.get? "weather" = some (.text weather.name))
    (hopen : Undecided s.world) :
    (rules weather).endOf (ifWeather weather :: pathBlock (safePath weather) :: more) s answer =
      (rules weather).endOf more (s.taking (safePath weather)) none := by
  have hleaves : (ifWeather weather).leaves? s.vars = some (some true) := by
    rw [ifWeather, Block.leaves?_ifText hseen, decide_eq_true rfl]
  obtain ⟨-, message, htaken⟩ | ⟨hwrong, -⟩ :=
    takePath_of_undecided hopen weather (safePath weather)
  · rw [Rules.endOf_admitted rfl (gates_pathBlock weather _) hleaves (waits weather s) htaken]
    rfl
  · exact absurd rfl hwrong

/-- The sky shows the weather. -/
theorem endOf_lookBlock (hflag : s.world.flag? "weather" = some (.text weather.name)) :
    (rules weather).endOf (lookBlock :: more) s answer =
      (rules weather).endOf more (s.setVariable "weather" (.text weather.name)) answer := by
  obtain ⟨message, hlook⟩ : ∃ message, lookBlock.runBinding (rules weather) s =
      (.done message, s.setVariable "weather" (.text weather.name)) := by
    unfold Block.runBinding
    simp only [lookBlock, Block.ofOp, hflag]
    exact ⟨_, rfl⟩
  have hrun : lookBlock.run (rules weather) answer s =
      ⟨.done message, s.setVariable "weather" (.text weather.name), answer⟩ := by
    show (⟨(lookBlock.runBinding (rules weather) s).1,
      (lookBlock.runBinding (rules weather) s).2, answer⟩ : Step) = _
    rw [hlook]
  rw [Rules.endOf_cons_of_running
    (by rw [hrun]; exact Rules.verdict_eq_running rfl (waits weather _)), hrun]

/-- Whatever the weather, just the path that is safe is taken at the fork. -/
theorem endOf_paths (hseen : s.vars.get? "weather" = some (.text weather.name))
    (hopen : Undecided s.world) :
    (rules weather).endOf
        (Weather.all.flatMap fun w => [ifWeather w, pathBlock (safePath w)]) s answer =
      (goal weather (s.taking (safePath weather))).outcome := by
  have htaken : (s.taking (safePath weather)).vars.get? "weather" =
      some (.text weather.name) := hseen
  simp only [Weather.all, List.flatMap_cons, List.flatMap_nil, List.cons_append,
    List.nil_append]
  cases weather with
  | sunny =>
    rw [endOf_same hseen hopen, endOf_other htaken .rainy nofun,
      endOf_other htaken .stormy nofun]
    rfl
  | rainy =>
    rw [endOf_other hseen .sunny nofun, endOf_same hseen hopen,
      endOf_other htaken .stormy nofun]
    rfl
  | stormy =>
    rw [endOf_other hseen .sunny nofun, endOf_other hseen .rainy nofun,
      endOf_same hseen hopen]
    rfl

theorem isSuccess_passage (weather : Weather) :
    ((rules weather).endOf passage (rules weather).openingScene none).isSuccess = true := by
  let opening := (rules weather).openingScene
  let atFork := (opening.mapWorld World.stepForward).mapWorld World.stepForward
  let looked := atFork.setVariable "weather" (.text weather.name)
  have hopen : Undecided looked.world := ⟨rfl, flag?_opening weather⟩
  have hseen : looked.vars.get? "weather" = some (.text weather.name) :=
    Bindings.get?_insert_self _ _ _
  have hend : (rules weather).endOf passage opening none =
      (goal weather (looked.taking (safePath weather))).outcome := by
    rw [passage, Rules.endOf_stepForward (waits weather _) (show 0 < 5 by decide),
      Rules.endOf_stepForward (waits weather _) (show 1 < 5 by decide),
      endOf_lookBlock (s := atFork) (foreseen_opening weather).flag?_eq]
    exact endOf_paths hseen hopen
  rw [hend]
  obtain ⟨-, message, hmet⟩ | ⟨hwrong, -⟩ :=
    goal_of_taken weather (flag?_taking looked (safePath weather))
  · rw [hmet]
    rfl
  · exact absurd rfl hwrong

theorem getAll_passageIds :
    Level.crossroads.catalog.getAll passageIds = .ok passage := by
  decide +kernel

theorem wonBy_passageIds {setup : Setup} (hlevel : setup.level = .crossroads) :
    setup.WonBy passageIds := by
  have hblocks : setup.level.catalog.getAll passageIds =
      .ok passage := by
    rw [hlevel]
    exact getAll_passageIds
  have hrules : setup.rules = rules setup.weather := by
    rw [Setup.rules_eq, hlevel]
  refine Setup.wonBy_of_endOf hblocks ?_ ?_ ?_
  · decide +kernel
  · decide +kernel
  · rw [hrules]
    exact isSuccess_passage setup.weather

end Crossroads

/-! ## Every draw -/

/-- Whatever the seed and whatever is fixed beforehand: three monsters stand in the gauntlet,
each listed one in its slot, and three duels win against them; and at the crossroads the
passage wins in whatever weather. -/
theorem every_draw_is_won (setup : Setup) :
    (setup.monsters.length = 3 ∧ (∀ kind ∈ setup.monsters, kind.isMonster = true) ∧
      ∀ listed slot kind, setup.monsters? = some listed → slot < 3 →
        listed[slot]? = some kind → kind.isMonster = true →
        setup.monsters[slot]? = some kind) ∧
    (setup.level = .combat → setup.WonBy (List.replicate 3 Gauntlet.duelIds).flatten) ∧
    (setup.level = .crossroads → setup.WonBy Crossroads.passageIds) := by
  refine ⟨⟨?_, ?_, ?_⟩, Gauntlet.wonBy_duelIds, Crossroads.wonBy_passageIds⟩
  · exact Gauntlet.length_drawSlots _ _ _
  · obtain ⟨k₁, k₂, k₃, hmonsters, hkinds⟩ :=
      Gauntlet.exists_drawMonsters setup.seed setup.monsters?
    have hdrawn : setup.monsters = [k₁, k₂, k₃] := hmonsters
    rw [hdrawn]
    exact hkinds
  · intro listed slot kind hlisted hslot hkind hmonster
    rw [Setup.monsters, Gauntlet.drawMonsters, hlisted]
    exact Gauntlet.getElem?_drawSlots hslot hkind hmonster

end Spellbook
