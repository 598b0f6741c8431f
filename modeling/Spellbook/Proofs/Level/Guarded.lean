import Mathlib.Data.List.Nodup
import Spellbook.Proofs.Run.Choices
set_option autoImplicit false

/-!
# Programs that check before they choose

At the crossroads a path can be wrong, and in the gauntlet a spell.  A program is `Guarded`
if right before each such block stands the check that admits it, and then it never makes a
wrong choice (`guarded_never_wrong`): what the checks read is kept true by every block
(`Crossroads.Foreseen`, `Gauntlet.Scanned`), so a check that says yes is right about the
choice behind it.
-/

namespace Spellbook

variable {α β : Type} {action : α → Block} {check : β → Block} {fits : β → α → Prop}

/-! ## Guarded programs -/

/-- Right before each of these actions stands a check that fits it. -/
def Guarded (action : α → Block) (check : β → Block) (fits : β → α → Prop)
    (blocks : List Block) : Prop :=
  ∀ before a after, blocks = before ++ action a :: after →
    ∃ b, before.getLast? = some (check b) ∧ fits b a

theorem guarded_of_ne {blocks : List Block} (h : ∀ a, action a ∉ blocks) :
    Guarded action check fits blocks := by
  rintro before a after rfl
  exact absurd (by simp) (h a)

/-- A check that fits an action stands right before it. -/
theorem guarded_pair {b : β} {a : α} (hfits : fits b a)
    (haction : ∀ a', (action a).op = (action a').op → a = a')
    (hcheck : ∀ a', (check b).op ≠ (action a').op) :
    Guarded action check fits [check b, action a] := by
  intro before a' after heq
  match before, heq with
  | [], heq => exact absurd (congrArg Block.op (List.cons.inj heq).1) (hcheck a')
  | [asked], heq =>
    obtain ⟨rfl, hrest⟩ := List.cons.inj heq
    obtain rfl := haction a' (congrArg Block.op (List.cons.inj hrest).1)
    exact ⟨b, rfl, hfits⟩
  | _ :: _ :: before, heq => simp at heq

/-- Guarded programs one after the other are guarded. -/
theorem Guarded.append {blocks later : List Block} (h : Guarded action check fits blocks)
    (hlater : Guarded action check fits later) : Guarded action check fits (blocks ++ later) := by
  intro before a after heq
  rcases List.append_eq_append_iff.1 heq with ⟨between, rfl, hlast⟩ | ⟨between, rfl, hlast⟩
  · obtain ⟨b, hb, hfits⟩ := hlater between a after hlast
    exact ⟨b, by simp [List.getLast?_append, hb], hfits⟩
  · cases between with
    | nil =>
      -- A guarded program does not begin with such an action.
      obtain ⟨b, hb, -⟩ := hlater [] a after hlast.symm
      cases hb
    | cons first rest =>
      obtain ⟨rfl, -⟩ := List.cons.inj hlast
      exact h before a rest rfl

/-! ## Levels with choices -/

/-- The blocks of a level on which some actions can be wrong.  What the checks read is found
out by the operation `look`. -/
inductive Offered (action : α → Block) (check : β → Block) (look : Op) : Block → Prop
  | walks : Offered action check look .stepForward
  | looks {block : Block} (hcategory : block.category = .binding) (hop : block.op = look) :
      Offered action check look block
  | checks (b : β) : Offered action check look (check b)
  | acts (a : α) : Offered action check look (action a)
  | celebrates : Offered action check look .celebrate

/-- How the checks of a level tell which of its actions is right.  What is known of a scene
is so at the start and stays so, and then a check that fits an action and says yes admits no
wrong choice. -/
structure Safeguard (rules : Rules) (action : α → Block) (check : β → Block) (look : Op)
    (fits : β → α → Prop) (Known : Scene → Prop) : Prop where
  offered : ∀ block ∈ rules.blocks, Offered action check look block
  gates : ∀ a, rules.Gates (action a)
  category_check : ∀ b, (check b).category = .condition
  leaves_check : ∀ b vars, ∃ left, (check b).leaves? vars = some left
  opening : Known rules.openingScene
  walked : ∀ s, Known s → Known (s.mapWorld World.stepForward)
  looked : ∀ (block : Block) s, block.op = look → Known s → Known (block.runBinding rules s).2
  performed : ∀ a s, Known s → Known (rules.perform (action a).op s).2
  right : ∀ b a s, Known s → fits b a → (check b).leaves? s.vars = some (some true) →
    ∀ reason, (rules.perform (action a).op s).1 ≠ .fail .wrongChoice reason

namespace Safeguard

variable {rules : Rules} {look : Op} {Known : Scene → Prop} {block : Block}

theorem ne_loop (h : Safeguard rules action check look fits Known)
    (hblock : Offered action check look block) : block.category ≠ .loop := by
  cases hblock with
  | walks => exact nofun
  | looks hcategory hop =>
    rw [hcategory]
    exact nofun
  | checks b =>
    rw [h.category_check b]
    exact nofun
  | acts a =>
    rw [(h.gates a).1]
    exact nofun
  | celebrates => exact nofun

/-- What is known of a scene stays so, whichever block runs. -/
theorem keeps (h : Safeguard rules action check look fits Known)
    (hblock : Offered action check look block) (answer : Option Bool) {s : Scene}
    (hs : Known s) : Known (block.run rules answer s).scene := by
  cases hblock with
  | walks =>
    have hrun : (Block.stepForward.run rules answer s).scene = (Block.runMovement s).2 := rfl
    rw [hrun, Block.runMovement]
    split
    · exact hs
    · exact h.walked s hs
  | looks hcategory hop =>
    simp only [Block.run, hcategory]
    exact h.looked block s hop hs
  | checks b =>
    simp only [Block.run, h.category_check b]
    exact hs
  | acts a =>
    rw [Block.run_of_gates (h.gates a)]
    split
    · exact hs
    · exact hs
    · exact h.performed a s hs
  | celebrates => exact hs

/-- Of all blocks just these actions can be wrong. -/
theorem exists_action (h : Safeguard rules action check look fits Known)
    (hblock : Offered action check look block)
    (hacts : block.category = .action ∧ block.op ≠ .celebrate) : ∃ a, block = action a := by
  obtain ⟨hcategory, hop⟩ := hacts
  cases hblock with
  | acts a => exact ⟨a, rfl⟩
  | celebrates => exact absurd rfl hop
  | walks => cases hcategory
  | looks hbinding hlook =>
    rw [hbinding] at hcategory
    cases hcategory
  | checks b =>
    rw [h.category_check b] at hcategory
    cases hcategory

theorem neverWrong (h : Safeguard rules action check look fits Known) {program : List Placed}
    (hoffered : ∀ placed ∈ program, placed.block ∈ rules.blocks)
    (hguarded : Guarded action check fits (program.map Placed.block)) :
    rules.NeverWrong program := by
  have hblock : ∀ placed ∈ program, Offered action check look placed.block :=
    fun placed hmem => h.offered _ (hoffered placed hmem)
  apply Rules.neverWrong_of_trace
  intro events last s' htrace hwrong
  obtain ⟨before, placed, after, told, r, s, rfl, htold, hat⟩ :=
    htrace.exists_wrongAt (fun placed hmem => h.ne_loop (hblock placed hmem)) hwrong
  have hknown : Known s := htold.keeps (Run.wellFormed_start _)
    (fun placed hmem answer s => h.keeps (hblock placed hmem) answer) h.opening
  obtain ⟨reason, hperform⟩ := hat.wrong
  obtain ⟨a, haction⟩ := h.exists_action (hblock placed (by simp)) hat.acts
  -- The check right before this action fits it and has said yes.
  obtain ⟨b, hlast, hfits⟩ := hguarded (before.map Placed.block) a (after.map Placed.block)
    (by rw [List.map_append, List.map_cons, haction])
  rw [List.getLast?_map] at hlast
  obtain ⟨asked, hasked, hcheck⟩ := Option.map_eq_some_iff.1 hlast
  obtain ⟨left, hleft⟩ := h.leaves_check b s.vars
  have hneeds : rules.needsCheck placed.block.op = true := by
    rw [haction]
    exact (h.gates a).2.2
  obtain rfl := hat.leaves hneeds asked hasked left (by rw [hcheck, hleft])
  rw [haction] at hperform
  exact h.right b a s hknown hfits hleft reason hperform

end Safeguard

/-! ## What checks find -/

namespace Block

/-- A check for a text that says yes has found this text in its variable. -/
theorem get?_of_ifText {id label variable_ text description : String} {vars : Bindings}
    (h : (ifText id label variable_ text description).leaves? vars = some (some true)) :
    vars.get? variable_ = some (.text text) := by
  have hvalue : (vars.get? variable_).map (fun current => decide (current = .text text)) =
      some true := Option.some.inj h
  obtain ⟨current, hcurrent, hheld⟩ := Option.map_eq_some_iff.1 hvalue
  rw [hcurrent, of_decide_eq_true hheld]

end Block

/-! ## The crossroads -/

namespace Crossroads

/-- The path is the safe one in this weather. -/
def Admits (weather : Weather) (path : Path) : Prop := safePath weather = path

/-- The weather is that of the level, and so is what the wizard has seen of it, if anything. -/
structure Foreseen (weather : Weather) (s : Scene) : Prop where
  flag?_eq : s.world.flag? "weather" = some (.text weather.name)
  seen : ∀ v, s.vars.get? "weather" = some v → v = .text weather.name

theorem offered_of_mem {block : Block} (h : block ∈ blocks) :
    Offered pathBlock ifWeather (.readFlag "weather" "weather") block := by
  simp only [blocks, List.mem_cons, List.not_mem_nil, or_false] at h
  rcases h with rfl | rfl | rfl | rfl | rfl | rfl | rfl | rfl | rfl
  · exact .walks
  · exact .looks rfl rfl
  · exact .checks Weather.sunny
  · exact .checks Weather.rainy
  · exact .checks Weather.stormy
  · exact .acts Path.mountain
  · exact .acts Path.forest
  · exact .acts Path.cave
  · exact .celebrates

variable {weather : Weather} {s : Scene}

/-- No path changes the weather or what is seen of it. -/
theorem Foreseen.takePath (h : Foreseen weather s) (path : Path) :
    Foreseen weather (takePath weather path s).2 := by
  have hchosen : Foreseen weather (s.mapWorld (·.setFlag "chosenPath" (.text path.name))) := by
    refine ⟨?_, h.seen⟩
    have hne : "weather" ≠ "chosenPath" := by decide
    rw [← h.flag?_eq]
    exact Bindings.get?_insert_of_ne s.world.flags _ hne
  unfold Crossroads.takePath
  split
  · exact h
  · split
    · exact h
    · dsimp only
      split
      · exact hchosen
      · exact hchosen

theorem gates_pathBlock (weather : Weather) (path : Path) :
    (rules weather).Gates (pathBlock path) := by
  refine ⟨rfl, ?_, rfl⟩
  intro hop
  cases hop

/-- To look at the sky is to see the weather of the level. -/
theorem Foreseen.look (h : Foreseen weather s) {block : Block}
    (hop : block.op = .readFlag "weather" "weather") (rules : Rules) :
    Foreseen weather (block.runBinding rules s).2 := by
  simp only [Block.runBinding, hop, h.flag?_eq]
  refine ⟨h.flag?_eq, ?_⟩
  intro v hv
  rw [Scene.setVariable, Bindings.get?_insert_self] at hv
  exact (Option.some.inj hv).symm

theorem foreseen_opening (weather : Weather) :
    Foreseen weather (rules weather).openingScene where
  flag?_eq := by
    have hne : "weather" ≠ "forkPosition" := by decide
    have hset := Bindings.get?_insert_self (World.ofLength 6).flags "weather" (.text weather.name)
    rw [← hset]
    exact Bindings.get?_insert_of_ne _ _ hne
  seen v hv := by cases hv

/-- The safe path of the weather is no wrong choice. -/
theorem takePath_safePath_ne (weather : Weather) (s : Scene) (reason : String) :
    (takePath weather (safePath weather) s).1 ≠ .fail .wrongChoice reason := by
  unfold takePath
  split
  · exact nofun
  · split
    · exact nofun
    · simp

/-- What is seen of the weather tells which path is right. -/
theorem safeguard (weather : Weather) :
    Safeguard (rules weather) pathBlock ifWeather (.readFlag "weather" "weather") Admits
      (Foreseen weather) where
  offered _ hblock := offered_of_mem hblock
  gates := gates_pathBlock weather
  category_check _ := rfl
  leaves_check _ _ := ⟨_, rfl⟩
  opening := foreseen_opening weather
  walked _ h := ⟨h.flag?_eq, h.seen⟩
  looked _ _ hop h := h.look hop (rules weather)
  performed path _ h := h.takePath path
  right seen path s h hfits hyes := by
    have hseen := h.seen _ (Block.get?_of_ifText hyes)
    have hread (w : Weather) : Named.ofName? w.name = some w := by
      cases w <;> decide
    have hweather : seen = weather := Named.name_injective hread (Value.text.inj hseen)
    obtain rfl : safePath seen = path := hfits
    rw [hweather]
    exact takePath_safePath_ne weather s

/-- The way to the fork, and the path that is safe, whatever the weather. -/
def journey : List Block :=
  let way := Program.ofIds blocks ["check-weather", "step-forward", "step-forward"]
  way.placed.map Placed.block ++
    ([ifWeather .sunny, pathBlock .mountain] ++
      ([ifWeather .rainy, pathBlock .forest] ++ [ifWeather .stormy, pathBlock .cave]))

theorem guarded_journey : Guarded pathBlock ifWeather Admits journey := by
  have hpair (weather : Weather) (path : Path) (h : Admits weather path) :
      Guarded pathBlock ifWeather Admits [ifWeather weather, pathBlock path] :=
    guarded_pair h (fun _ heq => Op.takePath.inj heq) (fun _ => nofun)
  refine Guarded.append (guarded_of_ne ?_) ?_
  · intro path
    cases path <;> decide +kernel
  · exact (hpair .sunny .mountain rfl).append
      ((hpair .rainy .forest rfl).append (hpair .stormy .cave rfl))

end Crossroads

/-! ## The gauntlet -/

namespace Gauntlet

/-- The monster is weak to this spell. -/
def Admits (kind : Thing.Kind) (spell : Spell) : Prop := weakness? kind = some spell

/-- No two things have the same id, and the scanned one is what the wizard remembers. -/
structure Scanned (s : Scene) : Prop where
  nodup : (s.world.things.map Thing.id).Nodup
  target : ∀ id, s.world.target = some id →
    ∃ t ∈ s.world.things, t.id = id ∧ s.vars.get? "monster" = some (.text t.kind.name)

theorem offered_of_mem {block : Block} (h : block ∈ blocks) :
    Offered spellBlock ifMonster (.scan "monster") block := by
  simp only [blocks, List.mem_cons, List.not_mem_nil, or_false] at h
  rcases h with rfl | rfl | rfl | rfl | rfl | rfl | rfl | rfl | rfl
  · exact .walks
  · exact .looks rfl rfl
  · exact .checks Thing.Kind.goblin
  · exact .checks Thing.Kind.troll
  · exact .checks Thing.Kind.dragon
  · exact .acts Spell.fire
  · exact .acts Spell.ice
  · exact .acts Spell.lightning
  · exact .celebrates

variable {s : Scene}

/-- Where nothing is scanned there is nothing to remember. -/
theorem Scanned.forget {things : List Thing} (h : Scanned s)
    (hthings : World.OneResolved s.world.things things) {w : World} (hw : w.things = things)
    (htarget : w.target = none) : Scanned { s with world := w } where
  nodup := by
    have hids : things.map Thing.id = s.world.things.map Thing.id := by
      have hidentity := congrArg (List.map Prod.fst) hthings.map_identity
      rw [List.map_map, List.map_map] at hidentity
      exact hidentity
    rw [hw, hids]
    exact h.nodup
  target id hid := by
    rw [htarget] at hid
    cases hid

theorem Scanned.scan (h : Scanned s) (rules : Rules) :
    Scanned (Block.runScan rules "monster" s).2 := by
  unfold Block.runScan
  split
  · rename_i thing hfound
    obtain ⟨hmem, -, -⟩ := World.of_unresolvedHere? hfound
    refine ⟨h.nodup, fun id hid => ⟨thing, hmem, Option.some.inj hid, ?_⟩⟩
    exact Bindings.get?_insert_self s.vars "monster" (.text thing.kind.name)
  · exact h

/-- A spell that strikes forgets its target, and no other spell changes anything. -/
theorem Scanned.cast (h : Scanned s) (spell : Spell) : Scanned (cast spell s).2 := by
  unfold Gauntlet.cast
  split
  · exact h
  · rename_i thing htarget
    dsimp only
    split
    · exact h
    · split
      · exact h.forget (World.oneResolved_markResolved thing.id s.world.things) rfl rfl
      · exact h

theorem gates_spellBlock (monsters : List Thing.Kind) (spell : Spell) :
    (rules monsters).Gates (spellBlock spell) := by
  refine ⟨rfl, ?_, rfl⟩
  intro hop
  cases hop

theorem addThings (ts : List Thing) (w : World) :
    ts.foldl World.addThing w = { w with things := w.things ++ ts } := by
  induction ts generalizing w with
  | nil => simp
  | cons t rest ih => simp [ih, World.addThing]

theorem map_id_placeMonsters (monsters : List Thing.Kind) :
    (placeMonsters monsters).map Thing.id =
      (List.range' 0 (monsters.zip squares).length).map (fun i => s!"monster-{i + 1}") := by
  rw [← List.zipIdx_map_snd 0 (monsters.zip squares), placeMonsters, List.map_map, List.map_map]
  rfl

theorem scanned_opening (monsters : List Thing.Kind) :
    Scanned (rules monsters).openingScene where
  nodup := by
    have hthings : (world monsters).things = placeMonsters monsters := by
      rw [world, addThings]
      rfl
    have hlength : (monsters.zip squares).length ≤ 3 := by
      rw [List.length_zip]
      exact Nat.min_le_right _ _
    show ((world monsters).things.map Thing.id).Nodup
    rw [hthings, map_id_placeMonsters]
    apply List.Nodup.sublist ((List.range'_sublist_right.2 hlength).map _)
    decide
  target id hid := by
    have hnone : (world monsters).target = none := by
      rw [world, addThings]
      rfl
    rw [show (rules monsters).openingScene.world.target = none from hnone] at hid
    cases hid

/-- The spell that the scanned monster is weak to is no wrong choice. -/
theorem cast_weakness_ne {kind : Thing.Kind} {spell : Spell} (h : Scanned s)
    (hkind : s.vars.get? "monster" = some (.text kind.name)) (hweak : weakness? kind = some spell)
    (reason : String) : (cast spell s).1 ≠ .fail .wrongChoice reason := by
  unfold cast
  cases hstruck : target? s.world with
  | none => exact nofun
  | some thing =>
    obtain ⟨htarget, -⟩ := Option.filter_eq_some_iff.1 hstruck
    obtain ⟨id, hid, hfind⟩ := Option.bind_eq_some_iff.1 htarget
    obtain ⟨t, hmem, hsame, hremembered⟩ := h.target id hid
    have hstands : thing ∈ s.world.things := List.mem_of_find?_eq_some hfind
    have hthing : thing.id = id := by simpa using List.find?_some hfind
    obtain rfl : t = thing :=
      List.inj_on_of_nodup_map h.nodup hmem hstands (hsame.trans hthing.symm)
    have hname : kind.name = t.kind.name :=
      Value.text.inj (Option.some.inj (hkind.symm.trans hremembered))
    obtain rfl : kind = t.kind := Named.name_injective Thing.Kind.ofName?_name hname
    simp [hweak]

/-- What the wizard remembers of the scanned monster tells which spell is right. -/
theorem safeguard (monsters : List Thing.Kind) :
    Safeguard (rules monsters) spellBlock ifMonster (.scan "monster") Admits Scanned where
  offered _ hblock := offered_of_mem hblock
  gates := gates_spellBlock monsters
  category_check _ := rfl
  leaves_check _ _ := ⟨_, rfl⟩
  opening := scanned_opening monsters
  walked _ h := h.forget (.inl rfl) rfl rfl
  looked block s hop h := by
    rw [Block.runBinding, hop]
    exact h.scan (rules monsters)
  performed spell _ h := h.cast spell
  right _ _ _ h hfits hyes := cast_weakness_ne h (Block.get?_of_ifText hyes) hfits

/-- The way to the next monster, and the spell against it, whichever it is. -/
def duel : List Block :=
  let way := Program.ofIds blocks ["step-forward", "step-forward", "scan-monster"]
  way.placed.map Placed.block ++
    ([ifMonster .goblin, spellBlock .fire] ++
      ([ifMonster .troll, spellBlock .lightning] ++ [ifMonster .dragon, spellBlock .ice]))

theorem guarded_duel : Guarded spellBlock ifMonster Admits duel := by
  have hpair (kind : Thing.Kind) (spell : Spell) (h : Admits kind spell) :
      Guarded spellBlock ifMonster Admits [ifMonster kind, spellBlock spell] :=
    guarded_pair h (fun _ heq => Op.castSpell.inj heq) (fun _ => nofun)
  refine Guarded.append (guarded_of_ne ?_) ?_
  · intro spell
    cases spell <;> decide +kernel
  · exact (hpair .goblin .fire rfl).append
      ((hpair .troll .lightning rfl).append (hpair .dragon .ice rfl))

end Gauntlet

/-! ## Both levels -/

/-- On the gauntlet, whatever monsters stand there, a program never makes a wrong choice if
right before each spell stands the check for a monster that is weak to it, and neither does
one at the crossroads, in whatever weather, if right before each path stands the check for
the weather in which it is safe.  All other blocks may stand anywhere. -/
theorem guarded_never_wrong (setup : Setup) (program : List Placed)
    (hoffered : ∀ placed ∈ program, placed.block ∈ setup.rules.blocks) :
    (setup.level = .combat →
      Guarded Gauntlet.spellBlock Gauntlet.ifMonster Gauntlet.Admits
        (program.map Placed.block) →
      setup.rules.NeverWrong program) ∧
    (setup.level = .crossroads →
      Guarded Crossroads.pathBlock Crossroads.ifWeather Crossroads.Admits
        (program.map Placed.block) →
      setup.rules.NeverWrong program) := by
  constructor
  · intro hlevel hguarded
    have hrules : setup.rules = Gauntlet.rules setup.monsters := by
      rw [Setup.rules_eq, hlevel]
    rw [hrules] at hoffered ⊢
    exact (Gauntlet.safeguard setup.monsters).neverWrong hoffered hguarded
  · intro hlevel hguarded
    have hrules : setup.rules = Crossroads.rules setup.weather := by
      rw [Setup.rules_eq, hlevel]
    rw [hrules] at hoffered ⊢
    exact (Crossroads.safeguard setup.weather).neverWrong hoffered hguarded

/-- Two duels and a journey are guarded, so neither a troll behind a dragon nor a storm leads
them to a wrong choice. -/
theorem guarded_duels_and_journey :
    let duels := (Program.empty.appendAll (Gauntlet.duel ++ Gauntlet.duel)).placed
    let journey := (Program.empty.appendAll Crossroads.journey).placed
    let gauntlet : Setup := ⟨.combat, some 7, none, none, some [.dragon, .troll]⟩
    let crossroads : Setup := ⟨.crossroads, none, none, some .stormy, none⟩
    (∀ placed ∈ duels, placed.block ∈ gauntlet.rules.blocks) ∧
      Guarded Gauntlet.spellBlock Gauntlet.ifMonster Gauntlet.Admits (duels.map Placed.block) ∧
      gauntlet.rules.NeverWrong duels ∧
      (∀ placed ∈ journey, placed.block ∈ crossroads.rules.blocks) ∧
      Guarded Crossroads.pathBlock Crossroads.ifWeather Crossroads.Admits
        (journey.map Placed.block) ∧
      crossroads.rules.NeverWrong journey ∧
      (crossroads.rules.play journey .never default).run.outcome.isSuccess = true := by
  intro duels journey gauntlet crossroads
  have hduels : ∀ placed ∈ duels, placed.block ∈ gauntlet.rules.blocks := by decide +kernel
  have hjourney : ∀ placed ∈ journey, placed.block ∈ crossroads.rules.blocks := by
    decide +kernel
  obtain ⟨hcombat, -⟩ := guarded_never_wrong gauntlet duels hduels
  obtain ⟨-, hfork⟩ := guarded_never_wrong crossroads journey hjourney
  have hspells : Guarded Gauntlet.spellBlock Gauntlet.ifMonster Gauntlet.Admits
      (duels.map Placed.block) := by
    rw [Program.map_block_appendAll]
    exact Gauntlet.guarded_duel.append Gauntlet.guarded_duel
  have hpaths : Guarded Crossroads.pathBlock Crossroads.ifWeather Crossroads.Admits
      (journey.map Placed.block) := by
    rw [Program.map_block_appendAll]
    exact Crossroads.guarded_journey
  exact ⟨hduels, hspells, hcombat rfl hspells, hjourney, hpaths, hfork rfl hpaths,
    by decide +kernel⟩

/-- Behind the check for another monster a spell goes wrong. -/
example :
    let program := Program.ofIds Gauntlet.blocks
      ["step-forward", "step-forward", "scan-monster", "if-goblin", "cast-ice"]
    ((Gauntlet.rules [.goblin, .troll, .dragon]).play program.placed .never
      default).run.outcome.failureKind? = some .wrongChoice := by
  decide +kernel

end Spellbook
