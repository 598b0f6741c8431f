import Spellbook.Proofs.Catalog.Lookup
import Spellbook.Proofs.Checks
import Spellbook.Proofs.Workbench.Requested
set_option autoImplicit false

/-!
# Requests that are met

A request is met just if its level, its weather, its monsters and its blocks are known and its
monsters are three (`Request.exists_workbench_iff`).  Otherwise the fault is the first in a fixed
order of all that is wrong with it (`Request.workbench_eq_error_iff`).  On the workbench that a
request is met with, its blocks are loaded and nothing has run (`Request.created_of_workbench`).
-/

namespace Spellbook

namespace Thing.Kind

variable {name : String} {names : List String} {kind : Kind} {kinds : List Kind} {fault : Fault}

/-- The name of a monster. -/
def IsMonsterName (name : String) : Prop := name ∈ monsters.map Kind.name

instance (name : String) : Decidable (IsMonsterName name) :=
  inferInstanceAs (Decidable (name ∈ monsters.map Kind.name))

theorem filter_isMonster_eq_some_iff :
    (ofName? name).filter isMonster = some kind ↔ kind ∈ monsters ∧ kind.name = name := by
  rw [Option.filter_eq_some_iff]
  constructor
  · rintro ⟨hname, hmonster⟩
    exact ⟨by simpa [isMonster] using hmonster, Named.name_of_ofName? hname⟩
  · rintro ⟨hmonster, rfl⟩
    exact ⟨ofName?_name kind, by simpa [isMonster] using hmonster⟩

theorem filter_isMonster_eq_none_iff :
    (ofName? name).filter isMonster = none ↔ ¬ IsMonsterName name := by
  rw [Option.eq_none_iff_forall_ne_some, IsMonsterName, List.mem_map, not_exists]
  exact forall_congr' fun kind => not_congr filter_isMonster_eq_some_iff

/-- The fault of reading the names of monsters is that of the first that names none. -/
theorem monstersNamed_eq_error_iff :
    monstersNamed names = .error fault ↔
      ∃ name, FirstUnknown IsMonsterName names name ∧ fault = .monsterUnknown name := by
  induction names with
  | nil => simp [monstersNamed, FirstUnknown.not_nil]
  | cons first rest ih =>
    rw [monstersNamed]
    cases hread : (ofName? first).filter isMonster with
    | none =>
      have hfirst := filter_isMonster_eq_none_iff.1 hread
      simp [FirstUnknown.cons_iff_of_not_known hfirst, eq_comm]
    | some kind =>
      have hfirst : IsMonsterName first :=
        List.mem_map.2 ⟨kind, filter_isMonster_eq_some_iff.1 hread⟩
      simp only [FirstUnknown.cons_iff_of_known hfirst, ← ih]
      cases monstersNamed rest <;> simp

theorem of_monstersNamed (h : monstersNamed names = .ok kinds) :
    kinds.map Kind.name = names ∧ ∀ kind ∈ kinds, kind ∈ monsters := by
  induction names generalizing kinds with
  | nil =>
    cases h
    exact ⟨rfl, fun _ hmem => absurd hmem List.not_mem_nil⟩
  | cons first rest ih =>
    rw [monstersNamed] at h
    split at h
    · cases h
    rename_i kind hread
    obtain ⟨hmonster, hname⟩ := filter_isMonster_eq_some_iff.1 hread
    split at h
    · cases h
    rename_i others hrest
    cases h
    obtain ⟨hnames, hothers⟩ := ih hrest
    exact ⟨by rw [List.map_cons, hname, hnames], List.forall_mem_cons.2 ⟨hmonster, hothers⟩⟩

end Thing.Kind

/-! ## Names of levels and kinds of weather -/

namespace Named

variable {α : Type} [Named α] {a : α} {s : String} {fault unknown : Fault}

/-- Reads the name of a member, or tells the fault that it is none. -/
def read (s : String) (unknown : Fault) : Except Fault α :=
  match ofName? s with
  | some a => .ok a
  | none => .error unknown

theorem read_eq_error_iff :
    (read s unknown : Except Fault α) = .error fault ↔
      s ∉ (all : List α).map name ∧ fault = unknown := by
  rw [← ofName?_eq_none_iff, read]
  cases (ofName? s : Option α) <;> simp [eq_comm]

theorem name_of_read (h : read s unknown = .ok a) : name a = s := by
  unfold read at h
  split at h
  · rename_i hread
    cases h
    exact name_of_ofName? hread
  · cases h

end Named

namespace Level

variable {level : Level} {name : String} {fault : Fault}

theorem named_eq_read (name : String) : named name = Named.read name (.levelUnknown name) := by
  unfold named Named.read
  cases (Named.ofName? name : Option Level) <;> rfl

theorem named_eq_error_iff :
    named name = .error fault ↔ name ∉ all.map Level.name ∧ fault = .levelUnknown name := by
  rw [named_eq_read]
  exact Named.read_eq_error_iff

theorem name_of_named (h : named name = .ok level) : level.name = name := by
  rw [named_eq_read] at h
  exact Named.name_of_read h

theorem name_mem (level : Level) : level.name ∈ all.map Level.name := by
  cases level <;> decide

end Level

namespace Weather

variable {weather : Weather} {name : String} {fault : Fault}

theorem named_eq_read (name : String) : named name = Named.read name (.weatherUnknown name) := by
  unfold named Named.read
  cases (Named.ofName? name : Option Weather) <;> rfl

theorem named_eq_error_iff :
    named name = .error fault ↔ name ∉ all.map Weather.name ∧ fault = .weatherUnknown name := by
  rw [named_eq_read]
  exact Named.read_eq_error_iff

theorem name_of_named (h : named name = .ok weather) : weather.name = name := by
  rw [named_eq_read] at h
  exact Named.name_of_read h

theorem name_mem (weather : Weather) : weather.name ∈ all.map Weather.name := by
  cases weather <;> decide

end Weather

namespace Workbench

theorem create_eq_error_iff {setup : Setup} {fault : Fault} :
    create setup = .error fault ↔ monstersFit setup = .error fault := by
  have hcatalog : Catalog.ofBlocks setup.policy.rules setup.policy.rules.blocks =
      .ok setup.level.catalog := setup.ofBlocks_rules
  unfold create
  simp only [hcatalog]
  cases monstersFit setup <;> simp

theorem monstersFit_of_monsters {setup : Setup} {kinds : List Thing.Kind}
    (hgiven : setup.monsters? = some kinds) (h : ∀ kind ∈ kinds, kind ∈ Thing.Kind.monsters) :
    monstersFit setup = if kinds.length = 3 then .ok () else .error (.monstersInvalid kinds) := by
  have hall : kinds.all Thing.Kind.isMonster = true := by
    simpa [Thing.Kind.isMonster] using h
  rw [monstersFit, hgiven]
  simp only [hall, and_true]
  rfl

end Workbench

namespace Request

/-! ## What is promised -/

/-- The codes of all that can be wrong with a request, in the order in which it is checked. -/
def checks : List String :=
  ["API_LEVEL_NOT_FOUND", "API_WEATHER_INVALID", "API_MONSTER_INVALID", "LEVEL_MONSTERS_INVALID",
    "CATALOG_BLOCK_NOT_FOUND"]

/-- The place of the code of a fault among the checks. -/
def rank (fault : Fault) : Nat := checks.idxOf fault.code

/-- Everything that a request names is known, and its monsters are three. -/
structure Acceptable (r : Request) : Prop where
  level : r.level ∈ Level.all.map Level.name
  weather : ∀ name ∈ r.weather?, name ∈ Weather.all.map Weather.name
  monsters : ∀ names ∈ r.monsters?, ∀ name ∈ names, Thing.Kind.IsMonsterName name
  three_monsters : ∀ names ∈ r.monsters?, names.length = 3
  blocks : ∀ level : Level, level.name = r.level → ∀ ids ∈ r.blocks?, ∀ id ∈ ids,
    id ∈ level.blocks.map Block.id

/-- Something that is wrong with a request. -/
inductive Violation (r : Request) : Fault → Prop
  | level (h : r.level ∉ Level.all.map Level.name) : Violation r (.levelUnknown r.level)
  | weather {name : String} (hgiven : r.weather? = some name)
      (h : name ∉ Weather.all.map Weather.name) : Violation r (.weatherUnknown name)
  | monster {names : List String} {name : String} (hgiven : r.monsters? = some names)
      (h : FirstUnknown Thing.Kind.IsMonsterName names name) : Violation r (.monsterUnknown name)
  | monsters {kinds : List Thing.Kind}
      (hgiven : r.monsters? = some (kinds.map Thing.Kind.name)) (h : kinds.length ≠ 3) :
      Violation r (.monstersInvalid kinds)
  | block {level : Level} {ids : List String} {id : String} (hlevel : level.name = r.level)
      (hgiven : r.blocks? = some ids)
      (h : FirstUnknown (· ∈ level.blocks.map Block.id) ids id) :
      Violation r (.blockUnknown id level)

/-- The workbench on which a request is met: it is set up as asked, the blocks are loaded and
numbered from 1, the scene is that of the start, and nothing has run. -/
structure Created (r : Request) (w : Workbench) : Prop where
  level_eq : w.level.name = r.level
  policy_eq : w.policy = w.setup.policy
  catalog_eq : w.catalog = w.level.catalog
  seed?_eq : w.setup.seed? = r.seed?
  stepDelay?_eq : w.setup.stepDelay? = r.stepDelay?
  weather?_eq : w.setup.weather?.map Weather.name = r.weather?
  monsters?_eq : w.setup.monsters?.map (fun kinds => kinds.map Thing.Kind.name) = r.monsters?
  blockIds_eq : w.program.blockIds = r.blocks?.getD []
  numbers_eq : w.program.numbers = List.range' 1 (r.blocks?.getD []).length
  scene_eq : w.scene = ⟨w.rules.initialWorld, .empty⟩
  history_eq : w.history = []
  run?_eq : w.run? = none
  not_running : w.isRunning = false

variable {r : Request} {w : Workbench} {fault other : Fault}

/-! ## The order of the checks -/

/-- The request passes the check in this place. -/
def Passes (r : Request) : Nat → Prop
  | 0 => r.level ∈ Level.all.map Level.name
  | 1 => ∀ name ∈ r.weather?, name ∈ Weather.all.map Weather.name
  | 2 => ∀ names ∈ r.monsters?, ∀ name ∈ names, Thing.Kind.IsMonsterName name
  | 3 => ∀ names ∈ r.monsters?, names.length = 3
  | _ => ∀ level : Level, level.name = r.level → ∀ ids ∈ r.blocks?, ∀ id ∈ ids,
    id ∈ level.blocks.map Block.id

theorem acceptable_iff : r.Acceptable ↔ ∀ place, r.Passes place := by
  constructor
  · intro h place
    match place with
    | 0 => exact h.level
    | 1 => exact h.weather
    | 2 => exact h.monsters
    | 3 => exact h.three_monsters
    | _ + 4 => exact h.blocks
  · exact fun h => ⟨h 0, h 1, h 2, h 3, h 4⟩

/-- What is wrong with a request fails its check. -/
theorem Violation.not_passes (h : r.Violation fault) : ¬ r.Passes (rank fault) := by
  cases h with
  | level h => exact h
  | weather hgiven h => exact fun hpasses => h (hpasses _ hgiven)
  | monster hgiven h =>
    exact fun hpasses => FirstUnknown.not_of_forall (hpasses _ hgiven) h
  | monsters hgiven h =>
    intro hpasses
    have hlength := hpasses _ hgiven
    rw [List.length_map] at hlength
    exact h hlength
  | block hlevel hgiven h =>
    exact fun hpasses => FirstUnknown.not_of_forall (hpasses _ hlevel _ hgiven) h

/-- Nothing else fails the same check. -/
theorem Violation.unique (h : r.Violation fault) (h' : r.Violation other)
    (hrank : rank fault = rank other) : fault = other := by
  cases h with
  | level h =>
    cases h' with
    | level h' => rfl
    | _ => cases hrank
  | weather hgiven h =>
    cases h' with
    | weather hgiven' h' => rw [Option.some.inj (hgiven.symm.trans hgiven')]
    | _ => cases hrank
  | monster hgiven h =>
    cases h' with
    | monster hgiven' h' =>
      cases Option.some.inj (hgiven.symm.trans hgiven')
      rw [h.unique h']
    | _ => cases hrank
  | monsters hgiven h =>
    cases h' with
    | monsters hgiven' h' =>
      have hkinds := Option.some.inj (hgiven.symm.trans hgiven')
      have hinjective : Function.Injective Thing.Kind.name :=
        Named.name_injective Thing.Kind.ofName?_name
      rw [hinjective.list_map hkinds]
    | _ => cases hrank
  | block hlevel hgiven h =>
    cases h' with
    | block hlevel' hgiven' h' =>
      cases Level.name_injective (hlevel.trans hlevel'.symm)
      cases Option.some.inj (hgiven.symm.trans hgiven')
      rw [h.unique h']
    | _ => cases hrank

theorem ordered (r : Request) : Checks r.Violation rank r.Passes :=
  ⟨Violation.not_passes, Violation.unique⟩

/-! ## The checks one by one -/

theorem optional_eq_error_iff {α β : Type} {read : α → Except Fault β} {given : Option α} :
    optional read given = .error fault ↔ ∃ a ∈ given, read a = .error fault := by
  cases given with
  | none => simp [optional]
  | some a => cases hread : read a <;> simp [optional, hread]

theorem optional_eq_ok_iff {α β : Type} {read : α → Except Fault β} {given : Option α}
    {b? : Option β} :
    optional read given = .ok b? ↔
      (given = none ∧ b? = none) ∨ ∃ a b, given = some a ∧ b? = some b ∧ read a = .ok b := by
  cases given with
  | none => simp [optional, eq_comm]
  | some a => cases hread : read a <;> simp [optional, hread, eq_comm]

/-- The setup that a request names. -/
structure SetUp (r : Request) (s : Setup) : Prop where
  level_eq : s.level.name = r.level
  seed?_eq : s.seed? = r.seed?
  stepDelay?_eq : s.stepDelay? = r.stepDelay?
  weather?_eq : s.weather?.map Weather.name = r.weather?
  monsters?_eq : s.monsters?.map (fun kinds => kinds.map Thing.Kind.name) = r.monsters?
  all_monsters : ∀ kinds ∈ s.monsters?, ∀ kind ∈ kinds, kind ∈ Thing.Kind.monsters

theorem passes_level {level : Level} (h : level.name = r.level) : r.Passes 0 := by
  show r.level ∈ _
  rw [← h]
  exact level.name_mem

theorem passes_weather {weather? : Option Weather} (h : weather?.map Weather.name = r.weather?) :
    r.Passes 1 := by
  intro name hgiven
  rw [← h] at hgiven
  obtain ⟨weather, -, rfl⟩ := Option.map_eq_some_iff.1 hgiven
  exact weather.name_mem

theorem passes_monsters {monsters? : Option (List Thing.Kind)}
    (h : monsters?.map (fun kinds => kinds.map Thing.Kind.name) = r.monsters?)
    (hall : ∀ kinds ∈ monsters?, ∀ kind ∈ kinds, kind ∈ Thing.Kind.monsters) : r.Passes 2 := by
  intro names hgiven name hmem
  rw [← h] at hgiven
  obtain ⟨kinds, hkinds, rfl⟩ := Option.map_eq_some_iff.1 hgiven
  obtain ⟨kind, hkind, rfl⟩ := List.mem_map.1 hmem
  exact List.mem_map_of_mem (hall kinds hkinds kind hkind)

/-- A setup that is named passes the first three checks. -/
theorem SetUp.passes {s : Setup} (h : r.SetUp s) : ∀ before < 3, r.Passes before
  | 0, _ => passes_level h.level_eq
  | 1, _ => passes_weather h.weather?_eq
  | 2, _ => passes_monsters h.monsters?_eq h.all_monsters

theorem weather_of_optional {weather? : Option Weather}
    (h : optional Weather.named r.weather? = .ok weather?) :
    weather?.map Weather.name = r.weather? := by
  rcases optional_eq_ok_iff.1 h with ⟨hgiven, rfl⟩ | ⟨name, weather, hgiven, rfl, hread⟩
  · rw [hgiven, Option.map_none]
  · rw [hgiven, Option.map_some, Weather.name_of_named hread]

theorem monsters_of_optional {monsters? : Option (List Thing.Kind)}
    (h : optional Thing.Kind.monstersNamed r.monsters? = .ok monsters?) :
    monsters?.map (fun kinds => kinds.map Thing.Kind.name) = r.monsters? ∧
      ∀ kinds ∈ monsters?, ∀ kind ∈ kinds, kind ∈ Thing.Kind.monsters := by
  rcases optional_eq_ok_iff.1 h with ⟨hgiven, rfl⟩ | ⟨names, kinds, hgiven, rfl, hread⟩
  · rw [hgiven]
    exact ⟨rfl, nofun⟩
  · obtain ⟨hnames, hmonsters⟩ := Thing.Kind.of_monstersNamed hread
    rw [hgiven, Option.map_some, hnames]
    refine ⟨rfl, ?_⟩
    rintro kinds ⟨⟩
    exact hmonsters

/-- The setup of a request is read, or its first name that is unknown is the fault. -/
theorem setUp_or_refused (r : Request) :
    (∃ s, r.setup = .ok s ∧ r.SetUp s) ∨
      ∃ fault, r.setup = .error fault ∧ MinimalFor r.Violation rank fault := by
  unfold setup
  cases hlevel : Level.named r.level with
  | error fault =>
    obtain ⟨hunknown, rfl⟩ := Level.named_eq_error_iff.1 hlevel
    exact .inr ⟨_, rfl, r.ordered.minimalFor (.level hunknown) rfl nofun⟩
  | ok level =>
  have hname := Level.name_of_named hlevel
  have hfirst : ∀ before < 1, r.Passes before :=
    Nat.forall_lt_succ_right.2 ⟨nofun, passes_level hname⟩
  cases hweather : optional Weather.named r.weather? with
  | error fault =>
    obtain ⟨name, hgiven, hread⟩ := optional_eq_error_iff.1 hweather
    obtain ⟨hunknown, rfl⟩ := Weather.named_eq_error_iff.1 hread
    exact .inr ⟨_, rfl, r.ordered.minimalFor (.weather hgiven hunknown) rfl hfirst⟩
  | ok weather? =>
  have hweather? := weather_of_optional hweather
  cases hmonsters : optional Thing.Kind.monstersNamed r.monsters? with
  | error fault =>
    obtain ⟨names, hgiven, hread⟩ := optional_eq_error_iff.1 hmonsters
    obtain ⟨name, hunknown, rfl⟩ := Thing.Kind.monstersNamed_eq_error_iff.1 hread
    exact .inr ⟨_, rfl, r.ordered.minimalFor (.monster hgiven hunknown) rfl
      (Nat.forall_lt_succ_right.2 ⟨hfirst, passes_weather hweather?⟩)⟩
  | ok monsters? =>
    obtain ⟨hmonsters?, hall⟩ := monsters_of_optional hmonsters
    exact .inl ⟨_, rfl, ⟨hname, rfl, rfl, hweather?, hmonsters?, hall⟩⟩

/-- The monsters of a setup are three, or the fault is that they are not. -/
theorem SetUp.three_or_refused {s : Setup} (h : r.SetUp s) :
    (Workbench.create s = .ok (Workbench.fresh s) ∧ r.Passes 3) ∨
      ∃ fault, Workbench.create s = .error fault ∧ MinimalFor r.Violation rank fault := by
  cases hgiven : s.monsters? with
  | none =>
    have hnone : r.monsters? = none := by rw [← h.monsters?_eq, hgiven, Option.map_none]
    have hfit : Workbench.monstersFit s = .ok () := by rw [Workbench.monstersFit, hgiven]
    refine .inl ⟨Workbench.create_eq_ok_iff.2 ⟨hfit, rfl⟩, ?_⟩
    intro names hsome
    rw [hnone] at hsome
    cases hsome
  | some kinds =>
    have hsome : r.monsters? = some (kinds.map Thing.Kind.name) := by
      rw [← h.monsters?_eq, hgiven, Option.map_some]
    have hfit := Workbench.monstersFit_of_monsters hgiven (h.all_monsters kinds hgiven)
    by_cases hlength : kinds.length = 3
    · rw [if_pos hlength] at hfit
      refine .inl ⟨Workbench.create_eq_ok_iff.2 ⟨hfit, rfl⟩, ?_⟩
      intro names hnames
      rw [hsome] at hnames
      cases hnames
      rw [List.length_map, hlength]
    · rw [if_neg hlength] at hfit
      exact .inr ⟨_, Workbench.create_eq_error_iff.2 hfit,
        r.ordered.minimalFor (.monsters hsome hlength) rfl h.passes⟩

theorem workbench_of_create_error {s : Setup} (hsetup : r.setup = .ok s)
    (hcreate : Workbench.create s = .error fault) : r.workbench = .error fault := by
  rw [workbench, hsetup]
  show Workbench.create s >>= _ = _
  rw [hcreate]
  rfl

theorem workbench_of_create {s : Setup} (hsetup : r.setup = .ok s)
    (hcreate : Workbench.create s = .ok w) :
    r.workbench = match r.blocks? with
      | none => .ok w
      | some ids =>
        match w.load ids with
        | (.error fault, _) => .error fault
        | (.ok _, w) => .ok w := by
  rw [workbench, hsetup]
  show Workbench.create s >>= _ = _
  rw [hcreate]
  rfl

/-- What was loaded on a new workbench leaves it as it was asked for. -/
theorem SetUp.created {s : Setup} {ids : List String} (h : r.SetUp s)
    (hids : r.blocks?.getD [] = ids) (hload : (Workbench.fresh s).Loaded ids w) :
    r.Created w := by
  obtain ⟨hblockIds, hnumbers, heq⟩ := hload
  have hsetup : w.setup = s := congrArg Workbench.setup heq
  have hpolicy : w.policy = s.policy := congrArg Workbench.policy heq
  have hscene : w.scene = s.rules.openingScene := congrArg Workbench.scene heq
  have hrun : w.run? = none := congrArg Workbench.run? heq
  exact {
    level_eq := by rw [Workbench.level, hsetup, h.level_eq]
    policy_eq := by rw [hpolicy, hsetup]
    catalog_eq := by
      rw [Workbench.level, hsetup]
      exact congrArg Workbench.catalog heq
    seed?_eq := by rw [hsetup, h.seed?_eq]
    stepDelay?_eq := by rw [hsetup, h.stepDelay?_eq]
    weather?_eq := by rw [hsetup, h.weather?_eq]
    monsters?_eq := by rw [hsetup, h.monsters?_eq]
    blockIds_eq := hblockIds.trans hids.symm
    numbers_eq := by
      rw [hids]
      exact hnumbers
    scene_eq := by
      rw [Workbench.rules, hpolicy]
      exact hscene
    history_eq := congrArg Workbench.history heq
    run?_eq := hrun
    not_running := by rw [Workbench.isRunning, hrun, Option.any_none] }

/-- A request is met with a workbench as it was asked for, or refused for the first that is
wrong with it. -/
theorem created_or_refused (r : Request) :
    (∃ w, r.workbench = .ok w ∧ r.Acceptable ∧ r.Created w) ∨
      ∃ fault, r.workbench = .error fault ∧ MinimalFor r.Violation rank fault := by
  rcases r.setUp_or_refused with ⟨s, hsetup, hnamed⟩ | ⟨fault, hsetup, hfirst⟩
  swap
  · exact .inr ⟨fault, by rw [workbench, hsetup]; rfl, hfirst⟩
  rcases hnamed.three_or_refused with ⟨hcreate, hthree⟩ | ⟨fault, hcreate, hfirst⟩
  swap
  · exact .inr ⟨fault, workbench_of_create_error hsetup hcreate, hfirst⟩
  have hpasses := hnamed.passes
  have hworkbench := workbench_of_create hsetup hcreate
  cases hids : r.blocks? with
  | none =>
    rw [hids] at hworkbench
    refine .inl ⟨_, hworkbench, ?_, hnamed.created (by rw [hids]; rfl) ⟨rfl, rfl, rfl⟩⟩
    refine ⟨hpasses 0 (by decide), hpasses 1 (by decide), hpasses 2 (by decide), hthree, ?_⟩
    rw [hids]
    intro level _ ids hids
    cases hids
  | some ids =>
    rw [hids] at hworkbench
    rcases hload : (Workbench.fresh s).load ids with ⟨answer, w⟩
    simp only [hload] at hworkbench
    cases answer with
    | ok numbers =>
      refine .inl ⟨w, hworkbench, ?_,
        hnamed.created (by rw [hids]; rfl) (Workbench.loaded_of_load hload).1⟩
      refine ⟨hpasses 0 (by decide), hpasses 1 (by decide), hpasses 2 (by decide), hthree, ?_⟩
      have hknown := (Workbench.exists_load_iff rfl).1 ⟨numbers, w, hload⟩
      intro level hlevel
      cases Level.name_injective (hlevel.trans hnamed.level_eq.symm)
      rw [hids]
      rintro ids ⟨⟩
      exact hknown
    | error fault =>
      obtain ⟨⟨id, hunknown, rfl⟩, -⟩ := (Workbench.load_eq_error_iff rfl).1 hload
      exact .inr ⟨_, hworkbench,
        r.ordered.minimalFor (.block hnamed.level_eq hids hunknown) rfl
          (Nat.forall_lt_succ_right.2 ⟨hpasses, hthree⟩)⟩

/-! ## All or nothing -/

theorem settles (r : Request) : Settles r.Violation rank r.Passes r.workbench := by
  rcases r.created_or_refused with ⟨w, hworkbench, hacceptable, -⟩ | ⟨fault, hworkbench, hfirst⟩
  · rw [hworkbench]
    exact acceptable_iff.1 hacceptable
  · rw [hworkbench]
    exact hfirst

theorem created_of_workbench (h : r.workbench = .ok w) : r.Created w := by
  rcases r.created_or_refused with ⟨w', hworkbench, -, hcreated⟩ | ⟨fault, hworkbench, -⟩
  · rw [hworkbench] at h
    cases h
    exact hcreated
  · rw [hworkbench] at h
    cases h

theorem exists_workbench_iff : (∃ w, r.workbench = .ok w) ↔ r.Acceptable :=
  (r.ordered.exists_ok_iff r.settles).trans acceptable_iff.symm

/-- The fault of a request is the first in its order of all that is wrong with it. -/
theorem workbench_eq_error_iff :
    r.workbench = .error fault ↔ MinimalFor r.Violation rank fault :=
  r.ordered.eq_error_iff r.settles

/-- Whatever is asked for: the request is met just if everything that it names is known and its
monsters are three, on every level alike, and otherwise the fault is the first in the order of the
checks of all that is wrong.  A request that is met has its blocks loaded and nothing run.  A
workbench without a run going on loads all of the blocks it is asked for in place of its program,
or, if one of them is unknown, none: the workbench that comes back with the fault still has its
program and its next number, and all else as it was. -/
theorem workbench_all_or_nothing (r : Request) :
    ((∃ w, r.workbench = .ok w) ↔ r.Acceptable) ∧
    (∀ fault, r.workbench = .error fault ↔ MinimalFor r.Violation rank fault) ∧
    (∀ w, r.workbench = .ok w → r.Created w) ∧
    ∀ (w : Workbench) (ids : List String), w.isRunning = false →
      ((∃ numbers w', w.load ids = (.ok numbers, w')) ↔ ∀ id ∈ ids, w.catalog.Has id) ∧
      (∀ numbers w', w.load ids = (.ok numbers, w') →
        w.Loaded ids w' ∧ numbers = w'.program.numbers) ∧
      ∀ fault w', w.load ids = (.error fault, w') ↔
        (∃ id, FirstUnknown w.catalog.Has ids id ∧ fault = .blockUnknown id w.catalog.level) ∧
          w' = w := by
  refine ⟨exists_workbench_iff, fun _ => workbench_eq_error_iff, fun _ => created_of_workbench, ?_⟩
  intro w ids hidle
  exact ⟨Workbench.exists_load_iff hidle, fun _ _ => Workbench.loaded_of_load,
    fun _ _ => Workbench.load_eq_error_iff hidle⟩

/-- Two goblins are too few also on the bridge, where nobody meets them, and this is found before
the spell that the bridge does not have.  Without them two steps are taken in, and neither of
the next blocks, as the second of them is unknown; the next number is still the third. -/
theorem workbench_all_or_nothing_bridge :
    let goblins : Request :=
      ⟨"bridge", some ["step-forward", "cast-fire"], none, none, none, some ["goblin", "goblin"]⟩
    let steps : Request :=
      { goblins with blocks? := some ["step-forward", "step-forward"], monsters? := none }
    MinimalFor goblins.Violation rank (.monstersInvalid [.goblin, .goblin]) ∧
      goblins.Violation (.blockUnknown "cast-fire" .bridge) ∧
      ∃ w w', steps.workbench = .ok w ∧ w.isRunning = false ∧
        w.load ["celebrate", "cast-fire"] = (.error (.blockUnknown "cast-fire" .bridge), w') ∧
        w'.program.numbers = [1, 2] ∧ w'.program.nextNumber = 3 := by
  intro goblins steps
  obtain ⟨-, hfirst, -, -⟩ := workbench_all_or_nothing goblins
  have hspell : FirstUnknown (· ∈ Level.bridge.blocks.map Block.id)
      ["step-forward", "cast-fire"] "cast-fire" :=
    ⟨["step-forward"], [], rfl, by decide, by decide⟩
  refine ⟨(hfirst _).1 rfl, .block rfl rfl hspell, ?_⟩
  obtain ⟨-, -, hcreated, hload⟩ := workbench_all_or_nothing steps
  let w : Workbench :=
    { Workbench.fresh (.ofLevel .bridge) with
      program := ⟨[⟨1, .stepForward⟩, ⟨2, .stepForward⟩], 3⟩ }
  have hw : steps.workbench = .ok w := rfl
  have hcelebrate : FirstUnknown (· ∈ Level.bridge.blocks.map Block.id)
      ["celebrate", "cast-fire"] "cast-fire" :=
    ⟨["celebrate"], [], rfl, by decide, by decide⟩
  have hidle := (hcreated w hw).not_running
  obtain ⟨-, -, hrefused⟩ := hload w ["celebrate", "cast-fire"] hidle
  have hkept := (hrefused (.blockUnknown "cast-fire" .bridge) w).2
    ⟨⟨"cast-fire", hcelebrate, rfl⟩, rfl⟩
  exact ⟨w, w, hw, hidle, hkept, (hcreated w hw).numbers_eq, rfl⟩

end Request

end Spellbook
