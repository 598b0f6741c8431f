import Spellbook.Proofs.Written.Ranges
set_option autoImplicit false

/-!
# Reading back what is written

Each type holds itself in what it is written as (`holds_toJson`), if its numbers fit.  The proofs
name what each field holds and put the fields together.
-/

namespace Spellbook

open Json (Holds)

instance : LawfulNamed Level where
  ofName?_name level := by cases level <;> decide

instance : LawfulNamed Category where
  ofName?_name category := by cases category <;> decide

instance : LawfulNamed Comparison where
  ofName?_name comparison := by cases comparison <;> decide

instance : LawfulNamed Path where
  ofName?_name path := by cases path <;> decide

instance : LawfulNamed Spell where
  ofName?_name spell := by cases spell <;> decide

instance : LawfulNamed Thing.Kind where
  ofName?_name := Thing.Kind.ofName?_name

instance : LawfulNamed FailureKind where
  ofName?_name kind := by cases kind <;> decide

instance : LawfulNamed Severity where
  ofName?_name severity := by cases severity <;> decide

/-! ## Values and named values -/

theorem Number.natAbs_val_lt (n : Number) : n.val.natAbs < 0x10000000000000000 := by
  have hlower := n.lower
  have hupper := n.upper
  omega

theorem Number.holds_toJson (n : Number) : Holds Number.ofJson? 0 n.toJson n :=
  ⟨.integer n.natAbs_val_lt, Number.ofInt?_val n⟩

theorem Value.holds_toJson (v : Value) : Holds Value.ofJson? 0 v.toJson v := by
  cases v with
  | bool b => exact ⟨.bool b, rfl⟩
  | text s => exact ⟨.text s, rfl⟩
  | number n =>
    refine ⟨.integer n.natAbs_val_lt, ?_⟩
    rw [toJson, ofJson?, Number.ofInt?_val]
    rfl

namespace Bindings

/-- A name behind all others is put at the end. -/
theorem insertEntry_of_forall_lt {name : String} (value : Value) {es : List (String × Value)}
    (h : ∀ e ∈ es, e.1 < name) : insertEntry name value es = es ++ [(name, value)] := by
  induction es with
  | nil => rfl
  | cons e rest ih =>
    have hlt := h e List.mem_cons_self
    have hnot : ¬ name < e.1 := fun hgt => String.lt_irrefl _ (String.lt_trans hlt hgt)
    rw [insertEntry, if_neg hnot, if_pos hlt, ih fun e he => h e (List.mem_cons_of_mem _ he)]
    rfl

theorem ofList_entries (b : Bindings) : ofList b.entries = b := by
  have hfold : ∀ (later : List (String × Value)) (before : Bindings),
      (before.entries ++ later).Pairwise (fun a b => a.1 < b.1) →
        (later.foldl (fun b e => b.insert e.1 e.2) before).entries = before.entries ++ later := by
    intro later
    induction later with
    | nil => exact fun before _ => (List.append_nil _).symm
    | cons e rest ih =>
      intro before hascending
      have hlast : ∀ d ∈ before.entries, d.1 < e.1 := fun d hd =>
        (List.pairwise_append.1 hascending).2.2 d hd e List.mem_cons_self
      have hinsert : (before.insert e.1 e.2).entries = before.entries ++ [e] :=
        insertEntry_of_forall_lt e.2 hlast
      rw [List.foldl_cons, ih, hinsert, List.append_assoc]
      · rfl
      · rw [hinsert, List.append_assoc]
        exact hascending
  have hentries : (ofList b.entries).entries = b.entries := hfold b.entries empty b.ascending
  cases hof : ofList b.entries with
  | mk entries ascending =>
    rw [hof] at hentries
    cases b
    cases hentries
    rfl

theorem holds_toJson (b : Bindings) : Holds ofJson? 1 b.toJson b where
  neat := by
    refine .object fun f hf => ?_
    obtain ⟨e, -, rfl⟩ := List.mem_map.1 hf
    exact e.2.holds_toJson.neat
  read_eq := by
    have hentries : ∀ es : List (String × Value),
        (es.map (fun e => (e.1, e.2.toJson))).mapM
          (fun f => (Value.ofJson? f.2).map (fun v => (f.1, v))) = some es := by
      intro es
      induction es with
      | nil => rfl
      | cons e rest ih =>
        rw [List.map_cons, List.mapM_cons, ih, e.2.holds_toJson.read_eq]
        rfl
    rw [toJson, ofJson?, hentries, Option.map_some, ofList_entries]

end Bindings

/-! ## Things and worlds -/

theorem Thing.holds_toJson {t : Thing} (h : t.Fits) : Holds Thing.ofJson? 1 t.toJson t := by
  have hid : Holds Json.text? 0 (.text t.id) t.id := .text _
  have hkind : Holds Json.named? 0 (.ofNamed t.kind) t.kind := .named _
  have hposition : Holds Json.nat64? 0 (.nat t.position) t.position := .nat64 h
  have hresolved : Holds Json.bool? 0 (.bool t.resolved) t.resolved := .bool _
  exact .record rfl (by decide) (by simp [hid.neat, hkind.neat, hposition.neat, hresolved.neat])
    (by simp [hid.required, hkind.required, hposition.required, hresolved.required])

theorem World.holds_toJson {w : World} (h : w.Fits) : Holds World.ofJson? 3 w.toJson w := by
  have hposition : Holds Json.nat64? 2 (.nat w.position) w.position := .nat64 h.position
  have hlength : Holds Json.nat64? 2 (.nat w.trackLength) w.trackLength := .nat64 h.trackLength
  have hthings : Holds (Json.listOf? Thing.ofJson?) 2 (.list (w.things.map Thing.toJson))
      w.things :=
    .list fun t ht => Thing.holds_toJson (h.things t ht)
  have hflags : Holds Bindings.ofJson? 2 w.flags.toJson w.flags :=
    w.flags.holds_toJson.mono (by decide)
  have htarget : Holds (Json.option? Json.text?) 2 (.ofOption Json.text w.target) w.target :=
    .option (fun s _ => .text s) nofun
  exact .record rfl (by decide)
    (by simp [hposition.neat, hlength.neat, hthings.neat, hflags.neat, htarget.neat])
    (by simp [hposition.required, hlength.required, hthings.required, hflags.required,
      htarget.optional])

/-! ## Operations and blocks -/

namespace Op

variable {α β γ : Type}

theorem holds_ofBare (op : Op) : Holds (ofBare? op) 1 (.object []) op := by
  refine ⟨.object (by simp), ?_⟩
  exact Option.map_eq_some_iff.2 ⟨[], Json.slots_object rfl (by decide) 0, rfl⟩

theorem holds_ofOne {name : String} {read : Json → Option α} {make : α → β} {j : Json} {a : α}
    (h : Holds read 0 j a) : Holds (ofOne? name read make) 1 (.object [(name, j)]) (make a) :=
  .record rfl (by simp) (by simp [h.neat]) (by simp [h.required])

theorem holds_ofTwo {name₁ name₂ : String} {read₁ : Json → Option α} {read₂ : Json → Option β}
    {make : α → β → γ} {j₁ j₂ : Json} {a : α} {b : β} (hnames : [name₁, name₂].Nodup)
    (h₁ : Holds read₁ 0 j₁ a) (h₂ : Holds read₂ 0 j₂ b) :
    Holds (ofTwo? name₁ read₁ name₂ read₂ make) 1 (.object [(name₁, j₁), (name₂, j₂)])
      (make a b) :=
  .record rfl hnames (by simp [h₁.neat, h₂.neat]) (by simp [h₁.required, h₂.required])

theorem holds_ofCompare (name : String) (comparison : Comparison) (value : Value) :
    Holds ofCompare? 1 (.object [("name", .text name), ("comparison", .ofNamed comparison),
      ("value", value.toJson)]) (compare name comparison value) := by
  have hname : Holds Json.text? 0 (.text name) name := .text _
  have hcomparison : Holds Json.taggedName? 0 (.ofNamed comparison) comparison := .taggedName _
  have hvalue := value.holds_toJson
  exact .record rfl (by decide) (by simp [hname.neat, hcomparison.neat, hvalue.neat])
    (by simp [hname.required, hcomparison.required, hvalue.required])

/-- An operation is read from what the fields of its kind hold. -/
theorem holds_case {kind : String} {fields : List (String × Json)} {op : Op}
    {readFields : Json → Option Op} (hkind : ofKind? kind = readFields)
    (hnames : "kind" ∉ fields.map Prod.fst) (h : Holds readFields 1 (.object fields) op) :
    Holds ofJson? 1 (.case_ "kind" kind fields) op := by
  cases h.neat with
  | object hneat => exact .case_ hneat hnames ((congrFun hkind _).trans h.read_eq)

theorem holds_toJson {op : Op} (h : op.Fits) : Holds ofJson? 1 op.toJson op := by
  have hnumber (n : Number) : Holds Number.ofJson? 0 n.toJson n := n.holds_toJson
  cases op with
  | setNumber name value =>
    exact holds_case rfl (by simp) (holds_ofTwo (by decide) (.text name) (hnumber value))
  | scan into => exact holds_case rfl (by simp) (holds_ofOne (.text into))
  | readFlag flag into =>
    exact holds_case rfl (by simp) (holds_ofTwo (by decide) (.text flag) (.text into))
  | compare name comparison value =>
    exact holds_case rfl (by simp) (holds_ofCompare name comparison value)
  | collect item => exact holds_case rfl (by simp) (holds_ofOne (.taggedName item))
  | takePath path => exact holds_case rfl (by simp) (holds_ofOne (.taggedName path))
  | castSpell spell => exact holds_case rfl (by simp) (holds_ofOne (.taggedName spell))
  | double name => exact holds_case rfl (by simp) (holds_ofOne (.text name))
  | add name amount =>
    exact holds_case rfl (by simp) (holds_ofTwo (by decide) (.text name) (hnumber amount))
  | subtract name amount =>
    exact holds_case rfl (by simp) (holds_ofTwo (by decide) (.text name) (hnumber amount))
  | divideBy name divisor =>
    exact holds_case rfl (by simp) (holds_ofTwo (by decide) (.text name) (.text divisor))
  | repeatTimes times => exact holds_case rfl (by simp) (holds_ofOne (.nat32 h))
  | repeatWhile name below =>
    exact holds_case rfl (by simp) (holds_ofTwo (by decide) (.text name) (hnumber below))
  | brewPotion => exact holds_case rfl (by simp) (holds_ofBare _)
  | repairPlank => exact holds_case rfl (by simp) (holds_ofBare _)
  | celebrate => exact holds_case rfl (by simp) (holds_ofBare _)
  | stepForward => exact holds_case rfl (by simp) (holds_ofBare _)
  | endLoop => exact holds_case rfl (by simp) (holds_ofBare _)

end Op

theorem Block.holds_toJson {b : Block} (h : b.Fits) : Holds Block.ofJson? 2 b.toJson b := by
  have hid : Holds Json.text? 1 (.text b.id) b.id := .text _
  have hcategory : Holds Json.named? 1 (.ofNamed b.category) b.category := .named _
  have hlabel : Holds Json.text? 1 (.text b.label) b.label := .text _
  have hcode : Holds Json.text? 1 (.text b.code) b.code := .text _
  have hdescription : Holds Json.text? 1 (.text b.description) b.description := .text _
  have hop := Op.holds_toJson h
  exact .record rfl (by decide)
    (by simp [hid.neat, hcategory.neat, hlabel.neat, hcode.neat, hdescription.neat, hop.neat])
    (by simp [hid.required, hcategory.required, hlabel.required, hcode.required,
      hdescription.required, hop.required])

theorem Placed.holds_toJson {p : Placed} (h : p.Fits) : Holds Placed.ofJson? 3 p.toJson p := by
  have hnumber : Holds Json.nat64? 2 (.nat p.number) p.number := .nat64 h.number
  have hblock := Block.holds_toJson h.block
  exact .record rfl (by decide) (by simp [hnumber.neat, hblock.neat])
    (by simp [hnumber.required, hblock.required])

/-! ## Outcomes, events and reports -/

theorem Outcome.holds_toJson (o : Outcome) : Holds Outcome.ofJson? 1 o.toJson o := by
  cases o with
  | running => exact .case_ (by simp) (by simp) rfl
  | success message =>
    have hmessage : Holds Json.text? 0 (.text message) message := .text _
    refine .case_ (by simp [hmessage.neat]) (by simp) ?_
    exact Json.bind_slots_object rfl (by decide) (by simp [hmessage.required])
  | failure kind reason =>
    have hkind : Holds Json.taggedName? 0 (.ofNamed kind) kind := .taggedName _
    have hreason : Holds Json.text? 0 (.text reason) reason := .text _
    refine .case_ (by simp [hkind.neat, hreason.neat]) (by simp) ?_
    exact Json.bind_slots_object rfl (by decide) (by simp [hkind.required, hreason.required])

theorem Event.holds_toJson {e : Event} (h : e.Fits) : Holds Event.ofJson? 4 e.toJson e := by
  have hindex : Holds Json.nat64? 3 (.nat e.index) e.index := .nat64 h.index
  have hround : Holds (Json.option? Json.nat32?) 3 (.ofOption Json.nat e.round) e.round :=
    .option (fun n hn => .nat32 (h.round n hn)) nofun
  have hnumber : Holds Json.nat64? 3 (.nat e.number) e.number := .nat64 h.number
  have hblockId : Holds Json.text? 3 (.text e.blockId) e.blockId := .text _
  have hlabel : Holds Json.text? 3 (.text e.label) e.label := .text _
  have hmessage : Holds Json.text? 3 (.text e.message) e.message := .text _
  have hseverity : Holds Json.named? 3 (.ofNamed e.severity) e.severity := .named _
  have hworld := World.holds_toJson h.world
  have hvars : Holds Bindings.ofJson? 3 e.scene.vars.toJson e.scene.vars :=
    e.scene.vars.holds_toJson.mono (by decide)
  exact .record rfl (by decide)
    (by simp [hindex.neat, hround.neat, hnumber.neat, hblockId.neat, hlabel.neat, hmessage.neat,
      hseverity.neat, hworld.neat, hvars.neat])
    (by simp [hindex.required, hround.optional, hnumber.required, hblockId.required,
      hlabel.required, hmessage.required, hseverity.required, hworld.required, hvars.required])

theorem Report.holds_toJson {r : Report} (h : r.Fits) : Holds Report.ofJson? 6 r.toJson r := by
  have hlevel : Holds Json.named? 5 (.ofNamed r.level) r.level := .named _
  have houtcome : Holds Outcome.ofJson? 5 r.outcome.toJson r.outcome :=
    r.outcome.holds_toJson.mono (by decide)
  have hevents : Holds (Json.listOf? Event.ofJson?) 5 (.list (r.events.map Event.toJson))
      r.events :=
    .list fun e he => Event.holds_toJson (h.events e he)
  have hworld : Holds World.ofJson? 5 r.final.world.toJson r.final.world :=
    (World.holds_toJson h.world).mono (by decide)
  have hvars : Holds Bindings.ofJson? 5 r.final.vars.toJson r.final.vars :=
    r.final.vars.holds_toJson.mono (by decide)
  exact .record rfl (by decide)
    (by simp [hlevel.neat, houtcome.neat, hevents.neat, hworld.neat, hvars.neat])
    (by simp [hlevel.required, houtcome.required, hevents.required, hworld.required,
      hvars.required])

/-! ## Cases and saved programs -/

theorem Expected.holds_toJson (x : Expected) : Holds Expected.ofJson? 1 x.toJson x := by
  cases x with
  | success => exact .case_ (by simp) (by simp) rfl
  | failure kind =>
    have hkind : Holds Json.taggedName? 0 (.ofNamed kind) kind := .taggedName _
    refine .case_ (by simp [hkind.neat]) (by simp) ?_
    exact Json.bind_slots_object rfl (by decide) (by simp [hkind.required])

namespace Case

theorem holds_seed (seed : UInt32) : Holds seedOfJson? 0 (.nat seed.toNat) seed := by
  have hseed : Holds Json.nat32? 0 (.nat seed.toNat) seed.toNat := .nat32 seed.toNat_lt
  refine ⟨hseed.neat, ?_⟩
  rw [seedOfJson?, hseed.read_eq, Option.map_some, Nat.toUInt32_eq, UInt32.ofNat_toNat]

theorem holds_toJson {c : Case} (h : c.Fits) : Holds ofJson? 2 c.toJson c := by
  have hschema : Holds Json.text? 1 (.text c.schema) c.schema := .text _
  have hlevel : Holds Json.text? 1 (.text c.level) c.level := .text _
  have hseed : Holds (Json.option? seedOfJson?) 1 (.ofOption (fun s => .nat s.toNat) c.seed?)
      c.seed? :=
    .option (fun s _ => (holds_seed s).mono (by decide)) nofun
  have hweather : Holds (Json.option? Json.text?) 1 (.ofOption .text c.weather?) c.weather? :=
    .option (fun s _ => .text s) nofun
  have hmonsters : Holds (Json.option? Json.texts?) 1 (.ofOption .texts c.monsters?) c.monsters? :=
    .option (fun ss _ => .texts ss) nofun
  have hblocks : Holds Json.texts? 1 (.texts c.blocks) c.blocks := .texts _
  have hexpected := c.expected.holds_toJson
  have hsteps : Holds (Json.option? Json.nat64?) 1 (.ofOption .nat c.steps?) c.steps? :=
    .option (fun n hn => .nat64 (h.steps n hn)) nofun
  have hposition : Holds (Json.option? Json.nat64?) 1 (.ofOption .nat c.position?) c.position? :=
    .option (fun n hn => .nat64 (h.position n hn)) nofun
  have hmessages : Holds Json.texts? 1 (.texts c.messages) c.messages := .texts _
  have hvars := c.vars.holds_toJson
  exact .record rfl (by decide)
    (by simp [hschema.neat, hlevel.neat, hseed.neat, hweather.neat, hmonsters.neat, hblocks.neat,
      hexpected.neat, hsteps.neat, hposition.neat, hmessages.neat, hvars.neat])
    (by simp [hschema.required, hlevel.required, hseed.optional, hweather.optional,
      hmonsters.optional, hblocks.defaulting, hexpected.required, hsteps.optional,
      hposition.optional, hmessages.defaulting, hvars.defaulting])

end Case

theorem SavedProgram.holds_toJson (p : SavedProgram) : Holds ofJson? 2 p.toJson p := by
  have hschema : Holds Json.text? 1 (.text p.schema) p.schema := .text _
  have hlevel : Holds Json.text? 1 (.text p.level) p.level := .text _
  have hblocks : Holds Json.texts? 1 (.texts p.blocks) p.blocks := .texts _
  exact .record rfl (by decide) (by simp [hschema.neat, hlevel.neat, hblocks.neat])
    (by simp [hschema.required, hlevel.required, hblocks.required])

end Spellbook
