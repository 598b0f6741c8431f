import Mathlib.Data.List.Nodup
import Spellbook.Proofs.Execution.Changes
set_option autoImplicit false

/-!
# How things are resolved

Where no two things have the same id, a step resolves just one thing or none, and it resolves
one exactly if the level has performed an operation that resolves things and called it done
(`Block.deed_run`).  The thing stands where the wizard stands, and it is of the kind that
the operation is good for (`Level.Earns`).
-/

namespace Spellbook

namespace World

/-- Of all things just this one is resolved now that was not. -/
def Resolves (w w' : World) (t : Thing) : Prop :=
  t.resolved = false ∧ ∃ front back, w.things = front ++ t :: back ∧
    w'.things = front ++ { t with resolved := true } :: back

/-- The things that are still to be resolved. -/
def unresolved (w : World) : List Thing := w.things.filter (fun t => !t.resolved)

variable {w w' : World} {t u : Thing}

theorem Resolves.perm_unresolved (h : w.Resolves w' t) :
    w.unresolved.Perm (t :: w'.unresolved) := by
  obtain ⟨hopen, front, back, hthings, hresolved⟩ := h
  rw [unresolved, unresolved, hthings, hresolved, List.filter_append, List.filter_append]
  simp only [List.filter_cons, hopen, Bool.not_false, Bool.not_true, if_true]
  exact List.perm_middle

theorem Resolves.unique (h : w.Resolves w' t) (h' : w.Resolves w' u) : t = u := by
  have hperm : ([t] ++ w'.unresolved).Perm ([u] ++ w'.unresolved) :=
    h.perm_unresolved.symm.trans h'.perm_unresolved
  exact List.singleton_perm_singleton.1 ((List.perm_append_right_iff _).1 hperm)

theorem Resolves.not_kept (h : w.Resolves w' t) : w'.things ≠ w.things := by
  intro hkept
  have hlength := h.perm_unresolved.length_eq
  rw [unresolved, unresolved, hkept, List.length_cons] at hlength
  omega

theorem Resolves.existsUnique (h : w.Resolves w' t) : ∃! t, w.Resolves w' t :=
  ⟨t, h, fun _ h' => h'.unique h⟩

theorem markResolved_append {front back : List Thing} (h : ∀ u ∈ front, u.id ≠ t.id) :
    markResolved t.id (front ++ t :: back) =
      front ++ { t with resolved := true } :: back := by
  induction front with
  | nil => simp [markResolved]
  | cons u rest ih =>
    rw [List.cons_append, markResolved, if_neg (h u (by simp)),
      ih fun v hv => h v (List.mem_cons_of_mem u hv)]
    rfl

/-- Where no two things have the same id, that of a thing leads to it. -/
theorem resolves_resolve (hids : (w.things.map Thing.id).Nodup) (hmem : t ∈ w.things)
    (hopen : t.resolved = false) : w.Resolves (w.resolve t.id) t := by
  obtain ⟨front, back, hthings⟩ := List.append_of_mem hmem
  refine ⟨hopen, front, back, hthings, ?_⟩
  rw [resolve, hthings]
  apply markResolved_append
  intro u hu hsame
  rw [hthings, List.map_append, List.map_cons, List.nodup_append] at hids
  obtain ⟨-, -, hapart⟩ := hids
  exact hapart u.id (List.mem_map_of_mem hu) t.id (by simp) hsame

theorem accepts_of_unresolvedHere? {p : Thing → Bool} (h : w.unresolvedHere? p = some t) :
    p t = true := by
  have hfound := List.find?_some h
  simp only [Bool.and_eq_true] at hfound
  exact hfound.2

end World

/-! ## The actions of the levels -/

/-- Whether an operation is there to resolve things. -/
def Op.resolves : Op → Bool
  | .collect _ | .castSpell _ | .repairPlank => true
  | _ => false

/-- This operation resolves such a thing on this level. -/
def Level.Earns (op : Op) (t : Thing) : Level → Prop
  | .collection => op = .collect t.kind
  | .crossroads => False
  | .combat => ∃ spell, op = .castSpell spell ∧ Gauntlet.weakness? t.kind = some spell
  | .bridge => op = .repairPlank ∧ t.kind = .brokenPlank

/-- What comes of the things in a world: if an operation that resolves things is done, it has
resolved one that it earns, under the wizard's feet; otherwise they are as they were. -/
inductive Deed (level : Level) (op : Op) (done : Prop) (w w' : World) : Prop
  | earned {t : Thing} (hdone : done) (hearns : level.Earns op t)
      (hhere : t.position = w.position) (hresolves : w.Resolves w' t)
  | idle (hkept : w'.things = w.things) (hidle : op.resolves = true → ¬ done)

namespace Deed

variable {level : Level} {op : Op} {done : Prop} {w w' : World} {t : Thing}

theorem kept_or (h : Deed level op done w w') :
    w'.things = w.things ∨ ∃ t, w.Resolves w' t := by
  cases h with
  | earned hdone hearns hhere hresolves => exact .inr ⟨_, hresolves⟩
  | idle hkept hidle => exact .inl hkept

theorem of_resolves (h : Deed level op done w w') (hresolves : w.Resolves w' t) :
    done ∧ level.Earns op t ∧ t.position = w.position := by
  cases h with
  | earned hdone hearns hhere hresolves' =>
    rw [hresolves.unique hresolves']
    exact ⟨hdone, hearns, hhere⟩
  | idle hkept hidle => exact absurd hkept hresolves.not_kept

theorem exists_resolves (h : Deed level op done w w') (hdone : done)
    (hresolving : op.resolves = true) : ∃ t, w.Resolves w' t := by
  cases h with
  | earned hdone hearns hhere hresolves => exact ⟨_, hresolves⟩
  | idle hkept hidle => exact absurd hdone (hidle hresolving)

end Deed

/-- The level performs it, and it is done. -/
def Effect.IsDone (f : Effect) : Prop := ∃ message, f = .done message

namespace Effect

@[simp] theorem isDone_done (message : String) : (done message).IsDone := ⟨message, rfl⟩

@[simp] theorem not_isDone_noEffect (message : String) : ¬ (noEffect message).IsDone := nofun

@[simp] theorem not_isDone_fail (kind : FailureKind) (message : String) :
    ¬ (fail kind message).IsDone := nofun

end Effect

theorem Effect.severity_eq_info_iff {f : Effect} : f.severity = .info ↔ f.IsDone := by
  cases f <;> simp [Effect.severity]

variable {s : Scene}

theorem Potion.deed_perform (hids : (s.world.things.map Thing.id).Nodup) (op : Op) :
    Deed .collection op (perform op s).1.IsDone s.world (perform op s).2.world := by
  unfold perform
  split
  · rename_i item
    unfold collect
    split
    · split
      · exact .idle rfl (by simp)
      · rename_i thing hfound
        dsimp only
        split
        · exact .idle rfl (by simp)
        · obtain ⟨hmem, hopen, hhere⟩ := World.of_unresolvedHere? hfound
          have hkind : thing.kind = item :=
            of_decide_eq_true (World.accepts_of_unresolvedHere? hfound)
          exact .earned (by simp) (congrArg Op.collect hkind.symm) hhere
            (World.resolves_resolve hids hmem hopen)
    · exact .idle rfl (by simp)
  · unfold brew
    split
    · exact .idle rfl nofun
    · split <;> exact .idle rfl nofun
  · exact .idle rfl (by simp)

theorem Crossroads.deed_perform (weather : Weather) (op : Op) (s : Scene) :
    Deed .crossroads op (perform weather op s).1.IsDone s.world
      (perform weather op s).2.world := by
  unfold perform
  split
  · unfold takePath
    split
    · exact .idle rfl nofun
    · split
      · exact .idle rfl nofun
      · dsimp only
        split <;> exact .idle rfl nofun
  · exact .idle rfl (by simp)

theorem Gauntlet.deed_perform (hids : (s.world.things.map Thing.id).Nodup) (op : Op) :
    Deed .combat op (perform op s).1.IsDone s.world (perform op s).2.world := by
  unfold perform
  split
  · rename_i spell
    unfold cast
    split
    · exact .idle rfl (by simp)
    · rename_i thing htarget
      dsimp only
      split
      · exact .idle rfl (by simp)
      · rename_i weakness hweakness
        split
        · rename_i hspell
          obtain ⟨hfound, hstands⟩ := Option.filter_eq_some_iff.1 htarget
          obtain ⟨id, -, hfind⟩ := Option.bind_eq_some_iff.1 hfound
          simp only [Bool.and_eq_true, Bool.not_eq_true', beq_iff_eq] at hstands
          obtain ⟨hopen, hhere⟩ := hstands
          have hearns : Level.combat.Earns (.castSpell spell) thing :=
            ⟨spell, rfl, by rw [hweakness, hspell]⟩
          exact .earned (by simp) hearns hhere
            (World.resolves_resolve hids (List.mem_of_find?_eq_some hfind) hopen)
        · exact .idle rfl (by simp)
  · exact .idle rfl (by simp)

theorem Bridge.deed_perform (hids : (s.world.things.map Thing.id).Nodup) (op : Op) :
    Deed .bridge op (perform op s).1.IsDone s.world (perform op s).2.world := by
  unfold perform
  split
  · unfold repair
    split
    · exact .idle rfl (by simp)
    · rename_i plank hfound
      obtain ⟨hmem, hopen, hhere⟩ := World.of_unresolvedHere? hfound
      have hearns : Level.bridge.Earns .repairPlank plank :=
        ⟨rfl, of_decide_eq_true (World.accepts_of_unresolvedHere? hfound)⟩
      exact .earned (by simp) hearns hhere (World.resolves_resolve hids hmem hopen)
  · exact .idle rfl (by simp)

theorem Setup.deed_perform (hids : (s.world.things.map Thing.id).Nodup) (setup : Setup)
    (op : Op) :
    Deed setup.level op (setup.rules.perform op s).1.IsDone s.world
      (setup.rules.perform op s).2.world := by
  rw [Setup.rules_eq]
  cases setup.level with
  | collection => exact Potion.deed_perform hids op
  | crossroads => exact Crossroads.deed_perform _ op s
  | combat => exact Gauntlet.deed_perform hids op
  | bridge => exact Bridge.deed_perform hids op

/-! ## Blocks -/

namespace Block

/-- The level performs the action of this block, as the answer of the check before allows,
and it is done: the message and the scene are what the level makes of it. -/
structure Accomplishes (b : Block) (rules : Rules) (answer : Option Bool) (s : Scene)
    (message : String) (s' : Scene) : Prop where
  acts : b.category = .action ∧ b.op ≠ .celebrate
  admitted : rules.needsCheck b.op = true → answer = some true
  perform_eq : rules.perform b.op s = (.done message, s')

variable {rules : Rules} {level : Level} {b : Block}

theorem Accomplishes.run_eq {answer : Option Bool} {message : String} {s' : Scene}
    (h : b.Accomplishes rules answer s message s') :
    b.run rules answer s = ⟨.done message, s', none⟩ := by
  rw [run_of_admitted h.acts h.admitted, h.perform_eq]

/-- A block that the level has no hand in, and that leaves the things. -/
theorem deed_of_not_accomplishes {answer : Option Bool} {message : String} {s' : Scene}
    (hkept : s'.world.things = s.world.things)
    (h : ¬ b.Accomplishes rules answer s message s') :
    Deed level b.op (b.Accomplishes rules answer s message s') s.world s'.world :=
  .idle hkept fun _ => h

/-- What comes of the things when the level performs the action of a block. -/
theorem deed_of_perform {answer : Option Bool}
    (h : Deed level b.op (rules.perform b.op s).1.IsDone s.world (rules.perform b.op s).2.world)
    (hacts : b.category = .action ∧ b.op ≠ .celebrate)
    (hadmitted : rules.needsCheck b.op = true → answer = some true) :
    Deed level b.op
      (b.Accomplishes rules answer s (rules.perform b.op s).1.message (rules.perform b.op s).2)
      s.world (rules.perform b.op s).2.world := by
  cases h with
  | earned hdone hearns hhere hresolves =>
    obtain ⟨message, hmessage⟩ := hdone
    refine .earned ⟨hacts, hadmitted, ?_⟩ hearns hhere hresolves
    refine Prod.ext ?_ rfl
    rw [hmessage]
    rfl
  | idle hkept hidle =>
    exact .idle hkept fun hresolves h => hidle hresolves ⟨_, congrArg Prod.fst h.perform_eq⟩

theorem deed_runAction {answer : Option Bool}
    (h : Deed level b.op (rules.perform b.op s).1.IsDone s.world (rules.perform b.op s).2.world)
    (hcategory : b.category = .action) :
    Deed level b.op
      (b.Accomplishes rules answer s (b.runAction rules answer s).1.message
        (b.runAction rules answer s).2)
      s.world (b.runAction rules answer s).2.world := by
  unfold runAction
  split
  · rename_i hop
    exact deed_of_not_accomplishes rfl fun h => h.acts.2 hop
  · rename_i hop
    split
    · rename_i hcheck
      split
      · exact deed_of_not_accomplishes rfl fun h => nomatch h.admitted hcheck
      · exact deed_of_not_accomplishes rfl fun h => nomatch h.admitted hcheck
      · exact deed_of_perform h ⟨hcategory, hop⟩ fun _ => rfl
    · rename_i hcheck
      exact deed_of_perform h ⟨hcategory, hop⟩ fun hneeds => absurd hneeds hcheck

/-- Whatever block runs on a level: it accomplishes something and earns one thing by that, or
the things are as they were. -/
theorem deed_run (hids : (s.world.things.map Thing.id).Nodup) {setup : Setup}
    (hperform : rules.perform = setup.rules.perform) (b : Block) (answer : Option Bool) :
    Deed setup.level b.op
      (b.Accomplishes rules answer s (b.run rules answer s).effect.message
        (b.run rules answer s).scene)
      s.world (b.run rules answer s).scene.world := by
  by_cases hcategory : b.category = .action
  · have hdeed := setup.deed_perform hids b.op
    rw [← hperform] at hdeed
    simp only [run, hcategory]
    exact deed_runAction hdeed hcategory
  · obtain ⟨hthings, -⟩ := things_flags_run_of_ne_action hcategory rules answer s
    exact deed_of_not_accomplishes hthings fun h => hcategory h.acts.1

end Block

end Spellbook
