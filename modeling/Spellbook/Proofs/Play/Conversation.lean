import Spellbook.Proofs.Play.Commands
set_option autoImplicit false

/-!
# A conversation in the line mode

A conversation is the lines that are typed with the replies to them, up to the one that ends it
(`Console.converse_eq_talk`).  Where no run is going on at its start, none is going on before any
of its lines.  So no line is refused for a run, and a line that is refused changes nothing, but
that blocks before an unknown one have been added (`Console.talk_atomic`).
-/

namespace Spellbook

namespace Play

/-! ## What is promised -/

/-- The word is no command. -/
def IsBare (word : String) : Prop := word.startsWith ":" = false

/-- The line adds the blocks with these ids: they stand behind `:add` or by themselves. -/
def Adds (line : String) (ids : List String) : Prop :=
  Text.words line = ":add" :: ids ∨ Text.words line = ids ∧ ∃ first ∈ ids.head?, IsBare first

/-- The commands that may change the workbench. -/
def changing : List String := [":add", ":remove", ":clear", ":load", ":run", ":reset", ":seed"]

/-- The line may change the workbench: it has one of the commands that may, or none. -/
def Changes (line : String) : Prop :=
  ∃ first ∈ (Text.words line).head?, first ∈ changing ∨ IsBare first

/-- A line, the console before it and the reply to it. -/
structure Turn where
  console : Console
  line : String
  reply : Reply

namespace Turn

/-- What is printed in a turn. -/
def shown (t : Turn) : String := Console.promptText ++ Console.printLines (Console.printed t.reply)

/-- No run is in the way, and all is done or nothing, up to the first block that is unknown. -/
structure Atomic (t : Turn) : Prop where
  not_running : t.console.workbench.isRunning = false
  code_not_mem : ∀ fault, t.reply.lines = .error fault → fault.code ∉ Fault.runCodes
  kept_of_error : ∀ fault, t.reply.lines = .error fault →
    (∀ ids id, Adds t.line ids → ¬ FirstUnknown t.console.workbench.catalog.Has ids id) →
      t.reply.console.workbench = t.console.workbench
  extended : ∀ known id later, Adds t.line (known ++ id :: later) →
    (∀ earlier ∈ known, t.console.workbench.catalog.Has earlier) →
    ¬ t.console.workbench.catalog.Has id →
      t.reply.lines = .error (.blockUnknown id t.console.workbench.catalog.level) ∧
        t.console.workbench.Extended known t.reply.console.workbench
  kept : ¬ Changes t.line → t.reply.console.workbench = t.console.workbench

end Turn

namespace Console

/-- The turns of a conversation. -/
def talk (path : String) (c : Console) : List String → List Turn
  | [] => []
  | line :: rest =>
    let reply := c.perform path (.ofLine line)
    ⟨c, line, reply⟩ ::
      if Command.ofLine line = .quit then [] else reply.console.talk path rest

end Console

/-! ## Lines and their commands -/

namespace Command

variable {line word : String} {ids args : List String}

theorem ofWords_of_isBare (h : IsBare word) : ofWords (word :: args) = .blocks (word :: args) := by
  simp only [ofWords]
  split
  case h_13 => rw [if_neg (by rw [show word.startsWith ":" = false from h]; decide)]
  all_goals exact absurd h (by simp [IsBare])

theorem adds?_ofLine_iff : (ofLine line).adds? = some ids ↔ Adds line ids := by
  unfold ofLine Adds
  generalize Text.words line = words
  cases words with
  | nil =>
    refine iff_of_false nofun ?_
    rintro (hadd | ⟨rfl, first, hfirst, -⟩)
    · cases hadd
    · cases hfirst
  | cons word args =>
    by_cases h : IsBare word
    · rw [ofWords_of_isBare h]
      constructor
      · rintro ⟨⟩
        exact .inr ⟨rfl, word, rfl, h⟩
      · rintro (hadd | ⟨rfl, -⟩)
        · cases hadd
          exact absurd h (by simp [IsBare])
        · rfl
    · have hbare : ¬ (word :: args = ids ∧ ∃ first ∈ ids.head?, IsBare first) := by
        rintro ⟨rfl, first, ⟨⟩, hfirst⟩
        exact h hfirst
      simp only [hbare, or_false, ofWords]
      split
      case h_13 => rw [if_pos (by simpa [IsBare] using h)]; simp_all [adds?]
      all_goals simp_all [adds?]

theorem changes_ofLine_iff : (ofLine line).changes = true ↔ Changes line := by
  unfold ofLine Changes
  generalize Text.words line = words
  cases words with
  | nil => exact iff_of_false nofun (by simp)
  | cons word args =>
    simp only [List.head?_cons, Option.mem_some_iff, exists_eq_left']
    by_cases h : IsBare word
    · rw [ofWords_of_isBare h]
      exact iff_of_true rfl (.inr h)
    · simp only [h, or_false, ofWords]
      split
      case h_13 => rw [if_pos (by simpa [IsBare] using h)]; simp_all [changes, changing]
      all_goals simp [changes, changing]

end Command

namespace Console

variable {path line : String} {c : Console} {command : Command} {reply : Reply} {fault : Fault}

/-- A conversation is made of its turns, and after the last one another line is asked for unless
it has been ended. -/
theorem converse_eq_talk (path : String) (c : Console) (lines : List String) :
    c.converse path lines =
      (String.join ((c.talk path lines).map Turn.shown) ++
          if .quit ∈ lines.map Command.ofLine then "" else promptText,
        ((c.talk path lines).getLast?.map (fun t => t.reply.console)).getD c) := by
  induction lines generalizing c with
  | nil => simp [converse, talk]
  | cons line rest ih =>
    by_cases hquit : Command.ofLine line = .quit
    · simp [converse, talk, hquit, Turn.shown]
    · have hne : Command.quit ≠ Command.ofLine line := Ne.symm hquit
      simp only [converse, talk, hquit, if_false, ih, List.map_cons, String.join_cons,
        List.mem_cons, hne, false_or, List.getLast?_cons, Option.map_some, Option.getD_some,
        String.append_assoc, Prod.mk.injEq]
      exact ⟨rfl, Option.getD_map (fun t : Turn => t.reply.console) ⟨c, line, _⟩ _⟩

/-! ## One turn -/

/-- What is made of a console on which no run is going on leaves none going on. -/
theorem Answers.isRunning_eq (h : c.Answers path command reply)
    (hidle : c.workbench.isRunning = false) : reply.console.workbench.isRunning = false := by
  cases h with
  | told => exact hidle
  | refused _ => exact hidle
  | saved _ => exact hidle
  | unsaved _ => exact hidle
  | met _ hcall h => exact Workbench.isRunning_of_attempt_ok hidle hcall h
  | added _ h => exact h.isRunning_eq.trans hidle
  | halted _ _ h => exact h.isRunning_eq.trans hidle

theorem Answers.code_not_mem (h : c.Answers path command reply)
    (hfault : reply.lines = .error fault) : fault.code ∉ Fault.runCodes := by
  cases h with
  | told => cases hfault
  | refused hcode =>
    cases hfault
    exact hcode
  | saved _ => cases hfault
  | unsaved h =>
    cases hfault
    exact SavedProgram.code_of_save_error h
  | met _ _ _ => cases hfault
  | added _ _ => cases hfault
  | halted _ _ _ =>
    cases hfault
    simp [Fault.code, Fault.runCodes]

theorem Answers.kept_of_error (h : c.Answers path command reply)
    (hfault : reply.lines = .error fault)
    (hknown : ∀ ids id, command.adds? = some ids → ¬ FirstUnknown c.workbench.catalog.Has ids id) :
    reply.console.workbench = c.workbench := by
  cases h with
  | told => rfl
  | refused _ => rfl
  | saved _ => rfl
  | unsaved _ => rfl
  | met _ _ _ => cases hfault
  | added _ _ => cases hfault
  | halted hadds hid _ => exact absurd hid (hknown _ _ hadds)

theorem Answers.kept (h : c.Answers path command reply) (hchanges : command.changes = false) :
    reply.console.workbench = c.workbench := by
  cases h with
  | told => rfl
  | refused _ => rfl
  | saved _ => rfl
  | unsaved _ => rfl
  | met hmay _ _ => cases hmay.symm.trans hchanges
  | added hadds _ => cases command <;> cases hadds <;> cases hchanges
  | halted hadds _ _ => cases command <;> cases hadds <;> cases hchanges

theorem atomic_perform (hidle : c.workbench.isRunning = false) (path line : String) :
    Turn.Atomic ⟨c, line, c.perform path (.ofLine line)⟩ := by
  have hanswers : c.Answers path (.ofLine line) _ := answers_perform hidle _
  constructor
  · exact hidle
  · exact fun fault => hanswers.code_not_mem
  · intro fault hfault hknown
    exact hanswers.kept_of_error hfault fun ids id hadds =>
      hknown ids id (Command.adds?_ofLine_iff.1 hadds)
  · intro known id later hadds hknown hid
    obtain ⟨w, hw, heq⟩ := appendAll_of_unknown hidle hknown hid
    dsimp only
    rw [perform_of_adds? (Command.adds?_ofLine_iff.2 hadds) (by simp), heq]
    exact ⟨rfl, hw⟩
  · intro hchanges
    rw [← Command.changes_ofLine_iff, Bool.not_eq_true] at hchanges
    exact hanswers.kept hchanges

/-! ## A conversation -/

/-- In the line mode no run is in the way of a line, whatever is typed before it, and a line is
atomic: where it is refused nothing is changed, but that the blocks before an unknown one have
been added.  The conversation is all that is printed, and what it leaves. -/
theorem talk_atomic (path : String) (c : Console) (hidle : c.workbench.isRunning = false)
    (lines : List String) :
    (∀ t ∈ c.talk path lines, t.Atomic) ∧
      c.converse path lines =
        (String.join ((c.talk path lines).map Turn.shown) ++
            if .quit ∈ lines.map Command.ofLine then "" else promptText,
          ((c.talk path lines).getLast?.map (fun t => t.reply.console)).getD c) := by
  refine ⟨?_, c.converse_eq_talk path lines⟩
  induction lines generalizing c with
  | nil => exact fun _ hmem => absurd hmem List.not_mem_nil
  | cons line rest ih =>
    rw [talk, List.forall_mem_cons]
    refine ⟨atomic_perform hidle path line, ?_⟩
    split
    · exact fun _ hmem => absurd hmem List.not_mem_nil
    · exact ih _ ((answers_perform hidle _).isRunning_eq hidle)

/-- The bridge with no file anywhere. -/
def bridge : Console := ⟨Workbench.bridge, .ofFolder ["home"] .empty⟩

/-- A step is taken; then of three blocks the first is added, as the second is unknown, and neither
the step nor what follows is in the way. -/
theorem talk_atomic_bridge :
    bridge.workbench.isRunning = false ∧
      ∃ t ∈ bridge.talk "program.json"
          [":add step-forward", ":run", ":add celebrate jump celebrate"],
        Adds t.line ["celebrate", "jump", "celebrate"] ∧
        t.console.workbench.scene.world.position = 1 ∧
        t.reply.lines = .error (.blockUnknown "jump" .bridge) ∧
        t.reply.console.workbench.program.blockIds = ["step-forward", "celebrate"] := by
  let lines := [":add step-forward", ":run", ":add celebrate jump celebrate"]
  have hidle : bridge.workbench.isRunning = false := rfl
  obtain ⟨hatomic, -⟩ := talk_atomic "program.json" bridge hidle lines
  let stepped := (bridge.perform "program.json" (.ofLine ":add step-forward")).console
  let run := (stepped.perform "program.json" (.ofLine ":run")).console
  let t : Turn := ⟨run, ":add celebrate jump celebrate",
    run.perform "program.json" (.ofLine ":add celebrate jump celebrate")⟩
  have hmem : t ∈ bridge.talk "program.json" lines := by
    rw [talk, if_neg (by decide), talk, if_neg (by decide), talk]
    exact List.mem_cons_of_mem _ (List.mem_cons_of_mem _ List.mem_cons_self)
  have hadds : Adds t.line ["celebrate", "jump", "celebrate"] := .inl (by decide)
  have hknown : ∀ id ∈ ["celebrate"], run.workbench.catalog.Has id := by decide +kernel
  have hjump : ¬ run.workbench.catalog.Has "jump" := by decide +kernel
  obtain ⟨hlines, hextended⟩ :=
    (hatomic t hmem).extended ["celebrate"] "jump" ["celebrate"] hadds hknown hjump
  have hlevel : run.workbench.catalog.level = .bridge := by decide +kernel
  have hids : run.workbench.program.blockIds = ["step-forward"] := by decide +kernel
  rw [show t.console.workbench.catalog.level = _ from hlevel] at hlines
  refine ⟨hidle, t, hmem, hadds, by decide +kernel, hlines, ?_⟩
  rw [hextended.blockIds_eq, show t.console.workbench.program.blockIds = _ from hids]
  rfl

end Console

end Play

end Spellbook
