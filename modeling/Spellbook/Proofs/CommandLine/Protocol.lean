import Spellbook.Proofs.CommandLine.RunAnswer
set_option autoImplicit false

/-!
# Reading what a run printed

The line of an event has four fields with bars between them.  No bar is in the first three, and the
message is written as JSON, so that it has no line end and can be read back (`ofLine?_line`).  The
path of the report is the only text that is printed as it is; it stands last, and a reader stops at
its key (`heard_printLines`).  So whatever the messages and the path are, the steps and the message
of a run are read back from what it printed (`output_read_back`).
-/

namespace Spellbook

/-! ## Readers -/

namespace CommandLine

/-- What the line of an event tells of it. -/
structure Gist where
  index : Nat
  round : Option Nat
  severity : Severity
  message : String
  deriving DecidableEq, Inhabited

/-- The text behind a key, if the line begins with it. -/
def behind? (key line : String) : Option String :=
  if Begins key line then some (String.ofList (line.toList.drop key.toList.length)) else none

/-- Reads a message that is written as JSON. -/
def message? (s : String) : Option String := (Json.ofText? s).bind Json.text?

/-- Reads a round, if there is one. -/
def round? (s : String) : Option (Option Nat) :=
  if s = "-" then some none else (Text.natural? s).map some

/-- Reads the line of an event.  The message is all that stands behind the third bar. -/
def Gist.ofLine? (line : String) : Option Gist := do
  match Text.piecesOf (· == '|') (← behind? "STEP:" line).toList with
  | index :: round :: severity :: message =>
    return {
      index := ← Text.natural? (String.ofList index)
      round := ← round? (String.ofList round)
      severity := ← Named.ofName? (String.ofList severity)
      -- A message may have bars in it, at which it was cut as well.
      message := ← message? (String.ofList (['|'].intercalate message)) }
  | _ => none

/-- The lines of an output up to the path of the report. -/
def heard (output : String) : List String :=
  (Text.lines output).takeWhile (fun line => !Begins "REPORT_OUT:" line)

/-- Reads the steps from an output. -/
def steps? (output : String) : Option (List Gist) :=
  ((heard output).filter (Begins "STEP:")).mapM Gist.ofLine?

/-- Reads the message under a key from an output, which must have just one line with this key. -/
def told? (key output : String) : Option String :=
  match (heard output).filter (Begins key) with
  | [line] => (behind? key line).bind message?
  | _ => none

end CommandLine

/-! ## The line of an event -/

/-- What an event says in its line. -/
def Event.gist (e : Event) : CommandLine.Gist := ⟨e.index, e.round, e.severity, e.message⟩

namespace CommandLine

theorem behind?_append (key rest : String) : behind? key (key ++ rest) = some rest := by
  rw [behind?, if_pos (begins_append key rest), String.toList_append, List.drop_left,
    String.ofList_toList]

theorem message?_quoted (s : String) : message? (Json.quoted s) = some s := by
  have hquoted : Json.quoted s = (Json.text s).compact := by
    rw [Json.compact, Json.tokens, List.flatMap_singleton]
    rfl
  have hholds : Json.Holds Json.text? 0 (.text s) s := .text s
  rw [message?, hquoted]
  exact hholds.ofText?_compact (by decide)

theorem round?_roundText (e : Event) : round? e.roundText = some e.round := by
  unfold Event.roundText
  cases e.round with
  | none => rfl
  | some n =>
    have hne : toString n ≠ "-" := by
      intro heq
      have hdigit : Char.isDigit '-' = true :=
        Text.isDigit_of_mem_toString (n := n) (by rw [heq]; decide)
      cases hdigit
    rw [Option.map_some, Option.getD_some, round?, if_neg hne, Text.natural?_toString,
      Option.map_some]

/-- Up to a bar that is the first one, a text is one piece. -/
theorem piecesOf_bar {front : String} (h : '|' ∉ front.toList) (back : String) :
    Text.piecesOf (· == '|') (front ++ ("|" ++ back)).toList =
      front.toList :: Text.piecesOf (· == '|') back.toList := by
  have hbar : "|".toList = ['|'] := rfl
  rw [String.toList_append, String.toList_append, hbar, List.singleton_append,
    Text.piecesOf_append_cons rfl, Text.piecesOf_of_not_mem h, List.singleton_append]

/-- The line of an event is read back, whatever its message is. -/
theorem ofLine?_line (e : Event) : Gist.ofLine? e.line = some e.gist := by
  have hnat (n : Nat) : '|' ∉ (toString n).toList :=
    fun h => absurd (Text.isDigit_of_mem_toString h) (by decide)
  have hround : '|' ∉ e.roundText.toList := by
    unfold Event.roundText
    cases e.round with
    | none => decide
    | some n => exact hnat n
  have hseverity : '|' ∉ e.severity.name.toList := by
    cases e.severity <;> decide
  have hname : Named.ofName? e.severity.name = some e.severity := LawfulNamed.ofName?_name e.severity
  rw [Gist.ofLine?, e.line_eq, behind?_append]
  -- The first three pieces are the fields, and the others put together are the message.
  simp only [Option.bind_eq_bind, Option.bind_some, piecesOf_bar (hnat e.index),
    piecesOf_bar hround, piecesOf_bar hseverity, Text.intercalate_piecesOf, String.ofList_toList,
    Text.natural?_toString, round?_roundText, hname, message?_quoted]
  rfl

theorem mapM_ofLine?_lines (events : List Event) :
    (events.map Event.line).mapM Gist.ofLine? = some (events.map Event.gist) := by
  induction events with
  | nil => rfl
  | cons e rest ih =>
    rw [List.map_cons, List.mapM_cons, ofLine?_line, ih]
    rfl

/-! ## Outputs -/

/-- Lines before the key of the report are heard. -/
theorem heard_printLines {lines : List String}
    (h : ∀ line ∈ lines, OneLine line ∧ Begins "REPORT_OUT:" line = false) (rest : List String) :
    heard (Play.Console.printLines (lines ++ rest)) =
      lines ++ heard (Play.Console.printLines rest) := by
  rw [heard, lines_printLines_append (fun line hline => (h line hline).1),
    List.takeWhile_append_of_pos fun line hline => by rw [(h line hline).2]; rfl]
  rfl

/-- Whatever the path of the report is, nothing of it is heard. -/
theorem heard_reportOut (path : String) :
    heard (Play.Console.printLines ["REPORT_OUT:" ++ path]) = [] := by
  obtain ⟨first, others, hpath⟩ :=
    List.exists_cons_of_ne_nil (Text.piecesOf_ne_nil (· == '\n') (path ++ "\n").toList)
  have hkey : OneLine "REPORT_OUT:" := by decide
  have hprinted : (Play.Console.printLines ["REPORT_OUT:" ++ path]).toList =
      "REPORT_OUT:".toList ++ (path ++ "\n").toList := by
    simp [Play.Console.printLines]
  -- A line end in the path begins a new line, but the first line has the key.
  have hbegins : Begins "REPORT_OUT:" (String.ofList ("REPORT_OUT:".toList ++ first)) = true := by
    rw [String.ofList_append, String.ofList_toList]
    exact begins_append _ _
  rw [heard, Text.lines, Text.pieces, hprinted, Text.piecesOf_append_of_forall (Text.beq_eq_false_of_not_mem hkey) hpath, List.map_cons, List.takeWhile_cons_of_neg (by rw [hbegins]; decide)]

theorem heard_ofFault (fault : Fault) (files : FileSystem) :
    heard (Answer.ofFault fault files).output = keyedLines (faultPairs fault) ++ [""] := by
  have hlines : ∀ line ∈ keyedLines (faultPairs fault),
      OneLine line ∧ Begins "REPORT_OUT:" line = false := fun line hline =>
    ⟨oneLine_of_mem_faultLines fault line hline, begins_eq_false_of_mem_keyedLines
      (map_fst_faultPairs fault) (by decide) hline⟩
  rw [output_ofFault, ← List.append_nil (keyedLines (faultPairs fault)), heard_printLines hlines,
    List.append_nil]
  rfl

/-- From a refusal the message is read back, and no step. -/
theorem reads_ofFault (fault : Fault) (files : FileSystem) :
    steps? (Answer.ofFault fault files).output = some [] ∧
      told? "ERROR_MSG_JSON:" (Answer.ofFault fault files).output = some fault.message := by
  have hsteps : (heard (Answer.ofFault fault files).output).filter (Begins "STEP:") = [] := by
    rw [heard_ofFault, List.filter_append,
      filter_begins_keyedLines (map_fst_faultPairs fault) (by decide)]
    rfl
  have hmessage : (heard (Answer.ofFault fault files).output).filter (Begins "ERROR_MSG_JSON:") =
      ["ERROR_MSG_JSON:" ++ Json.quoted fault.message] := by
    rw [heard_ofFault, List.filter_append,
      filter_begins_keyedLines (map_fst_faultPairs fault) (by decide)]
    rfl
  constructor
  · rw [steps?, hsteps]
    rfl
  · rw [told?, hmessage]
    dsimp only
    rw [behind?_append, Option.bind_some, message?_quoted]

section Told

variable {o : RunOptions} {r : Report} {code : Nat} {status kind : String}

theorem map_fst_outcomePairs (r : Report) (status kind : String) :
    (outcomePairs r status kind).map Prod.fst =
      ["OUTCOME:", "FAILURE_KIND:", "MESSAGE_JSON:", "FINAL_POSITION:"] := rfl

theorem heard_ofLines (h : Verdict r.outcome code status kind) (files : FileSystem) :
    heard (Answer.ofLines code (Answer.runLines o r) files).output =
      "RESULT:OK" :: (r.events.map Event.line ++ keyedLines (outcomePairs r status kind)) := by
  have hlines : ∀ line ∈ "RESULT:OK" ::
      (r.events.map Event.line ++ keyedLines (outcomePairs r status kind)),
      OneLine line ∧ Begins "REPORT_OUT:" line = false := by
    rw [List.forall_mem_cons, List.forall_mem_append]
    refine ⟨by decide, fun line hline => ?_, fun line hline => ?_⟩
    · obtain ⟨e, -, rfl⟩ := List.mem_map.1 hline
      exact ⟨e.oneLine_line, e.begins_line_eq_false (by decide) (by decide)⟩
    · exact ⟨oneLine_of_mem_outcomeLines h line hline, begins_eq_false_of_mem_keyedLines
        (map_fst_outcomePairs r status kind) (by decide) hline⟩
  have houtput : (Answer.ofLines code (Answer.runLines o r) files).output =
      Play.Console.printLines (("RESULT:OK" ::
        (r.events.map Event.line ++ keyedLines (outcomePairs r status kind))) ++
          ["REPORT_OUT:" ++ o.reportOut?.getD "NONE"]) := by
    rw [Answer.ofLines, Answer.runLines, outcomeLines_eq h, List.cons_append]
  rw [houtput, heard_printLines hlines, heard_reportOut, List.append_nil]

/-- From a run that is told its steps and its message are read back. -/
theorem reads_ofLines (h : Verdict r.outcome code status kind) (files : FileSystem) :
    steps? (Answer.ofLines code (Answer.runLines o r) files).output =
        some (r.events.map Event.gist) ∧
      told? "MESSAGE_JSON:" (Answer.ofLines code (Answer.runLines o r) files).output =
        some r.outcome.message := by
  have hkeys := map_fst_outcomePairs r status kind
  constructor
  · rw [steps?, heard_ofLines h, List.filter_cons_of_neg (by decide), List.filter_append,
      filter_begins_lines, filter_begins_keyedLines hkeys (by decide)]
    exact (congrArg _ (List.append_nil _)).trans (mapM_ofLine?_lines r.events)
  · rw [told?, heard_ofLines h, List.filter_cons_of_neg (by decide), List.filter_append,
      filter_begins_lines_of_other (by decide) (by decide),
      filter_begins_keyedLines hkeys (by decide)]
    exact (congrArg (Option.bind · message?) (behind?_append _ _)).trans (message?_quoted _)

end Told

/-- Every event, whatever its message is, is told in a line without line feeds and carriage returns
from which it is read back, and every message is written as JSON without them; and from what a run
printed, whatever was asked for, all its steps and its message are read back, or the message of the
fault with which it was refused. -/
theorem output_read_back :
    (∀ e : Event, Gist.ofLine? e.line = some e.gist ∧
      '\n' ∉ e.line.toList ∧ '\r' ∉ e.line.toList) ∧
    (∀ message : String, message? (Json.quoted message) = some message ∧
      '\n' ∉ (Json.quoted message).toList ∧ '\r' ∉ (Json.quoted message).toList) ∧
    (∀ (fault : Fault) (files : FileSystem),
      told? "ERROR_MSG_JSON:" (Answer.ofFault fault files).output = some fault.message) ∧
    ∀ (o : RunOptions) (files : FileSystem),
      (∃ fault, Hindered o files fault ∧
        steps? (Answer.ofRun o files).output = some [] ∧
        told? "ERROR_MSG_JSON:" (Answer.ofRun o files).output = some fault.message) ∨
      ∃ blocks r, Answer.runBlocks o files = .ok blocks ∧
        (∀ delay?, (o.asked blocks delay?).run = .ok r) ∧
        steps? (Answer.ofRun o files).output = some (r.events.map Event.gist) ∧
        told? "MESSAGE_JSON:" (Answer.ofRun o files).output = some r.outcome.message := by
  refine ⟨fun e => ⟨ofLine?_line e, ?_, ?_⟩, fun message => ⟨message?_quoted message, ?_, ?_⟩,
    fun fault files => (reads_ofFault fault files).2, fun o files => ?_⟩
  · exact e.visible_line.not_mem (by decide)
  · exact e.visible_line.not_mem (by decide)
  · exact (Visible.quoted message).not_mem (by decide)
  · exact (Visible.quoted message).not_mem (by decide)
  · rcases ofRun_cases o files with ⟨fault, files', hhindered, -, hanswer⟩ |
      ⟨blocks, r, files', hblocks, hreport, -, hanswer⟩
    · rw [hanswer]
      exact .inl ⟨fault, hhindered, reads_ofFault fault files'⟩
    · obtain ⟨status, kind, hverdict⟩ := exists_verdict (Request.isFinal_of_run rfl (hreport none))
      rw [hanswer]
      exact .inr ⟨blocks, r, hblocks, hreport, reads_ofLines hverdict _⟩

end CommandLine

end Spellbook
