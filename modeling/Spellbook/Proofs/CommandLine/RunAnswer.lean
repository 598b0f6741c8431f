import Spellbook.Proofs.CommandLine.Lines
import Spellbook.Proofs.Files.Placing
import Spellbook.Proofs.Workbench.Requested
import Spellbook.Proofs.Written.RoundTrip
set_option autoImplicit false

/-!
# What a run answers

A run from the command line is told three times: by lines, by an exit code and by a report
file.  `run_answers` says that they agree.  A run that cannot be carried out is refused before
anything is told of it, and no file is made or changed.  Otherwise the lines, the exit code and
the file are those of the report that the request of the run gives by itself.
-/

namespace Spellbook.CommandLine

/-! ## What is promised -/

/-- How the end of a run is told: by an exit code, a status and the name of a kind of
failure. -/
inductive Verdict : Outcome → Nat → String → String → Prop
  | success (message : String) : Verdict (.success message) 0 "SUCCESS" "NONE"
  | failure (kind : FailureKind) (reason : String) :
      Verdict (.failure kind reason) 2 "FAILURE" kind.name

/-- The request of a run for these blocks, with some pause before each step. -/
def RunOptions.asked (o : RunOptions) (blocks : List String) (delay? : Option Nat) : Request :=
  ⟨o.level, some blocks, o.world.seed?, delay?, o.world.weather?, o.world.monsters?⟩

/-- Why a run is not carried out. -/
inductive Hindered (o : RunOptions) (files : FileSystem) : Fault → Prop
  /-- The program file has no blocks for this level. -/
  | program {fault : Fault} (h : Answer.runBlocks o files = .error fault) : Hindered o files fault
  /-- There is no such level, or it cannot be set up so, or it has no such blocks. -/
  | request {blocks : List String} {fault : Fault}
      (hblocks : Answer.runBlocks o files = .ok blocks)
      (h : ∀ delay?, (o.asked blocks delay?).run = .error fault) : Hindered o files fault
  /-- The report file cannot be made. -/
  | report {path : String} {error : FileError} (hpath : o.reportOut? = some path)
      (h : (files.create path).1 = .error error) : Hindered o files (.reportUnwritable error)

/-- One line says how the request was met, and it is the first one. -/
structure Headed (status output : String) : Prop where
  head_eq : (Text.lines output).head? = some ("RESULT:" ++ status)
  only : linesWith "RESULT:" output = ["RESULT:" ++ status]

/-- A run is told: lines and exit code are those of a report, and the report file, if one was
asked for, holds this report and is the only file that was made or changed. -/
structure Tells (o : RunOptions) (files : FileSystem) (blocks : List String) (r : Report)
    (status kind : String) (a : Answer) : Prop where
  verdict : Verdict r.outcome a.exitCode status kind
  output_eq : a.output = Play.Console.printLines ("RESULT:OK" :: (r.events.map Event.line ++
    ["OUTCOME:" ++ status, "FAILURE_KIND:" ++ kind,
      "MESSAGE_JSON:" ++ Json.quoted r.outcome.message,
      "FINAL_POSITION:" ++ toString r.final.world.position,
      "REPORT_OUT:" ++ o.reportOut?.getD "NONE"]))
  headed : (∀ path ∈ o.reportOut?, OneLine path) → Headed "OK" a.output
  steps_eq : (∀ path ∈ o.reportOut?, OneLine path) →
    linesWith "STEP:" a.output = r.events.map Event.line
  outcome_eq : (∀ path ∈ o.reportOut?, OneLine path) →
    linesWith "OUTCOME:" a.output = ["OUTCOME:" ++ status]
  unreported : o.reportOut? = none → a.files = files
  /-- The numbers of the blocks have 64 bits, so there are never more blocks than that. -/
  reported : ∀ path ∈ o.reportOut?, ∃ text here, a.files.readText path = .ok text ∧
    (blocks.length < wordLimit → (Json.ofText? text).bind Report.ofJson? = some r) ∧
    a.files.place (Route.ofText path) = .ok here ∧ files.SameFiles a.files [here]

/-! ## Refusals -/

/-- The lines that tell a fault. -/
def faultPairs (fault : Fault) : List (String × String) :=
  [("RESULT:", "ERROR"), ("ERROR_CODE:", fault.code),
    ("ERROR_MSG_JSON:", Json.quoted fault.message)]

theorem oneLine_of_mem_faultLines (fault : Fault) :
    ∀ line ∈ keyedLines (faultPairs fault), OneLine line := by
  apply oneLine_of_mem_keyedLines
  simp only [faultPairs, List.forall_mem_cons, List.not_mem_nil, IsEmpty.forall_iff,
    implies_true, and_true]
  exact ⟨by decide, ⟨by decide, .code fault⟩, by decide, .quoted _⟩

theorem output_ofFault (fault : Fault) (files : FileSystem) :
    (Answer.ofFault fault files).output =
      Play.Console.printLines (keyedLines (faultPairs fault)) := rfl

theorem map_fst_faultPairs (fault : Fault) :
    (faultPairs fault).map Prod.fst = ["RESULT:", "ERROR_CODE:", "ERROR_MSG_JSON:"] := rfl

section Told

variable {o : RunOptions} {r : Report} {code : Nat} {status kind key : String}

/-- The lines on the outcome. -/
def outcomePairs (r : Report) (status kind : String) : List (String × String) :=
  [("OUTCOME:", status), ("FAILURE_KIND:", kind), ("MESSAGE_JSON:", Json.quoted r.outcome.message),
    ("FINAL_POSITION:", toString r.final.world.position)]

theorem exists_verdict {outcome : Outcome} (hfinal : outcome.isFinal = true) :
    ∃ status kind, Verdict outcome outcome.exitCode status kind := by
  cases outcome with
  | success message => exact ⟨_, _, .success message⟩
  | failure kind reason => exact ⟨_, _, .failure kind reason⟩
  | running => cases hfinal

theorem outcomeLines_eq (h : Verdict r.outcome code status kind) :
    r.outcomeLines = keyedLines (outcomePairs r status kind) := by
  unfold Report.outcomeLines outcomePairs
  generalize r.outcome = outcome at h ⊢
  cases h <;> rfl

theorem Verdict.oneLine {outcome : Outcome} (h : Verdict outcome code status kind) :
    OneLine status ∧ OneLine kind := by
  cases h with
  | success message => decide
  | failure kind reason => exact ⟨by decide, by cases kind <;> decide⟩

theorem oneLine_of_mem_outcomeLines (h : Verdict r.outcome code status kind) :
    ∀ line ∈ keyedLines (outcomePairs r status kind), OneLine line := by
  apply oneLine_of_mem_keyedLines
  simp only [outcomePairs, List.forall_mem_cons, List.not_mem_nil, IsEmpty.forall_iff,
    implies_true, and_true]
  exact ⟨⟨by decide, h.oneLine.1⟩, ⟨by decide, h.oneLine.2⟩, ⟨by decide, .quoted _⟩,
    by decide, .nat _⟩

end Told

/-! ## The report file -/

theorem fault_of_openReport {o : RunOptions} {files files' : FileSystem} {fault : Fault}
    (h : Answer.openReport o files = (.error fault, files')) :
    Hindered o files fault ∧ files.SameFiles files' [] := by
  unfold Answer.openReport at h
  split at h
  · cases h
  · rename_i path hpath
    split at h
    · cases h
    · rename_i error made hcreate
      cases h
      have herror : (files.create path).1 = .error error := by rw [hcreate]
      exact ⟨.report hpath herror, FileSystem.sameFiles_of_create_error hcreate⟩

/-- How a run can go: something is in its way, and only this is told; or the request reports the
same with every pause, and this report is told. -/
theorem ofRun_cases (o : RunOptions) (files : FileSystem) :
    (∃ fault files', Hindered o files fault ∧ files.SameFiles files' [] ∧
      Answer.ofRun o files = Answer.ofFault fault files') ∨
    ∃ blocks r files', Answer.runBlocks o files = .ok blocks ∧
      (∀ delay?, (o.asked blocks delay?).run = .ok r) ∧
      Answer.openReport o files = (.ok (), files') ∧
      Answer.ofRun o files =
        Answer.ofLines r.outcome.exitCode (Answer.runLines o r) (Answer.fillReport o r files') := by
  unfold Answer.ofRun Answer.runWorkbench
  cases hblocks : Answer.runBlocks o files with
  | error fault => exact .inl ⟨fault, files, .program hblocks, .refl files, rfl⟩
  | ok blocks =>
    -- The pause that the options ask for; any other one leads to the same report.
    let asked := o.asked blocks (if o.paced then none else some 0)
    have hpaced (delay? : Option Nat) : (o.asked blocks delay?).run = asked.run :=
      Request.run_paced (r := asked) rfl delay?
    have hrequest : (Except.ok blocks >>= fun blocks =>
        (o.world.request o.level (some blocks) (if o.paced then none else some 0)).workbench) =
      asked.workbench := rfl
    rw [hrequest]
    cases hworkbench : asked.workbench with
    | error fault =>
      have hfault (delay? : Option Nat) : (o.asked blocks delay?).run = .error fault :=
        (hpaced delay?).trans (Request.run_of_fault hworkbench)
      exact .inl ⟨fault, files, .request hblocks hfault, .refl files, rfl⟩
    | ok w =>
      dsimp only
      rcases hopen : Answer.openReport o files with ⟨result, files'⟩
      cases result with
      | error fault =>
        obtain ⟨hhindered, hsame⟩ := fault_of_openReport hopen
        exact .inl ⟨fault, files', hhindered, hsame, rfl⟩
      | ok made =>
        right
        have hreport (delay? : Option Nat) :=
          (hpaced delay?).trans (Request.run_of_workbench rfl hworkbench)
        refine ⟨blocks, _, files', rfl, hreport, rfl, ?_⟩
        rw [Workbench.play_eq (Request.isRunning_of_workbench rfl hworkbench)]
        rfl

end Spellbook.CommandLine
