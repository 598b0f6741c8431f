import Spellbook.Main
import Spellbook.Play.View
import Spellbook.Case
import Spellbook.Written.Block
import Spellbook.Proofs.Execution.Failures
import Spellbook.Proofs.Session.Lookups
import Spellbook.Proofs.Run.Bound
import Spellbook.Proofs.Run.Agreement
import Spellbook.Proofs.Run.Eager
import Spellbook.Proofs.Run.Explained
import Spellbook.Proofs.Run.Interrupted
import Spellbook.Proofs.Run.Observed
import Spellbook.Proofs.Workbench.Refusal
import Spellbook.Proofs.Run.Answers
import Spellbook.Proofs.Plan.Append
import Spellbook.Proofs.Run.Continued
import Spellbook.Proofs.Run.Unrolled
import Spellbook.Proofs.Run.Journey
import Spellbook.Proofs.Plan.Bare
import Spellbook.Proofs.Workbench.History
import Spellbook.Proofs.Workbench.Residue
import Spellbook.Proofs.Level.Guarded
import Spellbook.Proofs.Execution.Resolving
import Spellbook.Proofs.Execution.Sparing
import Spellbook.Proofs.Run.Resolved
import Spellbook.Proofs.Level.Victory
import Spellbook.Proofs.Level.Fork
import Spellbook.Proofs.Run.Straight
import Spellbook.Proofs.Level.Winnable
import Spellbook.Proofs.Execution.Vocabulary
import Spellbook.Proofs.Workbench.Vocabulary
import Spellbook.Proofs.Json.Scanning
import Spellbook.Proofs.Json.Reading
import Spellbook.Proofs.Json.Records
import Spellbook.Proofs.Written.Ranges
import Spellbook.Proofs.Written.RoundTrip
import Spellbook.Proofs.Written.Faithful
import Spellbook.Proofs.Files.Placing
import Spellbook.Proofs.Written.Reports
import Spellbook.Proofs.Workbench.Requested
import Spellbook.Proofs.CommandLine.Lines
import Spellbook.Proofs.CommandLine.RunAnswer
import Spellbook.Proofs.Plan.Partition
import Spellbook.Proofs.Level.Target
import Spellbook.Proofs.Play.Inputs
import Spellbook.Proofs.Play.Mirror
import Spellbook.Proofs.Play.Marks
import Spellbook.Proofs.Execution.Arithmetic
import Spellbook.Proofs.Workbench.Numbering
import Spellbook.Proofs.Catalog.Admission
import Spellbook.Proofs.Level.Planks
import Spellbook.Proofs.Catalog.Lookup
import Spellbook.Proofs.Workbench.Creation
import Spellbook.Proofs.Case.Checking
import Spellbook.Proofs.Files.Lasting
import Spellbook.Proofs.Play.Commands
import Spellbook.Proofs.Play.Conversation
import Spellbook.Proofs.Play.Returning
import Spellbook.Proofs.CommandLine.Protocol
import Spellbook.Proofs.Play.Removing
import Spellbook.Proofs.Play.Selection
import Spellbook.Proofs.Files.Scanning
import Spellbook.Proofs.Draw.Fairness
