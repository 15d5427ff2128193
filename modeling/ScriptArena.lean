import ScriptArena.Service.Chat
import ScriptArena.Service.Connections
import ScriptArena.Service.Http
import ScriptArena.Service.Loop
import ScriptArena.Service.Settings
import ScriptArena.Value.Outline
import ScriptArena.Proofs.Script.Acceptance
import ScriptArena.Proofs.Script.Sizes
import ScriptArena.Proofs.Script.Margins
import ScriptArena.Proofs.Run.Composed
import ScriptArena.Proofs.Run.Guards
import ScriptArena.Proofs.Run.Builtins
import ScriptArena.Proofs.Run.Evaluation
import ScriptArena.Proofs.Run.Operations
import ScriptArena.Proofs.Run.Ceilings
import ScriptArena.Proofs.Run.Soundness
import ScriptArena.Proofs.Run.Support
import ScriptArena.Proofs.Run.Steps
import ScriptArena.Proofs.Run.Scopes
import ScriptArena.Proofs.Run.Signals
import ScriptArena.Proofs.Run.Costs
import ScriptArena.Proofs.Judge.Verdicts
import ScriptArena.Proofs.Judge.Passes
import ScriptArena.Proofs.Judge.Shortcuts
import ScriptArena.Proofs.Judge.Margins
import ScriptArena.Proofs.Arena.Changes
import ScriptArena.Proofs.Arena.Layout
import ScriptArena.Proofs.Arena.Modes
import ScriptArena.Proofs.Arena.Endings
import ScriptArena.Proofs.Arena.Ledger
import ScriptArena.Proofs.Arena.Notices
import ScriptArena.Proofs.Arena.Lifecycle
import ScriptArena.Proofs.Progress.Isolation
import ScriptArena.Proofs.Progress.Records
import ScriptArena.Proofs.Progress.Schedules
import ScriptArena.Proofs.Progress.Coherence
import ScriptArena.Proofs.Progress.HighScores
import ScriptArena.Proofs.Service.Turns
import ScriptArena.Proofs.Service.Countdowns
import ScriptArena.Proofs.Service.Publishing
import ScriptArena.Proofs.Service.Rounds
import ScriptArena.Proofs.Service.Solutions
import ScriptArena.Proofs.Service.Handovers
import ScriptArena.Proofs.Run.TextSizes
import ScriptArena.Proofs.Run.Widths
import ScriptArena.Proofs.Value.Templates
import ScriptArena.Proofs.Run.Readings
import ScriptArena.Proofs.Run.Suits
import ScriptArena.Proofs.Run.Formatted
import ScriptArena.Proofs.Run.Integers
import ScriptArena.Proofs.Judge.Refusals
import ScriptArena.Proofs.Run.Sequences
import ScriptArena.Proofs.Run.Printing
import ScriptArena.Proofs.Run.Truncation
import ScriptArena.Proofs.Run.Bindings
import ScriptArena.Proofs.Run.Recovery
import ScriptArena.Proofs.Judge.Truths
import ScriptArena.Proofs.Judge.Equality
import ScriptArena.Proofs.Arena.Headings
import ScriptArena.Proofs.Arena.Refusals
import ScriptArena.Proofs.Run.Definitions
import ScriptArena.Proofs.Arena.Submissions
import ScriptArena.Proofs.Progress.SignIns
import ScriptArena.Proofs.Service.Segments
import ScriptArena.Proofs.Service.Endpoints
import ScriptArena.Proofs.Progress.Copies
import ScriptArena.Proofs.Progress.Totals
import ScriptArena.Proofs.Value.Distinct
import ScriptArena.Proofs.Run.Sizing
import ScriptArena.Proofs.Draw.Periods
import ScriptArena.Proofs.Arena.EmptyCells
import ScriptArena.Proofs.Service.Connecting
import ScriptArena.Proofs.Run.Comprehensions
