import LiveSession.Text.Blank
import LiveSession.Proofs.Session.Partition
import LiveSession.Rehearsal
import LiveSession.Response.Draft
import LiveSession.Routing.Program
import LiveSession.Script.Interpreter
import LiveSession.Session
import LiveSession.Proofs.Submission.Notes
import LiveSession.Proofs.Session.Execute
import LiveSession.Proofs.Submission.Conclusion
import LiveSession.Proofs.Session.Conclusion
import LiveSession.Proofs.Submission.Carried
import LiveSession.Proofs.Submission.Split
import LiveSession.Proofs.Engine.Recorded
import LiveSession.Proofs.Session.Seen
import LiveSession.Proofs.Session.Calls
import LiveSession.Proofs.Session.Split
import LiveSession.Proofs.Session.Requests
import LiveSession.Proofs.Session.Settled
import LiveSession.Proofs.Engine.Withheld
import LiveSession.Proofs.Session.Interrupted
import LiveSession.Proofs.Assoc.Distinct
import LiveSession.Proofs.Table.Fields
import LiveSession.Proofs.Table.Carried
import LiveSession.Proofs.Table.Schema
import LiveSession.Proofs.Table.Aligned
import LiveSession.Proofs.Structured.Closed
import LiveSession.Proofs.Table.Homogeneous
import LiveSession.Proofs.Decompose.Plain
import LiveSession.Proofs.Magic.Announced
import LiveSession.Proofs.Session.Separation
import LiveSession.Proofs.Magic.Raised
import LiveSession.Proofs.Submission.Raised
import LiveSession.Proofs.Session.Boundary
import LiveSession.Proofs.Session.Trailing
import LiveSession.Proofs.Host.Takes
import LiveSession.Proofs.Decompose.Takes
import LiveSession.Proofs.Magic.Sampling
import LiveSession.Proofs.Session.Sampling
import LiveSession.Proofs.Traversal
import LiveSession.Proofs.Session.SampleSize
import LiveSession.Proofs.Structured.Plain
import LiveSession.Proofs.Table.Plain
import LiveSession.Proofs.Magic.Agreement
import LiveSession.Proofs.Host.Native
import LiveSession.Proofs.Decompose.Native
import LiveSession.Proofs.Response.Plain
import LiveSession.Proofs.Submission.Kept
import LiveSession.Proofs.Session.Delivered
import LiveSession.Routing.Interleaving
import LiveSession.Proofs.Routing.Terminal
import LiveSession.Proofs.Routing.Scopes
import LiveSession.Proofs.Routing.Interleaving
import LiveSession.Proofs.Response.Fold
import LiveSession.Proofs.Text.Pattern
import LiveSession.Proofs.Magic.Grammar
import LiveSession.Proofs.Structured.Classified
import LiveSession.Proofs.Submission.Halted
import LiveSession.Proofs.Script.Bound
import LiveSession.Proofs.Session.Exited
import LiveSession.Proofs.Table.ReadBack
import LiveSession.Proofs.Decompose.Records
import LiveSession.Proofs.Decompose.FirstDefect
import LiveSession.Proofs.Magic.Native
import LiveSession.Proofs.Transcript.Split
import LiveSession.Proofs.Settings.Clamped
import LiveSession.Proofs.Magic.Outcome
import LiveSession.Proofs.Decompose.Public
import LiveSession.Proofs.Table.Encoded
import LiveSession.Proofs.Magic.Spelling
import LiveSession.Proofs.Settings.Trusted
