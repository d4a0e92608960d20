import SqlScript.Main
import SqlScript.Rehearsal
import SqlScript.Proofs.Scanning
import SqlScript.Proofs.Shape
import SqlScript.Proofs.PoolAccounts
import SqlScript.Proofs.FailedReports
import SqlScript.Proofs.NormalForm
import SqlScript.Proofs.Placeholders
import SqlScript.Proofs.Classification
import SqlScript.Proofs.Fitting
import SqlScript.Proofs.Agreement
import SqlScript.Proofs.Isolation
import SqlScript.Proofs.Comments
import SqlScript.Proofs.Interrupts
import SqlScript.Proofs.RollbackFailures
import SqlScript.Proofs.Lifetimes
import SqlScript.Proofs.Closing
import SqlScript.Proofs.Leftovers
import SqlScript.Proofs.ExitCodes
import SqlScript.Proofs.Envelopes
import SqlScript.Proofs.Copies
import SqlScript.Proofs.LineEndings
import SqlScript.Proofs.Sequencing
import SqlScript.Proofs.Slices
import SqlScript.Proofs.Explanations
import SqlScript.Proofs.Positions
import SqlScript.Proofs.Settings
import SqlScript.Proofs.Openers
import SqlScript.Proofs.Schemes
import SqlScript.Proofs.Utf8
import SqlScript.Proofs.Lookups
import SqlScript.Proofs.Legibility
