import RecordFix.Fix.Describe
import RecordFix.Main
import RecordFix.PatternCache
import RecordFix.Proofs.Path.Addressed
import RecordFix.Proofs.Path.Agreement
import RecordFix.Proofs.Path.Appending
import RecordFix.Proofs.Path.Copying
import RecordFix.Proofs.Path.CopyingInside
import RecordFix.Proofs.Path.Direct
import RecordFix.Proofs.Path.Frame
import RecordFix.Proofs.Path.Lens
import RecordFix.Proofs.Path.Obstacles
import RecordFix.Proofs.Path.Editing
import RecordFix.Proofs.Path.Items
import RecordFix.Proofs.Path.Replacing
import RecordFix.Proofs.Path.ReplacingTwice
import RecordFix.Proofs.Encoding.Utf8
import RecordFix.Proofs.Json.Spelling
import RecordFix.Proofs.Json.Reading
import RecordFix.Proofs.Json.Typed
import RecordFix.Proofs.Record.Reading
import RecordFix.Proofs.Record.Retaining
import RecordFix.Proofs.Regex.Spans
import RecordFix.Proofs.Regex.Matching
import RecordFix.Proofs.Regex.Extending
import RecordFix.Proofs.Regex.ExtendingBracket
import RecordFix.Proofs.Regex.ExtendingReader
import RecordFix.Proofs.Regex.Enclosing
import RecordFix.Proofs.Glob.Grammar
import RecordFix.Proofs.Glob.Scanning
import RecordFix.Proofs.Glob.Translation
import RecordFix.Proofs.Path.EveryField
import RecordFix.Proofs.Value.Documents
import RecordFix.Proofs.Value.FirstOccurrences
import RecordFix.Proofs.Value.Leaves
import RecordFix.Proofs.Value.Pruning
import RecordFix.Proofs.Value.Sameness
import RecordFix.Proofs.Fix.Composition
import RecordFix.Proofs.Fix.Operations
import RecordFix.Proofs.Fix.ListBlock
import RecordFix.Proofs.Fix.ListVariable
import RecordFix.Proofs.Fix.Rejection
import RecordFix.Proofs.Fix.Resolution
import RecordFix.Proofs.Fix.Sessions
import RecordFix.Proofs.Fix.Isolation
import RecordFix.Proofs.Fix.SessionChanges
import RecordFix.Proofs.Fix.Documents
import RecordFix.Proofs.Fix.Formatting
import RecordFix.Proofs.Fix.FullMatch
import RecordFix.Proofs.Fix.Joining
import RecordFix.Proofs.Fix.Moving
import RecordFix.Proofs.Fix.OptionSpelling
import RecordFix.Proofs.Fix.Pairing
import RecordFix.Proofs.Fix.Renaming
import RecordFix.Proofs.Fix.Sorting
import RecordFix.Proofs.Fix.Substitution
import RecordFix.Proofs.Fix.Totals
import RecordFix.Proofs.Table.Reading
import RecordFix.Proofs.Batch.Accounting
import RecordFix.Proofs.Batch.Independence
import RecordFix.Proofs.Batch.Output
import RecordFix.Proofs.Value.FirstOccurrences
