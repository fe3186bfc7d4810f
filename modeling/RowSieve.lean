import RowSieve.Main
import RowSieve.Reader.Physical
import RowSieve.Query.Slicing
import RowSieve.Query.Readable
import RowSieve.Query.Negation
import RowSieve.Query.Reached
import RowSieve.Query.Preorder
import RowSieve.Chain.Grammar
import RowSieve.Chain.Hidden
import RowSieve.Program.Frame
import RowSieve.Calendar.Spelling
import RowSieve.Proofs.Query.Slicing
import RowSieve.Proofs.Query.RoundTrip
import RowSieve.Proofs.Program.RoundTrip
import RowSieve.Proofs.Run.Account
import RowSieve.Proofs.SyntaxError.FirstFault
import RowSieve.Proofs.Run.Append
import RowSieve.Proofs.Reader.Sheet
import RowSieve.Proofs.Run.ReadBack
import RowSieve.Proofs.Query.InTime
import RowSieve.Proofs.Reader.Physical
import RowSieve.Proofs.Reader.Undecodable
import RowSieve.Proofs.Cli.Delivered
import RowSieve.Proofs.Calendar.Clash
import RowSieve.Proofs.Program.Lint
import RowSieve.Proofs.Chain.Unambiguous
import RowSieve.Proofs.Program.Unambiguous
import RowSieve.Proofs.Chain.LastWriter
import RowSieve.Proofs.Query.Negation
import RowSieve.Proofs.Query.Reached
import RowSieve.Program.Recognizer
import RowSieve.Proofs.Table.Extending
import RowSieve.Proofs.Query.Recognizer
import RowSieve.Proofs.Chain.Recognizer
import RowSieve.Proofs.Program.Recognizer
import RowSieve.Proofs.SyntaxError.Stages
import RowSieve.Proofs.Program.Attributed
import RowSieve.Proofs.Text.Escaped
import RowSieve.Proofs.Program.Outline
import RowSieve.Proofs.Program.Coloured
import RowSieve.Proofs.Program.Report
import RowSieve.Proofs.Log.Plain
import RowSieve.Proofs.Coloured
import RowSieve.Proofs.Reader.Placed
import RowSieve.Proofs.Run.Trace
import RowSieve.Proofs.Program.Caret
import RowSieve.Proofs.Query.BlankDate
import RowSieve.Proofs.Toml.Ordered
import RowSieve.Proofs.Toml.Reading
import RowSieve.Proofs.Settings.Shape
import RowSieve.Toml.Bare
import RowSieve.Proofs.Settings.Follows
import RowSieve.Proofs.Settings.Alike
import RowSieve.Proofs.Settings.Undocumented
