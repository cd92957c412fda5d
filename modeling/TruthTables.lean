import TruthTables.Formula.Grammar
import TruthTables.Assignment.Cursor
import TruthTables.Main
import TruthTables.Proofs.Names
import TruthTables.Proofs.Token.Alphabet
import TruthTables.Proofs.Formula.Symbols
import TruthTables.Proofs.Formula.Stepping
import TruthTables.Proofs.Formula.Reader
import TruthTables.Proofs.Token.Scanning
import TruthTables.Proofs.Formula.RoundTrip
import TruthTables.Proofs.Formula.Subformulas
import TruthTables.Proofs.Assignment.Lookup
import TruthTables.Proofs.Token.Limits
import TruthTables.Proofs.Table.Selection
import TruthTables.Proofs.Table.Columns
import TruthTables.Proofs.Table.Outcome
import TruthTables.Proofs.Table.Correctness
import TruthTables.Proofs.Formula.Verdict
import TruthTables.Proofs.Formula.FlatReading
import TruthTables.Proofs.Table.Closure
import TruthTables.Proofs.Table.Stages
import TruthTables.Proofs.Formula.Inventory
import TruthTables.Proofs.Assignment.Numbers
import TruthTables.Proofs.Assignment.Listing
import TruthTables.Proofs.Assignment.Ranks
import TruthTables.Proofs.Text.Visible
import TruthTables.Proofs.Table.Values
import TruthTables.Proofs.Table.Subtables
import TruthTables.Proofs.Token.Renaming
import TruthTables.Proofs.Formula.Renaming
import TruthTables.Proofs.Table.Marks
import TruthTables.Proofs.Table.WhiteSpace
import TruthTables.Proofs.Table.Renaming
import TruthTables.Proofs.Text.Margins
import TruthTables.Proofs.Table.Reading
import TruthTables.Proofs.Text.Lines
import TruthTables.Proofs.Token.Resuming
import TruthTables.Proofs.Worksheet.Concatenation
import TruthTables.Proofs.Worksheet.LineEnds
import TruthTables.Proofs.CommandLine.Accounting
import TruthTables.Proofs.CommandLine.Log
import TruthTables.Proofs.CommandLine.Verbosity
import TruthTables.Proofs.Table.Layout
import TruthTables.Proofs.Table.Decoration
import TruthTables.Proofs.Assignment.Sessions
import TruthTables.Proofs.Formula.Evaluation
import TruthTables.Proofs.Text.Blocks
import TruthTables.Proofs.CommandLine.Framing
import TruthTables.Proofs.Table.Choice
import TruthTables.Proofs.Table.Headers
import TruthTables.Proofs.Table.Records
import TruthTables.Proofs.Table.Room
