import Tabula.Text.Numeral
import Tabula.Text.Case
import Tabula.Text.Numeric
import Tabula.Text.Blank
import Tabula.Decimal.Arithmetic
import Tabula.Decimal.Text
import Tabula.Calendar.Civil
import Tabula.Calendar.Instant
import Tabula.Calendar.Reader
import Tabula.Calendar.Text
import Tabula.Id
import Tabula.IdMap
import Tabula.SortKey
import Tabula.Value
import Tabula.Field.Kind
import Tabula.Filter.Op
import Tabula.Filter.Test
import Tabula.Cell.Display
import Tabula.Cell.Filters
import Tabula.Cell.Order
import Tabula.Binary64
import Tabula.Field.Json
import Tabula.Formula.Error
import Tabula.Formula.Expr
import Tabula.Formula.Parser
import Tabula.Formula.Eval
import Tabula.Catalog.Basic
import Tabula.Schema.Basic
import Tabula.Predicate.Basic
import Tabula.Predicate.Encoding
import Tabula.Predicate.Eval
import Tabula.Metrics
import Tabula.Row.Computed
import Tabula.Row.Record
import Tabula.Config.Basic
import Tabula.Query.Error
import Tabula.Query.Filter
import Tabula.Query.Search
import Tabula.Db.Basic
import Tabula.Error.Internal
import Tabula.Error.Public
import Tabula.Config.Text
import Tabula.Json.Reader
import Tabula.Json.Writer
import Tabula.Proofs.Except
import Tabula.Proofs.Formula.Reads
import Tabula.Proofs.Formula.Grammar
import Tabula.Proofs.Formula.Parser
import Tabula.Proofs.Formula.Places
import Tabula.Proofs.IdMap
import Tabula.Proofs.Catalog.History
import Tabula.Proofs.Row.Computed
import Tabula.Proofs.Db.Perform
import Tabula.Proofs.Row.Input
import Tabula.Proofs.Db.RowWrites
import Tabula.Proofs.Db.FormulaCells
import Tabula.Proofs.Query.Order
import Tabula.Proofs.Query.Select
import Tabula.Proofs.Db.Execute
import Tabula.Proofs.Predicate.Eval
import Tabula.Proofs.Query.FilterKey
import Tabula.Proofs.Query.Filter
import Tabula.Proofs.Bytes
import Tabula.Proofs.Decimal.Normal
import Tabula.Proofs.Predicate.Encoding
import Tabula.Proofs.Query.Bytes
import Tabula.Proofs.Predicate.Same
import Tabula.Proofs.Db.Fingerprint
import Tabula.Proofs.Text.Numeral
import Tabula.Proofs.Calendar.Reader
import Tabula.Proofs.Query.Outcome
import Tabula.Proofs.Cell.Utc
import Tabula.Proofs.Formula.Faults
import Tabula.Proofs.Row.Read
import Tabula.Proofs.Row.Faults
import Tabula.Proofs.Db.Reached
import Tabula.Proofs.Db.FormulaFaults
import Tabula.Proofs.Db.Settled
import Tabula.Proofs.Db.Reconcile
import Tabula.Proofs.Schema.Positions
import Tabula.Proofs.Db.Alike
import Tabula.Proofs.Db.Refused
import Tabula.Proofs.Db.ReservedNames
import Tabula.Proofs.Db.ReadBack
import Tabula.Proofs.Db.Views
import Tabula.Proofs.Cell.Canonical
import Tabula.Proofs.Db.WrittenBack
import Tabula.Proofs.Predicate.Columns
import Tabula.Proofs.Query.Named
import Tabula.Proofs.Db.Hidden
import Tabula.Proofs.Row.Filled
import Tabula.Proofs.Db.History
import Tabula.Proofs.Cell.Keys
import Tabula.Proofs.Cell.Ranges
import Tabula.Proofs.Db.Keys
import Tabula.Proofs.Db.Pages
import Tabula.Proofs.Db.Ranges
import Tabula.Proofs.Db.Restrictions
import Tabula.Proofs.Predicate.Both
import Tabula.Proofs.Row.Refresh
import Tabula.Proofs.Decimal.Next
import Tabula.Proofs.Db.Appended
import Tabula.Proofs.Query.OrderText
import Tabula.Proofs.Schema.NameChars
import Tabula.Proofs.Query.OrderKeys
import Tabula.Proofs.Query.Search
import Tabula.Proofs.Cell.Negated
import Tabula.Proofs.Query.Verbatim
import Tabula.Proofs.Formula.References
import Tabula.Proofs.Calendar.Civil
import Tabula.Proofs.Calendar.Text
import Tabula.Proofs.Formula.DateText
import Tabula.Proofs.Db.Reconciled
import Tabula.Proofs.Schema.Precision
import Tabula.Proofs.Cell.Choices
import Tabula.Proofs.Cell.Numbers
import Tabula.Proofs.Db.Accounts
import Tabula.Proofs.Schema.Sanitize
import Tabula.Proofs.Schema.Words
import Tabula.Proofs.Formula.Literal
import Tabula.Proofs.Field.RoundTrip
