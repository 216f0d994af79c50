import SqlAssist.Bisect
import SqlAssist.Candidates.CandidateSet
import SqlAssist.Candidates.Completion
import SqlAssist.Candidates.Order
import SqlAssist.Candidates.View
import SqlAssist.Catalog.Database
import SqlAssist.Config
import SqlAssist.Dialect
import SqlAssist.Duration
import SqlAssist.Engine.Basic
import SqlAssist.Engine.Rehearsal
import SqlAssist.Engine.Source
import SqlAssist.Engine.Timeline
import SqlAssist.Error
import SqlAssist.Error.Argument
import SqlAssist.Error.Database
import SqlAssist.Error.Metadata
import SqlAssist.NameSet
import SqlAssist.Session.Basic
import SqlAssist.Session.ConnectionPool
import SqlAssist.Session.Reflection
import SqlAssist.Session.Rehearsal
import SqlAssist.Session.RowCount
import SqlAssist.Session.Server
import SqlAssist.Sql.Identifier
import SqlAssist.Sql.Keyword
import SqlAssist.Sql.PartialToken
import SqlAssist.Sql.Statement
import SqlAssist.Sql.Token
import SqlAssist.Text.Alphanumeric
import SqlAssist.Text.CaseTable
import SqlAssist.Text.CodeTable
import SqlAssist.Text.LowerCase
import SqlAssist.Text.Number
import SqlAssist.Text.Offset
import SqlAssist.Text.Quoted
import SqlAssist.Text.UpperCase
import SqlAssist.Text.Visible
import SqlAssist.Text.WhiteSpace
import SqlAssist.Vocabulary
import SqlAssist.Proofs.Candidates.AfterDot
import SqlAssist.Proofs.Candidates.Beginnings
import SqlAssist.Proofs.Candidates.CaseInsensitivity
import SqlAssist.Proofs.Candidates.Completion
import SqlAssist.Proofs.Candidates.Order
import SqlAssist.Proofs.Candidates.Ranking
import SqlAssist.Proofs.Candidates.Refreshing
import SqlAssist.Proofs.Candidates.Typing
import SqlAssist.Proofs.Candidates.View
import SqlAssist.Proofs.Catalog.Database
import SqlAssist.Proofs.Catalog.Flat
import SqlAssist.Proofs.Catalog.Rows
import SqlAssist.Proofs.Engine.Connecting
import SqlAssist.Proofs.Engine.Failures
import SqlAssist.Proofs.Engine.Freshness
import SqlAssist.Proofs.Engine.Isolation
import SqlAssist.Proofs.Engine.Numbers
import SqlAssist.Proofs.Engine.Overtaking
import SqlAssist.Proofs.Engine.Precedence
import SqlAssist.Proofs.Engine.Timeline
import SqlAssist.Proofs.Session.Answers
import SqlAssist.Proofs.Session.Cancellation
import SqlAssist.Proofs.Session.Reflection
import SqlAssist.Proofs.Session.Rehearsal
import SqlAssist.Proofs.Session.RowCount
import SqlAssist.Proofs.Session.Traffic
import SqlAssist.Proofs.Sql.PartialToken
import SqlAssist.Proofs.Sql.Separators
import SqlAssist.Proofs.Sql.Spans
import SqlAssist.Proofs.Sql.Token
import SqlAssist.Proofs.Sql.WordAtCursor
import SqlAssist.Proofs.Sql.WordStart
import SqlAssist.Proofs.Text.ByteOrder
import SqlAssist.Proofs.Text.CodeTable
import SqlAssist.Proofs.Text.LowerCase
import SqlAssist.Proofs.Text.Slice
