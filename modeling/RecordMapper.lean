import RecordMapper.Text.Basic
import RecordMapper.Text.LowerCase
import RecordMapper.Text.Canonical
import RecordMapper.Text.Quoted
import RecordMapper.Number.Shortest
import RecordMapper.Number.Reading
import RecordMapper.Time.Civil
import RecordMapper.Value
import RecordMapper.Error
import RecordMapper.Schema.Model
import RecordMapper.Schema.Registry
import RecordMapper.Schema.Join
import RecordMapper.Sql.Render
import RecordMapper.Url.Domain.Reading
import RecordMapper.Url.Reading
import RecordMapper.Connection.Endpoint
import RecordMapper.Connection.ScriptedBackend
import RecordMapper.Query.Run
import RecordMapper.Record.Link
import RecordMapper.Example.Shop
import RecordMapper.Proofs.Sql.Lexeme
import RecordMapper.Proofs.Sql.Literal
import RecordMapper.Proofs.Sql.ExprTokens
import RecordMapper.Proofs.Sql.StatementTokens
import RecordMapper.Proofs.Sql.Condition
import RecordMapper.Proofs.Sql.Reading
import RecordMapper.Proofs.Sql.ExprReading
import RecordMapper.Proofs.Query.Meaning
import RecordMapper.Proofs.Query.Building
import RecordMapper.Proofs.Action
import RecordMapper.Proofs.Query.ConditionLeaves
import RecordMapper.Proofs.Query.ScopePath
import RecordMapper.Proofs.Query.Session
import RecordMapper.Proofs.Query.Compiled
import RecordMapper.Proofs.Query.Closed
import RecordMapper.Proofs.Schema.Name
import RecordMapper.Proofs.Database.Change
import RecordMapper.Proofs.Query.Executed
import RecordMapper.Proofs.Query.SameRows
import RecordMapper.Proofs.Query.Chain
import RecordMapper.Proofs.Query.JoinedRows
import RecordMapper.Proofs.Query.Graph
import RecordMapper.Proofs.Query.Objects
import RecordMapper.Proofs.Query.Page
import RecordMapper.Proofs.Query.Total
import RecordMapper.Proofs.Record.Connecting
import RecordMapper.Proofs.Record.Disconnecting
import RecordMapper.Proofs.Schema.Converse
import RecordMapper.Proofs.Query.Hopping
import RecordMapper.Proofs.Database.Keyed
import RecordMapper.Proofs.Database.Watched
import RecordMapper.Proofs.Record.Refused
import RecordMapper.Proofs.Record.Followed
import RecordMapper.Proofs.Record.Single
import RecordMapper.Proofs.Record.Reached
import RecordMapper.Proofs.Record.Selected
import RecordMapper.Proofs.Record.Saving
import RecordMapper.Proofs.Record.RoundTrip
import RecordMapper.Proofs.Record.Resaved
import RecordMapper.Proofs.Connection.Latest
import RecordMapper.Proofs.Connection.Remembered
import RecordMapper.Proofs.Query.Sentence
import RecordMapper.Proofs.Query.Negated
import RecordMapper.Proofs.Sql.Comment
import RecordMapper.Proofs.Sql.SelectName
import RecordMapper.Proofs.Connection.Noticed
import RecordMapper.Proofs.Query.Widened
import RecordMapper.Proofs.Query.Naming
import RecordMapper.Proofs.Query.Fragment
import RecordMapper.Proofs.Query.Cursor
import RecordMapper.Proofs.Record.Intact
import RecordMapper.Proofs.Record.Confined
import RecordMapper.Proofs.Schema.Registration
import RecordMapper.Proofs.Context
import RecordMapper.Proofs.Connection.Login
