import VSQLite.Lib.Calls
import VSQLite.Lib.Census
import VSQLite.Lib.Duration
import VSQLite.Lib.FixedWidth
import VSQLite.Lib.Quoting
import VSQLite.Lib.Recency
import VSQLite.Lib.Run
import VSQLite.Lib.Usage
import VSQLite.Lib.Linearizable
import VSQLite.Lib.Keepers
import VSQLite.Lib.Writes
import VSQLite.Lib.Custody
import VSQLite.Sqlite.Ledger
import VSQLite.Sqlite.Lexer
import VSQLite.Sqlite.Statement
import VSQLite.Sqlite.Transactions
import VSQLite.Sqlite.Uri
import VSQLite.Sqlite.Natives
import VSQLite.Command.Enumeration
import VSQLite.Command.Invocation
import VSQLite.Command.Isolation
import VSQLite.Command.Keyword
import VSQLite.Command.Model
import VSQLite.Command.Steps
import VSQLite.Command.Variadic
import VSQLite.Command.Arguments
import VSQLite.Command.SchemaKeyword
import VSQLite.StatementCache.Checked
import VSQLite.StatementCache.Model
import VSQLite.StatementCache.Ownership
import VSQLite.StatementCache.Calls
import VSQLite.StatementCache.LeastRecent
import VSQLite.StatementCache.Reconfigured
import VSQLite.StatementCache.Representation
import VSQLite.Connection.CacheContents
import VSQLite.Connection.Execution
import VSQLite.Connection.Identifiers
import VSQLite.Connection.Log
import VSQLite.Connection.Model
import VSQLite.Connection.Ownership
import VSQLite.Connection.Program
import VSQLite.Connection.Reuse
import VSQLite.Connection.Capacity
import VSQLite.Connection.SchemaChange
import VSQLite.Connection.Sources
import VSQLite.Connection.Transparency
import VSQLite.Cursor.Changes
import VSQLite.Cursor.Columns
import VSQLite.Cursor.Lifetime
import VSQLite.Cursor.Model
import VSQLite.Cursor.PostIncrement
import VSQLite.Cursor.Range
import VSQLite.Cursor.Reset
import VSQLite.Cursor.Rights
import VSQLite.Cursor.Stepping
import VSQLite.Values.Bind
import VSQLite.Values.Get
import VSQLite.Values.RoundTrip
import VSQLite.Values.Types
import VSQLite.Values.Lengths
import VSQLite.Values.Integers
import VSQLite.Values.Time
import VSQLite.Values.Tuple
import VSQLite.Function.Identity
import VSQLite.Function.Model
import VSQLite.Function.Registration
import VSQLite.Function.Dispatch
import VSQLite.Function.Call
import VSQLite.Function.Entry
import VSQLite.Transaction.Destructors
import VSQLite.Transaction.Model
import VSQLite.Transaction.Names
import VSQLite.Transaction.Nesting
import VSQLite.Transaction.Ownership
import VSQLite.Transaction.Promises
import VSQLite.Transaction.Savepoints
import VSQLite.Transaction.Scope
import VSQLite.Transaction.Steps
import VSQLite.Transaction.Blocks
import VSQLite.Open.Adapter
import VSQLite.Open.FileSystem
import VSQLite.Open.Model
import VSQLite.Open.Names
import VSQLite.Open.Progress
import VSQLite.Open.Safety
import VSQLite.Open.Validation
import VSQLite.Pool.Database
import VSQLite.Pool.Exclusivity
import VSQLite.Pool.Growth
import VSQLite.Pool.Model
import VSQLite.Pool.Ownership
import VSQLite.Pool.Slots
import VSQLite.Pool.Wakeup
import VSQLite.Pool.Draining
import VSQLite.Json.Expression
import VSQLite.Json.Path
import VSQLite.Json.RoundTrip
import VSQLite.Json.Rank
import VSQLite.Json.Helpers
import VSQLite.Backup.Handle
import VSQLite.Serialization.Images
import VSQLite.Snapshot.JournalMode
import VSQLite.Snapshot.WalFallback
import VSQLite.Movable.Snapshot
import VSQLite.Movable.Session
import VSQLite.Movable.Program
import VSQLite.Threading.Model
import VSQLite.Threading.Settled
import VSQLite.Threading.Reported
