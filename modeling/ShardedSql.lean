import ShardedSql.Execution.Engine
import ShardedSql.Json.Reader
import ShardedSql.Json.Writer
import ShardedSql.Main
import ShardedSql.Proofs.Execution.Conclusion
import ShardedSql.Proofs.Parser.Balance
import ShardedSql.Proofs.Parser.Branches
import ShardedSql.Proofs.Parser.Disjunction
import ShardedSql.Proofs.Parser.Recording
import ShardedSql.Proofs.Parser.Stating
import ShardedSql.Proofs.Parser.Target
import ShardedSql.Proofs.Rendering.Identification
import ShardedSql.Proofs.Rendering.Paging
import ShardedSql.Proofs.Rendering.Renaming
import ShardedSql.Proofs.Routing.CrossProduct
import ShardedSql.Proofs.Routing.Distinctness
import ShardedSql.Proofs.Routing.Fanout
import ShardedSql.Proofs.Routing.Grouping
import ShardedSql.Proofs.Routing.Insertion
import ShardedSql.Proofs.Routing.KeyedInsert
import ShardedSql.Proofs.Routing.Labelling
import ShardedSql.Proofs.Routing.LetterCase
import ShardedSql.Proofs.Routing.Merging
import ShardedSql.Proofs.Routing.Partners
import ShardedSql.Proofs.Routing.ShardingColumns
import ShardedSql.Proofs.Statement.GroupOrder
import ShardedSql.Proofs.Statement.Leading
import ShardedSql.Proofs.Statement.QueryEnd
import ShardedSql.Proofs.Statement.WellFormed
import ShardedSql.Proofs.Statement.Window
import ShardedSql.Proofs.Strategy.CanonicalSet
import ShardedSql.Proofs.Strategy.Coverage
import ShardedSql.Proofs.Strategy.Numbering
import ShardedSql.Proofs.Token.Interspace
import ShardedSql.Proofs.Token.Lookahead
import ShardedSql.Proofs.Token.Stream
import ShardedSql.Routing.Record
import ShardedSql.Rule.Config
import ShardedSql.Rule.Record
import ShardedSql.Settings
import ShardedSql.Token.Lexer
