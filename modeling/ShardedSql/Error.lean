import ShardedSql.Number.Integer
import ShardedSql.Statement.Expression
import ShardedSql.Statement.Operator
import ShardedSql.Statement.Table
import ShardedSql.Token.Basic

/-!
# Failures

Every failure is a cause with what its message tells about it.  A cause belongs to one kind, and the
message opens with the words for that kind.
-/

namespace ShardedSql

/-- The kinds of failures. -/
inductive ErrorKind where
  | parsing
  | unsupportedSql
  | rule
  | routing
  | unsupportedOperation
  | execution
  | configuration
  | internal
  deriving DecidableEq

/-- The causes of failures. -/
inductive Error where
  /-- A piece of the statement belongs to no class of tokens. -/
  | unrecognizedInput (literals : String) (position : Nat)
  /-- Another token stands where `expected` is needed. -/
  | unexpectedToken (expected : String) (actual : TokenKind) (literals : String)
  /-- A row limit is not an integer of 64 bits. -/
  | invalidLimit (literals : String) (fault : IntegerFault)
  /-- A row limit is below zero. -/
  | negativeLimit
  /-- The parameter of a row limit is missing or no number. -/
  | unboundLimit (index : Nat)
  /-- A row to insert does not match the column list. -/
  | valueCount (columns values : Nat)
  /-- A token is not supported where it stands. -/
  | unsupportedToken (literals : String)
  /-- A text is no statement of a known kind. -/
  | unsupportedStatement (sql : String)
  /-- A subquery stands in a condition or in place of a table. -/
  | subquery
  /-- A statement that changes data names several tables. -/
  | multipleTables
  /-- An INSERT has several rows. -/
  | multipleRows
  /-- An INSERT takes its rows from a query. -/
  | insertSelect
  /-- A SELECT has a HAVING clause. -/
  | having
  /-- Two queries are combined. -/
  | setOperator (word : String)
  /-- A data node is not a data source and a table with a point between them. -/
  | invalidDataNode (node : String)
  /-- A dynamic table needs a positive modulus. -/
  | dynamicModulus
  /-- A logic table has no name. -/
  | emptyLogicTable
  /-- A dynamic table lists actual tables. -/
  | dynamicWithTables (table : String)
  /-- A dynamic table has no data source. -/
  | dynamicWithoutSources (table : String)
  /-- A table has neither actual tables nor data sources. -/
  | tableWithoutNodes (table : String)
  /-- An actual table is on no data source. -/
  | tableWithoutSource (actualTable table : String)
  /-- A rule declares no data source. -/
  | noDataSources
  /-- The default data source is not declared. -/
  | undeclaredDefault (dataSource : String)
  /-- A table lies on a data source that is not declared. -/
  | undeclaredSource (table dataSource : String)
  /-- A logic table has two rules. -/
  | repeatedTable (table : String)
  /-- A binding group names a table without a rule. -/
  | unboundTable (table : String)
  /-- A key is asked for a table without a rule. -/
  | noKeyGenerator (table : String)
  /-- A placeholder has no bound parameter. -/
  | parameterOutOfRange (index count : Nat)
  /-- An expression has no value. -/
  | noShardingValue (expression : Expression)
  /-- A condition has a number of values that its operator does not take. -/
  | conditionArity (operator : ConditionOperator) (column : Column) (count : Nat)
  /-- An INSERT gives no value to choose among several targets by. -/
  | insertWithoutValue
  /-- A dynamic table is asked for without a value. -/
  | dynamicWithoutValue
  /-- There is nothing to choose from. -/
  | noTargets
  /-- No target ends with the remainder of a value. -/
  | noMatchingTarget (targets : List String) (suffix : String) (value : Value)
  /-- A table has neither a rule nor a default data source. -/
  | unknownTable (table : String)
  /-- None of several tables has a rule. -/
  | unknownTables (tables : List String)
  /-- An actual table belongs to no member of a binding group. -/
  | unknownActualTable (dataSource actualTable : String)
  /-- A binding group has no partner for an actual table. -/
  | noBindingPartner (dataSource table otherActualTable : String)
  /-- A statement without tables has no default data source to run on. -/
  | noDefaultSource
  /-- The hint holds no value for the data source. -/
  | noHintedValue
  /-- A strategy chose no data source. -/
  | noDataSourceRoute
  /-- A strategy chose no table. -/
  | noTableRoute
  /-- The placeholder of a generated key lies beyond the parameters. -/
  | keyOutOfRange (index count : Nat)
  /-- A range of values has bounds that are no integers. -/
  | rangeBounds (lower upper : Value)
  /-- A value to take a remainder of is no integer. -/
  | notAnInteger (value : Value)
  /-- An algorithm for one value gets several or none. -/
  | algorithmArity (arity : String) (count : Nat)
  /-- A dynamic table belongs to a binding group. -/
  | dynamicBinding
  /-- A hint has a number of values that its operator does not take. -/
  | hintArity (operator : ConditionOperator) (count : Nat)
  /-- A remainder leaves the range of 64 bits. -/
  | remainderOverflow
  /-- A modulus is zero. -/
  | zeroModulus
  /-- An algorithm for one column gets another number of columns. -/
  | strategyColumns (columns : List String)
  /-- A worker number is out of range. -/
  | workerNumber (limit worker : Int)
  /-- No dialect has the name. -/
  | unknownDialect (name : String)
  /-- An executor has no worker. -/
  | noWorkers
  /-- The settings ask for no worker. -/
  | noConfiguredWorkers
  /-- A setting is not a number. -/
  | settingNotNumber (setting value : String)
  /-- The clock runs backwards. -/
  | clockBackwards (last current : Int)
  /-- A closed executor is asked to work. -/
  | executorClosed
  /-- Units are still running when the executor has to stop. -/
  | executorBusy
  /-- A unit failed on its data source. -/
  | unitFailed (dataSource message : String)

namespace Error

/-- The kind of a cause. -/
def kind : Error → ErrorKind
  | .unrecognizedInput .. => .parsing
  | .unexpectedToken .. => .parsing
  | .invalidLimit .. => .parsing
  | .negativeLimit => .parsing
  | .unboundLimit _ => .parsing
  | .valueCount .. => .parsing
  | .unsupportedToken _ => .unsupportedSql
  | .unsupportedStatement _ => .unsupportedSql
  | .subquery => .unsupportedSql
  | .multipleTables => .unsupportedSql
  | .multipleRows => .unsupportedSql
  | .insertSelect => .unsupportedSql
  | .having => .unsupportedSql
  | .setOperator _ => .unsupportedSql
  | .invalidDataNode _ => .rule
  | .dynamicModulus => .rule
  | .emptyLogicTable => .rule
  | .dynamicWithTables _ => .rule
  | .dynamicWithoutSources _ => .rule
  | .tableWithoutNodes _ => .rule
  | .tableWithoutSource .. => .rule
  | .noDataSources => .rule
  | .undeclaredDefault _ => .rule
  | .undeclaredSource .. => .rule
  | .repeatedTable _ => .rule
  | .unboundTable _ => .rule
  | .noKeyGenerator _ => .rule
  | .parameterOutOfRange .. => .routing
  | .noShardingValue _ => .routing
  | .conditionArity .. => .routing
  | .insertWithoutValue => .routing
  | .dynamicWithoutValue => .routing
  | .noTargets => .routing
  | .noMatchingTarget .. => .routing
  | .unknownTable _ => .routing
  | .unknownTables _ => .routing
  | .unknownActualTable .. => .routing
  | .noBindingPartner .. => .routing
  | .noDefaultSource => .routing
  | .noHintedValue => .routing
  | .noDataSourceRoute => .routing
  | .noTableRoute => .routing
  | .keyOutOfRange .. => .routing
  | .rangeBounds .. => .unsupportedOperation
  | .notAnInteger _ => .unsupportedOperation
  | .algorithmArity .. => .unsupportedOperation
  | .dynamicBinding => .unsupportedOperation
  | .hintArity .. => .unsupportedOperation
  | .remainderOverflow => .internal
  | .zeroModulus => .configuration
  | .strategyColumns _ => .configuration
  | .workerNumber .. => .configuration
  | .unknownDialect _ => .configuration
  | .noWorkers => .configuration
  | .noConfiguredWorkers => .configuration
  | .settingNotNumber .. => .configuration
  | .clockBackwards .. => .internal
  | .executorClosed => .internal
  | .executorBusy => .internal
  | .unitFailed .. => .execution

/-- What a message says about a cause after the words for its kind. -/
def detail : Error → String
  | .unrecognizedInput literals position =>
      "SQL syntax error, unrecognized input '" ++ literals ++ "' at position " ++ toString position
  | .unexpectedToken expected actual literals =>
      "SQL syntax error, expected token is " ++ expected ++ ", actual token is " ++
        actual.display ++ ", literals is '" ++ literals ++ "'"
  | .invalidLimit literals fault => "Invalid LIMIT value '" ++ literals ++ "': " ++ fault.message
  | .negativeLimit => "LIMIT offset and row count can not be a negative value."
  | .unboundLimit index =>
      "LIMIT parameter at index " ++ toString index ++ " is missing or not a number"
  | .valueCount columns values =>
      "Column count " ++ toString columns ++ " does not match value count " ++ toString values
  | .unsupportedToken literals => "Not supported token '" ++ literals ++ "'"
  | .unsupportedStatement sql => "Unsupported SQL statement: [" ++ sql ++ "]"
  | .subquery => "Cannot support subquery"
  | .multipleTables => "Cannot support Multiple-Table."
  | .multipleRows => "Cannot support multiple-row INSERT"
  | .insertSelect => "Cannot support INSERT ... SELECT"
  | .having => "Cannot support HAVING"
  | .setOperator word => "Cannot support " ++ word
  | .invalidDataNode node => "Invalid format for actual data nodes: '" ++ node ++ "'"
  | .dynamicModulus => "Dynamic modulo needs a positive modulus"
  | .emptyLogicTable => "Logic table name can not be empty"
  | .dynamicWithTables table => "Dynamic table '" ++ table ++ "' can not declare actual tables"
  | .dynamicWithoutSources table =>
      "Dynamic table '" ++ table ++ "' needs at least one data source"
  | .tableWithoutNodes table => "Table '" ++ table ++ "' needs actual tables or data sources"
  | .tableWithoutSource actualTable table =>
      "Actual table '" ++ actualTable ++ "' of '" ++ table ++ "' has no data source"
  | .noDataSources => "Sharding rule needs at least one data source"
  | .undeclaredDefault dataSource => "Default data source '" ++ dataSource ++ "' is not declared"
  | .undeclaredSource table dataSource =>
      "Table '" ++ table ++ "' refers to undeclared data source '" ++ dataSource ++ "'"
  | .repeatedTable table => "Logic table '" ++ table ++ "' is declared more than once"
  | .unboundTable table => "Binding table '" ++ table ++ "' has no table rule"
  | .noKeyGenerator table =>
      "Cannot find strategy for generate keys of table '" ++ table ++ "'."
  | .parameterOutOfRange index count =>
      "Parameter index " ++ toString index ++ " out of range, " ++ toString count ++
        " parameters bound"
  | .noShardingValue expression =>
      "Expression " ++ expression.display ++ " does not carry a sharding value"
  | .conditionArity operator column count =>
      "Condition " ++ operator.text ++ " on " ++ column.table ++ "." ++ column.name ++ " has " ++
        toString count ++ " values"
  | .insertWithoutValue => "INSERT statement should contain sharding value."
  | .dynamicWithoutValue => "Dynamic table should contain sharding value."
  | .noTargets => "No available targets to shard to"
  | .noMatchingTarget targets suffix value =>
      "No target in " ++ Text.quotedList targets ++ " ends with '" ++ suffix ++ "' for value " ++
        value.display
  | .unknownTable table =>
      "Cannot find table rule and default data source with logic table: '" ++ table ++ "'"
  | .unknownTables tables =>
      "Cannot find table rule and default data source with logic tables: '" ++
        Text.quotedList tables ++ "'"
  | .unknownActualTable dataSource actualTable =>
      "Actual table [" ++ dataSource ++ "].[" ++ actualTable ++ "] is not in table config"
  | .noBindingPartner dataSource table otherActualTable =>
      "Cannot find binding actual table, data source: " ++ dataSource ++ ", logic table: " ++
        table ++ ", other actual table: " ++ otherActualTable
  | .noDefaultSource => "Cannot route a statement without tables: no default data source"
  | .noHintedValue => "No database sharding value in hint"
  | .noDataSourceRoute => "no database route info"
  | .noTableRoute => "no table route info"
  | .keyOutOfRange index count =>
      "Generated key placeholder " ++ toString index ++ " is out of range for " ++
        toString count ++ " parameters"
  | .rangeBounds lower upper =>
      "BETWEEN sharding needs integer bounds, got " ++ lower.display ++ " and " ++ upper.display
  | .notAnInteger value => "Modulo sharding needs an integer value, got " ++ value.display
  | .algorithmArity arity count =>
      "A " ++ arity ++ " sharding algorithm needs exactly one sharding value, got " ++
        toString count
  | .dynamicBinding => "Dynamic table cannot support Binding table."
  | .hintArity operator count =>
      "Hint operator " ++ operator.text ++ " can not take " ++ toString count ++ " values"
  | .remainderOverflow => "Remainder of a sharding value overflows"
  | .zeroModulus => "Modulo algorithm needs a positive modulus"
  | .strategyColumns columns =>
      "Single key algorithm needs exactly one sharding column, got " ++ Text.quotedList columns
  | .workerNumber limit worker =>
      "Key generator worker id must be in [0, " ++ toString limit ++ "), got " ++ toString worker
  | .unknownDialect name => "Unsupported database type: " ++ name
  | .noWorkers => "Executor size must be greater than 0"
  | .noConfiguredWorkers => "executor.size must be greater than 0"
  | .settingNotNumber setting value => setting ++ " is not a number: " ++ value
  | .clockBackwards last current =>
      "Clock moved backwards, last time is " ++ toString last ++
        " milliseconds, current time is " ++ toString current ++ " milliseconds"
  | .executorClosed => "ExecutorEngine is closed"
  | .executorBusy => "ExecutorEngine can not be terminated"
  | .unitFailed _ message => message

/-- The words a message opens with. -/
def heading (error : Error) : String :=
  match error.kind with
  | .parsing => "SQL parsing error: "
  | .unsupportedSql => "Unsupported SQL: "
  | .rule => "Sharding rule error: "
  | .routing => "Routing error: "
  | .unsupportedOperation => "Unsupported operation: "
  | .execution =>
      match error with
      | .unitFailed dataSource _ => "Execution error on data source " ++ dataSource ++ ": "
      | _ => ""
  | .configuration => "Configuration error: "
  | .internal => "Internal error: "

/-- The message of a failure. -/
def message (error : Error) : String :=
  error.heading ++ error.detail

end Error

end ShardedSql
