import ListQuery.Number.Integer

/-!
# Settings of the database

* `Settings` : where the database is and how it is used.
* `Settings.ofEnvironment` : the settings that environment variables give.
-/

namespace ListQuery

/-- Where the database is and how it is used. -/
structure Settings where
  /-- Its address. -/
  databaseUrl : String
  /-- The greatest number of connections. -/
  maxConnections : Nat
  /-- The limit on the time of a statement, in milliseconds. -/
  statementTimeout : Nat
deriving DecidableEq, Repr

/-- What is wrong with the settings. -/
inductive SettingsFault where
  /-- There is no address. -/
  | missingUrl
  /-- The number of connections is none. -/
  | maxConnections (cause : IntegerError)
  /-- The limit of time is none. -/
  | statementTimeout (cause : IntegerError)
deriving DecidableEq, Repr

namespace SettingsFault

/-- The wording of a fault. -/
def message : SettingsFault → String
  | missingUrl => "DATABASE_URL environment variable is required"
  | maxConnections _ => "DATABASE_MAX_CONNECTIONS must be a valid u32"
  | statementTimeout _ => "QUERY_STATEMENT_TIMEOUT_MS must be a valid u64"

/-- The wording of what lies behind a fault. -/
def cause : SettingsFault → String
  | missingUrl => "environment variable not found"
  | maxConnections e => e.message
  | statementTimeout e => e.message

end SettingsFault

namespace Settings

/-- The greatest number of connections that can be set. -/
def greatestConnections : Nat := 4294967295

/-- The greatest limit of time that can be set, in milliseconds. -/
def greatestTimeout : Nat := 18446744073709551615

/-- The variable with the address. -/
def urlVariable : String := "DATABASE_URL"

/-- The variable with the greatest number of connections. -/
def connectionsVariable : String := "DATABASE_MAX_CONNECTIONS"

/-- The variable with the limit of time. -/
def timeoutVariable : String := "QUERY_STATEMENT_TIMEOUT_MS"

/-- The variables that settings are made from. -/
def variableNames : List String :=
  [urlVariable, connectionsVariable, timeoutVariable]

/-- The settings that environment variables give. -/
def ofEnvironment (environment : String → Option String) : Except SettingsFault Settings := do
  let url ← (environment urlVariable).elim (.error .missingUrl) .ok
  let connections := (environment connectionsVariable).getD "10"
  let timeout := (environment timeoutVariable).getD "10000"
  return {
    databaseUrl := url
    maxConnections :=
      ← (Natural.read greatestConnections connections.toList).mapError .maxConnections
    statementTimeout := ← (Natural.read greatestTimeout timeout.toList).mapError .statementTimeout }

end Settings

end ListQuery
