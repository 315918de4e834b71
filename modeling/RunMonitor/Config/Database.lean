import RunMonitor.Config.Fault
import RunMonitor.Json.Fields

namespace RunMonitor

inductive DatabaseType where
  | sqlite
  | postgres
  deriving DecidableEq

structure DatabaseConfig where
  type : DatabaseType := .sqlite
  sqlitePath : Option String := some "data/cronwatch.db"
  connectionString : Option String := none
  maxConnections : Nat := 5
  deriving DecidableEq

namespace DatabaseType

def name : DatabaseType → String
  | .sqlite => "sqlite"
  | .postgres => "postgres"

def ofName? (name : String) : Option DatabaseType :=
  if name = "sqlite" then some .sqlite
  else if name = "postgres" then some .postgres
  else none

def ofJson? (json : Json) : Option DatabaseType := do
  ofName? (← json.tag?)

end DatabaseType

namespace DatabaseConfig

def validate (config : DatabaseConfig) : Except ConfigFault Unit :=
  if config.maxConnections = 0 then .error .noConnections
  else
    match config.type with
    | .sqlite => if config.sqlitePath.isNone then .error .noSqlitePath else .ok ()
    | .postgres => if config.connectionString.isNone then .error .noConnectionString else .ok ()

end DatabaseConfig
end RunMonitor
