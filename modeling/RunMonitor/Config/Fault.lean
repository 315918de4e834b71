import RunMonitor.Error

namespace RunMonitor

inductive ConfigFault where
  | unknownDatabaseType (name : String)
  | notANumber (setting raw : String)
  | zero (setting : String)
  | noConnections
  | noSqlitePath
  | noConnectionString
  deriving DecidableEq

namespace ConfigFault

def message : ConfigFault → String
  | .unknownDatabaseType name => "Unknown DATABASE_TYPE '" ++ name ++ "'"
  | .notANumber setting raw => setting ++ " must be a number, got '" ++ raw ++ "'"
  | .zero setting => setting ++ " must be greater than zero"
  | .noConnections => "max_connections must be greater than zero"
  | .noSqlitePath => "SQLite path is required for SQLite database type"
  | .noConnectionString => "Connection string is required for PostgreSQL database type"

def toError (fault : ConfigFault) : Error := .config fault.message

end ConfigFault
end RunMonitor
