import RunMonitor.Config.Database
import RunMonitor.Text.Blank
import RunMonitor.Text.Lowercase
import RunMonitor.Text.Numeral

namespace RunMonitor

structure CacheConfig where
  ttlSeconds : Nat := 15
  refreshIntervalSeconds : Nat := 10
  purgeIntervalSeconds : Nat := 60
  deriving DecidableEq

structure Config where
  address : String := "0.0.0.0:8585"
  database : DatabaseConfig := {}
  watchedNs : Option String := none
  cache : CacheConfig := {}
  deriving DecidableEq

namespace CacheConfig

def ttlVariable : String := "CACHE_TTL_SECONDS"

def refreshVariable : String := "REFRESH_INTERVAL_SECONDS"

def purgeVariable : String := "CACHE_PURGE_INTERVAL_SECONDS"

def ttlMillis (config : CacheConfig) : Nat := config.ttlSeconds * 1000

def refreshMillis (config : CacheConfig) : Nat := config.refreshIntervalSeconds * 1000

def purgeMillis (config : CacheConfig) : Nat := config.purgeIntervalSeconds * 1000

def validate (config : CacheConfig) : Except ConfigFault Unit :=
  if config.ttlSeconds = 0 then .error (.zero ttlVariable)
  else if config.refreshIntervalSeconds = 0 then .error (.zero refreshVariable)
  else if config.purgeIntervalSeconds = 0 then .error (.zero purgeVariable)
  else .ok ()

end CacheConfig

namespace Config

def validate (config : Config) : Except ConfigFault Unit := do
  config.database.validate
  config.cache.validate

def number (lookup : String → Option String) (read? : String → Option Nat) (setting : String)
    (default : Nat) : Except ConfigFault Nat :=
  match lookup setting with
  | none => .ok default
  | some raw =>
      match read? (Text.trim raw) with
      | some value => .ok value
      | none => .error (.notANumber setting raw)

def databaseType (name : String) : Except ConfigFault DatabaseType :=
  let name := Text.lowercase name
  if name = "postgresql" then .ok .postgres
  else
    match DatabaseType.ofName? name with
    | some type => .ok type
    | none => .error (.unknownDatabaseType name)

/-- Variables that are not set have defaults; a blank namespace is none. -/
def ofVariables (lookup : String → Option String) : Except ConfigFault Config := do
  let defaults : Config := {}
  let type ← databaseType ((lookup "DATABASE_TYPE").getD "sqlite")
  let maxConnections ← number lookup Text.nat32? "DATABASE_MAX_CONNECTIONS"
    defaults.database.maxConnections
  let ttl ← number lookup Text.nat64? CacheConfig.ttlVariable defaults.cache.ttlSeconds
  let refresh ← number lookup Text.nat64? CacheConfig.refreshVariable
    defaults.cache.refreshIntervalSeconds
  let purge ← number lookup Text.nat64? CacheConfig.purgeVariable
    defaults.cache.purgeIntervalSeconds
  let config : Config := {
    address := (lookup "SERVER_ADDR").getD defaults.address
    database := {
      type := type
      sqlitePath := (lookup "SQLITE_PATH").or defaults.database.sqlitePath
      connectionString := lookup "DATABASE_URL"
      maxConnections := maxConnections }
    watchedNs := (lookup "K8_NAMESPACE").filter fun ns => !Text.isBlankText ns
    cache := ⟨ttl, refresh, purge⟩ }
  config.validate
  return config

end Config
end RunMonitor
