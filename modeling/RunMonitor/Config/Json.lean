import RunMonitor.Config.Basic

namespace RunMonitor

/-! Each part of a configuration is an object, or the list of its values in their fixed order. -/

open Json

namespace DatabaseConfig

def ofJson? (json : Json) : Option DatabaseConfig := do
  let fields ← json.record? ["type", "sqlite_path", "connection_string", "max_connections"]
  return {
    type := ← required? fields "type" DatabaseType.ofJson?
    sqlitePath := ← optional? fields "sqlite_path" str?
    connectionString := ← optional? fields "connection_string" str?
    maxConnections := ← required? fields "max_connections" nat32? }

def toJson (config : DatabaseConfig) : Json :=
  present [
    ("type", some (.str config.type.name)),
    ("sqlite_path", config.sqlitePath.map .str),
    ("connection_string", config.connectionString.map .str),
    ("max_connections", some (.int config.maxConnections))]

end DatabaseConfig

namespace CacheConfig

def ofJson? (json : Json) : Option CacheConfig := do
  let fields ← json.record?
    ["ttl_seconds", "refresh_interval_seconds", "purge_interval_seconds"]
  return {
    ttlSeconds := ← required? fields "ttl_seconds" nat64?
    refreshIntervalSeconds := ← required? fields "refresh_interval_seconds" nat64?
    purgeIntervalSeconds := ← required? fields "purge_interval_seconds" nat64? }

def toJson (config : CacheConfig) : Json :=
  .obj [
    ("ttl_seconds", .int config.ttlSeconds),
    ("refresh_interval_seconds", .int config.refreshIntervalSeconds),
    ("purge_interval_seconds", .int config.purgeIntervalSeconds)]

end CacheConfig

namespace Config

def ofJson? (json : Json) : Option Config := do
  let fields ← json.record? ["server", "database", "kube", "cache"]
  return {
    address := ← required? fields "server" fun server => do
      required? (← server.record? ["addr"]) "addr" str?
    database := ← required? fields "database" DatabaseConfig.ofJson?
    watchedNs := ← required? fields "kube" fun kube => do
      optional? (← kube.record? ["namespace"]) "namespace" str?
    cache := ← required? fields "cache" CacheConfig.ofJson? }

def toJson (config : Config) : Json :=
  .obj [
    ("server", .obj [("addr", .str config.address)]),
    ("database", config.database.toJson),
    ("kube", .obj [("namespace", ofOption .str config.watchedNs)]),
    ("cache", config.cache.toJson)]

end Config
end RunMonitor
