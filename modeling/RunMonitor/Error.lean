namespace RunMonitor

inductive Error where
  | cluster (detail : String)
  | config (detail : String)
  | io (detail : String)
  | migration (detail : String)
  | database (detail : String)
  | json (detail : String)
  | yaml (detail : String)
  | metrics (detail : String)
  | internal (detail : String)
  | notFound (what : String)
  | subscriberGone
  deriving DecidableEq, Inhabited

def Error.message : Error → String
  | .cluster detail => "Kubernetes error: " ++ detail
  | .config detail => "Configuration error: " ++ detail
  | .io detail => "IO error: " ++ detail
  | .migration detail => "Database migration error: " ++ detail
  | .database detail => "SQLx error: " ++ detail
  | .json detail => "JSON error: " ++ detail
  | .yaml detail => "YAML error: " ++ detail
  | .metrics detail => "Metrics error: " ++ detail
  | .internal detail => "Internal error: " ++ detail
  | .notFound what => "Not found: " ++ what
  | .subscriberGone => "Subscriber disconnected"

end RunMonitor
