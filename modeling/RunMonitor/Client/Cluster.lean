import RunMonitor.Client.Basic
import RunMonitor.View.Site

namespace RunMonitor

instance {τ : Type} [Transport τ] : Cluster (Client τ) where
  object? kind ns name client :=
    match Client.get kind.Object ns name client with
    | .ok object client => (.ok object, client)
    | .error error client => (.error error, client)
  jobs client :=
    match Client.list Job client with
    | .ok listing client => (.ok listing.items, client)
    | .error error client => (.error error, client)

end RunMonitor
