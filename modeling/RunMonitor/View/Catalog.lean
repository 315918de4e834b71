import RunMonitor.View.Site

namespace RunMonitor

structure Catalog where
  cronJobs : List CronJob := []
  jobs : List Job := []
  pods : List Pod := []
  failing : List String := []
  calls : List String := []

namespace Catalog

def objects (catalog : Catalog) : (kind : Kind) → List kind.Object
  | .cronJob => catalog.cronJobs
  | .job => catalog.jobs
  | .pod => catalog.pods

def find? (catalog : Catalog) (kind : Kind) (ns name : String) : Option kind.Object :=
  (catalog.objects kind).find? fun object =>
    let metadata := Resource.metadata object
    metadata.ns = some ns ∧ metadata.name = some name

def getName : Kind → String
  | .cronJob => "get_cron_job"
  | .job => "get_job"
  | .pod => "get_pod"

def listName : String := "list_jobs"

def callNames : List String := Kind.all.map getName ++ [listName]

def call {α : Type} (name : String) (result : α) (catalog : Catalog) :
    Except Error α × Catalog :=
  let kept := { catalog with calls := catalog.calls ++ [name] }
  if name ∈ catalog.failing then (.error (.cluster ("injected " ++ name)), kept)
  else (.ok result, kept)

instance : Cluster Catalog where
  object? kind ns name catalog := catalog.call (getName kind) (catalog.find? kind ns name)
  jobs catalog := catalog.call listName catalog.jobs

end Catalog
end RunMonitor
