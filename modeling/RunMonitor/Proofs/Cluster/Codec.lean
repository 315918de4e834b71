import RunMonitor.Cache.Collection
import RunMonitor.Proofs.Cluster.Truncation
import RunMonitor.Proofs.Json.Fields
import RunMonitor.Proofs.Json.RoundTrip

namespace RunMonitor

open Json

namespace Resource

variable {K : Type} [Resource K] [Truncated K]

/-- The object can be written, and is read back but for the fractions of its times. -/
def Storable (object : K) : Prop :=
  (toJson object).isPlain = true ∧ ofJson? (toJson object) = some (Truncated.truncate object)

instance [DecidableEq K] (object : K) : Decidable (Storable object) :=
  inferInstanceAs (Decidable (_ ∧ _))

theorem Storable.truncate {object : K} (h : Storable object) :
    Storable (Truncated.truncate object) := by
  unfold Storable
  rw [Truncated.toJson_truncate, Truncated.truncate_truncate]
  exact h

theorem decodeAll?_encodeAll {objects : List K} (h : ∀ object ∈ objects, Storable object) :
    decodeAll? (encodeAll objects) = some (objects.map Truncated.truncate) := by
  have hplain : (ofList toJson objects).isPlain = true :=
    arePlain_map fun object member => (h object member).1
  rw [decodeAll?, encodeAll, parse?_bytes hplain]
  exact mapM_map fun object member => (h object member).2

end Resource

theorem Collection.decodeOrEmpty_encodeAll {K : Type} [Resource K] [Truncated K]
    {objects : List K} (h : ∀ object ∈ objects, Resource.Storable object) :
    decodeOrEmpty (some (Resource.encodeAll objects)) = objects.map Truncated.truncate := by
  rw [decodeOrEmpty, Option.bind_some, Resource.decodeAll?_encodeAll h, Option.getD_some]

end RunMonitor
