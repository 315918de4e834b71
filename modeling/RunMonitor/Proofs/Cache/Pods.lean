import RunMonitor.Proofs.Cache.Key
import RunMonitor.Proofs.Cache.Selection
import RunMonitor.Proofs.Cluster.Live

namespace RunMonitor

namespace Pod

@[simp] theorem isStarted_truncate (pod : Pod) :
    (Truncated.truncate pod).isStarted = pod.isStarted := by
  cases pod with
  | mk metadata status =>
      cases status with
      | none => rfl
      | some status => exact Option.isSome_map

/-- The pod is in the job's namespace, and both its first owner of kind job, or else its label, and
some owner of it have the job's name. -/
structure BelongsTo (pod : Pod) (job : Job) : Prop where
  ns : pod.metadata.nsOrEmpty = job.metadata.nsOrEmpty
  jobOwner : pod.jobOwner? = some job.metadata.displayName
  owner : pod.IsOwnedBy job.metadata.displayName

theorem collectionKey?_eq_podsOf {pod : Pod} {job : Job}
    (hpod : '/' ∉ pod.metadata.nsOrEmpty.toList)
    (hjob : '/' ∉ job.metadata.nsOrEmpty.toList) :
    Collected.collectionKey? pod = some (Key.podsOf job.metadata.nsOrEmpty job.metadata.displayName)
      ↔ pod.metadata.nsOrEmpty = job.metadata.nsOrEmpty ∧
        pod.jobOwner? = some job.metadata.displayName := by
  change pod.jobOwner?.map (Key.podsOf pod.metadata.nsOrEmpty) = _ ↔ _
  rw [Option.map_eq_some_iff]
  constructor
  · intro given
    obtain ⟨name, howner, hkey⟩ := given
    obtain ⟨hns, rfl⟩ := (Key.podsOf_inj hpod hjob).mp hkey
    exact ⟨hns, howner⟩
  · intro given
    obtain ⟨hns, howner⟩ := given
    exact ⟨_, howner, by rw [hns]⟩

theorem identity_eq_of_displayName {a b : Pod} (ha : a.metadata.name ≠ none)
    (ha' : a.metadata.ns ≠ none) (hb : b.metadata.name ≠ none) (hb' : b.metadata.ns ≠ none)
    (hname : a.metadata.displayName = b.metadata.displayName)
    (hns : a.metadata.nsOrEmpty = b.metadata.nsOrEmpty) :
    Resource.identity a = Resource.identity b := by
  obtain ⟨name, hname_a⟩ := Option.ne_none_iff_exists'.mp ha
  obtain ⟨ns, hns_a⟩ := Option.ne_none_iff_exists'.mp ha'
  obtain ⟨name', hname_b⟩ := Option.ne_none_iff_exists'.mp hb
  obtain ⟨ns', hns_b⟩ := Option.ne_none_iff_exists'.mp hb'
  simp only [Metadata.displayName, Metadata.nsOrEmpty, hname_a, hname_b, hns_a, hns_b,
    Option.some_or, Option.getD_some] at hname hns
  change (a.metadata.name, a.metadata.ns) = (b.metadata.name, b.metadata.ns)
  rw [hname_a, hname_b, hns_a, hns_b, hname, hns]

end Pod
end RunMonitor
