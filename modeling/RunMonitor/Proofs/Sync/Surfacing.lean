import RunMonitor.Proofs.Cache.Pods
import RunMonitor.Proofs.Cluster.RoundTrip
import RunMonitor.Proofs.Sync.History

namespace RunMonitor

/-! A pod is filed by one of its owners or by its label, and looked up by its owners alone. -/

open Resource

namespace Pod

theorem isOwnedBy_truncate {pod : Pod} {jobName : String} :
    (Truncated.truncate pod).IsOwnedBy jobName ↔ pod.IsOwnedBy jobName := Iff.rfl

theorem isOwnedBy_of_jobOwner? {pod : Pod} {jobName : String}
    (hkind : ∃ owner ∈ pod.metadata.owners, owner.kind = "Job")
    (howner : pod.jobOwner? = some jobName) : pod.IsOwnedBy jobName := by
  have hfound : (pod.metadata.owners.find? fun owner => owner.kind = "Job").isSome := by
    simpa using hkind
  obtain ⟨owner, hfirst⟩ := Option.isSome_iff_exists.mp hfound
  rw [jobOwner?, hfirst] at howner
  exact ⟨owner, List.mem_of_find?_eq_some hfirst, Option.some.inj howner⟩

/-- Pods that share the name are stored for the job as well, and one of them can be found. -/
def HasNamesake (pod : Pod) (job : Job) (stored : List Pod) : Prop :=
  ∃ other ∈ stored, identity other ≠ identity pod ∧
    other.metadata.displayName = pod.metadata.displayName ∧ other.isStarted ∧
      other.IsOwnedBy job.metadata.displayName

def IsAmong (pod : Pod) (found : List Pod) : Prop :=
  ∃ other ∈ found, other.metadata.displayName = pod.metadata.displayName

end Pod

namespace Rows

variable {rows : Rows} {t : Int} {job : Job} {pods : List Pod}

theorem isAmong_podsOf (hstorable : ∀ pod ∈ pods, Storable pod)
    (hrows : rows.live t (Key.podsOf job.metadata.nsOrEmpty job.metadata.displayName) =
      some (encodeAll pods)) (pod : Pod) :
    pod.IsAmong (rows.podsOf t job) ↔
      ∃ other ∈ pods, other.metadata.displayName = pod.metadata.displayName ∧ other.isStarted ∧
        other.IsOwnedBy job.metadata.displayName := by
  have hselects :=
    Pod.selects_newestOwned job.metadata.displayName (pods.map Truncated.truncate)
  rw [podsOf, hrows, Collection.decodeOrEmpty_encodeAll hstorable]
  constructor
  · intro given
    obtain ⟨found, hfound, hname⟩ := given
    obtain ⟨hstarted, howner⟩ := hselects.eligible found hfound
    obtain ⟨other, hother, rfl⟩ := List.mem_map.mp (hselects.present found hfound)
    rw [Pod.isStarted_truncate] at hstarted
    exact ⟨other, hother, hname, hstarted, Pod.isOwnedBy_truncate.mp howner⟩
  · intro given
    obtain ⟨other, hother, hname, hstarted, howner⟩ := given
    have hmem := List.mem_map_of_mem (f := Truncated.truncate) hother
    obtain ⟨kept, hkept, hkeptName⟩ := hselects.complete _ hmem
      ((Pod.isStarted_truncate other).trans hstarted) (Pod.isOwnedBy_truncate.mpr howner)
    exact ⟨kept, hkept, hkeptName.trans hname⟩

end Rows

namespace Sync

variable {γ : Type} [Gate γ]

theorem storable_of_mem_applyTo {event : WatchEvent Pod} {bytes : Option ByteArray} {pod : Pod}
    (hread : ∃ json, Resource.ofJson? json = some event.object)
    (member : pod ∈ event.applyTo (Collection.decodeOrEmpty bytes)) : Storable pod := by
  rcases WatchEvent.mem_applyTo.mp member with ⟨hstored, -⟩ | hsurvivor
  · exact Pod.storable_of_mem_decodeOrEmpty hstored
  · obtain ⟨json, hjson⟩ := hread
    exact WatchEvent.identity_of_survivor? hsurvivor ▸ Pod.storable_of_ofJson? hjson

theorem exists_mem_applyTo_iff {event : WatchEvent Pod} {job : Job} {stored : List Pod}
    (hevent : event.survivor? = some event.object) (hstarted : event.object.isStarted) :
    (∃ other ∈ event.applyTo stored,
        other.metadata.displayName = event.object.metadata.displayName ∧ other.isStarted ∧
          other.IsOwnedBy job.metadata.displayName) ↔
      event.object.IsOwnedBy job.metadata.displayName ∨ event.object.HasNamesake job stored := by
  constructor
  · intro given
    obtain ⟨other, hother, hname, hotherStarted, hotherOwner⟩ := given
    rcases WatchEvent.mem_applyTo.mp hother with ⟨hstored, hne⟩ | hsurvivor
    · exact .inr ⟨other, hstored, hne, hname, hotherStarted, hotherOwner⟩
    · exact .inl (WatchEvent.identity_of_survivor? hsurvivor ▸ hotherOwner)
  · intro given
    rcases given with howned | ⟨other, hstored, hne, hname, hotherStarted, hotherOwner⟩
    · exact ⟨_, WatchEvent.mem_applyTo.mpr (.inr hevent), rfl, hstarted, howned⟩
    · exact ⟨other, WatchEvent.mem_applyTo.mpr (.inl ⟨hstored, hne⟩), hname, hotherStarted,
        hotherOwner⟩

structure Surfaces (pod : Pod) (job : Job) (stored found : List Pod) : Prop where
  found_iff : pod.IsAmong found ↔
    pod.IsOwnedBy job.metadata.displayName ∨ pod.HasNamesake job stored
  of_owner : (∃ owner ∈ pod.metadata.owners, owner.kind = "Job") → pod.IsAmong found

/-- A started pod that is filed under the job is found if one of its owners has the job's name. An
owner of kind job has; a label alone does not make a pod turn up. -/
theorem surfaces_of_apply {keeper : Keeper γ} {now : Int} {event : WatchEvent Pod} {pod : Pod}
    {job : Job} (hevent : event.survivor? = some pod)
    (hread : ∃ json, Resource.ofJson? json = some pod) (hstarted : pod.isStarted)
    (hns : pod.metadata.nsOrEmpty = job.metadata.nsOrEmpty)
    (howner : pod.jobOwner? = some job.metadata.displayName)
    (hok : (keeper.perform now (.apply event)).1 = .ok ()) (t : Int) :
    ∃ found, (Collection.podsOf job).run t
        (⟨(keeper.perform now (.apply event)).2.store.rows, ()⟩ : Store Unit) =
          (.ok found, ⟨(keeper.perform now (.apply event)).2.store.rows, ()⟩) ∧
      Surfaces pod job (keeper.store.rows.podCollection now job) found := by
  obtain rfl := WatchEvent.identity_of_survivor? hevent
  have hkey : Collected.collectionKey? event.object =
      some (Key.podsOf job.metadata.nsOrEmpty job.metadata.displayName) := by
    rw [← hns]
    exact congrArg (Option.map _) howner
  have hwritten := Keeper.live_apply_of_filed hkey hok t
  have hstorable : ∀ pod ∈ event.applyTo (keeper.store.rows.podCollection now job),
      Storable pod := fun _ => storable_of_mem_applyTo hread
  have hfound_iff : event.object.IsAmong
        ((keeper.perform now (.apply event)).2.store.rows.podsOf t job) ↔
      event.object.IsOwnedBy job.metadata.displayName ∨
        event.object.HasNamesake job (keeper.store.rows.podCollection now job) := by
    rw [Rows.isAmong_podsOf hstorable hwritten]
    exact exists_mem_applyTo_iff hevent hstarted
  refine ⟨_, Collection.run_podsOf t _ job, hfound_iff, fun hkind => ?_⟩
  exact hfound_iff.mpr (.inl (Pod.isOwnedBy_of_jobOwner? hkind howner))

section Labelled

def nightJob : Job := { metadata := { name := some "run-1", ns := some "default" } }

def ownedPod : Pod where
  metadata := {
    name := some "run-1-x"
    ns := some "default"
    resourceVersion := some "1"
    ownerReferences := some [{ kind := "Job", name := "run-1" }] }
  status := some { startTime := some ⟨1709258400, 0⟩ }

def labelledPod : Pod where
  metadata := {
    name := some "run-1-x"
    ns := some "default"
    resourceVersion := some "1"
    labels := some (SortedMap.empty.insert Pod.jobNameLabel "run-1") }
  status := some { startTime := some ⟨1709258400, 0⟩ }

def emptyKeeper : Keeper Unit := { store := { gate := () } }

theorem surfaces_of_apply_ownedPod :
    ((WatchEvent.added ownedPod).survivor? = some ownedPod ∧
      (∃ json, Resource.ofJson? json = some ownedPod) ∧ ownedPod.isStarted ∧
      ownedPod.metadata.nsOrEmpty = nightJob.metadata.nsOrEmpty ∧
      ownedPod.jobOwner? = some nightJob.metadata.displayName ∧
      (emptyKeeper.perform 0 (.apply (.added ownedPod))).1 = .ok ()) ∧
    ∃ found, (Collection.podsOf nightJob).run 1
        (⟨(emptyKeeper.perform 0 (.apply (.added ownedPod))).2.store.rows, ()⟩ : Store Unit) =
          (.ok found, ⟨(emptyKeeper.perform 0 (.apply (.added ownedPod))).2.store.rows, ()⟩) ∧
      Surfaces ownedPod nightJob (emptyKeeper.store.rows.podCollection 0 nightJob) found := by
  have hread : ∃ json, Resource.ofJson? json = some ownedPod :=
    ⟨Resource.toJson ownedPod, by decide +kernel⟩
  exact ⟨⟨rfl, hread, rfl, rfl, by decide, rfl⟩,
    surfaces_of_apply rfl hread rfl rfl (by decide) rfl 1⟩

theorem not_surfaces_of_label :
    ¬ ∀ (keeper : Keeper Unit) (now t : Int) (event : WatchEvent Pod) (pod : Pod) (job : Job),
      event.survivor? = some pod → (∃ json, Resource.ofJson? json = some pod) →
      pod.metadata.name ≠ none → '/' ∉ pod.metadata.nsOrEmpty.toList → pod.isStarted →
      pod.metadata.nsOrEmpty = job.metadata.nsOrEmpty →
      pod.jobOwner? = some job.metadata.displayName →
      (keeper.perform now (.apply event)).1 = .ok () →
      pod.IsAmong ((keeper.perform now (.apply event)).2.store.rows.podsOf t job) := by
  intro hall
  have hamong := hall emptyKeeper 0 1 (.added labelledPod) labelledPod nightJob rfl
    ⟨Resource.toJson labelledPod, by decide +kernel⟩ (by decide) (by decide) rfl rfl (by decide) rfl
  have hnone : (emptyKeeper.perform 0 (.apply (.added labelledPod))).2.store.rows.podsOf 1
      nightJob = [] := by
    decide +kernel
  rw [hnone] at hamong
  obtain ⟨_, member, _⟩ := hamong
  cases member

end Labelled

end Sync
end RunMonitor
