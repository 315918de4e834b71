import RunMonitor.Proofs.Cache.Selection
import RunMonitor.Proofs.Cluster.RoundTrip
import RunMonitor.Proofs.Cluster.Version

namespace RunMonitor

open Version

namespace Pod

/-- Of the pods of that name that count a single one is found, and this only once. -/
def KeepsOne (jobName name : String) (collection found : List Pod) (kept : Pod) : Prop :=
  kept ∈ rivals jobName name collection ∧
    found.filter (·.metadata.displayName = name) = [kept]

/-- If any pods of that name count, the one that is found is superseded by none of them. -/
def KeepsNewest (jobName name : String) (collection found : List Pod) : Prop :=
  rivals jobName name collection ≠ [] → ∃ kept, KeepsOne jobName name collection found kept ∧
    ∀ rival ∈ rivals jobName name collection, ¬ rival.Supersedes kept

variable {versions : Set (Option String)} {jobName name : String} {collection pods : List Pod}
  {known pod kept : Pod}

theorem not_supersedes_iff :
    ¬ pod.Supersedes known ↔ (compareVersions pod.metadata.resourceVersion
      known.metadata.resourceVersion).isLE = true := by
  rw [Supersedes]
  cases compareVersions pod.metadata.resourceVersion known.metadata.resourceVersion <;> decide

theorem Supersedes.asymm (h : pod.Supersedes known) : ¬ known.Supersedes pod := by
  rw [Supersedes, compareVersions_swap, h]
  decide

theorem not_supersedes_trans (hcoherent : Coherent versions)
    (hpod : pod.metadata.resourceVersion ∈ versions)
    (hknown : known.metadata.resourceVersion ∈ versions)
    (hkept : kept.metadata.resourceVersion ∈ versions) (h : ¬ pod.Supersedes known)
    (h' : ¬ known.Supersedes kept) : ¬ pod.Supersedes kept := by
  rw [not_supersedes_iff] at h h' ⊢
  exact (trans_iff_coherent versions).mpr hcoherent _ hpod _ hknown _ hkept h h'

/-- Whatever has been put aside stays below the one that is kept in the end. -/
theorem not_supersedes_of_foldl (hcoherent : Coherent versions)
    (hknown : known.metadata.resourceVersion ∈ versions)
    (hpods : ∀ pod ∈ pods, pod.metadata.resourceVersion ∈ versions)
    (h : pods.foldl (List.argAux Supersedes) (some known) = some kept) :
    ∀ pod ∈ known :: pods, ¬ pod.Supersedes kept := by
  induction pods generalizing known with
  | nil =>
      cases h
      intro pod member
      obtain rfl := List.mem_singleton.mp member
      exact fun hself => hself.asymm hself
  | cons first rest ih =>
      have hkept : kept.metadata.resourceVersion ∈ versions := by
        rcases mem_of_foldl_argAux h with heq | member
        · exact Option.some.inj heq ▸ hknown
        · exact hpods kept member
      have hstep : List.argAux Supersedes (some known) first =
          if first.Supersedes known then some first else some known := rfl
      rw [List.forall_mem_cons] at hpods
      rw [List.foldl_cons, hstep] at h
      rw [List.forall_mem_cons, List.forall_mem_cons]
      split at h
      case isTrue hnewer =>
        have hrest := List.forall_mem_cons.mp (ih hpods.1 hpods.2 h)
        refine ⟨?_, hrest⟩
        exact not_supersedes_trans hcoherent hknown hpods.1 hkept hnewer.asymm hrest.1
      case isFalse holder =>
        have hrest := List.forall_mem_cons.mp (ih hknown hpods.2 h)
        refine ⟨hrest.1, ?_, hrest.2⟩
        exact not_supersedes_trans hcoherent hpods.1 hknown hkept holder hrest.1

theorem keepsOne_iff :
    KeepsOne jobName name collection (newestOwned jobName collection) kept ↔
      winner? jobName name collection = some kept := by
  rw [KeepsOne, filter_newestOwned]
  constructor
  · intro h
    exact Option.toList_eq_singleton_iff.mp h.2
  · intro h
    exact ⟨mem_rivals_of_winner? h, by rw [h]; rfl⟩

theorem exists_keepsOne (h : rivals jobName name collection ≠ []) :
    ∃ kept, KeepsOne jobName name collection (newestOwned jobName collection) kept := by
  obtain ⟨kept, hwinner⟩ := exists_winner? h
  exact ⟨kept, keepsOne_iff.mpr hwinner⟩

theorem keepsNewest_of_coherent (hcoherent : Coherent versions)
    (hrivals : ∀ rival ∈ rivals jobName name collection,
      rival.metadata.resourceVersion ∈ versions) :
    KeepsNewest jobName name collection (newestOwned jobName collection) := by
  intro hne
  obtain ⟨kept, hkept⟩ := exists_keepsOne hne
  refine ⟨kept, hkept, ?_⟩
  have hwinner := keepsOne_iff.mp hkept
  obtain ⟨first, rest, hcons⟩ := List.exists_cons_of_ne_nil hne
  rw [winner?, hcons, List.foldl_cons] at hwinner
  rw [hcons] at hrivals ⊢
  rw [List.forall_mem_cons] at hrivals
  exact not_supersedes_of_foldl hcoherent hrivals.1 hrivals.2 hwinner

/-! Three pods of one name whose versions go in a circle. -/

def generation (version : Option String) : Pod where
  metadata := {
    name := some "run-1-x"
    ns := some "default"
    resourceVersion := version
    ownerReferences := some [{ kind := "Job", name := "run-1" }] }
  status := some { startTime := some ⟨1709258400, 0⟩ }

theorem storable_generation (version : Option String) :
    Resource.Storable (generation version) := by
  have hread : Resource.ofJson? (Resource.toJson (generation version)) =
      some (generation version) := by
    cases version <;> rfl
  exact storable_of_ofJson? hread

theorem rivals_generations (versions : List (Option String)) :
    rivals "run-1" "run-1-x" (versions.map generation) = versions.map generation := by
  rw [rivals, candidates, List.filter_eq_self.mpr, List.filter_eq_self.mpr]
  · intro pod member
    obtain ⟨version, -, rfl⟩ := List.mem_map.mp member
    rfl
  · intro pod member
    obtain ⟨version, -, rfl⟩ := List.mem_map.mp (List.mem_of_mem_filter member)
    rfl

theorem newestOwned_generations (versions : List (Option String)) :
    newestOwned "run-1" (versions.map generation) =
      (winner? "run-1" "run-1-x" (versions.map generation)).toList := by
  rw [← filter_newestOwned]
  refine (List.filter_eq_self.mpr fun pod member => ?_).symm
  obtain ⟨version, -, rfl⟩ := List.mem_map.mp ((selects_newestOwned _ _).present pod member)
  rfl

/-- The number that comes first stays until the version in between is seen, and is not seen again
after it. -/
theorem winner?_of_straddles {low high middle : Option String} (h : Straddles low high middle) :
    winner? "run-1" "run-1-x" ([high, low, middle].map generation) =
      some (generation middle) := by
  obtain ⟨hle, hlt, -⟩ := h.goesBack
  have hstays : ¬ (generation low).Supersedes (generation high) := not_supersedes_iff.mpr hle
  have hnewer : (generation middle).Supersedes (generation high) := by
    show compareVersions middle high = .gt
    rw [compareVersions_swap, hlt]
    rfl
  rw [winner?, rivals_generations]
  show List.argAux Supersedes (if (generation low).Supersedes (generation high) then
    some (generation low) else some (generation high)) (generation middle) = _
  rw [if_neg hstays]
  exact if_pos hnewer

theorem not_keepsNewest_of_straddles {low high middle : Option String}
    (h : Straddles low high middle) :
    ¬ KeepsNewest "run-1" "run-1-x" ([high, low, middle].map generation)
      (newestOwned "run-1" ([high, low, middle].map generation)) := by
  intro hkeeps
  obtain ⟨kept, hkept, hnewest⟩ := hkeeps (by
    rw [rivals_generations]
    exact List.cons_ne_nil _ _)
  obtain rfl := Option.some.inj ((keepsOne_iff.mp hkept).symm.trans (winner?_of_straddles h))
  rw [rivals_generations] at hnewest
  exact hnewest (generation low) (by simp) h.goesBack.2.2

def retriedJob : Job := { metadata := { name := some "run-1", ns := some "default" } }

def retriedStore (versions : List (Option String)) : Store Unit where
  rows := SortedMap.empty.insert (Key.podsOf "default" "run-1")
    ⟨Resource.encodeAll (versions.map generation), none⟩
  gate := ()

def mixedStore : Store Unit := retriedStore [some "10", some "9", some "5x"]

theorem podCollection_retriedStore (versions : List (Option String)) (t : Int) :
    (retriedStore versions).rows.podCollection t retriedJob = versions.map generation := by
  have hstorable : ∀ pod ∈ versions.map generation, Resource.Storable pod := by
    intro pod member
    obtain ⟨version, -, rfl⟩ := List.mem_map.mp member
    exact storable_generation version
  have hread := Rows.podCollection_insert hstorable SortedMap.empty t retriedJob
  rw [List.map_map] at hread
  exact hread

end Pod

open Pod

/-- Versions compare one way round as the other, and a lookup keeps a single pod of each name. The
versions are in order, and the pod that is kept is the newest, exactly as long as no three of the
versions go in a circle. -/
theorem Collection.keepsNewest_podsOf_iff_coherent :
    (∀ a b, compareVersions a b = (compareVersions b a).swap) ∧
      (∀ (job : Job) (t : Int) (store : Store Unit), ∃ found,
        (Collection.podsOf job).run t store = (.ok found, store) ∧
          ∀ name, rivals job.metadata.displayName name (store.rows.podCollection t job) ≠ [] →
            ∃ kept, KeepsOne job.metadata.displayName name (store.rows.podCollection t job) found
              kept) ∧
      ∀ versions : Set (Option String),
        ((∀ a ∈ versions, ∀ b ∈ versions, ∀ c ∈ versions, (compareVersions a b).isLE = true →
          (compareVersions b c).isLE = true → (compareVersions a c).isLE = true) ↔
            Coherent versions) ∧
        ((∀ (job : Job) (t : Int) (store : Store Unit), ∃ found,
          (Collection.podsOf job).run t store = (.ok found, store) ∧
            ∀ name, (∀ rival ∈ rivals job.metadata.displayName name
                (store.rows.podCollection t job), rival.metadata.resourceVersion ∈ versions) →
              KeepsNewest job.metadata.displayName name (store.rows.podCollection t job) found) ↔
            Coherent versions) := by
  refine ⟨compareVersions_swap, fun job t store => ?_,
    fun versions => ⟨trans_iff_coherent versions, ?_, ?_⟩⟩
  · exact ⟨_, run_podsOf t store job, fun name => exists_keepsOne⟩
  · intro hkeeps low hlow high hhigh middle hmiddle hstraddles
    obtain ⟨found, hrun, hnewest⟩ := hkeeps retriedJob 0 (retriedStore [high, low, middle])
    obtain rfl : found = newestOwned "run-1" ([high, low, middle].map generation) := by
      rw [run_podsOf, Rows.podsOf_eq, podCollection_retriedStore] at hrun
      exact (Except.ok.inj (Prod.mk.inj hrun).1).symm
    rw [podCollection_retriedStore] at hnewest
    refine not_keepsNewest_of_straddles hstraddles (hnewest "run-1-x" fun rival member => ?_)
    rw [show retriedJob.metadata.displayName = "run-1" from rfl, rivals_generations] at member
    obtain ⟨version, hversion, rfl⟩ := List.mem_map.mp member
    simp only [List.mem_cons, List.not_mem_nil, or_false] at hversion
    rcases hversion with rfl | rfl | rfl
    · exact hhigh
    · exact hlow
    · exact hmiddle
  · intro hcoherent job t store
    refine ⟨_, run_podsOf t store job, fun name hrivals => ?_⟩
    exact keepsNewest_of_coherent hcoherent hrivals

/-- With a version that is no number between two that are, the order goes back, and the pod that is
found is superseded by another one. -/
theorem Pod.not_keepsNewest_of_mixedVersions :
    (¬ ∀ a b c, (compareVersions a b).isLE = true → (compareVersions b c).isLE = true →
      (compareVersions a c).isLE = true) ∧
    (Collection.podsOf retriedJob).run 0 mixedStore = (.ok [generation (some "5x")], mixedStore) ∧
    generation (some "9") ∈ rivals "run-1" "run-1-x" (mixedStore.rows.podCollection 0 retriedJob) ∧
    (generation (some "9")).Supersedes (generation (some "5x")) := by
  constructor
  · intro htrans
    exact absurd (htrans (some "9") (some "10") (some "5x") (by decide) (by decide)) (by decide)
  · have hstraddles : Straddles (some "9") (some "10") (some "5x") :=
      ⟨⟨9, 10, by decide, by decide, by decide⟩, by decide, by decide, by decide⟩
    refine ⟨?_, ?_, hstraddles.goesBack.2.2⟩
    · rw [Collection.run_podsOf, Rows.podsOf_eq, mixedStore, podCollection_retriedStore]
      have hfound := newestOwned_generations [some "10", some "9", some "5x"]
      rw [winner?_of_straddles hstraddles] at hfound
      exact congrArg (fun pods => (Except.ok pods, _)) hfound
    · rw [mixedStore, podCollection_retriedStore, rivals_generations]
      simp

end RunMonitor
