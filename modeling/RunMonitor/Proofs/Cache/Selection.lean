import Mathlib.Data.List.MinMax
import Mathlib.Data.List.Nodup
import RunMonitor.Proofs.SortedMap
import RunMonitor.Proofs.Summary.Reading

namespace RunMonitor

namespace Pod

def Supersedes (pod known : Pod) : Prop :=
  compareVersions pod.metadata.resourceVersion known.metadata.resourceVersion = .gt

instance : DecidableRel Supersedes := fun pod known =>
  inferInstanceAs (Decidable (compareVersions pod.metadata.resourceVersion
    known.metadata.resourceVersion = .gt))

def candidates (jobName : String) (collection : List Pod) : List Pod :=
  collection.filter fun pod => pod.isStarted ∧ pod.IsOwnedBy jobName

def rivals (jobName name : String) (collection : List Pod) : List Pod :=
  (candidates jobName collection).filter (·.metadata.displayName = name)

theorem find?_keepNewer (newest : SortedMap Pod) (pod : Pod) (name : String) :
    (keepNewer newest pod).find? name =
      if pod.metadata.displayName = name then List.argAux Supersedes (newest.find? name) pod
      else newest.find? name := by
  by_cases hname : pod.metadata.displayName = name
  · subst hname
    rw [if_pos rfl, keepNewer]
    cases hknown : newest.find? pod.metadata.displayName with
    | none => exact SortedMap.find?_insert_self ..
    | some known =>
        rw [apply_ite (SortedMap.find? · pod.metadata.displayName), SortedMap.find?_insert_self,
          hknown]
        rfl
  · have hinsert : (newest.insert pod.metadata.displayName pod).find? name = newest.find? name := by
      rw [SortedMap.find?_insert, if_neg (Ne.symm hname)]
    rw [if_neg hname, keepNewer]
    split
    · exact hinsert
    · split
      · exact hinsert
      · rfl

theorem find?_foldl_keepNewer (pods : List Pod) (newest : SortedMap Pod) (name : String) :
    (pods.foldl keepNewer newest).find? name =
      (pods.filter (·.metadata.displayName = name)).foldl (List.argAux Supersedes)
        (newest.find? name) := by
  induction pods generalizing newest with
  | nil => rfl
  | cons pod rest ih =>
      rw [List.foldl_cons, ih, find?_keepNewer]
      by_cases hname : pod.metadata.displayName = name
      · rw [if_pos hname, List.filter_cons_of_pos (by simpa using hname), List.foldl_cons]
      · rw [if_neg hname, List.filter_cons_of_neg (by simpa using hname)]

theorem argAux_supersedes (known pod : Pod) :
    List.argAux Supersedes (some known) pod = some pod ∨
      List.argAux Supersedes (some known) pod = some known := by
  simp only [List.argAux]
  split
  · exact .inl rfl
  · exact .inr rfl

theorem mem_of_foldl_argAux {pods : List Pod} {known : Option Pod} {pod : Pod}
    (h : pods.foldl (List.argAux Supersedes) known = some pod) : known = some pod ∨ pod ∈ pods := by
  induction pods generalizing known with
  | nil => exact .inl h
  | cons first rest ih =>
      rcases ih h with hstep | member
      · cases known with
        | none => exact .inr (Option.some.inj hstep ▸ List.mem_cons_self)
        | some known =>
            rcases argAux_supersedes known first with heq | heq
            · exact .inr (Option.some.inj (heq.symm.trans hstep) ▸ List.mem_cons_self)
            · exact .inl (heq.symm.trans hstep)
      · exact .inr (List.mem_cons_of_mem _ member)

def versionNumber? (pod : Pod) : Option Nat := pod.metadata.resourceVersion.bind Text.nat64?

theorem supersedes_iff {pod known : Pod} (hpod : pod.versionNumber?.isSome)
    (hknown : known.versionNumber?.isSome) :
    pod.Supersedes known ↔ known.versionNumber?.getD 0 < pod.versionNumber?.getD 0 := by
  obtain ⟨m, hpod⟩ := Option.isSome_iff_exists.mp hpod
  obtain ⟨n, hknown⟩ := Option.isSome_iff_exists.mp hknown
  rw [hpod, hknown]
  unfold versionNumber? at hpod hknown
  rw [Supersedes, compareVersions, hpod, hknown]
  exact Nat.compare_eq_gt

theorem foldl_argAux_eq_argmax {pods : List Pod} {known : Option Pod}
    (hknown : ∀ pod ∈ known, pod.versionNumber?.isSome)
    (hpods : ∀ pod ∈ pods, pod.versionNumber?.isSome) :
    pods.foldl (List.argAux Supersedes) known =
      pods.foldl (List.argAux fun pod known : Pod =>
        known.versionNumber?.getD 0 < pod.versionNumber?.getD 0) known := by
  induction pods generalizing known with
  | nil => rfl
  | cons first rest ih =>
      rw [List.forall_mem_cons] at hpods
      have hstep : List.argAux Supersedes known first =
          List.argAux (fun pod known : Pod =>
            known.versionNumber?.getD 0 < pod.versionNumber?.getD 0) known first := by
        cases known with
        | none => rfl
        | some known => exact if_congr (supersedes_iff hpods.1 (hknown known rfl)) rfl rfl
      rw [List.foldl_cons, List.foldl_cons, ← hstep]
      refine ih (fun pod hpod => ?_) hpods.2
      have hpod : [first].foldl (List.argAux Supersedes) known = some pod := hpod
      rcases mem_of_foldl_argAux hpod with hpod | member
      · exact hknown pod hpod
      · exact List.mem_singleton.mp member ▸ hpods.1

section Lookups

variable {jobName name : String} {collection : List Pod} {pod : Pod}

theorem mem_candidates :
    pod ∈ candidates jobName collection ↔
      pod ∈ collection ∧ pod.isStarted ∧ pod.IsOwnedBy jobName := by
  rw [candidates, List.mem_filter, decide_eq_true_eq]

theorem mem_rivals :
    pod ∈ rivals jobName name collection ↔
      pod ∈ candidates jobName collection ∧ pod.metadata.displayName = name := by
  rw [rivals, List.mem_filter, decide_eq_true_eq]

def winner? (jobName name : String) (collection : List Pod) : Option Pod :=
  (rivals jobName name collection).foldl (List.argAux Supersedes) none

theorem find?_newest (jobName name : String) (collection : List Pod) :
    ((candidates jobName collection).foldl keepNewer SortedMap.empty).find? name =
      winner? jobName name collection :=
  find?_foldl_keepNewer ..

theorem mem_rivals_of_winner? (h : winner? jobName name collection = some pod) :
    pod ∈ rivals jobName name collection :=
  (mem_of_foldl_argAux h).resolve_left nofun

theorem exists_winner? (h : rivals jobName name collection ≠ []) :
    ∃ kept, winner? jobName name collection = some kept :=
  Option.ne_none_iff_exists'.mp fun hnone => h ((List.foldl_argAux_eq_none _).mp hnone).1

theorem winner?_eq_argmax
    (h : ∀ rival ∈ rivals jobName name collection, rival.versionNumber?.isSome) :
    winner? jobName name collection =
      (rivals jobName name collection).argmax fun rival => rival.versionNumber?.getD 0 :=
  foldl_argAux_eq_argmax (fun _ h => nomatch h) h

theorem displayName_of_mem_entries
    (h : (name, pod) ∈ ((candidates jobName collection).foldl keepNewer SortedMap.empty).entries) :
    pod.metadata.displayName = name := by
  rw [SortedMap.mem_entries_iff, find?_newest] at h
  exact (mem_rivals.mp (mem_rivals_of_winner? h)).2

theorem mem_newestOwned_iff :
    pod ∈ newestOwned jobName collection ↔
      winner? jobName pod.metadata.displayName collection = some pod := by
  rw [← find?_newest, ← SortedMap.mem_entries_iff]
  constructor
  · intro member
    obtain ⟨⟨name, _⟩, hentry, rfl⟩ := List.mem_map.mp member
    rwa [displayName_of_mem_entries hentry]
  · intro member
    exact List.mem_map_of_mem member

theorem pairwise_newestOwned (jobName : String) (collection : List Pod) :
    (newestOwned jobName collection).Pairwise fun a b =>
      a.metadata.displayName < b.metadata.displayName := by
  refine List.pairwise_map.mpr (List.Pairwise.imp_of_mem ?_ (SortedMap.ordered _))
  intro a b ha hb hlt
  rwa [displayName_of_mem_entries ha, displayName_of_mem_entries hb]

theorem nodup_newestOwned (jobName : String) (collection : List Pod) :
    (newestOwned jobName collection).Nodup := by
  refine (pairwise_newestOwned jobName collection).imp ?_
  rintro a b hlt rfl
  exact String.lt_irrefl _ hlt

/-- The pods that are found of a name are the one that is chosen, if any. -/
theorem filter_newestOwned (jobName name : String) (collection : List Pod) :
    (newestOwned jobName collection).filter (·.metadata.displayName = name) =
      (winner? jobName name collection).toList := by
  cases hwinner : winner? jobName name collection with
  | none =>
      refine List.filter_eq_nil_iff.mpr fun pod member hname => ?_
      rw [mem_newestOwned_iff, of_decide_eq_true hname, hwinner] at member
      cases member
  | some kept =>
      have hkept : kept.metadata.displayName = name :=
        (mem_rivals.mp (mem_rivals_of_winner? hwinner)).2
      refine List.perm_singleton.mp ((List.perm_ext_iff_of_nodup
        ((nodup_newestOwned _ _).filter _) (List.nodup_singleton _)).mpr fun pod => ?_)
      rw [List.mem_filter, decide_eq_true_eq, List.mem_singleton, mem_newestOwned_iff]
      constructor
      · rintro ⟨hpod, hname⟩
        rw [hname, hwinner] at hpod
        exact (Option.some.inj hpod).symm
      · rintro rfl
        exact ⟨hkept ▸ hwinner, hkept⟩

/-- What is selected from a collection as the pods of a job. -/
structure Selects (jobName : String) (collection pods : List Pod) : Prop where
  present : ∀ pod ∈ pods, pod ∈ collection
  ascending : pods.Pairwise fun a b => a.metadata.displayName < b.metadata.displayName
  eligible : ∀ pod ∈ pods, pod.isStarted ∧ pod.IsOwnedBy jobName
  complete : ∀ pod ∈ collection, pod.isStarted → pod.IsOwnedBy jobName →
    ∃ kept ∈ pods, kept.metadata.displayName = pod.metadata.displayName
  newest : ∀ kept ∈ pods,
    (∀ rival ∈ rivals jobName kept.metadata.displayName collection,
      rival.versionNumber?.isSome) →
    (rivals jobName kept.metadata.displayName collection).argmax
      (fun rival => rival.versionNumber?.getD 0) = some kept

theorem Selects.mem_candidates {pods : List Pod} (h : Selects jobName collection pods)
    (member : pod ∈ pods) : pod ∈ candidates jobName collection :=
  Pod.mem_candidates.mpr ⟨h.present pod member, h.eligible pod member⟩

theorem selects_newestOwned (jobName : String) (collection : List Pod) :
    Selects jobName collection (newestOwned jobName collection) := by
  have hcandidate : ∀ pod ∈ newestOwned jobName collection, pod ∈ candidates jobName collection :=
    fun pod member => (mem_rivals.mp (mem_rivals_of_winner? (mem_newestOwned_iff.mp member))).1
  refine ⟨?present, pairwise_newestOwned _ _, ?eligible, ?complete, ?newest⟩
  case present => exact fun pod member => (mem_candidates.mp (hcandidate pod member)).1
  case eligible => exact fun pod member => (mem_candidates.mp (hcandidate pod member)).2
  case complete =>
    intro pod member hstarted howner
    have hrival : pod ∈ rivals jobName pod.metadata.displayName collection :=
      mem_rivals.mpr ⟨mem_candidates.mpr ⟨member, hstarted, howner⟩, rfl⟩
    obtain ⟨kept, hwinner⟩ := exists_winner? (List.ne_nil_of_mem hrival)
    have hname := (mem_rivals.mp (mem_rivals_of_winner? hwinner)).2
    exact ⟨kept, mem_newestOwned_iff.mpr (hname ▸ hwinner), hname⟩
  case newest =>
    intro kept member hnumbered
    rw [← winner?_eq_argmax hnumbered]
    exact mem_newestOwned_iff.mp member

theorem mem_newestOwned_of_distinct
    (distinct : (candidates jobName collection).Pairwise fun a b =>
      a.metadata.displayName ≠ b.metadata.displayName) :
    pod ∈ newestOwned jobName collection ↔ pod ∈ candidates jobName collection := by
  have hselects := selects_newestOwned jobName collection
  constructor
  · exact hselects.mem_candidates
  · intro member
    obtain ⟨hpresent, hstarted, howner⟩ := mem_candidates.mp member
    obtain ⟨kept, hkept, hname⟩ := hselects.complete pod hpresent hstarted howner
    have heq : kept = pod :=
      List.inj_on_of_nodup_map (List.pairwise_map.mpr distinct) (hselects.mem_candidates hkept)
        member hname
    exact heq ▸ hkept

theorem mem_newestOwned
    (distinct : collection.Pairwise fun a b => a.metadata.displayName ≠ b.metadata.displayName) :
    pod ∈ newestOwned jobName collection ↔
      pod ∈ collection ∧ pod.isStarted ∧ pod.IsOwnedBy jobName := by
  rw [mem_newestOwned_of_distinct (distinct.filter _), mem_candidates]

theorem newestOwned_eq_of_perm {others : List Pod} (h : collection.Perm others)
    (distinct : (candidates jobName collection).Pairwise fun a b =>
      a.metadata.displayName ≠ b.metadata.displayName) :
    newestOwned jobName collection = newestOwned jobName others := by
  have hcandidates : (candidates jobName collection).Perm (candidates jobName others) := h.filter _
  have distinct' := (hcandidates.pairwise_iff fun {_ _} hne => Ne.symm hne).mp distinct
  have hperm : (newestOwned jobName collection).Perm (newestOwned jobName others) := by
    refine (List.perm_ext_iff_of_nodup (nodup_newestOwned _ _)
      (nodup_newestOwned _ _)).mpr fun pod => ?_
    rw [mem_newestOwned_of_distinct distinct, mem_newestOwned_of_distinct distinct',
      hcandidates.mem_iff]
  exact hperm.eq_of_pairwise
    (fun a b _ _ hab hba => absurd (String.lt_trans hab hba) (String.lt_irrefl _))
    (pairwise_newestOwned _ _) (pairwise_newestOwned _ _)

end Lookups

end Pod

theorem Collection.selects_podsOf (job : Job) (t : Int) (store : Store Unit) :
    ∃ pods, (Collection.podsOf job).run t store = (.ok pods, store) ∧
      Pod.Selects job.metadata.displayName (store.rows.podCollection t job) pods :=
  ⟨_, run_podsOf t store job, Pod.selects_newestOwned _ _⟩

end RunMonitor
