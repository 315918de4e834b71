import RunMonitor.Proofs.Cache.Key
import RunMonitor.Proofs.StableOrder
import RunMonitor.Proofs.Store.Frame
import RunMonitor.Proofs.Summary.Reading
import RunMonitor.Proofs.View.Lookup
import RunMonitor.View.Basic
import RunMonitor.View.Catalog

namespace RunMonitor

/-! The views of one cron job say the same of it as the view of all of them. -/

namespace Rows

variable {rows others : Rows} {now : Instant} {ns name : String}

def cronJobs (rows : Rows) (t : Int) : List CronJob :=
  Collection.decodeOrEmpty (rows.live t Key.cronJobs)

def runIndex (rows : Rows) (t : Int) : RunIndex :=
  ((rows.live t Key.runIndex).bind RunIndex.decode?).getD SortedMap.empty

def summaryOf (rows : Rows) (now : Instant) (cronJob : CronJob) : CronJobSummary :=
  .assemble cronJob
    (((rows.runIndex now.millis).runsOf cronJob).map (rows.runSummary now.millis now))

theorem summaryOf_congr (h : rows.AgreesOn (· ≠ Key.definition ns name) now.millis others)
    (cronJob : CronJob) : rows.summaryOf now cronJob = others.summaryOf now cronJob := by
  have hlive : ∀ key, key ≠ Key.definition ns name →
      rows.live now.millis key = others.live now.millis key :=
    h now.millis (Int.le_refl _)
  have hindex : rows.runIndex now.millis = others.runIndex now.millis := by
    simp only [runIndex, hlive _ (Key.definition_ne_runIndex ns name).symm]
  have hruns : rows.runSummary now.millis now = others.runSummary now.millis now := by
    funext job
    simp only [runSummary, podsOf, hlive _ (Key.podsOf_ne_definition _ _ ns name)]
  rw [summaryOf, hindex, hruns, summaryOf]

end Rows

def CronJobSummary.sortName (summary : CronJobSummary) : String := Text.lowercase summary.name

/-- The definition that is looked up reads as this cron job: the one in the store if there is one,
and otherwise the one that the cluster replies with, once it has been written. -/
def Site.Finds {κ : Type} [Cluster κ] (site : Site Unit κ) (now : Instant) (ns name : String)
    (cronJob : CronJob) : Prop :=
  match site.store.rows.live now.millis (Key.definition ns name) with
  | some bytes => Resource.decode? bytes = some cronJob
  | none => ∃ original : CronJob,
      (Cluster.object? .cronJob ns name site.cluster).1 = .ok (some original) ∧
        Resource.decode? (Resource.encode original) = some cronJob

namespace View

variable {α β κ : Type} [Cluster κ] {now : Instant} {site after : Site Unit κ}
  {ns name : String} {cronJob : CronJob}

theorem run_bind_ok {view : View α} {value : α} (f : α → View β)
    (h : view.run now site = (.ok value, after)) :
    (view >>= f).run now site = (f value).run now after := by
  rw [run] at h
  rw [run, Procedure.run_bind, h]
  rfl

theorem run_access {access : Access α} {value : α}
    (h : access.run now.millis site.store = (.ok value, site.store)) :
    (liftM access : View α).run now site = (.ok value, site) := by
  have hrun : ∀ site : Site Unit κ, (liftM access : View α).run now site =
      ((access.run now.millis site.store).1,
        { site with store := (access.run now.millis site.store).2 }) := by
    clear h
    induction access with
    | done result => exact fun _ => rfl
    | call call next ih => exact fun _ => ih _ _
  rw [hrun, h]

theorem run_seek (key : String) (missed : View ByteArray) :
    (seek key missed).run now site =
      match site.store.rows.live now.millis key with
      | some hit => (.ok hit, site)
      | none => missed.run now site := by
  have hreply : reply now (.inl (.get key)) site =
      (.ok (site.store.rows.live now.millis key), site) := rfl
  simp only [run, seek, Procedure.run, hreply]
  cases site.store.rows.live now.millis key <;> rfl

theorem run_lookUp_hit (ttl : Nat) {key : String} {bytes : ByteArray} (fetch : View ByteArray)
    (h : site.store.rows.live now.millis key = some bytes) :
    (lookUp ttl key fetch).run now site = (.ok bytes, site) := by
  rw [lookUp_eq, run_seek, h]

theorem run_lookUp_miss (ttl : Nat) {key : String} {bytes : ByteArray} {fetch : View ByteArray}
    {inquiry : Inquiry β} {f : Except Error β → Except Error ByteArray}
    (hfetch : fetch = fetching inquiry f) (h : site.store.rows.live now.millis key = none)
    {answer : Except Error β} (hreply : (reply now (.inr inquiry) site).1 = answer)
    (hvalue : f answer = .ok bytes) :
    ∃ after, (lookUp ttl key fetch).run now site = (.ok bytes, after) ∧
      after.store.rows.AgreesOn (· ≠ key) now.millis site.store.rows := by
  have hstore : (reply now (.inr inquiry) site).2.store = site.store := by
    cases inquiry <;> rfl
  have hrun : fetch.run now site = (.ok bytes, (reply now (.inr inquiry) site).2) := by
    rw [hfetch, ← hvalue, ← hreply]
    rfl
  refine ⟨((keep ttl key bytes).run now (reply now (.inr inquiry) site).2).2, ?_, ?_⟩
  · simp only [lookUp_eq, run_seek, h]
    rw [run_bind_ok (keep ttl key) hrun]
    rfl
  · have hset : StoreCall.Within (· = key) (.set key bytes (some ttl)) := rfl
    rw [← hstore]
    exact .of_within hset (fun _ hne heq => hne heq) now.millis _

theorem run_runIndex (ttl : Nat) (h : (site.store.rows.live now.millis Key.runIndex).isSome) :
    (runIndex ttl).run now site = (.ok (site.store.rows.runIndex now.millis), site) := by
  obtain ⟨bytes, h⟩ := Option.isSome_iff_exists.mp h
  have hfound : (lookUp ttl Key.runIndex do
      return (RunIndex.build (← inquire .jobs)).encode).attempt.run (reply now) site =
      (.ok (.ok bytes), site) := by
    have hrun := run_lookUp_hit ttl (do return (RunIndex.build (← inquire .jobs)).encode) h
    rw [Procedure.run_attempt, ← run, hrun]
  rw [runIndex, run_bind_ok _ hfound, Rows.runIndex, h]
  rfl

theorem run_definition (ttl : Nat) (h : site.Finds now ns name cronJob) :
    ∃ after, (definition ttl ns name).run now site = (.ok cronJob, after) ∧
      after.store.rows.AgreesOn (· ≠ Key.definition ns name) now.millis site.store.rows := by
  unfold Site.Finds at h
  split at h
  case h_1 bytes hlive =>
    refine ⟨site, ?_, Rows.AgreesOn.refl _ _ _⟩
    rw [definition, run_bind_ok _ (run_lookUp_hit ttl _ hlive)]
    simp only [h]
    rfl
  case h_2 hlive =>
    obtain ⟨original, hreply, hdecode⟩ := h
    obtain ⟨after, hrun, hagrees⟩ := run_lookUp_miss ttl (fetching_object ns name) hlive hreply
      (show _ = Except.ok (Resource.encode original) from rfl)
    refine ⟨after, (run_bind_ok _ hrun).trans ?_, hagrees⟩
    simp only [hdecode]
    rfl

theorem run_read (ttl : Nat) (cronJob : CronJob)
    (h : (site.store.rows.live now.millis Key.runIndex).isSome) :
    (do
      let index ← runIndex ttl
      let now ← inquire .time
      CronJobSummary.read now cronJob (index.runsOf cronJob) : View CronJobSummary).run now site =
      (.ok (site.store.rows.summaryOf now cronJob), site) := by
  rw [run_bind_ok _ (run_runIndex ttl h)]
  exact run_access (CronJobSummary.run_read ..)

theorem run_cronJob (ttl : Nat) (h : (site.store.rows.live now.millis Key.runIndex).isSome)
    (hfinds : site.Finds now ns name cronJob) :
    ((View.cronJob ttl ns name).run now site).1 =
      .ok (site.store.rows.summaryOf now cronJob) := by
  obtain ⟨after, hrun, hagrees⟩ := run_definition ttl hfinds
  have hindex : after.store.rows.live now.millis Key.runIndex =
      site.store.rows.live now.millis Key.runIndex :=
    hagrees now.millis (Int.le_refl _) Key.runIndex (Key.definition_ne_runIndex ns name).symm
  rw [View.cronJob, run_bind_ok _ hrun, run_read ttl cronJob (hindex ▸ h),
    Rows.summaryOf_congr hagrees]

theorem run_cronJobs (ttl : Nat) (h : (site.store.rows.live now.millis Key.runIndex).isSome) :
    ((cronJobs ttl).run now site).1 =
      .ok (((site.store.rows.cronJobs now.millis).map (site.store.rows.summaryOf now)).mergeSort
        fun a b => Text.lowercase a.name ≤ Text.lowercase b.name) := by
  have hlisted : (liftM Collection.cronJobs : View _).run now site =
      (.ok (site.store.rows.cronJobs now.millis), site) :=
    run_access rfl
  have hall : (Procedure.forEach (site.store.rows.cronJobs now.millis) fun cronJob =>
      CronJobSummary.read now cronJob
        ((site.store.rows.runIndex now.millis).runsOf cronJob)).run (Store.reply now.millis)
          site.store =
      (.ok ((site.store.rows.cronJobs now.millis).map (site.store.rows.summaryOf now)),
        site.store) :=
    Procedure.run_forEach fun _ _ => CronJobSummary.run_read ..
  rw [cronJobs, run_bind_ok _ hlisted, run_bind_ok _ (run_runIndex ttl h)]
  exact congrArg Prod.fst (run_bind_ok _ (run_access hall))

/-- What is said of a cron job among all of them, on its own and with its pods. -/
structure Agree (all : List CronJobSummary) (one : CronJobSummary) (pods : CronJobPods) : Prop where
  listed : one ∈ all
  ordered : StableOrder PodSummary.startTime Instant.absentFirst one.allPods pods.pods
  runs : pods.runs = one.allRuns

theorem views_agree (ttl : Nat) (hindex : (site.store.rows.live now.millis Key.runIndex).isSome)
    (hstored : cronJob ∈ site.store.rows.cronJobs now.millis)
    (hfinds : site.Finds now ns name cronJob) :
    ∃ all one pods, ((cronJobs ttl).run now site).1 = .ok all ∧
      ((View.cronJob ttl ns name).run now site).1 = .ok one ∧
      ((View.pods ttl ns name).run now site).1 = .ok pods ∧
      StableOrder CronJobSummary.sortName (fun a b => a ≤ b)
        ((site.store.rows.cronJobs now.millis).map (site.store.rows.summaryOf now)) all ∧
      one = site.store.rows.summaryOf now cronJob ∧ Agree all one pods := by
  have hall := run_cronJobs ttl hindex
  have hone := run_cronJob ttl hindex hfinds
  have hpods : ((View.pods ttl ns name).run now site).1 =
      .ok (CronJobPods.ofSummary (site.store.rows.summaryOf now cronJob)) := by
    rw [View.pods, run_bind_ok _ (Prod.ext hone rfl)]
    rfl
  have hsorted := stableOrder_mergeSort CronJobSummary.sortName (fun a b => a ≤ b)
    (by simpa using fun _ _ _ => String.le_trans) (by simpa using String.le_total)
      ((site.store.rows.cronJobs now.millis).map (site.store.rows.summaryOf now))
  refine ⟨_, _, _, hall, hone, hpods, hsorted, rfl, ?_, ?_, rfl⟩
  · exact hsorted.perm.mem_iff.mpr (List.mem_map_of_mem hstored)
  · exact stableOrder_mergeSort PodSummary.startTime Instant.absentFirst
      (fun _ _ _ => Instant.absentFirst_trans) Instant.absentFirst_total _

section Nightly

def nightlyDefinition : CronJob := { metadata := { name := some "nightly", ns := some "default" } }

def hourlyDefinition : CronJob := { metadata := { name := some "Hourly", ns := some "default" } }

def runOf (cronJob name : String) : Job where
  metadata := {
    name := some name
    ns := some "default"
    ownerReferences := some [{ kind := "CronJob", name := cronJob }] }

def nightlyAndHourly : Site Unit Catalog where
  store := {
    rows := (SortedMap.empty.insert Key.cronJobs
      ⟨Resource.encodeAll [nightlyDefinition, hourlyDefinition], none⟩).insert Key.runIndex
        ⟨(RunIndex.build [runOf "nightly" "nightly-1", runOf "Hourly" "hourly-1"]).encode, some 9⟩
    gate := () }
  cluster := { cronJobs := [nightlyDefinition, hourlyDefinition] }

def midnight : Instant := ⟨0, 0⟩

theorem finds_nightly : nightlyAndHourly.Finds midnight "default" "nightly" nightlyDefinition := by
  have hmissing : nightlyAndHourly.store.rows.live midnight.millis
      (Key.definition "default" "nightly") = none := by
    decide +kernel
  have hknown : nightlyAndHourly.cluster.find? .cronJob "default" "nightly" =
      some nightlyDefinition :=
    List.find?_cons_of_pos (by decide)
  have hdecode : Resource.decode? (Resource.encode nightlyDefinition) = some nightlyDefinition := by
    decide +kernel
  unfold Site.Finds
  rw [hmissing]
  exact ⟨nightlyDefinition, congrArg Except.ok hknown, hdecode⟩

theorem views_agree_nightly :
    ∃ all one pods, ((cronJobs 1000).run midnight nightlyAndHourly).1 = .ok all ∧
      ((View.cronJob 1000 "default" "nightly").run midnight nightlyAndHourly).1 = .ok one ∧
      ((View.pods 1000 "default" "nightly").run midnight nightlyAndHourly).1 = .ok pods ∧
      Agree all one pods := by
  have hindex : (nightlyAndHourly.store.rows.live midnight.millis Key.runIndex).isSome := by
    decide +kernel
  have hstored : nightlyDefinition ∈ nightlyAndHourly.store.rows.cronJobs midnight.millis := by
    decide +kernel
  obtain ⟨all, one, pods, hall, hone, hpods, -, -, hagree⟩ :=
    views_agree 1000 hindex hstored finds_nightly
  exact ⟨all, one, pods, hall, hone, hpods, hagree⟩

end Nightly

end View
end RunMonitor
