import RunMonitor.Proofs.Metrics.Text
import Mathlib.Algebra.GroupWithZero.Nat
import Mathlib.Data.List.Perm.Basic

namespace RunMonitor.Metrics

def totalSamples (subsystem : String) (batch : List CronJobSummary) : List Sample :=
  let sum := fun share : CronJobSummary → Nat => (batch.map share).sum
  [⟨fullName subsystem "registered_cronjobs_total", SortedMap.empty, batch.length⟩,
    ⟨fullName subsystem "running_cronjobs_total", SortedMap.empty,
      sum fun summary => summary.runningRuns.length⟩,
    ⟨fullName subsystem "failing_cronjobs_total", SortedMap.empty,
      sum fun summary => summary.allRuns.countP fun run => run.failed⟩,
    ⟨fullName subsystem "completed_cronjobs_total", SortedMap.empty,
      sum fun summary => summary.allRuns.countP fun run => run.completionTime.isSome⟩]

def ownLabels (summary : CronJobSummary) : SortedMap String :=
  (SortedMap.empty.insert "namespace" summary.ns).insert "cronjob" summary.name

def durationSample (subsystem : String) (summary : CronJobSummary) (run : JobSummary) : Sample where
  name := fullName subsystem (sanitize summary.name ++ "_" ++ "duration_seconds")
  labels := (ownLabels summary).insert "job_name" run.name
  value := if 0 < run.active then run.durationSeconds else 0

/-- The samples of a single cron job, with its own labels and its own figures. -/
def ownSamples (subsystem : String) (summary : CronJobSummary) : List Sample :=
  ⟨fullName subsystem (sanitize summary.name ++ "_" ++ "completion_total"), ownLabels summary,
      summary.allRuns.countP fun run => run.completionTime.isSome⟩ ::
    ⟨fullName subsystem (sanitize summary.name ++ "_" ++ "failure_total"), ownLabels summary,
      summary.allRuns.countP fun run => run.failed⟩ ::
    summary.allRuns.map (durationSample subsystem summary)

theorem latest?_eq_some_iff {batch : List CronJobSummary}
    (distinct : (batch.map fun summary => (summary.ns, summary.name)).Nodup)
    {ns cronJob : String} {summary : CronJobSummary} :
    latest? batch ns cronJob = some summary ↔
      summary ∈ batch ∧ (summary.ns, summary.name) = (ns, cronJob) := by
  refine ⟨of_latest?, fun ⟨member, hkey⟩ => ?_⟩
  have hsome : (latest? batch ns cronJob).isSome :=
    (isSome_latest? batch ns cronJob).mpr (List.mem_map.mpr ⟨summary, member, hkey⟩)
  obtain ⟨other, hother⟩ := Option.isSome_iff_exists.mp hsome
  obtain ⟨hmember, hsame⟩ := of_latest? hother
  rw [hother, List.inj_on_of_nodup_map distinct hmember member (hsame.trans hkey.symm)]

def totalGauges (subsystem : String) (batch : List CronJobSummary) : List Gauge :=
  Total.all.map fun total => (Series.ofTotal total).gauge subsystem (.single (total.value batch))

def ownGauges (subsystem : String) (summary : CronJobSummary) : List Gauge :=
  Figure.all.map fun figure =>
    (Series.ofCronJob summary.ns summary.name figure).gauge subsystem (figure.reading summary)

section Gauges

variable (subsystem : String) {batch : List CronJobSummary}

theorem mem_ownGauges {summary : CronJobSummary} {gauge : Gauge} :
    gauge ∈ ownGauges subsystem summary ↔ ∃ figure : Figure,
      (Series.ofCronJob summary.ns summary.name figure).gauge subsystem (figure.reading summary) =
        gauge := by
  rw [ownGauges, List.mem_map]
  exact ⟨fun ⟨figure, _, h⟩ => ⟨figure, h⟩,
    fun ⟨figure, h⟩ => ⟨figure, by cases figure <;> decide, h⟩⟩

theorem mem_gauges_iff (distinct : (batch.map fun summary => (summary.ns, summary.name)).Nodup)
    (gauge : Gauge) :
    gauge ∈ totalGauges subsystem batch ++ batch.flatMap (ownGauges subsystem) ↔
      ∃ series reading, Readings.ofBatch batch series = some reading ∧
        series.gauge subsystem reading = gauge := by
  rw [List.mem_append, List.mem_flatMap]
  constructor
  · rintro (htotal | ⟨summary, member, hown⟩)
    · obtain ⟨total, -, rfl⟩ := List.mem_map.mp htotal
      exact ⟨.ofTotal total, _, rfl, rfl⟩
    · obtain ⟨figure, rfl⟩ := (mem_ownGauges subsystem).mp hown
      refine ⟨.ofCronJob summary.ns summary.name figure, _, ?_, rfl⟩
      rw [Readings.ofBatch, (latest?_eq_some_iff distinct).mpr ⟨member, rfl⟩, Option.map_some]
  · rintro ⟨series, reading, hreading, rfl⟩
    cases series with
    | ofTotal total =>
        cases hreading
        exact .inl (List.mem_map.mpr ⟨total, by cases total <;> decide, rfl⟩)
    | ofCronJob ns cronJob figure =>
        obtain ⟨summary, hlatest, rfl⟩ := Option.map_eq_some_iff.mp hreading
        obtain ⟨member, hkey⟩ := (latest?_eq_some_iff distinct).mp hlatest
        cases hkey
        exact .inr ⟨summary, member, (mem_ownGauges subsystem).mpr ⟨figure, rfl⟩⟩

theorem nodup_gauges (distinct : (batch.map fun summary => (summary.ns, summary.name)).Nodup) :
    (totalGauges subsystem batch ++ batch.flatMap (ownGauges subsystem)).Nodup := by
  have hfigures : (batch.flatMap fun summary => figures (summary.ns, summary.name)).Nodup := by
    refine List.nodup_flatMap.mpr ⟨fun _ _ => nodup_figures _, ?_⟩
    refine (List.pairwise_map.mp distinct).imp fun {a b} hne series ha hb => hne ?_
    obtain ⟨figure, rfl⟩ := mem_figures_cases ha
    exact ofCronJob_mem_figures.mp hb
  have hseries : (Total.all.map Series.ofTotal ++
      batch.flatMap fun summary => figures (summary.ns, summary.name)).Nodup := by
    refine List.Nodup.append (by decide) hfigures fun series htotal hfigure => ?_
    obtain ⟨total, -, rfl⟩ := List.mem_map.mp htotal
    obtain ⟨summary, -, member⟩ := List.mem_flatMap.mp hfigure
    exact ofTotal_notMem_figures total _ member
  have hidentities : (totalGauges subsystem batch ++ batch.flatMap (ownGauges subsystem)).map
      Gauge.identity = (Total.all.map Series.ofTotal ++ batch.flatMap fun summary =>
        figures (summary.ns, summary.name)).map (Series.identity subsystem) := by
    rw [List.map_append, List.map_append, List.map_flatMap, List.map_flatMap]
    rfl
  exact List.Nodup.of_map Gauge.identity
    (hidentities ▸ hseries.map (Series.identity_injective subsystem))

end Gauges

theorem samples_totalGauges (subsystem : String) (batch : List CronJobSummary) :
    (totalGauges subsystem batch).flatMap Gauge.samples = totalSamples subsystem batch := by
  have hvalue : ∀ total : Total, total.value batch = (batch.map total.share).sum := by
    intro total
    rw [Total.value, List.sum_eq_foldr, List.foldr_map]
  have hregistered : (batch.map Total.registered.share).sum = batch.length := by
    have hone : batch.map Total.registered.share = batch.map fun _ => 1 := rfl
    rw [hone, List.map_const', List.sum_replicate_nat, Nat.mul_one]
  have hsamples : (totalGauges subsystem batch).flatMap Gauge.samples =
      Total.all.map fun total =>
        ⟨fullName subsystem total.name, SortedMap.empty, (batch.map total.share).sum⟩ := by
    simp only [← hvalue]
    rfl
  rw [hsamples, totalSamples, ← hregistered]
  rfl

theorem samples_durations (subsystem : String) {summary : CronJobSummary}
    (distinct : (summary.allRuns.map JobSummary.name).Nodup) :
    ((Series.ofCronJob summary.ns summary.name .durations).gauge subsystem
      (Figure.durations.reading summary)).samples.Perm
        (summary.allRuns.map (durationSample subsystem summary)) := by
  have hdistinct : ((summary.allRuns.map fun run => (run.name, Figure.duration run)).map
      Prod.fst).Nodup := by
    rwa [List.map_map]
  refine ((SortedMap.ofList_perm hdistinct).map _).trans (.of_eq ?_)
  rw [List.map_map]
  refine List.map_congr_left fun run _ => ?_
  simp only [Function.comp_apply, durationSample, Figure.duration, JobSummary.isRunning,
    decide_eq_true_eq]
  rfl

theorem samples_ownGauges (subsystem : String) {summary : CronJobSummary}
    (distinct : (summary.allRuns.map JobSummary.name).Nodup) :
    ((ownGauges subsystem summary).flatMap Gauge.samples).Perm (ownSamples subsystem summary) := by
  have hdurations := samples_durations subsystem distinct
  rw [← List.append_nil (Gauge.samples _)] at hdurations
  exact (hdurations.cons _).cons _

/-- The samples that a batch leaves behind, provided that no two of its cron jobs are the same and
none has two runs of one name. -/
theorem Holds.samples_perm {metrics : Metrics} {batch : List CronJobSummary}
    (holds : metrics.Holds (Readings.ofBatch batch))
    (distinct : (batch.map fun summary => (summary.ns, summary.name)).Nodup)
    (apart : ∀ summary ∈ batch, (summary.allRuns.map JobSummary.name).Nodup) :
    metrics.registry.samples.Perm (totalSamples metrics.subsystem batch ++
      batch.flatMap (ownSamples metrics.subsystem)) := by
  have hgauges := holds.registry.gauges_perm (nodup_gauges _ distinct) (mem_gauges_iff _ distinct)
  refine (hgauges.flatMap_right Gauge.samples).trans ?_
  rw [List.flatMap_append, samples_totalGauges, List.flatMap_assoc]
  exact (List.Perm.flatMap_left batch fun summary member =>
    samples_ownGauges _ (apart summary member)).append_left _

/-- After any earlier batches, the samples are those of the last one, each cron job's with its own
labels and figures, and none is taken for another. -/
theorem samples_observeAll (watched : Option String) (history : List (List CronJobSummary))
    (batch : List CronJobSummary)
    (distinct : (batch.map fun summary => (summary.ns, summary.name)).Nodup)
    (apart : ∀ summary ∈ batch, (summary.allRuns.map JobSummary.name).Nodup) :
    ∃ fresh after, Metrics.new watched = .ok fresh ∧
      fresh.observeAll (history ++ [batch]) = .ok after ∧
      after.registry.samples.Perm (totalSamples ((watched.map sanitize).getD "") batch ++
        batch.flatMap (ownSamples ((watched.map sanitize).getD ""))) ∧
      (after.registry.samples.map fun sample => (sample.name, sample.labels)).Nodup := by
  obtain ⟨fresh, hfresh, hholds, hsubsystem⟩ := holds_new watched
  obtain ⟨after, hafter, hlast, hsame⟩ := hholds.observeAll (history ++ [batch])
  rw [List.getLastD_concat] at hlast
  have hsamples := hlast.samples_perm distinct apart
  rw [hsame, hsubsystem] at hsamples
  exact ⟨fresh, after, hfresh, hafter, hsamples, hlast.registry.samples_apart⟩

/-- Two cron jobs whose names become the same, one of them in two namespaces. -/
def namesakes : List CronJobSummary :=
  [{ ns := "x", name := "a-b", allRuns := [{ name := "a-1", active := 1, durationSeconds := 5 },
      { name := "a-2", durationSeconds := 7, failed := true }] },
    { ns := "x", name := "a.b" }, { ns := "y", name := "a-b" }]

theorem samples_of_namesakes :
    sanitize "a-b" = sanitize "a.b" ∧ ∃ fresh after, Metrics.new none = .ok fresh ∧
      fresh.observeAll ([[{ ns := "x", name := "gone" }]] ++ [namesakes]) = .ok after ∧
      after.registry.samples.Perm
        (totalSamples "" namesakes ++ namesakes.flatMap (ownSamples "")) ∧
      (after.registry.samples.map fun sample => (sample.name, sample.labels)).Nodup :=
  ⟨by decide, samples_observeAll none [[{ ns := "x", name := "gone" }]] namesakes (by decide)
    (by decide)⟩

end RunMonitor.Metrics
