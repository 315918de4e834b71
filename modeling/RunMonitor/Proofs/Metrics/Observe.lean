import RunMonitor.Proofs.Metrics.Registry

namespace RunMonitor.Metrics

def latest? (batch : List CronJobSummary) (ns cronJob : String) : Option CronJobSummary :=
  batch.reverse.find? fun summary => (summary.ns, summary.name) = (ns, cronJob)

theorem latest?_cons (summary : CronJobSummary) (rest : List CronJobSummary) (ns cronJob : String) :
    latest? (summary :: rest) ns cronJob =
      (latest? rest ns cronJob).or (latest? [summary] ns cronJob) := by
  simp only [latest?, List.reverse_cons, List.find?_append]
  rfl

theorem latest?_singleton (summary : CronJobSummary) (ns cronJob : String) :
    latest? [summary] ns cronJob =
      if (summary.ns, summary.name) = (ns, cronJob) then some summary else none := by
  simp only [latest?, List.reverse_singleton, List.find?_singleton, decide_eq_true_eq]

theorem of_latest? {batch : List CronJobSummary} {ns cronJob : String} {summary : CronJobSummary}
    (h : latest? batch ns cronJob = some summary) :
    summary ∈ batch ∧ (summary.ns, summary.name) = (ns, cronJob) :=
  ⟨List.mem_reverse.mp (List.mem_of_find?_eq_some h), by simpa using List.find?_some h⟩

theorem isSome_latest? (batch : List CronJobSummary) (ns cronJob : String) :
    (latest? batch ns cronJob).isSome ↔
      (ns, cronJob) ∈ batch.map fun summary => (summary.ns, summary.name) := by
  simp [latest?, List.find?_isSome]

namespace Readings

def ofFigures (batch : List CronJobSummary) : Readings
  | .ofTotal _ => none
  | .ofCronJob ns cronJob figure => (latest? batch ns cronJob).map figure.reading

def ofBatch (batch : List CronJobSummary) : Readings
  | .ofTotal total => some (.single (total.value batch))
  | .ofCronJob ns cronJob figure => (latest? batch ns cronJob).map figure.reading

def atop (top readings : Readings) : Readings :=
  fun series => (top series).or (readings series)

theorem ofFigures_cons (summary : CronJobSummary) (rest : List CronJobSummary)
    (readings : Readings) :
    atop (ofFigures (summary :: rest)) readings =
      atop (ofFigures rest) (atop (ofFigures [summary]) readings) := by
  funext series
  cases series with
  | ofTotal total => rfl
  | ofCronJob ns cronJob figure =>
      simp only [atop, ofFigures, latest?_cons summary rest]
      cases latest? rest ns cronJob <;> rfl

end Readings

def figures (cronJob : String × String) : List Series :=
  Figure.all.map (.ofCronJob cronJob.1 cronJob.2)

theorem nodup_figures (cronJob : String × String) : (figures cronJob).Nodup :=
  List.Nodup.map (fun _ _ h => by cases h; rfl) (by decide)

theorem ofTotal_notMem_figures (total : Total) (cronJob : String × String) :
    .ofTotal total ∉ figures cronJob := by
  simp [figures]

theorem ofCronJob_notMem_totals (ns cronJob : String) (figure : Figure) :
    .ofCronJob ns cronJob figure ∉ Total.all.map Series.ofTotal := by
  simp

theorem ofCronJob_mem_figures {ns cronJob : String} {figure : Figure} {other : String × String} :
    .ofCronJob ns cronJob figure ∈ figures other ↔ (ns, cronJob) = other := by
  have hall : figure ∈ Figure.all := by cases figure <;> decide
  rw [figures, List.mem_map]
  constructor
  · rintro ⟨_, -, heq⟩
    cases heq
    rfl
  · rintro rfl
    exact ⟨figure, hall, rfl⟩

theorem mem_figures_cases {cronJob : String × String} {series : Series}
    (member : series ∈ figures cronJob) :
    ∃ figure, series = .ofCronJob cronJob.1 cronJob.2 figure := by
  obtain ⟨figure, -, rfl⟩ := List.mem_map.mp member
  exact ⟨figure, rfl⟩

theorem Readings.revise_figures_of (summary : CronJobSummary) (readings : Readings) :
    revise (figures (summary.ns, summary.name)) (ofFigures [summary]) readings =
      atop (ofFigures [summary]) readings := by
  funext series
  cases series with
  | ofTotal total => exact if_neg (ofTotal_notMem_figures total _)
  | ofCronJob ns cronJob figure =>
      simp only [revise, atop, ofFigures, latest?_singleton, ofCronJob_mem_figures,
        @eq_comm _ (ns, cronJob)]
      split <;> rfl

/-- The gauges of the totals are always there, and those of a cron job while it is tracked. -/
structure Holds (metrics : Metrics) (readings : Readings) : Prop where
  registry : metrics.registry.Holds metrics.subsystem readings
  totals : ∀ total, (readings (.ofTotal total)).isSome
  tracked : ∀ ns cronJob figure,
    (readings (.ofCronJob ns cronJob figure)).isSome ↔ (ns, cronJob) ∈ metrics.tracked
  nodup : metrics.tracked.Nodup

theorem holds_new (watched : Option String) :
    ∃ fresh, Metrics.new watched = .ok fresh ∧ fresh.Holds (Readings.ofBatch []) ∧
      fresh.subsystem = (watched.map sanitize).getD "" := by
  have hdistinct : (Total.all.map Series.ofTotal).Nodup := by decide
  obtain ⟨registry, hregister, hregistry⟩ :=
    (Registry.holds_empty ((watched.map sanitize).getD "")).registerAll hdistinct fun _ _ => rfl
  have hregister : registerAll {} (Total.all.map fun total =>
      { identity := total.identity ((watched.map sanitize).getD ""), help := total.help,
        reading := .single 0 }) = .ok registry := hregister
  have hreadings : Readings.revise (Total.all.map .ofTotal) (fun series => some series.blank)
      (fun _ => none) = Readings.ofBatch [] := by
    funext series
    cases series with
    | ofTotal total => cases total <;> rfl
    | ofCronJob ns cronJob figure => simp [Readings.revise, Readings.ofBatch, latest?]
  refine ⟨⟨(watched.map sanitize).getD "", registry, []⟩, ?_,
    ⟨hreadings ▸ hregistry, fun _ => rfl, fun _ _ _ => ?_, List.nodup_nil⟩, rfl⟩
  · simp only [Metrics.new, hregister]
    rfl
  · simp [Readings.ofBatch, latest?]

namespace Holds

variable {metrics : Metrics} {readings : Readings}

theorem isSome_figures (holds : metrics.Holds readings) {cronJob : String × String}
    {series : Series} (member : series ∈ figures cronJob) :
    (readings series).isSome ↔ cronJob ∈ metrics.tracked := by
  obtain ⟨figure, rfl⟩ := mem_figures_cases member
  exact holds.tracked cronJob.1 cronJob.2 figure

theorem track (holds : metrics.Holds readings) (ns cronJob : String) :
    ∃ next given, metrics.track ns cronJob = .ok next ∧ next.Holds given ∧
      next.subsystem = metrics.subsystem ∧ (ns, cronJob) ∈ next.tracked ∧
      ∀ series ∉ figures (ns, cronJob), given series = readings series := by
  by_cases hknown : (ns, cronJob) ∈ metrics.tracked
  · exact ⟨metrics, readings, if_pos hknown, holds, rfl, hknown, fun _ _ => rfl⟩
  · have habsent : ∀ series ∈ figures (ns, cronJob), readings series = none :=
      fun series member => Option.not_isSome_iff_eq_none.mp fun present =>
        hknown ((holds.isSome_figures member).mp present)
    obtain ⟨registry, hregister, hregistry⟩ :=
      holds.registry.registerAll (nodup_figures (ns, cronJob)) habsent
    have hregister : registerAll metrics.registry (Figure.all.map fun figure =>
        figure.gauge metrics.subsystem ns cronJob) = .ok registry := hregister
    refine ⟨⟨metrics.subsystem, registry, metrics.tracked ++ [(ns, cronJob)]⟩, _, ?_,
      ⟨hregistry, fun total => ?_, fun ns' cronJob' figure => ?_, ?_⟩, rfl,
      List.mem_append_right _ List.mem_cons_self, fun series absent => if_neg absent⟩
    · simp only [Metrics.track, if_neg hknown, hregister]
      rfl
    · rw [Readings.revise, if_neg (ofTotal_notMem_figures total (ns, cronJob))]
      exact holds.totals total
    · simp only [Readings.revise, List.mem_append, List.mem_singleton, ofCronJob_mem_figures,
        ← holds.tracked ns' cronJob' figure]
      split <;> simp_all
    · exact holds.nodup.append (List.nodup_singleton _) (by simpa using hknown)

theorem setFigures (holds : metrics.Holds readings) {summary : CronJobSummary}
    (known : (summary.ns, summary.name) ∈ metrics.tracked) :
    (metrics.setFigures summary).Holds
      (Readings.atop (Readings.ofFigures [summary]) readings) := by
  have hlatest : latest? [summary] summary.ns summary.name = some summary := by
    rw [latest?_singleton, if_pos rfl]
  have hregistry := holds.registry.setAll (Series.ofCronJob summary.ns summary.name)
    (Figure.reading summary) (Readings.ofFigures [summary]) Figure.all
    (fun figure _ => (holds.tracked _ _ figure).mpr known)
    (fun figure _ => by cases figure <;> rfl)
    fun figure _ => by simp only [Readings.ofFigures, hlatest, Option.map_some]
  refine ⟨Readings.revise_figures_of summary readings ▸ hregistry, holds.totals,
    fun ns cronJob figure => ?_, holds.nodup⟩
  simp only [Readings.atop, Readings.ofFigures, latest?_singleton]
  split
  case isTrue hkey => exact iff_of_true rfl (hkey ▸ known)
  case isFalse => exact holds.tracked ns cronJob figure

theorem observeEach (holds : metrics.Holds readings) (batch : List CronJobSummary) :
    ∃ next, metrics.observeEach batch = .ok next ∧
      next.Holds (Readings.atop (Readings.ofFigures batch) readings) ∧
      next.subsystem = metrics.subsystem := by
  induction batch generalizing metrics readings with
  | nil =>
      have hsame : Readings.atop (Readings.ofFigures []) readings = readings := by
        funext series
        cases series <;> rfl
      exact ⟨metrics, rfl, hsame.symm ▸ holds, rfl⟩
  | cons summary rest ih =>
      obtain ⟨first, given, htrack, hfirst, hsubsystem, hknown, hrest⟩ :=
        holds.track summary.ns summary.name
      obtain ⟨next, hnext, hholds, hsame⟩ := ih (hfirst.setFigures hknown)
      have hreadings : Readings.atop (Readings.ofFigures [summary]) given =
          Readings.atop (Readings.ofFigures [summary]) readings := by
        rw [← Readings.revise_figures_of, ← Readings.revise_figures_of]
        funext series
        simp only [Readings.revise]
        split
        case isTrue => rfl
        case isFalse habsent => exact hrest series habsent
      refine ⟨next, ?_, ?_, hsame.trans hsubsystem⟩
      · simp only [Metrics.observeEach, htrack]
        exact hnext
      · rwa [Readings.ofFigures_cons, ← hreadings]

theorem untrack (holds : metrics.Holds readings) {ns cronJob : String}
    (known : (ns, cronJob) ∈ metrics.tracked) :
    ∃ next, metrics.untrack ns cronJob = .ok next ∧
      next.Holds (Readings.revise (figures (ns, cronJob)) (fun _ => none) readings) ∧
      next.subsystem = metrics.subsystem ∧
      next.tracked = metrics.tracked.filter (· ≠ (ns, cronJob)) := by
  have hpresent : ∀ series ∈ figures (ns, cronJob), (readings series).isSome :=
    fun series member => (holds.isSome_figures member).mpr known
  obtain ⟨registry, hunregister, hregistry⟩ :=
    holds.registry.unregisterAll (nodup_figures (ns, cronJob)) hpresent
  have hunregister : unregisterAll metrics.registry (Figure.all.map fun figure =>
      figure.identity metrics.subsystem ns cronJob) = .ok registry := hunregister
  refine ⟨⟨metrics.subsystem, registry, metrics.tracked.filter (· ≠ (ns, cronJob))⟩, ?_,
    ⟨hregistry, fun total => ?_, fun ns' cronJob' figure => ?_, holds.nodup.filter _⟩, rfl, rfl⟩
  · simp only [Metrics.untrack, hunregister]
    rfl
  · rw [Readings.revise, if_neg (ofTotal_notMem_figures total (ns, cronJob))]
    exact holds.totals total
  · simp only [Readings.revise, List.mem_filter, ofCronJob_mem_figures,
      ← holds.tracked ns' cronJob' figure]
    split <;> simp_all

theorem untrackAll (holds : metrics.Holds readings) {gone : List (String × String)}
    (distinct : gone.Nodup) (known : ∀ cronJob ∈ gone, cronJob ∈ metrics.tracked) :
    ∃ next, metrics.untrackAll gone = .ok next ∧
      next.Holds (Readings.revise (gone.flatMap figures) (fun _ => none) readings) ∧
      next.subsystem = metrics.subsystem := by
  induction gone generalizing metrics readings with
  | nil => exact ⟨metrics, rfl, holds, rfl⟩
  | cons cronJob rest ih =>
      obtain ⟨hnew, hrest⟩ := List.nodup_cons.mp distinct
      obtain ⟨first, huntrack, hfirst, hsubsystem, htracked⟩ :=
        holds.untrack (known cronJob List.mem_cons_self)
      obtain ⟨next, hnext, hholds, hsame⟩ := ih hfirst hrest fun other member => by
        rw [htracked, List.mem_filter, decide_eq_true_iff]
        exact ⟨known other (List.mem_cons_of_mem _ member), ne_of_mem_of_not_mem member hnew⟩
      refine ⟨next, ?_, ?_, hsame.trans hsubsystem⟩
      · simp only [Metrics.untrackAll, huntrack]
        exact hnext
      · rwa [List.flatMap_cons, Readings.revise_append]

theorem setTotals (holds : metrics.Holds readings) (batch : List CronJobSummary) :
    (metrics.setTotals batch).Holds
      (Readings.revise (Total.all.map .ofTotal) (Readings.ofBatch batch) readings) := by
  have hregistry := holds.registry.setAll Series.ofTotal
    (fun total => .single (total.value batch)) (Readings.ofBatch batch) Total.all
    (fun total _ => holds.totals total) (fun _ _ => rfl) fun _ _ => rfl
  refine ⟨hregistry, fun total => ?_, fun ns cronJob figure => ?_, holds.nodup⟩
  · cases total <;> rfl
  · rw [Readings.revise, if_neg (ofCronJob_notMem_totals ns cronJob figure)]
    exact holds.tracked ns cronJob figure

theorem observe (holds : metrics.Holds readings) (batch : List CronJobSummary) :
    ∃ next, metrics.observe batch = .ok next ∧ next.Holds (Readings.ofBatch batch) ∧
      next.subsystem = metrics.subsystem := by
  obtain ⟨first, heach, hfirst, hsubsystem⟩ := holds.observeEach batch
  let seen := batch.map fun summary => (summary.ns, summary.name)
  let gone := first.tracked.filter (· ∉ seen)
  have hdistinct : gone.Nodup := hfirst.nodup.filter _
  obtain ⟨second, huntrack, hsecond, hsame⟩ :=
    hfirst.untrackAll hdistinct fun _ member => List.mem_of_mem_filter member
  have hgone : ∀ ns cronJob figure, .ofCronJob ns cronJob figure ∈ gone.flatMap figures ↔
      (ns, cronJob) ∈ first.tracked ∧ latest? batch ns cronJob = none := by
    intro ns cronJob figure
    simp only [List.mem_flatMap, ofCronJob_mem_figures, exists_eq_right', gone, seen,
      List.mem_filter, decide_eq_true_iff, ← isSome_latest?, Option.not_isSome_iff_eq_none]
  have hreadings : Readings.revise (Total.all.map .ofTotal) (Readings.ofBatch batch)
      (Readings.revise (gone.flatMap figures) (fun _ => none)
        (Readings.atop (Readings.ofFigures batch) readings)) = Readings.ofBatch batch := by
    funext series
    cases series with
    | ofTotal total => cases total <;> rfl
    | ofCronJob ns cronJob figure =>
        have htracked := hfirst.tracked ns cronJob figure
        rw [Readings.revise, if_neg (ofCronJob_notMem_totals ns cronJob figure), Readings.revise]
        simp only [hgone, ← htracked, Readings.atop, Readings.ofFigures, Readings.ofBatch]
        cases latest? batch ns cronJob with
        | some summary => simp
        | none =>
            cases readings (.ofCronJob ns cronJob figure) <;> simp
  refine ⟨second.setTotals batch, ?_, hreadings ▸ hsecond.setTotals batch, hsame.trans hsubsystem⟩
  simp only [Metrics.observe, heach]
  exact congrArg (· >>= fun metrics => pure (metrics.setTotals batch)) huntrack

end Holds

/-- The metrics after one batch and another. -/
def observeAll (metrics : Metrics) (batches : List (List CronJobSummary)) : Except Error Metrics :=
  batches.foldlM (fun metrics batch => metrics.observe batch) metrics

theorem Holds.observeAll {metrics : Metrics} {before : List CronJobSummary}
    (holds : metrics.Holds (Readings.ofBatch before)) (batches : List (List CronJobSummary)) :
    ∃ after, metrics.observeAll batches = .ok after ∧
      after.Holds (Readings.ofBatch (batches.getLastD before)) ∧
      after.subsystem = metrics.subsystem := by
  induction batches generalizing metrics before with
  | nil => exact ⟨metrics, rfl, holds, rfl⟩
  | cons batch rest ih =>
      obtain ⟨next, hnext, hholds, hsubsystem⟩ := holds.observe batch
      obtain ⟨after, hafter, hlast, hsame⟩ := ih hholds
      refine ⟨after, ?_, ?_, hsame.trans hsubsystem⟩
      · simp only [Metrics.observeAll, List.foldlM_cons, hnext]
        exact hafter
      · rwa [List.getLastD_cons]

end RunMonitor.Metrics
