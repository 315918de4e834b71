import RunMonitor.Proofs.Metrics.Observe

namespace RunMonitor.Metrics

/-! In which order gauges were registered does not show in the text. -/

namespace Series

variable {subsystem : String} {series : Series} {reading : Reading}

theorem sample_name {sample : Sample}
    (member : sample ∈ (series.gauge subsystem reading).samples) :
    sample.name = (series.identity subsystem).name := by
  cases reading with
  | single value => rw [List.mem_singleton.mp member]; rfl
  | perLabel label values =>
      obtain ⟨entry, -, rfl⟩ := List.mem_map.mp member
      rfl

theorem eq_of_takes_perLabel {label : String} {values : SortedMap Int}
    (fits : series.Takes (.perLabel label values)) :
    ∃ ns cronJob, series = .ofCronJob ns cronJob .durations ∧ label = "job_name" := by
  cases series with
  | ofTotal total => cases fits
  | ofCronJob ns cronJob figure =>
      cases figure with
      | completions => cases fits
      | failures => cases fits
      | durations => exact ⟨ns, cronJob, rfl, (List.cons.inj fits).1⟩

theorem sample_labels {ns cronJob : String} {figure : Figure} {sample : Sample}
    (fits : (Series.ofCronJob ns cronJob figure).Takes reading)
    (member : sample ∈ ((Series.ofCronJob ns cronJob figure).gauge subsystem reading).samples) :
    ∃ further, sample.labels.values = cronJob :: further ++ [ns] := by
  cases reading with
  | single value =>
      obtain rfl := List.mem_singleton.mp member
      exact ⟨[], rfl⟩
  | perLabel label values =>
      obtain ⟨⟨run, value⟩, -, rfl⟩ := List.mem_map.mp member
      obtain ⟨_, _, hseries, rfl⟩ := eq_of_takes_perLabel fits
      cases hseries
      exact ⟨[run], rfl⟩

theorem eq_of_samples {other : Series} {reading' : Reading} {a b : Sample}
    (fits : series.Takes reading) (fits' : other.Takes reading')
    (ha : a ∈ (series.gauge subsystem reading).samples)
    (hb : b ∈ (other.gauge subsystem reading').samples)
    (hname : a.name = b.name) (hlabels : a.labels.values = b.labels.values) : series = other := by
  rw [sample_name ha, sample_name hb] at hname
  rcases namesakes hname with
    ⟨total, rfl, rfl⟩ | ⟨ns, ns', cronJob, cronJob', figure, rfl, rfl, -⟩
  · rfl
  · obtain ⟨further, ha⟩ := sample_labels fits ha
    obtain ⟨further', hb⟩ := sample_labels fits' hb
    rw [ha, hb] at hlabels
    obtain ⟨hfirst, hlast⟩ := List.append_inj' hlabels rfl
    cases hlast
    rw [(List.cons.inj hfirst).1]

theorem sample_eq {a b : Sample} (fits : series.Takes reading)
    (ha : a ∈ (series.gauge subsystem reading).samples)
    (hb : b ∈ (series.gauge subsystem reading).samples)
    (hlabels : a.labels.values = b.labels.values) : a = b := by
  cases reading with
  | single value => exact (List.mem_singleton.mp ha).trans (List.mem_singleton.mp hb).symm
  | perLabel label values =>
      obtain ⟨⟨run, value⟩, hrun, rfl⟩ := List.mem_map.mp ha
      obtain ⟨⟨run', value'⟩, hrun', rfl⟩ := List.mem_map.mp hb
      obtain ⟨ns, cronJob, rfl, rfl⟩ := eq_of_takes_perLabel fits
      have hruns : [cronJob, run, ns] = [cronJob, run', ns] := hlabels
      obtain rfl : run = run' := by simpa using hruns
      rw [SortedMap.mem_entries_iff] at hrun hrun'
      rw [Option.some.inj (hrun.symm.trans hrun')]

theorem nodup_samples (series : Series) : (series.gauge subsystem reading).samples.Nodup := by
  cases reading with
  | single value => exact List.nodup_singleton _
  | perLabel label values =>
      refine values.nodup_entries.map fun e e' h => ?_
      obtain ⟨-, hlabels, hvalue⟩ := Sample.mk.inj h
      have hfind := congrArg (SortedMap.find? · label) hlabels
      simp only [SortedMap.find?_insert_self, Option.some.injEq] at hfind
      exact Prod.ext hfind hvalue

end Series

namespace Registry

theorem inOrder_cons {a b : String} {as bs : List String} :
    inOrder (a :: as) (b :: bs) = true ↔ a < b ∨ a = b ∧ inOrder as bs = true := by
  simp only [inOrder, Bool.or_eq_true, Bool.and_eq_true, decide_eq_true_eq]

theorem inOrder_total (as bs : List String) : inOrder as bs = true ∨ inOrder bs as = true := by
  induction as generalizing bs with
  | nil => exact .inl rfl
  | cons a as ih =>
      cases bs with
      | nil => exact .inr rfl
      | cons b bs =>
          rw [inOrder_cons, inOrder_cons]
          by_cases hlt : a < b
          · exact .inl (.inl hlt)
          · by_cases heq : a = b
            · subst heq
              exact (ih bs).imp (fun h => .inr ⟨rfl, h⟩) fun h => .inr ⟨rfl, h⟩
            · have hgt : b < a := String.not_le.mp fun hle =>
                heq (String.le_antisymm hle (String.not_lt.mp hlt))
              exact .inr (.inl hgt)

theorem inOrder_trans {as bs cs : List String} (h : inOrder as bs = true)
    (h' : inOrder bs cs = true) : inOrder as cs = true := by
  induction as generalizing bs cs with
  | nil => rfl
  | cons a as ih =>
      match bs, cs with
      | b :: bs, c :: cs =>
          rw [inOrder_cons] at h h' ⊢
          rcases h with hlt | ⟨rfl, h⟩
          · rcases h' with hlt' | ⟨rfl, -⟩
            · exact .inl (String.lt_trans hlt hlt')
            · exact .inl hlt
          · exact h'.imp_right fun h' => ⟨h'.1, ih h h'.2⟩

theorem inOrder_antisymm {as bs : List String} (h : inOrder as bs = true)
    (h' : inOrder bs as = true) : as = bs := by
  induction as generalizing bs with
  | nil =>
      cases bs with
      | nil => rfl
      | cons b bs => cases h'
  | cons a as ih =>
      match bs with
      | b :: bs =>
          rw [inOrder_cons] at h h'
          rcases h with hlt | ⟨rfl, h⟩
          · rcases h' with hlt' | ⟨rfl, -⟩
            · exact absurd (String.lt_trans hlt hlt') (String.lt_irrefl a)
            · exact absurd hlt (String.lt_irrefl b)
          · rcases h' with hlt' | ⟨-, h'⟩
            · exact absurd hlt' (String.lt_irrefl a)
            · rw [ih h h']

theorem pairwise_sortSamples (samples : List Sample) :
    (sortSamples samples).Pairwise fun a b => inOrder a.labels.values b.labels.values = true := by
  refine List.pairwise_mergeSort ?_ ?_ samples
  · exact fun _ _ _ hab hbc => inOrder_trans hab hbc
  · exact fun _ _ => Bool.or_eq_true_iff.mpr (inOrder_total _ _)

theorem sortSamples_eq_of_perm {samples others : List Sample} (hperm : samples.Perm others)
    (apart : ∀ a ∈ samples, ∀ b ∈ samples, a.labels.values = b.labels.values → a = b) :
    sortSamples samples = sortSamples others := by
  have hsorted := List.mergeSort_perm samples fun a b => inOrder a.labels.values b.labels.values
  have hothers := List.mergeSort_perm others fun a b => inOrder a.labels.values b.labels.values
  refine ((hsorted.trans hperm).trans hothers.symm).eq_of_pairwise ?_
    (pairwise_sortSamples samples) (pairwise_sortSamples others)
  intro a b ha hb hab hba
  exact apart a (hsorted.mem_iff.mp ha) b (hperm.mem_iff.mpr (hothers.mem_iff.mp hb))
    (inOrder_antisymm hab hba)

theorem find?_families (registry : Registry) (name : String) :
    registry.families.find? name =
      if registry.samples.filter (·.name = name) = [] then none
      else some (registry.samples.filter (·.name = name)) := by
  have hpush := SortedMap.find?_foldl_push (fun sample : Sample => some sample.name)
    (fun families sample => families.push sample.name sample) (fun _ _ => rfl)
    registry.samples SortedMap.empty name
  simp only [Option.some.injEq, SortedMap.find?_empty, Option.getD_none, List.nil_append] at hpush
  exact hpush

theorem lines_eq (registry : Registry) :
    registry.lines = (registry.families.mapValues sortSamples).entries.flatMap fun family =>
      let help := ((registry.shapes.find? family.1).map Shape.help).getD ""
      ("# HELP " ++ family.1 ++ " " ++ help) :: ("# TYPE " ++ family.1 ++ " gauge") ::
        family.2.map sampleLine := by
  rw [Registry.lines, SortedMap.mapValues, List.flatMap_map]
  rfl

variable {registry other : Registry} {subsystem : String} {readings : Readings}

namespace Holds

theorem gauges_perm (holds : registry.Holds subsystem readings) {gauges : List Gauge}
    (distinct : gauges.Nodup) (mem_gauges : ∀ gauge, gauge ∈ gauges ↔
      ∃ series reading, readings series = some reading ∧ series.gauge subsystem reading = gauge) :
    registry.gauges.Perm gauges := by
  refine (List.perm_ext_iff_of_nodup (List.Nodup.of_map _ holds.shows.nodup) distinct).mpr ?_
  exact fun gauge => (holds.shows.mem_iff gauge).trans (mem_gauges gauge).symm

theorem samples_perm (holds : registry.Holds subsystem readings)
    (also : other.Holds subsystem readings) : registry.samples.Perm other.samples :=
  (holds.gauges_perm (List.Nodup.of_map _ also.shows.nodup) also.shows.mem_iff).flatMap_right _

theorem mem_samples (holds : registry.Holds subsystem readings) {sample : Sample} :
    sample ∈ registry.samples ↔ ∃ series reading, readings series = some reading ∧
      sample ∈ (series.gauge subsystem reading).samples := by
  rw [Registry.samples, List.mem_flatMap]
  constructor
  · rintro ⟨gauge, hgauge, member⟩
    obtain ⟨series, reading, hreading, rfl⟩ := (holds.shows.mem_iff gauge).mp hgauge
    exact ⟨series, reading, hreading, member⟩
  · rintro ⟨series, reading, hreading, member⟩
    exact ⟨_, (holds.shows.mem_iff _).mpr ⟨series, reading, hreading, rfl⟩, member⟩

theorem sample_eq (holds : registry.Holds subsystem readings) {a b : Sample}
    (ha : a ∈ registry.samples) (hb : b ∈ registry.samples) (hname : a.name = b.name)
    (hlabels : a.labels.values = b.labels.values) : a = b := by
  obtain ⟨series, reading, hreading, ha⟩ := holds.mem_samples.mp ha
  obtain ⟨series', reading', hreading', hb⟩ := holds.mem_samples.mp hb
  have fits := holds.fit series reading hreading
  obtain rfl := Series.eq_of_samples fits (holds.fit series' reading' hreading') ha hb hname
    hlabels
  cases hreading.symm.trans hreading'
  exact Series.sample_eq fits ha hb hlabels

theorem samples_apart (holds : registry.Holds subsystem readings) :
    (registry.samples.map fun sample => (sample.name, sample.labels)).Nodup := by
  rw [Registry.samples, List.map_flatMap, List.nodup_flatMap]
  refine ⟨fun gauge member => ?_, ?_⟩
  · obtain ⟨series, reading, hreading, rfl⟩ := (holds.shows.mem_iff gauge).mp member
    refine series.nodup_samples.map_on fun a ha b hb heq => ?_
    exact Series.sample_eq (holds.fit series reading hreading) ha hb
      (congrArg SortedMap.values (Prod.mk.inj heq).2)
  · have distinct := List.Nodup.of_map _ holds.shows.nodup
    refine distinct.imp_of_mem fun {g g'} hg hg' hne key hkey hkey' => ?_
    obtain ⟨series, reading, hreading, rfl⟩ := (holds.shows.mem_iff g).mp hg
    obtain ⟨series', reading', hreading', rfl⟩ := (holds.shows.mem_iff g').mp hg'
    obtain ⟨a, ha, rfl⟩ := List.mem_map.mp hkey
    obtain ⟨b, hb, hb'⟩ := List.mem_map.mp hkey'
    obtain ⟨hname, hlabels⟩ := Prod.mk.inj hb'
    obtain rfl := Series.eq_of_samples (holds.fit series reading hreading)
      (holds.fit series' reading' hreading') ha hb hname.symm
      (congrArg SortedMap.values hlabels.symm)
    exact hne (by rw [Option.some.inj (hreading.symm.trans hreading')])

theorem families_eq (holds : registry.Holds subsystem readings)
    (also : other.Holds subsystem readings) :
    registry.families.mapValues sortSamples = other.families.mapValues sortSamples := by
  refine SortedMap.ext_find? fun name => ?_
  have hperm := (holds.samples_perm also).filter (·.name = name)
  have hsort := sortSamples_eq_of_perm hperm fun a ha b hb hlabels => by
    obtain ⟨ha, haname⟩ := List.mem_filter.mp ha
    obtain ⟨hb, hbname⟩ := List.mem_filter.mp hb
    exact holds.sample_eq ha hb
      ((of_decide_eq_true haname).trans (of_decide_eq_true hbname).symm) hlabels
  have hnil : registry.samples.filter (·.name = name) = [] ↔
      other.samples.filter (·.name = name) = [] := by
    rw [← List.length_eq_zero_iff, hperm.length_eq, List.length_eq_zero_iff]
  rw [SortedMap.find?_mapValues, SortedMap.find?_mapValues, find?_families, find?_families]
  simp only [hnil]
  split
  · rfl
  · rw [Option.map_some, Option.map_some, hsort]

/-- A name with samples has the help of its series, whichever was registered first. -/
theorem find?_shapes_eq (holds : registry.Holds subsystem readings)
    (also : other.Holds subsystem readings) {name : String}
    (present : (registry.families.find? name).isSome) :
    registry.shapes.find? name = other.shapes.find? name := by
  rw [find?_families] at present
  have hsome : registry.samples.filter (·.name = name) ≠ [] := fun hnil => by
    rw [if_pos hnil] at present
    cases present
  obtain ⟨sample, hsample⟩ := List.exists_mem_of_ne_nil _ hsome
  obtain ⟨member, hname⟩ := List.mem_filter.mp hsample
  obtain ⟨series, reading, hreading, hseries⟩ := holds.mem_samples.mp member
  obtain rfl := (Series.sample_name hseries).symm.trans (of_decide_eq_true hname)
  rw [holds.shaped.find?_eq hreading, also.shaped.find?_eq hreading]

theorem text_eq (holds : registry.Holds subsystem readings)
    (also : other.Holds subsystem readings) : registry.text = other.text := by
  have hlines : registry.lines = other.lines := by
    rw [lines_eq, lines_eq, ← holds.families_eq also]
    refine List.flatMap_congr fun family member => ?_
    have hfind := (SortedMap.mem_entries_iff _).mp member
    rw [SortedMap.find?_mapValues] at hfind
    have hpresent : (registry.families.find? family.1).isSome := by
      rw [← Option.isSome_map, hfind]
      rfl
    rw [holds.find?_shapes_eq also hpresent]
  rw [Registry.text, Registry.text, hlines]

end Holds
end Registry

/-- What the metrics publish depends on the last batch only: after any others, the text is the one
of metrics that have observed nothing else. No observation ever fails. -/
theorem text_observeAll (watched : Option String) (batches : List (List CronJobSummary))
    (last : List CronJobSummary) :
    ∃ fresh after only, Metrics.new watched = .ok fresh ∧
      fresh.observeAll (batches ++ [last]) = .ok after ∧ fresh.observe last = .ok only ∧
      after.text = only.text := by
  obtain ⟨fresh, hfresh, hholds, -⟩ := holds_new watched
  obtain ⟨after, hafter, hlast, hsubsystem⟩ := hholds.observeAll (batches ++ [last])
  obtain ⟨only, honly, hsame, hsubsystem'⟩ := hholds.observe last
  rw [List.getLastD_concat] at hlast
  refine ⟨fresh, after, only, hfresh, hafter, honly, ?_⟩
  have hregistry := hlast.registry
  rw [hsubsystem, ← hsubsystem'] at hregistry
  exact hregistry.text_eq hsame.registry

end RunMonitor.Metrics
