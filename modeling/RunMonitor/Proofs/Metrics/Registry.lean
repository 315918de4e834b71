import RunMonitor.Proofs.Metrics.Series
import RunMonitor.Proofs.SortedMap
import Mathlib.Data.List.Nodup
import Mathlib.Logic.Function.Basic

namespace RunMonitor.Metrics

/-! Whatever has been registered and withdrawn before, no absent series is refused. -/

/-- There is a reading for each series that is registered. -/
abbrev Readings := Series → Option Reading

namespace Readings

theorem update_eq_some_iff {readings : Readings} {series other : Series} {value : Option Reading}
    {reading : Reading} : Function.update readings series value other = some reading ↔
      other = series ∧ value = some reading ∨ other ≠ series ∧ readings other = some reading := by
  rw [Function.update_apply]
  split <;> simp_all

def revise (list : List Series) (value readings : Readings) : Readings :=
  fun series => if series ∈ list then value series else readings series

theorem revise_cons (series : Series) (rest : List Series) (value readings : Readings) :
    revise (series :: rest) value readings =
      revise rest value (Function.update readings series (value series)) := by
  funext other
  by_cases hother : other = series
  · subst hother
    simp [revise]
  · simp [revise, hother]

theorem revise_append (earlier later : List Series) (value readings : Readings) :
    revise (earlier ++ later) value readings =
      revise later value (revise earlier value readings) := by
  funext series
  by_cases hlater : series ∈ later <;> simp [revise, hlater]

/-- Each reading has the labels that its series was registered with. -/
def Fit (readings : Readings) : Prop :=
  ∀ series reading, readings series = some reading → series.Takes reading

theorem Fit.update {readings : Readings} (fit : readings.Fit) {series : Series}
    {value : Option Reading} (fits : ∀ reading, value = some reading → series.Takes reading) :
    Fit (Function.update readings series value) := by
  intro other reading given
  rcases update_eq_some_iff.mp given with ⟨rfl, hvalue⟩ | ⟨-, hreading⟩
  · exact fits reading hvalue
  · exact fit other reading hreading

end Readings

namespace Registry

variable {gauges : List Gauge} {shapes : SortedMap Shape} {subsystem : String}
  {readings : Readings} {series : Series}

/-- There is one gauge for each reading, and no other. -/
structure Shows (gauges : List Gauge) (subsystem : String) (readings : Readings) : Prop where
  nodup : (gauges.map Gauge.identity).Nodup
  mem_iff : ∀ gauge, gauge ∈ gauges ↔
    ∃ series reading, readings series = some reading ∧ series.gauge subsystem reading = gauge

namespace Shows

theorem identity_mem_iff (shows : Shows gauges subsystem readings) (series : Series) :
    series.identity subsystem ∈ gauges.map Gauge.identity ↔ (readings series).isSome := by
  rw [List.mem_map, Option.isSome_iff_exists]
  constructor
  · rintro ⟨gauge, member, hidentity⟩
    obtain ⟨other, reading, hreading, rfl⟩ := (shows.mem_iff gauge).mp member
    obtain rfl := Series.identity_injective subsystem hidentity
    exact ⟨reading, hreading⟩
  · rintro ⟨reading, hreading⟩
    exact ⟨_, (shows.mem_iff _).mpr ⟨series, reading, hreading, rfl⟩, rfl⟩

theorem append (shows : Shows gauges subsystem readings) (absent : readings series = none)
    (reading : Reading) :
    Shows (gauges ++ [series.gauge subsystem reading]) subsystem
      (Function.update readings series (some reading)) where
  nodup := by
    have hnew : series.identity subsystem ∉ gauges.map Gauge.identity := by
      rw [shows.identity_mem_iff, absent]
      exact Bool.false_ne_true
    rw [List.map_append]
    exact shows.nodup.append (List.nodup_singleton _) (List.disjoint_singleton.mpr hnew)
  mem_iff gauge := by
    simp only [List.mem_append, List.mem_singleton, shows.mem_iff, Readings.update_eq_some_iff]
    constructor
    · rintro (⟨other, value, hvalue, rfl⟩ | rfl)
      · have hne : other ≠ series := by
          rintro rfl
          cases absent.symm.trans hvalue
        exact ⟨other, value, .inr ⟨hne, hvalue⟩, rfl⟩
      · exact ⟨series, reading, .inl ⟨rfl, rfl⟩, rfl⟩
    · rintro ⟨other, value, ⟨rfl, hvalue⟩ | ⟨-, hvalue⟩, rfl⟩
      · cases hvalue
        exact .inr rfl
      · exact .inl ⟨other, value, hvalue, rfl⟩

theorem erase (shows : Shows gauges subsystem readings) (series : Series) :
    Shows (gauges.filter fun gauge => gauge.identity ≠ series.identity subsystem) subsystem
      (Function.update readings series none) where
  nodup := shows.nodup.sublist (List.filter_sublist.map _)
  mem_iff gauge := by
    simp only [List.mem_filter, decide_eq_true_eq, shows.mem_iff, Readings.update_eq_some_iff]
    constructor
    · rintro ⟨⟨other, reading, hreading, rfl⟩, hidentity⟩
      have hne : other ≠ series := fun heq =>
        hidentity (congrArg (Series.identity subsystem) heq)
      exact ⟨other, reading, .inr ⟨hne, hreading⟩, rfl⟩
    · rintro ⟨other, reading, ⟨-, hnone⟩ | ⟨hne, hreading⟩, rfl⟩
      · cases hnone
      · exact ⟨⟨other, reading, hreading, rfl⟩,
          fun heq => hne (Series.identity_injective subsystem heq)⟩

theorem replace (shows : Shows gauges subsystem readings) (present : (readings series).isSome)
    (reading : Reading) :
    Shows (gauges.map fun gauge =>
        if gauge.identity = series.identity subsystem then { gauge with reading := reading }
        else gauge) subsystem (Function.update readings series (some reading)) where
  nodup := by
    rw [List.map_map]
    refine (congrArg List.Nodup (List.map_congr_left fun gauge _ => ?_)).mp shows.nodup
    simp only [Function.comp_apply]
    split <;> rfl
  mem_iff gauge := by
    obtain ⟨former, hformer⟩ := Option.isSome_iff_exists.mp present
    simp only [List.mem_map, shows.mem_iff, Readings.update_eq_some_iff]
    constructor
    · rintro ⟨_, ⟨other, value, hvalue, rfl⟩, rfl⟩
      split
      case isTrue hidentity =>
        obtain rfl := Series.identity_injective subsystem hidentity
        exact ⟨other, reading, .inl ⟨rfl, rfl⟩, rfl⟩
      case isFalse hidentity =>
        have hne : other ≠ series := fun heq =>
          hidentity (congrArg (Series.identity subsystem) heq)
        exact ⟨other, value, .inr ⟨hne, hvalue⟩, rfl⟩
    · rintro ⟨other, value, ⟨rfl, hvalue⟩ | ⟨hne, hvalue⟩, rfl⟩
      · cases hvalue
        exact ⟨_, ⟨other, former, hformer, rfl⟩, if_pos rfl⟩
      · exact ⟨_, ⟨other, value, hvalue, rfl⟩,
          if_neg fun heq => hne (Series.identity_injective subsystem heq)⟩

end Shows

/-- No name has another shape than that of its series, and those that have readings have one. -/
structure Shaped (shapes : SortedMap Shape) (subsystem : String) (readings : Readings) : Prop where
  sound : ∀ name shape, shapes.find? name = some shape →
    ∃ series : Series, (series.identity subsystem).name = name ∧ series.shape = shape
  present : ∀ series, (readings series).isSome →
    (shapes.find? (series.identity subsystem).name).isSome

namespace Shaped

theorem shape_eq (shaped : Shaped shapes subsystem readings) {shape : Shape}
    (found : shapes.find? (series.identity subsystem).name = some shape) :
    shape = series.shape := by
  obtain ⟨other, hname, rfl⟩ := shaped.sound _ _ found
  exact Series.shape_eq_of_name hname

theorem find?_eq (shaped : Shaped shapes subsystem readings) {reading : Reading}
    (given : readings series = some reading) :
    shapes.find? (series.identity subsystem).name = some series.shape := by
  obtain ⟨shape, found⟩ := Option.isSome_iff_exists.mp (shaped.present series (by rw [given]; rfl))
  rw [found, shaped.shape_eq found]

theorem insert (shaped : Shaped shapes subsystem readings) (series : Series)
    (value : Option Reading) :
    Shaped (shapes.insert (series.identity subsystem).name series.shape) subsystem
      (Function.update readings series value) where
  sound name shape found := by
    rw [SortedMap.find?_insert] at found
    split at found
    case isTrue hname =>
      cases found
      exact ⟨series, hname.symm, rfl⟩
    case isFalse => exact shaped.sound name shape found
  present other given := by
    rw [SortedMap.find?_insert]
    split
    case isTrue => rfl
    case isFalse hname =>
      rw [Function.update_of_ne (fun heq => hname (by rw [heq]))] at given
      exact shaped.present other given

theorem update (shaped : Shaped shapes subsystem readings) {value : Option Reading}
    (hvalue : value.isSome → (readings series).isSome) :
    Shaped shapes subsystem (Function.update readings series value) where
  sound := shaped.sound
  present other given := by
    rw [Function.update_apply] at given
    split at given
    case isTrue hother => exact shaped.present other (hother ▸ hvalue given)
    case isFalse => exact shaped.present other given

end Shaped

structure Holds (registry : Registry) (subsystem : String) (readings : Readings) : Prop where
  shows : Shows registry.gauges subsystem readings
  shaped : Shaped registry.shapes subsystem readings
  fit : readings.Fit

variable {registry : Registry}

theorem holds_empty (subsystem : String) : ({} : Registry).Holds subsystem fun _ => none where
  shows := ⟨List.nodup_nil, fun gauge => by simp⟩
  shaped := ⟨fun _ _ found => (by cases found), fun _ given => (by cases given)⟩
  fit _ _ given := by cases given

namespace Holds

theorem isRegistered (holds : registry.Holds subsystem readings) (series : Series) :
    registry.isRegistered (series.identity subsystem) = (readings series).isSome := by
  rw [Bool.eq_iff_iff, ← holds.shows.identity_mem_iff, Registry.isRegistered, List.any_eq_true,
    List.mem_map]
  simp only [decide_eq_true_eq]

theorem register (holds : registry.Holds subsystem readings) (absent : readings series = none) :
    ∃ next, registry.register (series.gauge subsystem series.blank) = .ok next ∧
      next.Holds subsystem (Function.update readings series (some series.blank)) := by
  have hnew : ¬ registry.isRegistered (series.identity subsystem) = true := by
    rw [holds.isRegistered, absent]
    exact Bool.false_ne_true
  have hshape : (series.gauge subsystem series.blank).shape = series.shape :=
    Series.shape_gauge series.takes_blank subsystem
  have hfits : (registry.shapes.find? (series.identity subsystem).name).getD series.shape =
      series.shape := by
    cases found : registry.shapes.find? (series.identity subsystem).name with
    | none => rfl
    | some shape => exact holds.shaped.shape_eq found
  refine ⟨⟨registry.gauges ++ [series.gauge subsystem series.blank],
    registry.shapes.insert (series.identity subsystem).name series.shape⟩, ?_,
    holds.shows.append absent series.blank, holds.shaped.insert series _,
    holds.fit.update fun reading hreading => Option.some.inj hreading ▸ series.takes_blank⟩
  rw [← hshape] at hfits ⊢
  exact (if_neg hnew).trans (if_neg (not_not_intro hfits))

theorem unregister (holds : registry.Holds subsystem readings)
    (present : (readings series).isSome) :
    ∃ next, registry.unregister (series.identity subsystem) = .ok next ∧
      next.Holds subsystem (Function.update readings series none) := by
  have hregistered : registry.isRegistered (series.identity subsystem) = true := by
    rwa [holds.isRegistered]
  exact ⟨_, if_pos hregistered, holds.shows.erase series, holds.shaped.update fun _ => present,
    holds.fit.update fun _ hnone => by cases hnone⟩

theorem set (holds : registry.Holds subsystem readings) (present : (readings series).isSome)
    {reading : Reading} (fits : series.Takes reading) :
    (registry.set (series.identity subsystem) reading).Holds subsystem
      (Function.update readings series (some reading)) where
  shows := holds.shows.replace present reading
  shaped := holds.shaped.update fun _ => present
  fit := holds.fit.update fun _ hvalue => Option.some.inj hvalue ▸ fits

theorem registerAll {list : List Series} (distinct : list.Nodup)
    (holds : registry.Holds subsystem readings) (absent : ∀ series ∈ list, readings series = none) :
    ∃ next, Metrics.registerAll registry
        (list.map fun series => series.gauge subsystem series.blank) = .ok next ∧
      next.Holds subsystem (Readings.revise list (fun series => some series.blank) readings) := by
  induction list generalizing registry readings with
  | nil => exact ⟨registry, rfl, holds⟩
  | cons series rest ih =>
      obtain ⟨hnew, hrest⟩ := List.nodup_cons.mp distinct
      obtain ⟨first, hregister, hfirst⟩ := holds.register (absent series List.mem_cons_self)
      obtain ⟨next, hnext, hholds⟩ := ih hrest hfirst fun other member => by
        rw [Function.update_of_ne (ne_of_mem_of_not_mem member hnew)]
        exact absent other (List.mem_cons_of_mem _ member)
      refine ⟨next, ?_, Readings.revise_cons .. ▸ hholds⟩
      rw [List.map_cons, Metrics.registerAll, hregister]
      exact hnext

theorem unregisterAll {list : List Series} (distinct : list.Nodup)
    (holds : registry.Holds subsystem readings)
    (present : ∀ series ∈ list, (readings series).isSome) :
    ∃ next, Metrics.unregisterAll registry (list.map (Series.identity subsystem)) = .ok next ∧
      next.Holds subsystem (Readings.revise list (fun _ => none) readings) := by
  induction list generalizing registry readings with
  | nil => exact ⟨registry, rfl, holds⟩
  | cons series rest ih =>
      obtain ⟨hnew, hrest⟩ := List.nodup_cons.mp distinct
      obtain ⟨first, hunregister, hfirst⟩ := holds.unregister (present series List.mem_cons_self)
      obtain ⟨next, hnext, hholds⟩ := ih hrest hfirst fun other member => by
        rw [Function.update_of_ne (ne_of_mem_of_not_mem member hnew)]
        exact present other (List.mem_cons_of_mem _ member)
      refine ⟨next, ?_, Readings.revise_cons .. ▸ hholds⟩
      rw [List.map_cons, Metrics.unregisterAll, hunregister]
      exact hnext

theorem setAll {ι : Type} (holds : registry.Holds subsystem readings) (series : ι → Series)
    (value : ι → Reading) (target : Readings) (list : List ι)
    (present : ∀ i ∈ list, (readings (series i)).isSome)
    (fits : ∀ i ∈ list, (series i).Takes (value i))
    (aim : ∀ i ∈ list, target (series i) = some (value i)) :
    (list.foldl (fun registry i => registry.set ((series i).identity subsystem) (value i))
      registry).Holds subsystem (Readings.revise (list.map series) target readings) := by
  induction list generalizing registry readings with
  | nil => exact holds
  | cons i rest ih =>
      rw [List.map_cons, Readings.revise_cons, aim i List.mem_cons_self]
      refine ih (holds.set (present i List.mem_cons_self) (fits i List.mem_cons_self))
        (fun j member => ?_) (fun j member => fits j (List.mem_cons_of_mem _ member))
        fun j member => aim j (List.mem_cons_of_mem _ member)
      rw [Function.update_apply]
      split
      · rfl
      · exact present j (List.mem_cons_of_mem _ member)

end Holds
end Registry
end RunMonitor.Metrics
