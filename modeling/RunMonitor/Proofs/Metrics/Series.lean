import RunMonitor.Metrics.Basic
import Mathlib.Data.List.Infix

namespace RunMonitor.Metrics

/-! Everything that the metrics may ever publish. -/

theorem fullName_injective (subsystem : String) : Function.Injective (fullName subsystem) := by
  intro a b h
  simp only [fullName] at h
  split at h <;> exact (String.append_right_inj _).mp h

theorem Total.name_injective {a b : Total} (h : a.name = b.name) : a = b := by
  revert h
  cases a <;> cases b <;> decide

theorem Figure.eq_of_append_ending {a b : String} {f g : Figure}
    (h : a ++ "_" ++ f.ending = b ++ "_" ++ g.ending) : a = b ∧ f = g := by
  have hchars : a.toList ++ ("_" ++ f.ending).toList = b.toList ++ ("_" ++ g.ending).toList := by
    simpa [String.append_assoc] using congrArg String.toList h
  have hends := List.suffix_or_suffix_of_suffix (List.suffix_append a.toList _)
    (hchars ▸ List.suffix_append b.toList _)
  have hfg : f = g := by
    revert hends
    cases f <;> cases g <;> decide
  subst hfg
  rw [String.append_assoc, String.append_assoc] at h
  exact ⟨(String.append_left_inj _).mp h, rfl⟩

theorem Figure.append_ending_ne (a : String) (figure : Figure) (total : Total) :
    a ++ "_" ++ figure.ending ≠ total.name := by
  intro h
  have hends : ("_" ++ figure.ending).toList <:+ total.name.toList := by
    rw [← h, String.append_assoc, String.toList_append (s := a)]
    exact List.suffix_append _ _
  revert hends
  cases figure <;> cases total <;> decide

inductive Series where
  | ofTotal (total : Total)
  | ofCronJob (ns cronJob : String) (figure : Figure)
  deriving DecidableEq

namespace Series

def identity (subsystem : String) : Series → Identity
  | .ofTotal total => total.identity subsystem
  | .ofCronJob ns cronJob figure => figure.identity subsystem ns cronJob

def name : Series → String
  | .ofTotal total => total.name
  | .ofCronJob _ cronJob figure => sanitize cronJob ++ "_" ++ figure.ending

def help : Series → String
  | .ofTotal total => total.help
  | .ofCronJob _ cronJob figure => figure.help (sanitize cronJob)

def blank : Series → Reading
  | .ofTotal _ => .single 0
  | .ofCronJob _ _ figure => figure.blank

def gauge (subsystem : String) (series : Series) (reading : Reading) : Gauge :=
  ⟨series.identity subsystem, series.help, reading⟩

def shape (series : Series) : Shape :=
  (series.gauge "" series.blank).shape

def Takes (series : Series) (reading : Reading) : Prop :=
  reading.labelNames = series.blank.labelNames

theorem takes_blank (series : Series) : series.Takes series.blank := rfl

theorem shape_gauge {series : Series} {reading : Reading} (fits : series.Takes reading)
    (subsystem : String) : (series.gauge subsystem reading).shape = series.shape := by
  cases series <;> simp only [shape, gauge, Gauge.shape, fits.symm] <;> rfl

theorem identity_name (subsystem : String) (series : Series) :
    (series.identity subsystem).name = fullName subsystem series.name := by
  cases series <;> rfl

theorem labels_values (subsystem ns cronJob : String) (figure : Figure) :
    ((Series.ofCronJob ns cronJob figure).identity subsystem).labels.values = [cronJob, ns] := rfl

variable {subsystem : String} {s t : Series}

theorem namesakes (h : (s.identity subsystem).name = (t.identity subsystem).name) :
    (∃ total, s = .ofTotal total ∧ t = .ofTotal total) ∨
      ∃ ns ns' cronJob cronJob' figure, s = .ofCronJob ns cronJob figure ∧
        t = .ofCronJob ns' cronJob' figure ∧ sanitize cronJob = sanitize cronJob' := by
  rw [identity_name, identity_name] at h
  have hname := fullName_injective subsystem h
  cases s with
  | ofTotal a =>
      cases t with
      | ofTotal b => exact .inl ⟨a, rfl, congrArg ofTotal (Total.name_injective hname.symm)⟩
      | ofCronJob ns cronJob figure => exact absurd hname.symm (Figure.append_ending_ne _ figure a)
  | ofCronJob ns cronJob figure =>
      cases t with
      | ofTotal b => exact absurd hname (Figure.append_ending_ne _ figure b)
      | ofCronJob ns' cronJob' figure' =>
          obtain ⟨hsanitize, rfl⟩ := Figure.eq_of_append_ending hname
          exact .inr ⟨ns, ns', cronJob, cronJob', figure, rfl, rfl, hsanitize⟩

theorem shape_eq_of_name (h : (s.identity subsystem).name = (t.identity subsystem).name) :
    s.shape = t.shape := by
  rcases namesakes h with
    ⟨total, rfl, rfl⟩ | ⟨ns, ns', cronJob, cronJob', figure, rfl, rfl, hsanitize⟩
  · rfl
  · simp only [shape, gauge, Gauge.shape, help, hsanitize]
    rfl

theorem eq_of_name_of_labels
    (hname : (s.identity subsystem).name = (t.identity subsystem).name)
    (hlabels : (s.identity subsystem).labels.values = (t.identity subsystem).labels.values) :
    s = t := by
  rcases namesakes hname with
    ⟨total, rfl, rfl⟩ | ⟨ns, ns', cronJob, cronJob', figure, rfl, rfl, -⟩
  · rfl
  · rw [labels_values, labels_values] at hlabels
    obtain ⟨rfl, rfl⟩ : cronJob = cronJob' ∧ ns = ns' := by simpa using hlabels
    rfl

theorem identity_injective (subsystem : String) :
    Function.Injective (Series.identity subsystem) := by
  intro s t h
  exact eq_of_name_of_labels (congrArg Identity.name h) (by rw [h])

end Series
end RunMonitor.Metrics
