import RunMonitor.Proofs.Summary.Duration

namespace RunMonitor

theorem beforeLast?_concat {α : Type} (items : List α) (item : α) :
    beforeLast? (items ++ [item]) = some (items.getLast?.getD item) := by
  unfold beforeLast?
  rw [List.reverse_append, ← List.head?_reverse]
  cases items.reverse <;> rfl

namespace JobSummary

/-- Runs that are not completed have been put in, taken out or exchanged for others, anywhere in the
list. -/
inductive Revision : List JobSummary → List JobSummary → Prop where
  | nil : Revision [] []
  | keep (run : JobSummary) {runs revised : List JobSummary} (rest : Revision runs revised) :
      Revision (run :: runs) (run :: revised)
  | insert {run : JobSummary} (h : ¬ run.isCompleted) {runs revised : List JobSummary}
      (rest : Revision runs revised) : Revision runs (run :: revised)
  | remove {run : JobSummary} (h : ¬ run.isCompleted) {runs revised : List JobSummary}
      (rest : Revision runs revised) : Revision (run :: runs) revised
  | change {run changed : JobSummary} (h : ¬ run.isCompleted) (h' : ¬ changed.isCompleted)
      {runs revised : List JobSummary} (rest : Revision runs revised) :
      Revision (run :: runs) (changed :: revised)

theorem Revision.filter_isCompleted {runs revised : List JobSummary} (h : Revision runs revised) :
    revised.filter isCompleted = runs.filter isCompleted := by
  induction h with
  | nil => rfl
  | keep run rest ih => rw [List.filter_cons, List.filter_cons, ih]
  | insert h rest ih => rw [List.filter_cons_of_neg h, ih]
  | remove h rest ih => rw [List.filter_cons_of_neg h, ih]
  | change h h' rest ih => rw [List.filter_cons_of_neg h, List.filter_cons_of_neg h', ih]

theorem lastDuration_congr {runs others : List JobSummary}
    (h : others.filter isCompleted = runs.filter isCompleted) :
    lastDuration others = lastDuration runs := by
  rw [lastDuration_eq, lastDuration_eq, h]

def newestCompleted? (runs : List JobSummary) : Option JobSummary :=
  (runs.filter isCompleted).getLast?

theorem lastDuration_concat (runs : List JobSummary) {run : JobSummary} (h : run.isCompleted) :
    lastDuration (runs ++ [run]) = ((newestCompleted? runs).getD run).durationSeconds := by
  rw [lastDuration_eq, List.filter_append, List.filter_cons_of_pos h, List.filter_nil,
    beforeLast?_concat]
  rfl

theorem lastDuration_append_cons {before after : List JobSummary} {newest : JobSummary}
    (hnewest : newest.isCompleted) (hafter : ∀ run ∈ after, ¬ run.isCompleted) :
    lastDuration (before ++ newest :: after) =
      ((newestCompleted? before).getD newest).durationSeconds := by
  rw [← lastDuration_concat before hnewest]
  apply lastDuration_congr
  rw [List.filter_append, List.filter_append, List.filter_cons_of_pos hnewest,
    List.filter_cons_of_pos hnewest, List.filter_eq_nil_iff.mpr hafter, List.filter_nil]

theorem newestCompleted?_isSome {before after : List JobSummary} {newest : JobSummary}
    (hnewest : newest.isCompleted) (hafter : ∀ run ∈ after, ¬ run.isCompleted)
    (h : 2 ≤ (before ++ newest :: after).countP isCompleted) :
    (newestCompleted? before).isSome := by
  rw [List.countP_append, List.countP_cons_of_pos hnewest,
    List.countP_eq_zero.mpr hafter, List.countP_eq_length_filter] at h
  rw [newestCompleted?, List.getLast?_isSome]
  apply List.ne_nil_of_length_pos
  omega

theorem lastDuration_moves (runs : List JobSummary) :
    (∀ revised, Revision runs revised → lastDuration revised = lastDuration runs) ∧
    (∀ run, run.isCompleted →
      lastDuration (runs ++ [run]) = ((newestCompleted? runs).getD run).durationSeconds) ∧
    (∀ before newest after, runs = before ++ newest :: after → newest.isCompleted →
      (∀ run ∈ after, ¬ run.isCompleted) → 2 ≤ runs.countP isCompleted →
      ∀ duration seconds,
        lastDuration (before ++
          { newest with duration := duration, durationSeconds := seconds } :: after) =
            lastDuration runs) := by
  refine ⟨fun revised h => lastDuration_congr h.filter_isCompleted,
    fun run h => lastDuration_concat runs h, ?_⟩
  rintro before newest after rfl hnewest hafter hcount duration seconds
  obtain ⟨previous, hprevious⟩ :=
    Option.isSome_iff_exists.mp (newestCompleted?_isSome hnewest hafter hcount)
  have hchanged : isCompleted { newest with duration := duration, durationSeconds := seconds } :=
    hnewest
  rw [lastDuration_append_cons hnewest hafter, lastDuration_append_cons hchanged hafter, hprevious]
  rfl

section Nightly

def completedRun (seconds : Int) : JobSummary where
  durationSeconds := seconds
  completionTime := some ⟨seconds, 0⟩

def activeRun : JobSummary where
  active := 1

theorem lastDuration_moves_nightly :
    lastDuration [completedRun 10, activeRun, completedRun 20] =
      lastDuration [completedRun 10, completedRun 20] ∧
    lastDuration [completedRun 10, completedRun 20, completedRun 30] = 20 ∧
    lastDuration [completedRun 10, { completedRun 20 with durationSeconds := 99 }] =
      lastDuration [completedRun 10, completedRun 20] := by
  obtain ⟨hrevised, happended, hchanged⟩ := lastDuration_moves [completedRun 10, completedRun 20]
  refine ⟨hrevised _ ?_, happended (completedRun 30) rfl, ?_⟩
  · exact .keep _ (.insert (by decide) (.keep _ .nil))
  · exact hchanged [completedRun 10] (completedRun 20) [] rfl rfl (by simp) (by decide) _ _

end Nightly

end JobSummary
end RunMonitor
