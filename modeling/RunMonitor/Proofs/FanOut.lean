import Mathlib.Algebra.GroupWithZero.Nat
import Mathlib.Data.List.Forall2
import RunMonitor.Proofs.Procedure

namespace RunMonitor

/-! Tasks that make their calls on one state in any order come to what a loop comes to. -/

variable {C : Type → Type} {μ σ α β : Type}

namespace Procedure

/-- The calls are replied the same at any moment, and leave the state as it is. -/
def IsSteady (reply : μ → {δ : Type} → C δ → σ → Except Error δ × σ) (state : σ) :
    Procedure C α → Prop
  | .done _ => True
  | .call c next => ∃ answer, (∀ moment, reply moment c state = (answer, state)) ∧
      (next answer).IsSteady reply state

def callCount (reply : {δ : Type} → C δ → σ → Except Error δ × σ) : Procedure C α → σ → Nat
  | .done _, _ => 0
  | .call c next, state => (next (reply c state).1).callCount reply (reply c state).2 + 1

theorem IsSteady.run {reply : μ → {δ : Type} → C δ → σ → Except Error δ × σ} {state : σ}
    {action : Procedure C α} (h : action.IsSteady reply state) (moment : μ) :
    (action.run (reply moment) state).2 = state := by
  induction action with
  | done result => rfl
  | call c next ih =>
      obtain ⟨answer, hreply, hrest⟩ := h
      rw [Procedure.run, hreply moment]
      exact ih answer hrest

end Procedure

inductive FanOut.Task (C : Type → Type) (α : Type) : Type 1 where
  | working (rest : Procedure C α)
  | finished (outcome : Except Error α)
  | joined (outcome : Except Error α)

structure FanOut (C : Type → Type) (σ α β : Type) : Type 1 where
  state : σ
  unstarted : List β
  tasks : List (FanOut.Task C α) := []
  result : Option (Except Error (List α)) := none

section Work

variable (reply : μ → {δ : Type} → C δ → σ → Except Error δ × σ)

/-- What a task does by itself: it makes its next call, at any moment, or comes to an end. -/
inductive FanOut.Task.Works : Task C α → σ → Task C α → σ → Prop where
  | call {δ : Type} (c : C δ) (next : Except Error δ → Procedure C α) (state : σ) (moment : μ) :
      Works (.working (.call c next)) state (.working (next (reply moment c state).1))
        (reply moment c state).2
  | finish (outcome : Except Error α) (state : σ) :
      Works (.working (.done outcome)) state (.finished outcome) state

/-- The tasks are started in the order of the items, before the first of them is waited for. Their
outcomes are looked at after the last of them has been waited for. -/
inductive FanOut.Step (action : β → Procedure C α) : FanOut C σ α β → FanOut C σ α β → Prop where
  | start (state : σ) (item : β) (unstarted : List β) (tasks : List (Task C α)) :
      Step action ⟨state, item :: unstarted, tasks, none⟩
        ⟨state, unstarted, tasks ++ [.working (action item)], none⟩
  | work {state after : σ} {task next : Task C α} (unstarted : List β)
      (left right : List (Task C α)) (result : Option (Except Error (List α)))
      (works : task.Works reply state next after) :
      Step action ⟨state, unstarted, left ++ task :: right, result⟩
        ⟨after, unstarted, left ++ next :: right, result⟩
  | join (state : σ) (left right : List (Task C α)) (outcome : Except Error α) :
      Step action ⟨state, [], left ++ .finished outcome :: right, none⟩
        ⟨state, [], left ++ .joined outcome :: right, none⟩
  | conclude (state : σ) (outcomes : List (Except Error α)) :
      Step action ⟨state, [], outcomes.map .joined, none⟩
        ⟨state, [], outcomes.map .joined, some (Procedure.collect outcomes)⟩

inductive FanOut.Run (action : β → Procedure C α) (first : FanOut C σ α β) :
    Nat → FanOut C σ α β → Prop where
  | start : Run action first 0 first
  | step {count : Nat} {fanOut next : FanOut C σ α β} (run : Run action first count fanOut)
      (step : fanOut.Step reply action next) : Run action first (count + 1) next

end Work

variable (reply : μ → {δ : Type} → C δ → σ → Except Error δ × σ) (moment : μ) (state : σ)
  (action : β → Procedure C α)

def FanOut.Task.LeadsTo (outcome : Except Error α) : Task C α → Prop
  | .working rest => rest.IsSteady reply state ∧ (rest.run (reply moment) state).1 = outcome
  | .finished own | .joined own => own = outcome

def FanOut.Task.stepsLeft : Task C α → Nat
  | .working rest => rest.callCount (reply moment) state + 2
  | .finished _ => 1
  | .joined _ => 0

variable {reply moment state action}

theorem FanOut.Task.LeadsTo.works {task next : Task C α} {outcome : Except Error α} {after : σ}
    (h : task.LeadsTo reply moment state outcome) (works : task.Works reply state next after) :
    after = state ∧ next.LeadsTo reply moment state outcome ∧
      task.stepsLeft reply moment state = next.stepsLeft reply moment state + 1 := by
  cases works with
  | finish => exact ⟨rfl, h.2, rfl⟩
  | call c next _ now =>
      obtain ⟨⟨answer, hreply, hsteady⟩, hrun⟩ := h
      rw [Procedure.run, hreply moment] at hrun
      simp only [hreply now, Task.stepsLeft, Procedure.callCount, hreply moment]
      exact ⟨trivial, ⟨hsteady, hrun⟩, trivial⟩

theorem FanOut.Task.works_or_over (moment : μ) (state : σ) (task : Task C α) :
    (∃ next after, task.Works reply state next after) ∨ (∃ outcome, task = .finished outcome) ∨
      ∃ outcome, task = .joined outcome := by
  cases task with
  | working rest =>
      cases rest with
      | done outcome => exact .inl ⟨_, _, .finish outcome state⟩
      | call c next => exact .inl ⟨_, _, .call c next state moment⟩
  | finished outcome => exact .inr (.inl ⟨outcome, rfl⟩)
  | joined outcome => exact .inr (.inr ⟨outcome, rfl⟩)

theorem FanOut.Task.all_joined_or (tasks : List (Task C α)) :
    (∃ outcomes : List (Except Error α), tasks = outcomes.map .joined) ∨ ∃ before task behind,
      tasks = before ++ task :: behind ∧ ∀ outcome, task ≠ .joined outcome := by
  induction tasks with
  | nil => exact .inl ⟨[], rfl⟩
  | cons task rest ih =>
      cases task with
      | working rest => exact .inr ⟨[], _, _, rfl, fun _ => nofun⟩
      | finished outcome => exact .inr ⟨[], _, _, rfl, fun _ => nofun⟩
      | joined outcome =>
          rcases ih with ⟨outcomes, rfl⟩ | ⟨before, task, behind, rfl, htask⟩
          · exact .inl ⟨outcome :: outcomes, rfl⟩
          · exact .inr ⟨.joined outcome :: before, task, behind, rfl, htask⟩

theorem forall₂_split {γ : Type u} {ε : Type v} {R : γ → ε → Prop} {as : List γ}
    {left right : List ε} {b : ε} (h : as.Forall₂ R (left ++ b :: right)) :
    ∃ before a behind, as = before ++ a :: behind ∧
      before.Forall₂ R left ∧ R a b ∧ behind.Forall₂ R right := by
  induction left generalizing as with
  | nil =>
      obtain ⟨a, behind, hab, hbehind, rfl⟩ := List.forall₂_cons_right_iff.mp h
      exact ⟨[], a, behind, rfl, .nil, hab, hbehind⟩
  | cons first left ih =>
      obtain ⟨other, rest, hfirst, hrest, rfl⟩ := List.forall₂_cons_right_iff.mp h
      obtain ⟨before, a, behind, rfl, hbefore, hab, hbehind⟩ := ih hrest
      exact ⟨other :: before, a, behind, rfl, .cons hfirst hbefore, hab, hbehind⟩

namespace FanOut

def outcome (reply : μ → {δ : Type} → C δ → σ → Except Error δ × σ) (moment : μ) (state : σ)
    (action : β → Procedure C α) (item : β) : Except Error α :=
  ((action item).run (reply moment) state).1

/-- Each task is in its item's place and leads to what the item leads to. There is a result only
when no task is left. -/
structure Sound (reply : μ → {δ : Type} → C δ → σ → Except Error δ × σ) (moment : μ) (state : σ)
    (action : β → Procedure C α) (items : List β) (fanOut : FanOut C σ α β) : Prop where
  state_eq : fanOut.state = state
  tasks : ∃ started, started ++ fanOut.unstarted = items ∧
    started.Forall₂ (fun item task =>
      task.LeadsTo reply moment state (outcome reply moment state action item)) fanOut.tasks
  result : ∀ result, fanOut.result = some result → fanOut.unstarted = [] ∧
    ∃ outcomes : List (Except Error α), fanOut.tasks = outcomes.map .joined ∧
      result = Procedure.collect outcomes

def stepsLeft (reply : μ → {δ : Type} → C δ → σ → Except Error δ × σ) (moment : μ) (state : σ)
    (action : β → Procedure C α) (fanOut : FanOut C σ α β) : Nat :=
  (fanOut.unstarted.map fun item => (action item).callCount (reply moment) state + 3).sum +
    (fanOut.tasks.map (Task.stepsLeft reply moment state)).sum + fanOut.result.elim 1 fun _ => 0

variable {items : List β} {fanOut next : FanOut C σ α β}

theorem sound_start (state : σ) (items : List β) :
    Sound reply moment state action items ⟨state, items, [], none⟩ :=
  ⟨rfl, ⟨[], rfl, .nil⟩, fun _ h => nomatch h⟩

theorem Sound.step (h : Sound reply moment state action items fanOut)
    (hsteady : ∀ item ∈ items, (action item).IsSteady reply state)
    (step : fanOut.Step reply action next) :
    Sound reply moment state action items next ∧
      fanOut.stepsLeft reply moment state action =
        next.stepsLeft reply moment state action + 1 := by
  obtain ⟨rfl, ⟨started, rfl, htasks⟩, hresult⟩ := h
  cases step with
  | start state item unstarted tasks =>
      have htask : Task.LeadsTo reply moment state (outcome reply moment state action item)
          (.working (action item)) := ⟨hsteady item (by simp), rfl⟩
      have hall := List.rel_append htasks (.cons htask .nil)
      refine ⟨⟨rfl, ⟨started ++ [item], by simp, hall⟩, fun _ h => nomatch h⟩, ?_⟩
      simp only [stepsLeft, Task.stepsLeft, List.map_cons, List.map_append, List.map_nil,
        List.sum_cons, List.sum_append, List.sum_nil]
      omega
  | @work _ after task next unstarted left right result works =>
      obtain ⟨before, item, behind, rfl, hbefore, htask, hbehind⟩ := forall₂_split htasks
      obtain ⟨rfl, hnext, hsteps⟩ := htask.works works
      refine ⟨⟨rfl, ⟨_, rfl, List.rel_append hbefore (.cons hnext hbehind)⟩, ?_⟩, ?_⟩
      · intro outcome hsome
        -- whoever has been waited for does not work
        obtain ⟨_, outcomes, hjoined, _⟩ := hresult outcome hsome
        have hmem : task ∈ outcomes.map Task.joined := hjoined ▸ by simp
        obtain ⟨own, _, rfl⟩ := List.mem_map.mp hmem
        cases works
      · simp only [stepsLeft, hsteps, List.map_cons, List.map_append, List.sum_cons,
          List.sum_append]
        omega
  | join state left right own =>
      obtain ⟨before, item, behind, rfl, hbefore, htask, hbehind⟩ := forall₂_split htasks
      have hjoined : Task.LeadsTo reply moment state (outcome reply moment state action item)
          (.joined own) := htask
      have hall := List.rel_append hbefore (.cons hjoined hbehind)
      refine ⟨⟨rfl, ⟨_, rfl, hall⟩, fun _ h => nomatch h⟩, ?_⟩
      simp only [stepsLeft, Task.stepsLeft, List.map_cons, List.map_append, List.sum_cons,
        List.sum_append]
      omega
  | conclude state outcomes =>
      refine ⟨⟨rfl, ⟨started, rfl, htasks⟩, fun result hsome => ⟨rfl, outcomes, rfl, ?_⟩⟩, rfl⟩
      exact (Option.some.inj hsome).symm

theorem exists_step (moment : μ) (h : fanOut.result = none) :
    ∃ next, fanOut.Step reply action next := by
  obtain ⟨state, unstarted, tasks, result⟩ := fanOut
  obtain rfl : result = none := h
  cases unstarted with
  | cons item unstarted => exact ⟨_, .start state item unstarted tasks⟩
  | nil =>
      rcases Task.all_joined_or tasks with ⟨outcomes, rfl⟩ | ⟨left, task, right, rfl, htask⟩
      · exact ⟨_, .conclude state outcomes⟩
      · rcases Task.works_or_over moment state task with works | ⟨outcome, rfl⟩ | ⟨outcome, rfl⟩
        · obtain ⟨next, after, works⟩ := works
          exact ⟨_, .work [] left right none works⟩
        · exact ⟨_, .join state left right outcome⟩
        · exact absurd rfl (htask outcome)

theorem Run.sound {count : Nat} (moment : μ)
    (hsteady : ∀ item ∈ items, (action item).IsSteady reply state)
    (run : Run reply action ⟨state, items, [], none⟩ count fanOut) :
    Sound reply moment state action items fanOut ∧
      count + fanOut.stepsLeft reply moment state action =
        (⟨state, items, [], none⟩ : FanOut C σ α β).stepsLeft reply moment state action := by
  induction run with
  | start => exact ⟨sound_start state items, Nat.zero_add _⟩
  | step run step ih =>
      obtain ⟨hsound, hsteps⟩ := ih
      obtain ⟨hnext, hleft⟩ := hsound.step hsteady step
      exact ⟨hnext, by omega⟩

theorem Sound.tasks_eq (h : Sound reply moment state action items fanOut)
    {result : Except Error (List α)} (hresult : fanOut.result = some result) :
    fanOut.unstarted = [] ∧
      fanOut.tasks = items.map (Task.joined ∘ outcome reply moment state action) ∧
      result = Procedure.collect (items.map (outcome reply moment state action)) := by
  obtain ⟨hunstarted, outcomes, hjoined, rfl⟩ := h.result result hresult
  obtain ⟨started, hstarted, hall⟩ := h.tasks
  rw [hunstarted, List.append_nil] at hstarted
  subst hstarted
  rw [hjoined, List.forall₂_map_right_iff] at hall
  have hout : outcomes = started.map (outcome reply moment state action) := by
    rw [← List.forall₂_eq_eq_eq, List.forall₂_map_right_iff]
    exact hall.flip
  exact ⟨hunstarted, by rw [hjoined, hout, List.map_map], by rw [hout]⟩

theorem Sound.result_eq (h : Sound reply moment state action items fanOut)
    (hsteady : ∀ item ∈ items, (action item).IsSteady reply state)
    {result : Except Error (List α)} (hresult : fanOut.result = some result) :
    result = ((Procedure.forEach items action).run (reply moment) state).1 := by
  have hrun : ∀ item ∈ items, (action item).run (reply moment) state =
      (outcome reply moment state action item, state) := fun item member =>
    Prod.ext rfl ((hsteady item member).run moment)
  rw [Procedure.run_forEach_collect hrun]
  exact (h.tasks_eq hresult).2.2

theorem Sound.isSome_result_iff (h : Sound reply moment state action items fanOut) :
    fanOut.result.isSome ↔ fanOut.stepsLeft reply moment state action = 0 := by
  cases hresult : fanOut.result with
  | none => simp [stepsLeft, hresult]
  | some result =>
      obtain ⟨hunstarted, outcomes, hjoined, _⟩ := h.result result hresult
      have htasks : (fanOut.tasks.map (Task.stepsLeft reply moment state)).sum = 0 := by
        simp [hjoined, Function.comp_def, Task.stepsLeft]
      simp [stepsLeft, hresult, hunstarted, htasks]

end FanOut
end RunMonitor
