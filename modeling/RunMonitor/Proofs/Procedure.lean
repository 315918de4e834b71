import RunMonitor.Procedure

namespace RunMonitor.Procedure

/-! What can be said of a procedure whatever it is replied. -/

structure Rules (C : Type → Type) (σ : Type) where
  Allows {β : Type} : C β → σ → Prop
  after {β : Type} : C β → Except Error β → σ → σ

variable {C D : Type → Type} {σ α β : Type}

/-- Each call is allowed in its turn, and the end is as wanted. -/
def Obeys (rules : Rules C σ) (Q : Except Error α → σ → Prop) : Procedure C α → σ → Prop
  | .done result, state => Q result state
  | .call c next, state =>
      rules.Allows c state ∧ ∀ reply, (next reply).Obeys rules Q (rules.after c reply state)

def Rules.comap (rules : Rules D σ) (f : {β : Type} → C β → D β) : Rules C σ where
  Allows c := rules.Allows (f c)
  after c := rules.after (f c)

variable {rules : Rules C σ} {Q : Except Error α → σ → Prop} {R : Except Error β → σ → Prop}
  {action : Procedure C α} {state : σ}

theorem Obeys.andThen {f : α → Procedure C β} (h : action.Obeys rules Q state)
    (hok : ∀ value state, Q (.ok value) state → (f value).Obeys rules R state)
    (herror : ∀ error state, Q (.error error) state → R (.error error) state) :
    (action >>= f).Obeys rules R state := by
  rw [bind_eq]
  induction action generalizing state with
  | done result =>
      cases result with
      | ok value => exact hok value state h
      | error error => exact herror error state h
  | call c next ih => exact ⟨h.1, fun reply => ih reply (h.2 reply)⟩

theorem Obeys.attempt (h : action.Obeys rules Q state) :
    action.attempt.Obeys rules (fun result state => ∃ value, result = .ok value ∧ Q value state)
      state := by
  induction action generalizing state with
  | done result => exact ⟨result, rfl, h⟩
  | call c next ih => exact ⟨h.1, fun reply => ih reply (h.2 reply)⟩

theorem Obeys.mapCalls {rules : Rules D σ} {f : {β : Type} → C β → D β}
    (h : action.Obeys (rules.comap f) Q state) : (action.mapCalls f).Obeys rules Q state := by
  induction action generalizing state with
  | done result => exact h
  | call c next ih => exact ⟨h.1, fun reply => ih reply (h.2 reply)⟩

theorem obeys_forEach {I : σ → Prop} {items : List β} {action : β → Procedure C α}
    (hstate : I state)
    (h : ∀ item ∈ items, ∀ state, I state → (action item).Obeys rules (fun _ => I) state) :
    (forEach items action).Obeys rules (fun _ => I) state := by
  have hall : ∀ state, I state →
      (items.mapM fun item => (action item).attempt).Obeys rules (fun _ => I) state := by
    induction items with
    | nil => exact fun state hstate => hstate
    | cons item rest ih =>
        intro state hstate
        rw [List.mapM_cons]
        -- a failure is a value here, and the items that are left still have their turn
        have hitem := (h item List.mem_cons_self state hstate).attempt
        refine hitem.andThen ?_ fun _ state hend => hend.elim fun _ hend => hend.2
        intro value state hend
        have hstate : I state := hend.elim fun _ hend => hend.2
        have hrest := ih (fun other member => h other (.tail _ member)) state hstate
        exact hrest.andThen (fun _ _ hstate => hstate) fun _ _ hstate => hstate
  exact (hall state hstate).andThen (fun _ _ hstate => hstate) fun _ _ hstate => hstate

theorem collect_eq_ok {outcomes : List (Except Error α)} {values : List α} :
    collect outcomes = .ok values ↔ outcomes = values.map .ok := by
  induction outcomes generalizing values with
  | nil => cases values <;> simp [collect]
  | cons outcome rest ih =>
      cases outcome with
      | error error => cases values <;> simp [collect, bind, Except.bind]
      | ok value =>
          cases hrest : collect rest with
          | error error =>
              have hnot : ∀ values : List α, rest ≠ values.map .ok := fun values heq => by
                cases hrest.symm.trans (ih.mpr heq)
              cases values <;> simp [collect, bind, Except.bind, hrest, hnot]
          | ok others =>
              obtain rfl := ih.mp hrest
              cases values <;>
                simp [collect, bind, Except.bind, pure, Except.pure, hrest, ← ih]

theorem mem_of_collect_eq_error {outcomes : List (Except Error α)} {error : Error}
    (h : collect outcomes = .error error) : .error error ∈ outcomes := by
  induction outcomes with
  | nil => cases h
  | cons outcome rest ih =>
      cases outcome with
      | error first =>
          cases h
          exact List.mem_cons_self
      | ok value =>
          cases hrest : collect rest with
          | error later =>
              simp only [collect, bind, Except.bind, hrest] at h
              cases h
              exact List.mem_cons_of_mem _ (ih hrest)
          | ok others =>
              simp only [collect, bind, Except.bind, hrest] at h
              cases h

theorem collect_append_error (values : List α) (error : Error) (rest : List (Except Error α)) :
    collect (values.map .ok ++ .error error :: rest) = .error error := by
  induction values with
  | nil => rfl
  | cons value values ih =>
      rw [List.map_cons, List.cons_append, collect, ih]
      rfl

section ForEach

variable {reply : {β : Type} → C β → σ → Except Error β × σ} {items : List β}
  {action : β → Procedure C α} {state : σ}

theorem run_forEach_collect {outcome : β → Except Error α}
    (h : ∀ item ∈ items, (action item).run reply state = (outcome item, state)) :
    (forEach items action).run reply state = (collect (items.map outcome), state) := by
  have hall : (items.mapM fun item => (action item).attempt).run reply state =
      (.ok (items.map outcome), state) := by
    induction items with
    | nil => rfl
    | cons item rest ih =>
        rw [List.mapM_cons, run_bind, run_attempt, h item List.mem_cons_self]
        simp only [run_bind, ih fun other member => h other (List.mem_cons_of_mem _ member)]
        rfl
  rw [forEach, run_bind, hall]
  rfl

theorem run_forEach {f : β → α}
    (h : ∀ item ∈ items, (action item).run reply state = (.ok (f item), state)) :
    (forEach items action).run reply state = (.ok (items.map f), state) := by
  have hcollect : collect (items.map (.ok ∘ f)) = .ok (items.map f) :=
    collect_eq_ok.mpr (List.map_map ..).symm
  exact hcollect ▸ run_forEach_collect h

end ForEach

end RunMonitor.Procedure
