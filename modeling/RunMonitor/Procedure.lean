import RunMonitor.Error

namespace RunMonitor

/-! One call after the other, each of which is replied to before the next one is made. -/

inductive Procedure (C : Type → Type) (α : Type) : Type 1 where
  | done (result : Except Error α)
  | call {β : Type} (call : C β) (next : Except Error β → Procedure C α)

namespace Procedure

variable {C D : Type → Type} {σ α β δ : Type}

def andThen (f : α → Procedure C β) : Procedure C α → Procedure C β
  | .done (.ok value) => f value
  | .done (.error error) => .done (.error error)
  | .call c next => .call c fun reply => (next reply).andThen f

instance : Monad (Procedure C) where
  pure value := .done (.ok value)
  bind action f := action.andThen f

theorem bind_eq (action : Procedure C α) (f : α → Procedure C β) :
    action >>= f = action.andThen f := rfl

theorem andThen_done (action : Procedure C α) :
    action.andThen (fun value => .done (.ok value)) = action := by
  induction action with
  | done result => cases result <;> rfl
  | call c next ih => exact congrArg (Procedure.call c) (funext ih)

theorem andThen_assoc (action : Procedure C α) (f : α → Procedure C β) (g : β → Procedure C δ) :
    (action.andThen f).andThen g = action.andThen fun value => (f value).andThen g := by
  induction action with
  | done result => cases result <;> rfl
  | call c next ih => exact congrArg (Procedure.call c) (funext ih)

instance : LawfulMonad (Procedure C) :=
  LawfulMonad.mk' (Procedure C) andThen_done (fun _ _ => rfl) andThen_assoc

def ask (call : C α) : Procedure C α := .call call .done

def fail (error : Error) : Procedure C α := .done (.error error)

def ofExcept (result : Except Error α) : Procedure C α := .done result

def attempt : Procedure C α → Procedure C (Except Error α)
  | .done result => .done (.ok result)
  | .call c next => .call c fun reply => (next reply).attempt

def mapCalls (f : {β : Type} → C β → D β) : Procedure C α → Procedure D α
  | .done result => .done result
  | .call c next => .call (f c) fun reply => (next reply).mapCalls f

def collect : List (Except Error α) → Except Error (List α)
  | [] => .ok []
  | result :: rest => do
      let value ← result
      let values ← collect rest
      return value :: values

def forEach (items : List β) (action : β → Procedure C α) : Procedure C (List α) := do
  ofExcept (collect (← items.mapM fun item => (action item).attempt))

def run (reply : {β : Type} → C β → σ → Except Error β × σ) :
    Procedure C α → σ → Except Error α × σ
  | .done result, state => (result, state)
  | .call c next, state =>
      let (answer, state) := reply c state
      (next answer).run reply state

section Run

variable (reply : {β : Type} → C β → σ → Except Error β × σ) (state : σ)

@[simp] theorem run_pure (value : α) :
    (pure value : Procedure C α).run reply state = (.ok value, state) := rfl

@[simp] theorem run_fail (error : Error) :
    (fail error : Procedure C α).run reply state = (.error error, state) := rfl

@[simp] theorem run_ofExcept (result : Except Error α) :
    (ofExcept result : Procedure C α).run reply state = (result, state) := rfl

@[simp] theorem run_ask (call : C α) : (ask call).run reply state = reply call state := rfl

theorem run_bind (action : Procedure C α) (f : α → Procedure C β) :
    (action >>= f).run reply state =
      match action.run reply state with
      | (.ok value, state) => (f value).run reply state
      | (.error error, state) => (.error error, state) := by
  rw [bind_eq]
  induction action generalizing state with
  | done result => cases result <;> rfl
  | call c next ih => exact ih _ _

@[simp] theorem run_attempt (action : Procedure C α) :
    action.attempt.run reply state =
      (.ok (action.run reply state).1, (action.run reply state).2) := by
  induction action generalizing state with
  | done result => rfl
  | call c next ih => exact ih _ _

end Run

end Procedure
end RunMonitor
