import RunMonitor.Proofs.Procedure

namespace RunMonitor.Procedure

/-! A transcript lists the calls in the order in which they are made, each with its reply. -/

structure Exchange (C : Type → Type) where
  {β : Type}
  call : C β
  reply : Except Error β

def Exchange.map {C D : Type → Type} (f : {β : Type} → C β → D β) (exchange : Exchange C) :
    Exchange D :=
  ⟨f exchange.call, exchange.reply⟩

/-- The procedure may make just these exchanges and then end with that. -/
inductive Plays {C : Type → Type} {α : Type} :
    Procedure C α → List (Exchange C) → Except Error α → Prop where
  | done (result : Except Error α) : Plays (.done result) [] result
  | call {β : Type} {c : C β} {next : Except Error β → Procedure C α} (reply : Except Error β)
      {rest : List (Exchange C)} {result : Except Error α}
      (played : Plays (next reply) rest result) : Plays (.call c next) (⟨c, reply⟩ :: rest) result

variable {C D : Type → Type} {σ α β : Type}

section Parts

variable {exchanges : List (Exchange C)}

theorem plays_done {result final : Except Error α} :
    (done result : Procedure C α).Plays exchanges final ↔ exchanges = [] ∧ final = result := by
  constructor
  · intro h
    cases h
    exact ⟨rfl, rfl⟩
  · intro h
    obtain ⟨rfl, rfl⟩ := h
    exact .done _

theorem plays_call {c : C β} {next : Except Error β → Procedure C α} {result : Except Error α} :
    (call c next).Plays exchanges result ↔
      ∃ reply rest, exchanges = ⟨c, reply⟩ :: rest ∧ (next reply).Plays rest result := by
  constructor
  · intro h
    cases h with
    | call reply played => exact ⟨reply, _, rfl, played⟩
  · intro h
    obtain ⟨reply, rest, rfl, played⟩ := h
    exact .call reply played

theorem plays_ask {c : C α} {result : Except Error α} :
    (ask c).Plays exchanges result ↔ exchanges = [⟨c, result⟩] := by
  rw [ask, plays_call]
  constructor
  · intro h
    obtain ⟨reply, rest, rfl, played⟩ := h
    obtain ⟨rfl, rfl⟩ := plays_done.mp played
    rfl
  · intro h
    exact ⟨result, [], h, .done result⟩

theorem plays_bind {action : Procedure C α} {f : α → Procedure C β} {result : Except Error β} :
    (action >>= f).Plays exchanges result ↔
      (∃ value first rest, exchanges = first ++ rest ∧ action.Plays first (.ok value) ∧
        (f value).Plays rest result) ∨
      ∃ error, result = .error error ∧ action.Plays exchanges (.error error) := by
  rw [bind_eq]
  induction action generalizing exchanges with
  | done outcome =>
      cases outcome with
      | ok value =>
          constructor
          · exact fun h => .inl ⟨value, [], exchanges, rfl, .done _, h⟩
          · rintro (⟨_, first, rest, rfl, hfirst, hrest⟩ | ⟨_, -, hfirst⟩)
            · cases hfirst
              exact hrest
            · cases hfirst
      | error error =>
          constructor
          · intro h
            obtain ⟨rfl, rfl⟩ := plays_done.mp h
            exact .inr ⟨error, rfl, .done _⟩
          · rintro (⟨_, _, _, -, hfirst, -⟩ | ⟨_, rfl, hfirst⟩)
            · cases hfirst
            · cases hfirst
              exact .done _
  | call c next ih =>
      constructor
      · intro h
        obtain ⟨reply, rest, rfl, played⟩ := plays_call.mp h
        rcases (ih reply).mp played with
          ⟨value, first, last, rfl, hfirst, hlast⟩ | ⟨error, rfl, hfirst⟩
        · exact .inl ⟨value, _, last, rfl, .call reply hfirst, hlast⟩
        · exact .inr ⟨error, rfl, .call reply hfirst⟩
      · rintro (⟨value, first, last, rfl, hfirst, hlast⟩ | ⟨error, rfl, h⟩)
        · obtain ⟨reply, rest, rfl, played⟩ := plays_call.mp hfirst
          exact .call reply ((ih reply).mpr (.inl ⟨value, rest, last, rfl, played, hlast⟩))
        · obtain ⟨reply, rest, rfl, played⟩ := plays_call.mp h
          exact .call reply ((ih reply).mpr (.inr ⟨error, rfl, played⟩))

theorem plays_attempt {action : Procedure C α} {result : Except Error (Except Error α)} :
    action.attempt.Plays exchanges result ↔
      ∃ outcome, result = .ok outcome ∧ action.Plays exchanges outcome := by
  induction action generalizing exchanges with
  | done outcome =>
      simp only [attempt, plays_done]
      exact ⟨fun h => ⟨outcome, h.2, h.1, rfl⟩,
        fun ⟨_, hresult, hnil, heq⟩ => ⟨hnil, heq ▸ hresult⟩⟩
  | call c next ih =>
      simp only [attempt, plays_call, ih]
      constructor
      · rintro ⟨reply, rest, rfl, outcome, rfl, played⟩
        exact ⟨outcome, rfl, reply, rest, rfl, played⟩
      · rintro ⟨outcome, rfl, reply, rest, rfl, played⟩
        exact ⟨reply, rest, rfl, outcome, rfl, played⟩

end Parts

structure Part (C : Type → Type) (α β : Type) where
  item : β
  exchanges : List (Exchange C)
  outcome : Except Error α

section Items

variable {items : List β} {action : β → Procedure C α} {exchanges : List (Exchange C)}

def Part.Played (action : β → Procedure C α) (part : Part C α β) : Prop :=
  (action part.item).Plays part.exchanges part.outcome

theorem Plays.of_mapM_attempt {result : Except Error (List (Except Error α))}
    (h : (items.mapM fun item => (action item).attempt).Plays exchanges result) :
    ∃ parts : List (Part C α β), items = parts.map Part.item ∧
      (∀ part ∈ parts, part.Played action) ∧ exchanges = parts.flatMap Part.exchanges ∧
      result = .ok (parts.map Part.outcome) := by
  induction items generalizing exchanges result with
  | nil =>
      obtain ⟨rfl, rfl⟩ := plays_done.mp h
      exact ⟨[], rfl, List.forall_mem_nil _, rfl, rfl⟩
  | cons item rest ih =>
      rw [List.mapM_cons] at h
      rcases plays_bind.mp h with ⟨outcome, first, later, rfl, hfirst, hlater⟩ | ⟨error, -, hfirst⟩
      · obtain ⟨_, heq, hitem⟩ := plays_attempt.mp hfirst
        cases heq
        rcases plays_bind.mp hlater with ⟨outcomes, own, last, rfl, hown, hlast⟩ | ⟨error, -, hown⟩
        · obtain ⟨parts, rfl, hparts, rfl, heq⟩ := ih hown
          cases heq
          obtain ⟨rfl, rfl⟩ := plays_done.mp hlast
          exact ⟨⟨item, first, outcome⟩ :: parts, rfl, List.forall_mem_cons.mpr ⟨hitem, hparts⟩,
            by simp, rfl⟩
        · obtain ⟨parts, -, -, -, heq⟩ := ih hown
          cases heq
      · obtain ⟨outcome, heq, -⟩ := plays_attempt.mp hfirst
        cases heq

theorem Plays.of_forEach {result : Except Error (List α)}
    (h : (forEach items action).Plays exchanges result) :
    ∃ parts : List (Part C α β), items = parts.map Part.item ∧
      (∀ part ∈ parts, part.Played action) ∧ exchanges = parts.flatMap Part.exchanges ∧
      result = collect (parts.map Part.outcome) := by
  rcases plays_bind.mp h with ⟨outcomes, own, last, rfl, hown, hlast⟩ | ⟨error, -, hown⟩
  · obtain ⟨parts, hitems, hparts, rfl, heq⟩ := hown.of_mapM_attempt
    cases heq
    obtain ⟨rfl, rfl⟩ := plays_done.mp hlast
    exact ⟨parts, hitems, hparts, List.append_nil _, rfl⟩
  · obtain ⟨parts, -, -, -, heq⟩ := hown.of_mapM_attempt
    cases heq

theorem Plays.exists_item {values : List α}
    (h : (forEach items action).Plays exchanges (.ok values))
    {value : α} (member : value ∈ values) :
    ∃ item ∈ items, ∃ own, (action item).Plays own (.ok value) := by
  obtain ⟨parts, rfl, hparts, -, hcollect⟩ := h.of_forEach
  have houtcome : .ok value ∈ parts.map Part.outcome :=
    collect_eq_ok.mp hcollect.symm ▸ List.mem_map_of_mem member
  obtain ⟨part, hpart, heq⟩ := List.mem_map.mp houtcome
  exact ⟨part.item, List.mem_map_of_mem hpart, part.exchanges, heq ▸ hparts part hpart⟩

end Items

theorem Plays.of_mapCalls {f : {β : Type} → C β → D β} {action : Procedure C α}
    {exchanges : List (Exchange D)} {result : Except Error α}
    (h : (action.mapCalls f).Plays exchanges result) :
    ∃ own, exchanges = own.map (Exchange.map f) ∧ action.Plays own result := by
  induction action generalizing exchanges with
  | done outcome =>
      obtain ⟨rfl, rfl⟩ := plays_done.mp h
      exact ⟨[], rfl, .done _⟩
  | call c next ih =>
      obtain ⟨reply, rest, rfl, played⟩ := plays_call.mp h
      obtain ⟨own, rfl, hown⟩ := ih reply played
      exact ⟨⟨c, reply⟩ :: own, rfl, .call reply hown⟩

def transcript (reply : {β : Type} → C β → σ → Except Error β × σ) :
    Procedure C α → σ → List (Exchange C)
  | .done _, _ => []
  | .call c next, state =>
      ⟨c, (reply c state).1⟩ :: (next (reply c state).1).transcript reply (reply c state).2

theorem plays_transcript (reply : {β : Type} → C β → σ → Except Error β × σ)
    (action : Procedure C α) (state : σ) :
    action.Plays (action.transcript reply state) (action.run reply state).1 := by
  induction action generalizing state with
  | done result => exact .done result
  | call c next ih => exact .call _ (ih _ _)

end RunMonitor.Procedure
