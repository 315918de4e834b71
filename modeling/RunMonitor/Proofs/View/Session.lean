import Mathlib.Logic.Relation
import RunMonitor.Proofs.Store.Access
import RunMonitor.Proofs.View.Keeping

namespace RunMonitor.View

/-! Clients that look at the views in any order. To wait for a turn only rules some orders out. -/

inductive Request where
  | cronJobs
  | cronJob (ns name : String)
  | pods (ns name : String)
  | definition (ns name : String)

def Request.SlashFree : Request → Prop
  | .cronJobs => True
  | .cronJob ns _ | .pods ns _ | .definition ns _ => '/' ∉ ns.toList

structure Task where
  {α : Type}
  rest : View α
  answer : Option Answer := none

def Request.task (ttl : Nat) : Request → Task
  | .cronJobs => { rest := View.cronJobs ttl }
  | .cronJob ns name => { rest := View.cronJob ttl ns name }
  | .pods ns name => { rest := View.pods ttl ns name }
  | .definition ns name => { rest := View.definition ttl ns name }

structure Task.Careful (ttl : Nat) (answers : List Answer) (task : Task) : Prop where
  keeps : task.rest.Keeps ttl task.answer
  heard : ∀ answer ∈ task.answer, answer ∈ answers

structure Stored where
  key : String
  value : ByteArray
  time : Int

def Stored.of? {β : Type} (time : Int) : StoreCall β → Except Error β → Option Stored
  | .set key value _, .ok _ => some ⟨key, value, time⟩
  | _, _ => none

structure Backed (ttl : Nat) (answers : List Answer) (stored : List Stored) (clock : Int)
    (rows : Rows) : Prop where
  genuine : ∀ note ∈ stored, ∃ answer ∈ answers, answer.entry? = some (note.key, note.value)
  past : ∀ note ∈ stored, note.time ≤ clock
  live : ∀ key, Key.IsLookup key → ∀ t, clock ≤ t → ∀ value, rows.live t key = some value →
    ∃ time : Int, ⟨key, value, time⟩ ∈ stored ∧ t < time + ttl

namespace Backed

variable {ttl : Nat} {answers : List Answer} {stored : List Stored} {clock : Int} {rows : Rows}

theorem mono (h : Backed ttl answers stored clock rows) {answers' : List Answer}
    (hsub : answers ⊆ answers') : Backed ttl answers' stored clock rows where
  genuine note member := (h.genuine note member).imp fun _ hanswer => ⟨hsub hanswer.1, hanswer.2⟩
  past := h.past
  live := h.live

theorem later (h : Backed ttl answers stored clock rows) {time : Int} (hle : clock ≤ time) :
    Backed ttl answers stored time rows where
  genuine := h.genuine
  past note member := Int.le_trans (h.past note member) hle
  live key hkey t hle' := h.live key hkey t (Int.le_trans hle hle')

theorem fewer (h : Backed ttl answers stored clock rows) {rows' : Rows}
    (hfewer : ∀ key, Key.IsLookup key → ∀ t, clock ≤ t → ∀ value,
      rows'.live t key = some value → rows.live t key = some value) :
    Backed ttl answers stored clock rows' where
  genuine := h.genuine
  past := h.past
  live key hkey t hle value hlive := h.live key hkey t hle value (hfewer key hkey t hle value hlive)

theorem put (h : Backed ttl answers stored clock rows) (hrange : Rows.InRange (clock + ttl))
    {answer : Answer} (hanswer : answer ∈ answers) {key : String} {value : ByteArray}
    (hentry : answer.entry? = some (key, value)) :
    Backed ttl answers (stored ++ [⟨key, value, clock⟩]) clock
      (rows.put clock key value (some ttl)) := by
  refine ⟨?_, ?_, ?_⟩
  · intro note member
    rcases List.mem_append.mp member with member | member
    · exact h.genuine note member
    · obtain rfl := List.mem_singleton.mp member
      exact ⟨answer, hanswer, hentry⟩
  · intro note member
    rcases List.mem_append.mp member with member | member
    · exact h.past note member
    · obtain rfl := List.mem_singleton.mp member
      exact Int.le_refl clock
  · intro k hk t hle found hlive
    rw [Rows.live_put_of_inRange _ hrange] at hlive
    split at hlive
    case isTrue hkey =>
      split at hlive
      case isTrue hlt =>
        cases hlive
        exact ⟨clock, List.mem_append_right _ (hkey ▸ List.mem_singleton_self _), hlt⟩
      case isFalse => cases hlive
    case isFalse =>
      obtain ⟨time, member, hlt⟩ := h.live k hk t hle found hlive
      exact ⟨time, List.mem_append_left _ member, hlt⟩

end Backed

/-- All answers and all values that the store has taken are noted. -/
structure Session (γ : Type) where
  store : Store γ
  clock : Int
  tasks : List Task := []
  answers : List Answer := []
  stored : List Stored := []

namespace Session

variable {γ : Type} [Gate γ]

section Turns

variable {α β : Type} (s : Session γ) (i : Nat)

def called (call : StoreCall β) (next : Except Error β → View α) (answer : Option Answer) :
    Session γ :=
  let (reply, store) := Store.reply s.clock call s.store
  { s with
    store := store
    tasks := s.tasks.set i ⟨next reply, answer⟩
    stored := s.stored ++ (Stored.of? s.clock call reply).toList }

def answered (inquiry : Inquiry β) (reply : Except Error β) (next : Except Error β → View α)
    (answer : Option Answer) : Session γ :=
  { s with
    tasks := s.tasks.set i ⟨next reply, (inquiry.answer? reply).or answer⟩
    answers := s.answers ++ (inquiry.answer? reply).toList }

def proceed (replies : {β : Type} → Inquiry β → Except Error β) : Option (Session γ) :=
  match s.tasks[i]? with
  | some ⟨.call (.inl call) next, answer⟩ => some (s.called i call next answer)
  | some ⟨.call (.inr inquiry) next, answer⟩ =>
      some (s.answered i inquiry (replies inquiry) next answer)
  | some ⟨.done _, _⟩ | none => none

end Turns

/-- Others may take away what has been looked up, but add nothing to it. -/
inductive Step (ttl : Nat) : Session γ → Session γ → Prop where
  | join (s : Session γ) (request : Request) (slashFree : request.SlashFree) :
      Step ttl s { s with tasks := s.tasks ++ [request.task ttl] }
  | wait (s : Session γ) (time : Int) (later : s.clock ≤ time) :
      Step ttl s { s with clock := time }
  | others (s : Session γ) (store : Store γ)
      (elsewhere : ∀ key, Key.IsLookup key → ∀ t, s.clock ≤ t → ∀ value,
        store.rows.live t key = some value → s.store.rows.live t key = some value) :
      Step ttl s { s with store := store }
  | proceed (s : Session γ) (i : Nat) (replies : {β : Type} → Inquiry β → Except Error β)
      (s' : Session γ) (proceeded : s.proceed i replies = some s') : Step ttl s s'

abbrev Run (ttl : Nat) : Session γ → Session γ → Prop := Relation.ReflTransGen (Step ttl)

structure Sound (ttl : Nat) (s : Session γ) : Prop where
  careful : ∀ task ∈ s.tasks, task.Careful ttl s.answers
  slashFree : ∀ answer ∈ s.answers, answer.SlashFree
  backed : Backed ttl s.answers s.stored s.clock s.store.rows

end Session

theorem keeps_cases {γ β : Type} [Gate γ] {ttl : Nat} {answer : Option Answer} {call : StoreCall β}
    (h : call.Keeps ttl answer) (now : Int) (store : Store γ) :
    ((Store.reply now call store).2.rows = store.rows ∧
      Stored.of? now call (Store.reply now call store).1 = none) ∨
    ∃ key value, answer.bind Answer.entry? = some (key, value) ∧
      (Store.reply now call store).2.rows = store.rows.put now key value (some ttl) ∧
      Stored.of? now call (Store.reply now call store).1 = some ⟨key, value, now⟩ := by
  rcases Store.reply_cases now call store with ⟨gate, hreply⟩ | ⟨error, gate, hreply⟩
  · rw [hreply]
    cases call with
    | get key => exact .inl ⟨rfl, rfl⟩
    | set key value ttl' =>
        obtain ⟨rfl, hentry⟩ := h
        exact .inr ⟨key, value, hentry, rfl, rfl⟩
    | update key f => exact h.elim
    | delete key => exact h.elim
    | purge => exact h.elim
  · rw [hreply]
    refine .inl ⟨rfl, ?_⟩
    cases call <;> rfl

theorem Task.Careful.mono {ttl : Nat} {answers answers' : List Answer} {task : Task}
    (h : task.Careful ttl answers) (hsub : answers ⊆ answers') : task.Careful ttl answers' :=
  ⟨h.keeps, fun answer member => hsub (h.heard answer member)⟩

theorem Request.careful_task {ttl : Nat} {request : Request} (h : request.SlashFree)
    (answers : List Answer) : (request.task ttl).Careful ttl answers := by
  cases request with
  | cronJobs => exact ⟨keeps_cronJobs, fun answer member => by cases member⟩
  | cronJob ns name => exact ⟨keeps_cronJob h name, fun answer member => by cases member⟩
  | pods ns name => exact ⟨keeps_pods h name, fun answer member => by cases member⟩
  | definition ns name => exact ⟨keeps_definition h name, fun answer member => by cases member⟩

namespace Session

variable {γ α β : Type} {ttl : Nat} {s s' : Session γ} {i : Nat} {answer : Option Answer}

theorem proceed_cases [Gate γ] {replies : {β : Type} → Inquiry β → Except Error β}
    (h : s.proceed i replies = some s') :
    (∃ (α β : Type) (call : StoreCall β) (next : Except Error β → View α) (answer : Option Answer),
      s.tasks[i]? = some ⟨.call (.inl call) next, answer⟩ ∧ s' = s.called i call next answer) ∨
    ∃ (α β : Type) (inquiry : Inquiry β) (next : Except Error β → View α) (answer : Option Answer),
      s.tasks[i]? = some ⟨.call (.inr inquiry) next, answer⟩ ∧
        s' = s.answered i inquiry (replies inquiry) next answer := by
  unfold proceed at h
  split at h
  case h_1 α β call next answer htask =>
    exact .inl ⟨α, β, call, next, answer, htask, (Option.some.inj h).symm⟩
  case h_2 α β inquiry next answer htask =>
    exact .inr ⟨α, β, inquiry, next, answer, htask, (Option.some.inj h).symm⟩
  case h_3 => cases h
  case h_4 => cases h

namespace Sound

theorem join (h : Sound ttl s) {request : Request} (hfree : request.SlashFree) :
    Sound ttl { s with tasks := s.tasks ++ [request.task ttl] } where
  careful := by
    intro task member
    rcases List.mem_append.mp member with member | member
    · exact h.careful task member
    · rw [List.mem_singleton.mp member]
      exact request.careful_task hfree s.answers
  slashFree := h.slashFree
  backed := h.backed

theorem answered (h : Sound ttl s) {inquiry : Inquiry β} {next : Except Error β → View α}
    (htask : s.tasks[i]? = some ⟨.call (.inr inquiry) next, answer⟩) (reply : Except Error β) :
    Sound ttl (s.answered i inquiry reply next answer) := by
  have hcareful := h.careful _ (List.mem_of_getElem? htask)
  refine ⟨?_, ?_, h.backed.mono (List.subset_append_left _ _)⟩
  · intro task member
    rcases List.mem_or_eq_of_mem_set member with member | rfl
    · exact (h.careful task member).mono (List.subset_append_left _ _)
    · refine ⟨hcareful.keeps.2 reply, fun known member => ?_⟩
      rcases Option.or_eq_some_iff.mp member with hnew | ⟨-, hold⟩
      · exact List.mem_append_right _ (Option.mem_toList.mpr hnew)
      · exact List.mem_append_left _ (hcareful.heard known hold)
  · intro known member
    rcases List.mem_append.mp member with member | member
    · exact h.slashFree known member
    · exact hcareful.keeps.1.answer (Option.mem_toList.mp member)

theorem called [Gate γ] (h : Sound ttl s) (hrange : Rows.InRange (s.clock + ttl))
    {call : StoreCall β} {next : Except Error β → View α}
    (htask : s.tasks[i]? = some ⟨.call (.inl call) next, answer⟩) :
    Sound ttl (s.called i call next answer) := by
  have hcareful := h.careful _ (List.mem_of_getElem? htask)
  refine ⟨?_, h.slashFree, ?_⟩
  · intro task member
    rcases List.mem_or_eq_of_mem_set member with member | rfl
    · exact h.careful task member
    · exact ⟨hcareful.keeps.2 _, hcareful.heard⟩
  · show Backed ttl s.answers
      (s.stored ++ (Stored.of? s.clock call (Store.reply s.clock call s.store).1).toList) s.clock
      (Store.reply s.clock call s.store).2.rows
    rcases keeps_cases hcareful.keeps.1 s.clock s.store with
      ⟨hsame, hnone⟩ | ⟨key, value, hentry, hput, hsome⟩
    · rw [hsame, hnone, Option.toList_none, List.append_nil]
      exact h.backed
    · rw [hput, hsome, Option.toList_some]
      obtain ⟨known, hknown, hkept⟩ := Option.bind_eq_some_iff.mp hentry
      exact h.backed.put hrange (hcareful.heard known hknown) hkept

theorem step [Gate γ] (h : Sound ttl s) (hrange : Rows.InRange (s.clock + ttl))
    (step : Step ttl s s') : Sound ttl s' := by
  cases step with
  | join request hfree => exact h.join hfree
  | wait time later => exact ⟨h.careful, h.slashFree, h.backed.later later⟩
  | others store elsewhere => exact ⟨h.careful, h.slashFree, h.backed.fewer elsewhere⟩
  | proceed i replies _ proceeded =>
      rcases proceed_cases proceeded with
        ⟨α, β, call, next, answer, htask, rfl⟩ | ⟨α, β, inquiry, next, answer, htask, rfl⟩
      · exact h.called hrange htask
      · exact h.answered htask (replies inquiry)

end Sound

def start (store : Store γ) (clock : Int) : Session γ := { store := store, clock := clock }

theorem sound_start {store : Store γ} {clock : Int}
    (hempty : ∀ key, Key.IsLookup key → store.rows.live clock key = none) :
    Sound ttl (start store clock) := by
  refine ⟨List.forall_mem_nil _, List.forall_mem_nil _, List.forall_mem_nil _,
    List.forall_mem_nil _, ?_⟩
  intro key hkey t hle value hlive
  cases (hempty key hkey).symm.trans (Rows.live_of_le hle hlive)

def StoredLately (ttl : Nat) (s : Session γ) (key : String) (value : ByteArray) : Prop :=
  ∃ time : Int, ⟨key, value, time⟩ ∈ s.stored ∧ time ≤ s.clock ∧ s.clock < time + ttl

theorem Sound.storedLately (h : Sound ttl s) {key : String} (hkey : Key.IsLookup key)
    {value : ByteArray} (hlive : s.store.rows.live s.clock key = some value) :
    StoredLately ttl s key value ∧ ∃ answer ∈ s.answers, answer.SlashFree ∧
      answer.entry? = some (key, value) := by
  obtain ⟨time, member, hlt⟩ := h.backed.live key hkey s.clock (Int.le_refl _) value hlive
  obtain ⟨answer, hanswer, hentry⟩ := h.backed.genuine _ member
  exact ⟨⟨time, member, h.backed.past _ member, hlt⟩, answer, hanswer,
    h.slashFree answer hanswer, hentry⟩

section Runs

variable [Gate γ]

theorem Step.clock_le (step : Step ttl s s') : s.clock ≤ s'.clock := by
  cases step with
  | join request hfree => exact Int.le_refl _
  | wait time later => exact later
  | others store elsewhere => exact Int.le_refl _
  | proceed i replies _ proceeded =>
      rcases proceed_cases proceeded with ⟨_, _, _, _, _, _, rfl⟩ | ⟨_, _, _, _, _, _, rfl⟩ <;>
        exact Int.le_refl _

theorem Run.clock_le (run : Run ttl s s') : s.clock ≤ s'.clock := by
  induction run with
  | refl => exact Int.le_refl _
  | tail _ step ih => exact Int.le_trans ih step.clock_le

theorem Run.sound (run : Run ttl s s') (h : Sound ttl s) (past : Rows.InRange (s.clock + ttl))
    (future : Rows.InRange (s'.clock + ttl)) : Sound ttl s' := by
  induction run with
  | refl => exact h
  | @tail middle last hrun step ih =>
      -- what does not wrap around at the end has not done so before
      have hbefore := Int.add_le_add_right (Run.clock_le hrun) ttl
      have hafter := Int.add_le_add_right step.clock_le ttl
      have hrange := past.between future hbefore hafter
      exact (ih hrange).step hrange step

structure Genuine (ttl : Nat) (s : Session γ) : Prop where
  definition : ∀ ns name value, '/' ∉ ns.toList →
    s.store.rows.live s.clock (Key.definition ns name) = some value →
    StoredLately ttl s (Key.definition ns name) value ∧
      ∃ cronJob : CronJob, value = Resource.encode cronJob ∧
        .object .cronJob ns name (.ok (some cronJob)) ∈ s.answers
  runIndex : ∀ value, s.store.rows.live s.clock Key.runIndex = some value →
    StoredLately ttl s Key.runIndex value ∧
      ∃ listing, value = (RunIndex.build listing).encode ∧ .jobs (.ok listing) ∈ s.answers
  /-- Nothing is stored after an answer of which nothing is kept. -/
  idle : ∀ (i : Nat) (replies : {β : Type} → Inquiry β → Except Error β) (task : Task)
    (s' : Session γ), s.tasks[i]? = some task → task.answer.bind Answer.entry? = none →
    s.proceed i replies = some s' → s'.store.rows = s.store.rows

theorem genuine_of_run {store : Store γ} {clock : Int} (run : Run ttl (start store clock) s)
    (hempty : ∀ key, Key.IsLookup key → store.rows.live clock key = none)
    (past : Rows.InRange (clock + ttl)) (future : Rows.InRange (s.clock + ttl)) :
    s.Genuine ttl := by
  have hsound := run.sound (sound_start hempty) past future
  refine ⟨?_, ?_, ?_⟩
  · intro ns name value hns hlive
    obtain ⟨hlately, answer, member, hfree, hentry⟩ :=
      hsound.storedLately (.inr ⟨ns, name, rfl⟩) hlive
    obtain ⟨cronJob, rfl, hvalue⟩ := Answer.of_entry_definition hns hfree hentry
    exact ⟨hlately, cronJob, hvalue, member⟩
  · intro value hlive
    obtain ⟨hlately, answer, member, -, hentry⟩ := hsound.storedLately (.inl rfl) hlive
    obtain ⟨listing, rfl, hvalue⟩ := Answer.of_entry_runIndex hentry
    exact ⟨hlately, listing, hvalue, member⟩
  · intro i replies task s' htask hnone hproceed
    rcases proceed_cases hproceed with
      ⟨α, β, call, next, answer, hcall, rfl⟩ | ⟨α, β, inquiry, next, answer, -, rfl⟩
    · obtain rfl := Option.some.inj (htask.symm.trans hcall)
      have hkeeps := (hsound.careful _ (List.mem_of_getElem? hcall)).keeps.1
      rcases keeps_cases hkeeps s.clock s.store with ⟨hsame, -⟩ | ⟨key, value, hentry, -, -⟩
      · exact hsame
      · cases hnone.symm.trans hentry
    · rfl

end Runs

section Halfway

def nightly : CronJob := { metadata := { name := some "nightly", ns := some "default" } }

def replies : {β : Type} → Inquiry β → Except Error β
  | _, .object .cronJob _ _ => .ok (some nightly)
  | _, .object .job _ _ | _, .object .pod _ _ => .ok none
  | _, .jobs => .error (.cluster "unreachable")
  | _, .time => .ok ⟨0, 0⟩

def play : List Nat → Session Unit → Option (Session Unit)
  | [], s => some s
  | i :: rest, s =>
      match s.proceed i replies with
      | some s => play rest s
      | none => none

theorem run_play {turns : List Nat} {s s' : Session Unit} (h : play turns s = some s') :
    Run ttl s s' := by
  induction turns generalizing s with
  | nil =>
      cases h
      exact .refl
  | cons i rest ih =>
      rw [play] at h
      split at h
      case h_1 middle hproceed => exact .head (.proceed s i replies middle hproceed) (ih h)
      case h_2 => cases h

def asked : Session Unit :=
  { store := { gate := () }
    clock := 0
    tasks := [Request.task 1000 (.cronJob "default" "nightly"),
      Request.task 1000 (.pods "default" "nightly")] }

def halfway : Session Unit := (play [0, 1, 0, 0, 0, 1, 0, 0, 0] asked).getD asked

theorem run_halfway : Run 1000 (start { gate := () } 0) { halfway with clock := 500 } := by
  have hasked : Run 1000 (start { gate := () } 0) asked := by
    refine .tail (.single (.join _ (.cronJob "default" "nightly") ?_))
      (.join _ (.pods "default" "nightly") ?_)
    · exact show '/' ∉ "default".toList by decide
    · exact show '/' ∉ "default".toList by decide
  have hsome : (play [0, 1, 0, 0, 0, 1, 0, 0, 0] asked).isSome = true := by decide +kernel
  have hplay : play [0, 1, 0, 0, 0, 1, 0, 0, 0] asked = some halfway := by
    rw [halfway, ← Option.get_eq_getD _ (h := hsome), Option.some_get]
  exact (hasked.trans (run_play hplay)).tail (.wait halfway 500 (by decide +kernel))

theorem genuine_halfway :
    (halfway.store.rows.live 500 (Key.definition "default" "nightly")).isSome = true ∧
      Genuine 1000 { halfway with clock := 500 } :=
  ⟨by decide +kernel,
    genuine_of_run run_halfway (fun _ _ => rfl) (by decide) (by decide)⟩

end Halfway

end Session
end RunMonitor.View
