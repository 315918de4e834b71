import RunMonitor.Proofs.Cache.Key
import RunMonitor.Proofs.Transcript
import RunMonitor.Proofs.View.Lookup
import RunMonitor.View.Basic
import RunMonitor.View.Catalog

namespace RunMonitor

/-! Each failure is reported but for those of the lookup of the run index. -/

open Procedure

structure Failure where
  key : String
  error : Error
  deriving DecidableEq

def StoreCall.failure? {β : Type} (call : StoreCall β) : Except Error β → Option Failure
  | .ok _ => none
  | .error error => some ⟨call.key, error⟩

def Access.failures (exchanges : List (Exchange StoreCall)) : List Failure :=
  exchanges.filterMap fun exchange => exchange.call.failure? exchange.reply

/-- The end is an error exactly if there are failures, and then it is the error of one of them. -/
def Accounts {α : Type} (failures : List Failure) : Except Error α → Prop
  | .ok _ => failures = []
  | .error error => ∃ failure ∈ failures, failure.error = error

namespace Access

variable {α β : Type}

/-- Accounts for all failures, none of which is one of the run index. -/
def Candid (access : Access α) : Prop :=
  ∀ exchanges result, Procedure.Plays access exchanges result →
    Accounts (failures exchanges) result ∧
      ∀ failure ∈ failures exchanges, failure.key ≠ Key.runIndex

variable {access : Access α}

theorem candid_pure (value : α) : Candid (pure value : Access α) := by
  intro exchanges result h
  obtain ⟨rfl, rfl⟩ := plays_done.mp h
  exact ⟨rfl, List.forall_mem_nil _⟩

theorem candid_get {key : String} (hkey : key ≠ Key.runIndex) : Candid (Store.get key) := by
  intro exchanges result h
  rw [Store.get, plays_ask] at h
  subst h
  cases result with
  | ok value => exact ⟨rfl, List.forall_mem_nil _⟩
  | error error =>
      refine ⟨⟨⟨key, error⟩, List.mem_singleton_self _, rfl⟩, fun failure member => ?_⟩
      rw [List.mem_singleton.mp member]
      exact hkey

theorem Candid.andThen {f : α → Access β} (h : access.Candid) (hf : ∀ value, Candid (f value)) :
    Candid (access >>= f) := by
  intro exchanges result hplays
  rcases plays_bind.mp hplays with ⟨value, first, rest, rfl, hfirst, hrest⟩ | ⟨error, rfl, herror⟩
  · have hnone : failures first = [] := (h _ _ hfirst).1
    have heq : failures (first ++ rest) = failures rest := by
      rw [failures, List.filterMap_append]
      exact congrArg (· ++ failures rest) hnone
    rw [heq]
    exact hf value _ _ hrest
  · exact h _ _ herror

theorem Candid.map (h : access.Candid) (f : α → β) : Candid (do return f (← access)) :=
  h.andThen fun value => candid_pure (f value)

theorem candid_forEach {items : List β} {action : β → Access α}
    (h : ∀ item, Candid (action item)) : Candid (forEach items action) := by
  intro exchanges result hplays
  obtain ⟨parts, -, hparts, rfl, rfl⟩ := hplays.of_forEach
  have hcandid : ∀ part ∈ parts, Accounts (failures part.exchanges) part.outcome ∧
      ∀ failure ∈ failures part.exchanges, failure.key ≠ Key.runIndex := fun part member =>
    h part.item _ _ (hparts part member)
  have hfailures : failures (parts.flatMap Part.exchanges) =
      parts.flatMap fun part => failures part.exchanges := List.filterMap_flatMap ..
  rw [hfailures]
  constructor
  · cases hcollect : collect (parts.map Part.outcome) with
    | ok values =>
        refine List.flatMap_eq_nil_iff.mpr fun part member => ?_
        have hpart : part.outcome ∈ values.map Except.ok :=
          collect_eq_ok.mp hcollect ▸ List.mem_map_of_mem member
        obtain ⟨value, -, heq⟩ := List.mem_map.mp hpart
        have haccounts := (hcandid part member).1
        rw [← heq] at haccounts
        exact haccounts
    | error error =>
        obtain ⟨part, member, heq⟩ := List.mem_map.mp (mem_of_collect_eq_error hcollect)
        have haccounts := (hcandid part member).1
        rw [heq] at haccounts
        obtain ⟨failure, hfailure, herror⟩ := haccounts
        exact ⟨failure, List.mem_flatMap.mpr ⟨part, member, hfailure⟩, herror⟩
  · intro failure hfailure
    obtain ⟨part, member, hfailure⟩ := List.mem_flatMap.mp hfailure
    exact (hcandid part member).2 failure hfailure

theorem candid_read {K : Type} [Resource K] {key : String} (hkey : key ≠ Key.runIndex) :
    Candid (Collection.read (K := K) key) :=
  (candid_get hkey).map _

theorem candid_readAll (now : Instant) (jobs : List Job) :
    Candid (JobSummary.readAll now jobs) := by
  refine candid_forEach fun job => ?_
  have hread : Candid (Collection.podsOf job) :=
    (candid_read (Key.podsOf_ne_runIndex _ _)).map _
  exact hread.map _

theorem candid_cronJob (now : Instant) (cronJob : CronJob) (jobs : List Job) :
    Candid (CronJobSummary.read now cronJob jobs) :=
  (candid_readAll now jobs).map _

theorem runless_of_read {now : Instant} {cronJob : CronJob} {own : List (Exchange StoreCall)}
    {summary : CronJobSummary}
    (h : Procedure.Plays (CronJobSummary.read now cronJob []) own (.ok summary)) :
    summary.allRuns = [] := by
  obtain ⟨-, heq⟩ := plays_done.mp h
  cases heq
  exact List.mergeSort_nil

end Access

namespace View

abbrev Exchanges : Type 1 := List (Exchange fun β => StoreCall β ⊕ Inquiry β)

def failure? : (Exchange fun β => StoreCall β ⊕ Inquiry β) → Option Failure
  | ⟨.inl access, reply⟩ => access.failure? reply
  | ⟨.inr _, _⟩ => none

def failures (exchanges : Exchanges) : List Failure := exchanges.filterMap failure?

def Ticks : (Exchange fun β => StoreCall β ⊕ Inquiry β) → Prop
  | ⟨.inr .time, reply⟩ => reply.isOk
  | _ => True

variable {α β : Type} {ttl : Nat} {exchanges : Exchanges}

theorem failures_append (first rest : Exchanges) :
    failures (first ++ rest) = failures first ++ failures rest :=
  List.filterMap_append

theorem plays_access {access : Access α} {result : Except Error α}
    (h : Plays (liftM access : View α) exchanges result) :
    ∃ own, Procedure.Plays access own result ∧ failures exchanges = Access.failures own := by
  obtain ⟨own, rfl, hown⟩ := h.of_mapCalls
  refine ⟨own, hown, ?_⟩
  rw [failures, List.filterMap_map]
  rfl

theorem plays_seek {key : String} {missed : View ByteArray} {result : Except Error ByteArray}
    (h : (seek key missed).Plays exchanges result) :
    (∃ error, failures exchanges = [⟨key, error⟩] ∧ result = .error error) ∨
    (failures exchanges = [] ∧ result.isOk) ∨
    ∃ rest, missed.Plays rest result ∧ failures exchanges = failures rest := by
  obtain ⟨reply, rest, rfl, hrest⟩ := plays_call.mp h
  rcases reply with error | (_ | hit)
  · obtain ⟨rfl, rfl⟩ := plays_done.mp hrest
    exact .inl ⟨error, rfl, rfl⟩
  · exact .inr (.inr ⟨rest, hrest, rfl⟩)
  · obtain ⟨rfl, rfl⟩ := plays_done.mp hrest
    exact .inr (.inl ⟨rfl, rfl⟩)

theorem plays_lookUp {key : String} {fetch : View ByteArray} {inquiry : Inquiry β}
    {f : Except Error β → Except Error ByteArray} (hfetch : fetch = fetching inquiry f)
    {result : Except Error ByteArray} (h : (lookUp ttl key fetch).Plays exchanges result) :
    failures exchanges = [] ∨
      ∃ error, failures exchanges = [⟨key, error⟩] ∧ result = .error error := by
  subst hfetch
  rw [lookUp_eq] at h
  rcases plays_seek h with hfailed | ⟨hnone, -⟩ | ⟨exchanges, h, heq⟩
  · exact .inr hfailed
  · exact .inl hnone
  rw [heq]
  rcases plays_seek h with hfailed | ⟨hnone, -⟩ | ⟨exchanges, h, heq⟩
  · exact .inr hfailed
  · exact .inl hnone
  rw [heq]
  rcases plays_bind.mp h with ⟨value, first, rest, rfl, hfetch, hkeep⟩ | ⟨error, -, hfetch⟩
  · obtain ⟨reply, last, rfl, hlast⟩ := plays_call.mp hfetch
    obtain ⟨rfl, -⟩ := plays_done.mp hlast
    obtain ⟨reply, last, rfl, hlast⟩ := plays_call.mp hkeep
    obtain ⟨rfl, rfl⟩ := plays_done.mp hlast
    cases reply with
    | ok _ => exact .inl rfl
    | error error => exact .inr ⟨error, rfl, rfl⟩
  · obtain ⟨reply, last, rfl, hlast⟩ := plays_call.mp hfetch
    obtain ⟨rfl, -⟩ := plays_done.mp hlast
    exact .inl rfl

theorem plays_runIndex {result : Except Error RunIndex}
    (h : (runIndex ttl).Plays exchanges result) :
    ∃ index, result = .ok index ∧ (failures exchanges = [] ∨
      ∃ error, failures exchanges = [⟨Key.runIndex, error⟩] ∧ index = SortedMap.empty) := by
  rw [runIndex] at h
  rcases plays_bind.mp h with ⟨found, first, rest, rfl, hfirst, hrest⟩ | ⟨error, -, hfirst⟩
  · obtain ⟨outcome, heq, hlookUp⟩ := plays_attempt.mp hfirst
    cases heq
    have hfailures := plays_lookUp fetching_jobs hlookUp
    cases found with
    | ok bytes =>
        obtain ⟨rfl, rfl⟩ := plays_done.mp hrest
        refine ⟨_, rfl, .inl ?_⟩
        rw [List.append_nil]
        exact hfailures.resolve_right fun ⟨_, _, heq⟩ => by cases heq
    | error error =>
        obtain ⟨rfl, rfl⟩ := plays_done.mp hrest
        rw [List.append_nil]
        exact ⟨_, rfl, hfailures.imp_right fun ⟨error, heq, _⟩ => ⟨error, heq, rfl⟩⟩
  · obtain ⟨outcome, heq, -⟩ := plays_attempt.mp hfirst
    cases heq

theorem plays_definition {ns name : String} {result : Except Error CronJob}
    (h : (definition ttl ns name).Plays exchanges result) :
    failures exchanges = [] ∨
      ∃ error, failures exchanges = [⟨Key.definition ns name, error⟩] ∧ result = .error error := by
  rw [definition] at h
  rcases plays_bind.mp h with ⟨bytes, first, rest, rfl, hfirst, hrest⟩ | ⟨error, rfl, hfirst⟩
  · have hfirst : failures first = [] :=
      (plays_lookUp (fetching_object ns name) hfirst).resolve_right fun ⟨_, _, heq⟩ => by cases heq
    have hrest : rest = [] := by
      split at hrest <;> exact (plays_done.mp hrest).1
    exact .inl (by rw [hrest, List.append_nil, hfirst])
  · exact (plays_lookUp (fetching_object ns name) hfirst).imp_right fun ⟨error', heq, hresult⟩ =>
      ⟨error', heq, by cases hresult; rfl⟩

inductive SummaryRequest where
  | all
  | one (ns name : String)

def SummaryRequest.view (ttl : Nat) : SummaryRequest → View (List CronJobSummary)
  | .all => cronJobs ttl
  | .one ns name => do return [← cronJob ttl ns name]

/-- What a request ends with after the failures that there have been. -/
structure Reported (failures : List Failure) (result : Except Error (List CronJobSummary)) :
    Prop where
  error_iff : (∃ error, result = .error error) ↔ ∃ failure ∈ failures, failure.key ≠ Key.runIndex
  own : ∀ error, result = .error error →
    ∃ failure ∈ failures, failure.key ≠ Key.runIndex ∧ failure.error = error
  /-- The run index that is missing counts as empty. -/
  runless : ∀ summaries, result = .ok summaries → ∀ summary ∈ summaries, summary.allRuns = []

theorem reported_error {failures : List Failure} {failure : Failure} (member : failure ∈ failures)
    (hkey : failure.key ≠ Key.runIndex) : Reported failures (.error failure.error) where
  error_iff := ⟨fun _ => ⟨failure, member, hkey⟩, fun _ => ⟨failure.error, rfl⟩⟩
  own error heq := ⟨failure, member, hkey, Except.error.inj heq⟩
  runless summaries heq := by cases heq

theorem reported_ok {error : Error} {summaries : List CronJobSummary}
    (hrunless : ∀ summary ∈ summaries, summary.allRuns = []) :
    Reported [⟨Key.runIndex, error⟩] (.ok summaries) where
  error_iff := by
    constructor
    · intro h
      obtain ⟨_, heq⟩ := h
      cases heq
    · intro h
      obtain ⟨failure, member, hkey⟩ := h
      rw [List.mem_singleton.mp member] at hkey
      exact absurd rfl hkey
  own _ heq := by cases heq
  runless _ heq := Except.ok.inj heq ▸ hrunless

theorem failures_of_candid {access : Access α} (h : access.Candid) {value : α}
    (hplays : Plays (liftM access : View α) exchanges (.ok value)) : failures exchanges = [] := by
  obtain ⟨own, hown, heq⟩ := plays_access hplays
  exact heq.trans (h own _ hown).1

theorem exists_failure_of_candid {access : Access α} (h : access.Candid) {error : Error}
    (hplays : Plays (liftM access : View α) exchanges (.error error)) :
    ∃ failure ∈ failures exchanges, failure.key ≠ Key.runIndex ∧ failure.error = error := by
  obtain ⟨own, hown, heq⟩ := plays_access hplays
  obtain ⟨⟨failure, member, hfailure⟩, hkeys⟩ := h own _ hown
  exact ⟨failure, heq ▸ member, hkeys failure member, hfailure⟩

theorem plays_time {f : Instant → View α} {result : Except Error α}
    (h : (inquire .time >>= f).Plays exchanges result)
    (hclock : ∀ exchange ∈ exchanges, Ticks exchange) :
    ∃ now rest, (f now).Plays rest result ∧ failures exchanges = failures rest := by
  rcases plays_bind.mp h with ⟨now, tick, rest, rfl, htick, hrest⟩ | ⟨error, -, htick⟩
  · rw [inquire, plays_ask] at htick
    subst htick
    exact ⟨now, rest, hrest, rfl⟩
  · rw [inquire, plays_ask] at htick
    subst htick
    exact absurd (hclock _ (List.mem_singleton_self _)) Bool.false_ne_true

theorem reported_of_runs {read : RunIndex → Instant → Access α} {f : α → List CronJobSummary}
    {result : Except Error (List CronJobSummary)} (hread : ∀ index now, (read index now).Candid)
    (hrunless : ∀ now own value, Procedure.Plays (read SortedMap.empty now) own (.ok value) →
      ∀ summary ∈ f value, summary.allRuns = [])
    (h : (do
      let index ← runIndex ttl
      let now ← inquire .time
      return f (← read index now) : View (List CronJobSummary)).Plays exchanges result)
    (hclock : ∀ exchange ∈ exchanges, Ticks exchange) (hfailed : failures exchanges ≠ []) :
    Reported (failures exchanges) result := by
  rcases plays_bind.mp h with ⟨index, first, rest, rfl, hfirst, hrest⟩ | ⟨error, -, hfirst⟩
  case inr =>
    obtain ⟨index, heq, -⟩ := plays_runIndex hfirst
    cases heq
  obtain ⟨_, heq, hindex⟩ := plays_runIndex hfirst
  cases heq
  obtain ⟨now, later, hlater, hsame⟩ := plays_time hrest fun exchange member =>
    hclock exchange (List.mem_append_right _ member)
  rw [failures_append, hsame] at hfailed ⊢
  rcases plays_bind.mp hlater with ⟨value, own, last, rfl, hown, hlast⟩ | ⟨error, rfl, hown⟩
  · obtain ⟨rfl, rfl⟩ := plays_done.mp hlast
    rw [List.append_nil, failures_of_candid (hread index now) hown, List.append_nil] at hfailed ⊢
    obtain ⟨error, hlost, rfl⟩ := hindex.resolve_left hfailed
    obtain ⟨exchanges, hplays, -⟩ := plays_access hown
    rw [hlost]
    exact reported_ok (hrunless now exchanges value hplays)
  · obtain ⟨failure, member, hkey, rfl⟩ := exists_failure_of_candid (hread index now) hown
    exact reported_error (List.mem_append_right _ member) hkey

/-- Where store calls have failed, a request ends with an error exactly if one of them was not of
the lookup of the run index. Otherwise it ends with summaries without runs. -/
theorem reported_of_failures {request : SummaryRequest}
    {result : Except Error (List CronJobSummary)} (h : (request.view ttl).Plays exchanges result)
    (hclock : ∀ exchange ∈ exchanges, Ticks exchange) (hfailed : failures exchanges ≠ []) :
    Reported (failures exchanges) result := by
  cases request with
  | all =>
      rcases plays_bind.mp h with ⟨cronJobs, first, rest, rfl, hfirst, hrest⟩ | ⟨error, rfl, hfirst⟩
      · have hnone : failures first = [] :=
          failures_of_candid (Access.candid_read (by decide)) hfirst
        rw [failures_append, hnone, List.nil_append] at hfailed ⊢
        refine reported_of_runs (fun index now => ?_) (fun now own summaries hplays summary => ?_)
          hrest (fun exchange member => hclock exchange (List.mem_append_right _ member)) hfailed
        · exact Access.candid_forEach fun cronJob => Access.candid_cronJob now cronJob _
        · intro member
          obtain ⟨cronJob, -, own, hread⟩ := hplays.exists_item (List.mem_mergeSort.mp member)
          exact Access.runless_of_read hread
      · obtain ⟨failure, member, hkey, rfl⟩ :=
          exists_failure_of_candid (Access.candid_read (by decide)) hfirst
        exact reported_error member hkey
  | one ns name =>
      simp only [SummaryRequest.view, cronJob, bind_assoc] at h
      rcases plays_bind.mp h with ⟨cronJob, first, rest, rfl, hfirst, hrest⟩ | ⟨error, rfl, hfirst⟩
      · have hnone : failures first = [] :=
          (plays_definition hfirst).resolve_right fun ⟨_, _, heq⟩ => by cases heq
        rw [failures_append, hnone, List.nil_append] at hfailed ⊢
        refine reported_of_runs (fun index now => ?_) (fun now own summary hplays other => ?_)
          hrest (fun exchange member => hclock exchange (List.mem_append_right _ member)) hfailed
        · exact Access.candid_cronJob now cronJob _
        · intro member
          rw [List.mem_singleton.mp member]
          exact Access.runless_of_read hplays
      · obtain ⟨_, heq, hresult⟩ := (plays_definition hfirst).resolve_left hfailed
        cases hresult
        rw [heq]
        exact reported_error (List.mem_singleton_self _) (Key.definition_ne_runIndex ns name)

section Sites

variable {γ κ : Type} [Gate γ] [Cluster κ]

theorem ticks_transcript (now : Instant) (view : View α) (site : Site γ κ) :
    ∀ exchange ∈ view.transcript (reply now) site, Ticks exchange := by
  induction view generalizing site with
  | done result => exact List.forall_mem_nil _
  | call call next ih =>
      refine List.forall_mem_cons.mpr ⟨?_, ih _ _⟩
      rcases call with access | inquiry
      · trivial
      · cases inquiry <;> trivial

end Sites

section Nightly

def nightlyCronJob : CronJob := { metadata := { name := some "nightly", ns := some "default" } }

def nightlyRun : Job where
  metadata := {
    name := some "nightly-1"
    ns := some "default"
    ownerReferences := some [{ kind := "CronJob", name := "nightly" }] }

def nightlySite (faults : List Fault) : Site (List Fault) Catalog where
  store := {
    rows := SortedMap.empty.insert Key.cronJobs ⟨Resource.encodeAll [nightlyCronJob], none⟩
    gate := faults }
  cluster := { jobs := [nightlyRun] }

def indexFault : Fault := { operation := .get, key := some Key.runIndex }

def podsFault : Fault := { operation := .get, key := some (Key.podsOf "default" "nightly-1") }

def nightlyView : View (List CronJobSummary) := SummaryRequest.all.view 1000

def nightlyTranscript (faults : List Fault) : Exchanges :=
  nightlyView.transcript (reply ⟨0, 0⟩) (nightlySite faults)

theorem plays_nightly (faults : List Fault) :
    nightlyView.Plays (nightlyTranscript faults)
      (nightlyView.run ⟨0, 0⟩ (nightlySite faults)).1 :=
  plays_transcript _ _ _

theorem reported_pods :
    failures (nightlyTranscript [podsFault]) =
        [⟨Key.podsOf "default" "nightly-1",
          Fault.refusal .get (Key.podsOf "default" "nightly-1")⟩] ∧
      Reported (failures (nightlyTranscript [podsFault]))
        (nightlyView.run ⟨0, 0⟩ (nightlySite [podsFault])).1 := by
  have hfailures : failures (nightlyTranscript [podsFault]) =
      [⟨Key.podsOf "default" "nightly-1",
        Fault.refusal .get (Key.podsOf "default" "nightly-1")⟩] := by
    decide +kernel
  refine ⟨hfailures, reported_of_failures (plays_nightly _) (ticks_transcript _ _ _) ?_⟩
  rw [hfailures]
  exact List.cons_ne_nil _ _

/-- The run index cannot be read, and the cron job is said to have no runs. -/
theorem not_reported_of_index :
    ¬ ∀ (ttl : Nat) (request : SummaryRequest) (exchanges : Exchanges)
        (result : Except Error (List CronJobSummary)),
      (request.view ttl).Plays exchanges result → (∀ exchange ∈ exchanges, Ticks exchange) →
      failures exchanges ≠ [] → ∃ error, result = .error error := by
  intro hall
  have hfailures : failures (nightlyTranscript [indexFault]) =
      [⟨Key.runIndex, Fault.refusal .get Key.runIndex⟩] := by
    decide +kernel
  obtain ⟨error, heq⟩ := hall 1000 .all _ _ (plays_nightly [indexFault]) (ticks_transcript _ _ _)
    (by rw [hfailures]; exact List.cons_ne_nil _ _)
  have hok : (nightlyView.run ⟨0, 0⟩ (nightlySite [indexFault])).1.isOk = true := by
    decide +kernel
  rw [heq] at hok
  cases hok

end Nightly

end View
end RunMonitor
