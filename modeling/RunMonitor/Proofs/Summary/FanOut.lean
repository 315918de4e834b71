import RunMonitor.Proofs.FanOut
import RunMonitor.Proofs.Summary.Reading

namespace RunMonitor

/-- Refuses every call on some of the keys, each time with the same error. -/
structure Outage where
  refusal? : String → Option Error

instance : Gate Outage where
  allow _ key outage := ((outage.refusal? key).elim (.ok ()) .error, outage)

abbrev Moment (first last : Int) : Type := { t : Int // first ≤ t ∧ t ≤ last }

def Rows.IsStill (rows : Rows) (first last : Int) : Prop :=
  ∀ (moment : Moment first last) (key : String), rows.live moment key = rows.live first key

/-- A call is made at one of the times in between. -/
def Store.replyWithin {γ : Type} [Gate γ] (first last : Int) (moment : Moment first last)
    {β : Type} (call : StoreCall β) (store : Store γ) : Except Error β × Store γ :=
  Store.reply moment call store

def Job.podsKey (job : Job) : String :=
  Key.podsOf job.metadata.nsOrEmpty job.metadata.displayName

theorem Store.reply_get (t : Int) (key : String) (store : Store Outage) :
    Store.reply t (.get key) store =
      ((store.gate.refusal? key).elim (.ok (store.rows.live t key)) .error, store) := by
  unfold Store.reply
  cases hrefusal : store.gate.refusal? key <;>
    simp [Gate.allow, StoreCall.key, StoreCall.perform, hrefusal]

namespace JobSummary

def readResult (store : Store Outage) (t : Int) (now : Instant) (job : Job) :
    Except Error JobSummary :=
  (store.gate.refusal? job.podsKey).elim (.ok (store.rows.runSummary t now job)) .error

theorem read_eq (now : Instant) (job : Job) :
    read now job = .call (.get job.podsKey) fun reply => .done (reply.map fun bytes =>
      ofJob job (Pod.newestOwned job.metadata.displayName (Collection.decodeOrEmpty bytes)) now) :=
  congrArg (Procedure.call _) (funext fun reply => by cases reply <;> rfl)

variable {first last t : Int} {store : Store Outage} {now : Instant} {jobs : List Job}

theorem run_read (t : Int) (store : Store Outage) (now : Instant) (job : Job) :
    (read now job).run t store = (readResult store t now job, store) := by
  rw [read_eq, Access.run, Procedure.run, Store.reply_get, readResult]
  cases store.gate.refusal? job.podsKey <;> rfl

theorem isSteady_read (hstill : store.rows.IsStill first last) (now : Instant) (job : Job) :
    (read now job).IsSteady (Store.replyWithin first last) store := by
  rw [read_eq]
  have hreply : ∀ moment, Store.replyWithin first last moment (.get job.podsKey) store =
      Store.reply first (.get job.podsKey) store := fun moment => by
    rw [Store.replyWithin, Store.reply_get, Store.reply_get, hstill moment]
  exact ⟨_, fun moment => (hreply moment).trans (Store.reply_get first job.podsKey store), trivial⟩

abbrev Gathering : Type 1 := FanOut StoreCall (Store Outage) JobSummary Job

structure Gathers (store : Store Outage) (first last : Int) (now : Instant) (jobs : List Job)
    (count : Nat) (gathering : Gathering) : Prop where
  store_eq : gathering.state = store
  progress : gathering.result = none →
    ∃ next, gathering.Step (Store.replyWithin first last) (read now) next
  ends : count ≤ 4 * jobs.length + 1 ∧ (gathering.result.isSome ↔ count = 4 * jobs.length + 1)
  barrier : ∀ result, gathering.result = some result → gathering.unstarted = [] ∧
    gathering.tasks = jobs.map fun job => .joined (readResult store first now job)
  sequential : ∀ result, gathering.result = some result →
    result = ((readAll now jobs).run first store).1
  all : ∀ result, gathering.result = some result →
    (∀ job ∈ jobs, store.gate.refusal? job.podsKey = none) →
      result = .ok (jobs.map (store.rows.runSummary first now))
  failed : ∀ result, gathering.result = some result → ∀ before job behind error,
    jobs = before ++ job :: behind → (∀ job ∈ before, store.gate.refusal? job.podsKey = none) →
      store.gate.refusal? job.podsKey = some error → result = .error error

theorem map_readResult_of_not_refused (h : ∀ job ∈ jobs, store.gate.refusal? job.podsKey = none) :
    jobs.map (readResult store t now) = (jobs.map (store.rows.runSummary t now)).map .ok := by
  rw [List.map_map]
  exact List.map_congr_left fun job member => by simp [readResult, h job member]

theorem stepsLeft_start (moment : Moment first last) (store : Store Outage) (now : Instant)
    (jobs : List Job) :
    (⟨store, jobs, [], none⟩ : Gathering).stepsLeft (Store.replyWithin first last) moment store
      (read now) = 4 * jobs.length + 1 := by
  have hcall : ∀ job, (read now job).callCount (Store.replyWithin first last moment) store = 1 :=
    fun job => by
      rw [read_eq]
      rfl
  simp [FanOut.stepsLeft, hcall, Nat.mul_comm]

/-- Whatever the order of their reads is, and whenever they come to an end, the tasks gather what
reading for one job after the other gathers. They do so after a fixed number of steps, and none of
them is left then. -/
theorem gathers_of_run (hle : first ≤ last) (hstill : store.rows.IsStill first last)
    {count : Nat} {gathering : Gathering}
    (run : FanOut.Run (Store.replyWithin first last) (read now) ⟨store, jobs, [], none⟩ count
      gathering) : Gathers store first last now jobs count gathering := by
  let start : Moment first last := ⟨first, Int.le_refl first, hle⟩
  have hsteady : ∀ job ∈ jobs, (read now job).IsSteady (Store.replyWithin first last) store :=
    fun job _ => isSteady_read hstill now job
  obtain ⟨hsound, hcount⟩ := run.sound start hsteady
  rw [stepsLeft_start] at hcount
  have hover : ∀ result, gathering.result = some result → gathering.unstarted = [] ∧
      gathering.tasks = jobs.map (FanOut.Task.joined ∘ readResult store first now) ∧
      result = Procedure.collect (jobs.map (readResult store first now)) := by
    intro result hresult
    have houtcome : FanOut.outcome (Store.replyWithin first last) start store (read now) =
        readResult store first now :=
      funext fun job => congrArg Prod.fst (run_read first store now job)
    exact houtcome ▸ hsound.tasks_eq hresult
  constructor
  case store_eq => exact hsound.state_eq
  case progress => exact FanOut.exists_step start
  case ends =>
    rw [hsound.isSome_result_iff]
    omega
  case barrier => exact fun result hresult => ⟨(hover result hresult).1, (hover result hresult).2.1⟩
  case sequential => exact fun result hresult => hsound.result_eq hsteady hresult
  case all =>
    intro result hresult hadmitted
    rw [(hover result hresult).2.2, map_readResult_of_not_refused hadmitted]
    exact Procedure.collect_eq_ok.mpr rfl
  case failed =>
    intro result hresult before job behind error hjobs hadmitted hrefused
    subst hjobs
    rw [(hover result hresult).2.2, List.map_append, List.map_cons,
      map_readResult_of_not_refused hadmitted, readResult, hrefused]
    exact Procedure.collect_append_error _ error _

/-! The last of three tasks is the first to be refused, and the second one's error counts. -/

section Trio

def trio : List Job := ["run-1", "run-2", "run-3"].map fun name =>
  { metadata := { name := some name, ns := some "default" } }

def lateOutage : Store Outage where
  gate.refusal? key :=
    if key = "pods/default/run-1" then none else some (.internal ("refused " ++ key))

def trioAtEnd : Gathering where
  state := lateOutage
  unstarted := []
  tasks := trio.map fun job => .joined (readResult lateOutage 0 ⟨0, 0⟩ job)
  result := some (.error (.internal "refused pods/default/run-2"))

abbrev TrioRun (count : Nat) (gathering : Gathering) : Prop :=
  FanOut.Run (Store.replyWithin 0 5) (read ⟨0, 0⟩) ⟨lateOutage, trio, [], none⟩ count gathering

theorem run_trio : TrioRun 13 trioAtEnd := by
  have started : TrioRun 3 _ :=
    ((FanOut.Run.start.step (.start ..)).step (.start ..)).step (.start ..)
  have third : TrioRun 5 _ :=
    (started.step (.work [] [_, _] [] none (.call _ _ _ ⟨1, by decide⟩))).step
      (.work [] [_, _] [] none (.finish _ _))
  have first : TrioRun 7 _ :=
    (third.step (.work [] [] [_, _] none (.call _ _ _ ⟨3, by decide⟩))).step
      (.join _ [_, _] [] _)
  have second : TrioRun 10 _ :=
    ((first.step (.work [] [_] [_] none (.call _ _ _ ⟨5, by decide⟩))).step
      (.work [] [_] [_] none (.finish _ _))).step (.work [] [] [_, _] none (.finish _ _))
  exact ((second.step (.join _ [_] [_] _)).step (.join _ [] [_, _] _)).step (.conclude _ [_, _, _])

theorem gathers_of_run_trio :
    (0 : Int) ≤ 5 ∧ lateOutage.rows.IsStill 0 5 ∧ TrioRun 13 trioAtEnd ∧
      Gathers lateOutage 0 5 ⟨0, 0⟩ trio 13 trioAtEnd :=
  ⟨by decide, fun _ _ => rfl, run_trio,
    gathers_of_run (by decide) (fun _ _ => rfl) run_trio⟩

end Trio

end JobSummary
end RunMonitor
