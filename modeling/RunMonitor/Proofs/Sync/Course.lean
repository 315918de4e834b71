import RunMonitor.Sync.Machine

namespace RunMonitor.Sync

/-- A watch that opens brings a feed, and is closed when the feed is at its end. -/
inductive Deed (K : Type) where
  | enter (state : State)
  | list (result : Except Error (Listing K))
  | write (write : Write K) (result : Except Error Unit)
  | watch (version : String) (result : Except Error (List (WatchEvent K)))
  | apply (event : WatchEvent K)
  | close
  | sleep (ms : Nat)

namespace Deed

variable {K : Type}

def state? : Deed K → Option State
  | .enter state => some state
  | _ => none

def request? : Deed K → Option Request
  | .list _ => some .list
  | .watch version _ => some (.watch version)
  | _ => none

def access [Collected K] : Deed K → Access Unit
  | .write entry _ => entry.access
  | .apply event => (Sync.apply SortedMap.empty event).2
  | _ => pure ()

def fails : Deed K → Bool
  | .list (.error _) | .write _ (.error _) | .watch _ (.error _) => true
  | _ => false

def opens : Deed K → Bool
  | .watch _ (.ok _) => true
  | _ => false

end Deed

/-- What comes of the next call of a machine, whichever it is, and when and in what store it is
made. With a shutdown nothing comes of it. -/
structure Outcome (γ K : Type) where
  shutdown : Bool := false
  listing : Except Error (Listing K)
  order : Order := .ascending
  watch : Except Error (List (WatchEvent K))
  now : Int
  store : Store γ

structure Course (K : Type) where
  machine : Machine K
  feed : List (WatchEvent K) := []
  log : List (Deed K)

namespace Course

variable {γ K : Type} [Gate γ] [Collected K]

def start (backoff : Backoff) : Course K where
  machine := .start backoff
  log := [.enter .connecting]

def input (course : Course K) (outcome : Outcome γ K) : Input K :=
  if outcome.shutdown then .shutdown
  else
    match course.machine.stage, course.feed with
    | .listing, _ => .listed outcome.listing outcome.order
    | .writing _ _, _ => .proceed
    | .opening _, _ => .opened (outcome.watch.map fun _ => ())
    | .streaming, event :: _ => .event event
    | .streaming, [] => .closed
    | .waiting _, _ => .waited
    | .stopped, _ => .shutdown

def step (backoff : Backoff) (course : Course K) (outcome : Outcome γ K) : Machine K × Store γ :=
  course.machine.step backoff outcome.now (course.input outcome) outcome.store

def call? (course : Course K) (outcome : Outcome γ K) : Option (Deed K) :=
  match course.machine.stage, course.input outcome with
  | .listing, .listed result _ => some (.list result)
  | .writing (write :: _) _, .proceed =>
      some (.write write (write.access.run outcome.now outcome.store).1)
  | .opening version, .opened _ => some (.watch version outcome.watch)
  | .streaming, .event event => some (.apply event)
  | .streaming, .closed => some .close
  | _, _ => none

def deeds (backoff : Backoff) (course : Course K) (outcome : Outcome γ K) : List (Deed K) :=
  let after := (course.step backoff outcome).1
  (course.call? outcome).toList ++
    (course.machine.publishes (course.input outcome) after).map .enter ++
      match after.stage with
      | .waiting ms => [.sleep ms]
      | _ => []

def act (backoff : Backoff) (course : Course K) (outcome : Outcome γ K) : Course K where
  machine := (course.step backoff outcome).1
  feed :=
    match course.machine.stage, outcome.watch with
    | .opening _, .ok feed => feed
    | .streaming, _ => course.feed.tail
    | _, _ => course.feed
  log := course.log ++ course.deeds backoff outcome

def after (backoff : Backoff) (outcomes : List (Outcome γ K)) : Course K :=
  outcomes.foldl (act backoff) (start backoff)

theorem exists_outcome (backoff : Backoff) (course : Course K) (input : Input K) (now : Int)
    (store : Store γ) :
    course.machine.step backoff now input store = (course.machine, store) ∨
      ∃ feed outcome, outcome.now = now ∧ outcome.store = store ∧
        ({ course with feed := feed } : Course K).input outcome = input := by
  let plain : Outcome γ K :=
    { listing := .ok ⟨[], ""⟩, watch := .ok [], now := now, store := store }
  obtain ⟨⟨stage, written, wait⟩, feed, log⟩ := course
  cases input with
  | shutdown => exact .inr ⟨[], { plain with shutdown := true }, rfl, rfl, rfl⟩
  | listed result order =>
      cases stage with
      | listing => exact .inr ⟨[], { plain with listing := result, order := order }, rfl, rfl, rfl⟩
      | writing writes => cases writes <;> exact .inl rfl
      | _ => exact .inl rfl
  | proceed =>
      cases stage with
      | writing => exact .inr ⟨[], plain, rfl, rfl, rfl⟩
      | _ => exact .inl rfl
  | opened result =>
      cases stage with
      | opening =>
          refine .inr ⟨[], { plain with watch := result.map fun _ => [] }, rfl, rfl, ?_⟩
          cases result <;> rfl
      | writing writes => cases writes <;> exact .inl rfl
      | _ => exact .inl rfl
  | event event =>
      cases stage with
      | streaming => exact .inr ⟨[event], plain, rfl, rfl, rfl⟩
      | writing writes => cases writes <;> exact .inl rfl
      | _ => exact .inl rfl
  | closed =>
      cases stage with
      | streaming => exact .inr ⟨[], plain, rfl, rfl, rfl⟩
      | writing writes => cases writes <;> exact .inl rfl
      | _ => exact .inl rfl
  | waited =>
      cases stage with
      | waiting => exact .inr ⟨[], plain, rfl, rfl, rfl⟩
      | writing writes => cases writes <;> exact .inl rfl
      | _ => exact .inl rfl

inductive Moves (backoff : Backoff) (course : Course K) (outcome : Outcome γ K) :
    List (Deed K) → Machine K × Store γ → List (WatchEvent K) → Prop where
  | stay (stage : course.machine.stage = .stopped) (feed : List (WatchEvent K)) :
      Moves backoff course outcome [] (course.machine, outcome.store) feed
  | stop (stage : course.machine.stage ≠ .stopped) (shutdown : outcome.shutdown = true)
      (feed : List (WatchEvent K)) :
      Moves backoff course outcome [.enter .terminated]
        ({ course.machine with stage := .stopped }, outcome.store) feed
  | fail (stage : course.machine.stage.state = .connecting) (deed : Deed K) (fails : deed.fails)
      (request : deed.request? = course.machine.stage.request?) (store : Store γ)
      (run : (deed.access.run outcome.now outcome.store).2 = store) (feed : List (WatchEvent K)) :
      Moves backoff course outcome
        [deed, .enter .reconnecting, .sleep course.machine.wait]
        (course.machine.fail backoff, store) feed
  | listed (stage : course.machine.stage = .listing) (listing : Listing K) (order : Order) :
      Moves backoff course outcome [.list (.ok listing)]
        ({ course.machine with
            stage :=
              .writing (plan course.machine.written listing.items order).writes listing.version
            written := (plan course.machine.written listing.items order).written },
          outcome.store) course.feed
  | wrote (write : Write K) (rest : List (Write K)) (version : String)
      (stage : course.machine.stage = .writing (write :: rest) version) (store : Store γ)
      (run : (write.access.run outcome.now outcome.store).2 = store) :
      Moves backoff course outcome [.write write (.ok ())]
        ({ course.machine with stage := .writing rest version }, store) course.feed
  | written (version : String) (stage : course.machine.stage = .writing [] version) :
      Moves backoff course outcome []
        ({ course.machine with stage := .opening version }, outcome.store) course.feed
  | opened (version : String) (stage : course.machine.stage = .opening version)
      (feed : List (WatchEvent K)) :
      Moves backoff course outcome [.watch version (.ok feed), .enter .streaming]
        ({ course.machine with stage := .streaming, wait := backoff.initial }, outcome.store) feed
  | applied (stage : course.machine.stage = .streaming) (event : WatchEvent K)
      (rest : List (WatchEvent K)) (feed : course.feed = event :: rest) :
      Moves backoff course outcome [.apply event]
        ({ course.machine with written := (Sync.apply course.machine.written event).1 },
          ((Sync.apply course.machine.written event).2.run outcome.now outcome.store).2) rest
  | closed (stage : course.machine.stage = .streaming) (feed : course.feed = []) :
      Moves backoff course outcome [.close, .enter .reconnecting, .enter .connecting]
        ({ course.machine with stage := .listing }, outcome.store) []
  | waited (ms : Nat) (stage : course.machine.stage = .waiting ms) :
      Moves backoff course outcome [.enter .connecting]
        ({ course.machine with stage := .listing }, outcome.store) course.feed

theorem moves_act (backoff : Backoff) (course : Course K) (outcome : Outcome γ K) :
    Moves backoff course outcome (course.deeds backoff outcome) (course.step backoff outcome)
      (course.act backoff outcome).feed := by
  obtain ⟨⟨stage, written, wait⟩, feed, log⟩ := course
  obtain ⟨shutdown, listing, order, watch, now, store⟩ := outcome
  cases shutdown with
  | true =>
      cases stage with
      | stopped => exact .stay rfl _
      | writing writes version => cases writes <;> exact .stop (by simp) rfl _
      | _ => exact .stop (by simp) rfl _
  | false =>
      cases stage with
      | listing =>
          cases listing with
          | ok listing => exact .listed rfl listing order
          | error error => exact .fail rfl (.list (.error error)) rfl rfl store rfl _
      | writing writes version =>
          cases writes with
          | nil => exact .written version rfl
          | cons write rest =>
              cases hrun : write.access.run now store with
              | mk result after =>
                  have hafter : (write.access.run now store).2 = after := congrArg Prod.snd hrun
                  simp only [act, deeds, step, call?, input, Machine.step, Bool.false_eq_true,
                    if_false, hrun]
                  cases result with
                  | ok => exact .wrote write rest version rfl after hafter
                  | error error =>
                      refine .fail rfl (.write write (.error error)) rfl rfl after ?_ _
                      exact hafter
      | opening version =>
          cases watch with
          | ok feed => exact .opened version rfl feed
          | error error => exact .fail rfl (.watch version (.error error)) rfl rfl store rfl _
      | streaming =>
          cases feed with
          | nil => exact .closed rfl rfl
          | cons event rest => exact .applied rfl event rest rfl
      | waiting ms => exact .waited ms rfl
      | stopped => exact .stay rfl _

/-! The deeds are all that the machine does: to the store, and by asking the cluster. -/

def replay (now : Int) (deeds : List (Deed K)) (store : Store γ) : Store γ :=
  deeds.foldl (fun store deed => (deed.access.run now store).2) store

theorem result_of_mem_deeds {backoff : Backoff} {course : Course K} {outcome : Outcome γ K}
    {write : Write K} {result : Except Error Unit}
    (h : .write write result ∈ course.deeds backoff outcome) :
    (write.access.run outcome.now outcome.store).1 = result := by
  have hcall : course.call? outcome = some (.write write result) := by
    rcases List.mem_append.mp h with h | hafter
    · rcases List.mem_append.mp h with hcall | hentered
      · exact Option.mem_toList.mp hcall
      · obtain ⟨state, -, heq⟩ := List.mem_map.mp hentered
        cases heq
    · split at hafter
      · cases List.mem_singleton.mp hafter
      · cases hafter
  unfold call? at hcall
  split at hcall
  case h_2 =>
    obtain ⟨rfl, hresult⟩ := Deed.write.inj (Option.some.inj hcall)
    exact hresult
  all_goals cases hcall

theorem access_apply (written : Written) (event : WatchEvent K) :
    (Sync.apply written event).2 = (Sync.apply SortedMap.empty event).2 := by
  unfold Sync.apply
  cases Collected.collectionKey? event.object <;> rfl

variable {backoff : Backoff} {course : Course K} {outcome : Outcome γ K} {deeds : List (Deed K)}
  {next : Machine K × Store γ} {feed : List (WatchEvent K)}

theorem Moves.store_eq (moves : Moves backoff course outcome deeds next feed) :
    next.2 = replay outcome.now deeds outcome.store := by
  cases moves with
  | fail stage deed fails request store run => exact run.symm
  | wrote write rest version stage store run => exact run.symm
  | applied stage event => rw [access_apply]; rfl
  | _ => rfl

theorem Moves.requests (moves : Moves backoff course outcome deeds next feed)
    (h : outcome.shutdown = false) :
    deeds.filterMap Deed.request? = course.machine.stage.request?.toList := by
  cases moves with
  | stay stage => rw [stage]; rfl
  | stop stage shutdown => rw [h] at shutdown; cases shutdown
  | fail stage deed fails request =>
      rw [← request]
      cases hrequest : deed.request? with
      | none => exact List.filterMap_cons_none hrequest
      | some request => exact List.filterMap_cons_some hrequest
  | listed stage => rw [stage]; rfl
  | wrote write rest version stage => rw [stage]; rfl
  | written version stage => rw [stage]; rfl
  | opened version stage => rw [stage]; rfl
  | applied stage => rw [stage]; rfl
  | closed stage => rw [stage]; rfl
  | waited ms stage => rw [stage]; rfl

end Course
end RunMonitor.Sync
