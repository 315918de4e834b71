import RunMonitor.Proofs.Sync.Course
import RunMonitor.Proofs.Sync.Plan

namespace RunMonitor.Sync

def Throughout {α : Type} (P : List α → α → List α → Prop) (earlier : List α) : List α → Prop
  | [] => True
  | item :: later => P earlier item later ∧ Throughout P (earlier ++ [item]) later

section Throughout

variable {α : Type} {P : List α → α → List α → Prop} {earlier items others : List α}

theorem Throughout.append (h : Throughout P earlier items)
    (hmono : ∀ earlier item later, P earlier item later → P earlier item (later ++ others))
    (hothers : Throughout P (earlier ++ items) others) :
    Throughout P earlier (items ++ others) := by
  induction items generalizing earlier with
  | nil => simpa using hothers
  | cons item rest ih =>
      refine ⟨hmono _ _ _ h.1, ih h.2 ?_⟩
      rwa [List.append_assoc]

theorem Throughout.split {before later : List α} {item : α}
    (h : Throughout P earlier (before ++ item :: later)) : P (earlier ++ before) item later := by
  induction before generalizing earlier with
  | nil => simpa using h.1
  | cons first rest ih => simpa using ih h.2

end Throughout

namespace State

def successors : State → List State
  | .connecting => [.streaming, .reconnecting, .terminated]
  | .streaming => [.reconnecting, .terminated]
  | .reconnecting => [.connecting, .terminated]
  | .terminated => []

inductive Path : State → List State → State → Prop where
  | nil (state : State) : Path state [] state
  | cons {state next last : State} {word : List State} (h : next ∈ state.successors)
      (rest : Path next word last) : Path state (next :: word) last

variable {first middle last : State} {word others : List State}

theorem Path.append (path : Path first word middle) (rest : Path middle others last) :
    Path first (word ++ others) last := by
  induction path with
  | nil => exact rest
  | cons h _ ih => exact .cons h (ih rest)

theorem Path.last_of_mem (path : Path first word last) (h : .terminated ∈ first :: word) :
    last = .terminated := by
  induction path with
  | nil => exact (List.mem_singleton.mp h).symm
  | cons hnext rest ih =>
      rcases List.mem_cons.mp h with rfl | h
      · cases hnext
      · exact ih h

end State

namespace Backoff

/-- The wait after a failure, by the number of failures in a row before it. -/
def waitAfter (backoff : Backoff) (before : Nat) : Nat :=
  min (backoff.initial * Nat.pow 2 before) backoff.max

theorem waitAfter_zero {backoff : Backoff} (h : backoff.initial ≤ backoff.max) :
    backoff.waitAfter 0 = backoff.initial := by
  simp [waitAfter, h]

theorem next_waitAfter (backoff : Backoff) (before : Nat) :
    backoff.next (backoff.waitAfter before) = backoff.waitAfter (before + 1) := by
  have hpow : backoff.initial * Nat.pow 2 (before + 1) =
      2 * (backoff.initial * Nat.pow 2 before) := by
    rw [Nat.pow, Nat.mul_eq, Nat.mul_comm _ 2, Nat.mul_left_comm]
  rw [next, waitAfter, waitAfter, hpow]
  omega

theorem waitAfter_le (backoff : Backoff) (before : Nat) : backoff.waitAfter before ≤ backoff.max :=
  Nat.min_le_right _ _

end Backoff

section Log

variable {K : Type}

def Deed.count (failures : Nat) (deed : Deed K) : Nat :=
  if deed.fails then failures + 1 else if deed.opens then 0 else failures

def failures (log : List (Deed K)) : Nat := log.foldl Deed.count 0

variable [Collected K]

/-- What counts as written after a deed. The order of a listing's writes is of no account for it. -/
def Deed.remember (written : Written) : Deed K → Written
  | .list (.ok listing) => (plan written listing.items .ascending).written
  | .apply event => (Sync.apply written event).1
  | _ => written

def remembered (log : List (Deed K)) : Written := log.foldl Deed.remember SortedMap.empty

theorem Deed.remember_of_fails {deed : Deed K} (h : deed.fails) (written : Written) :
    deed.remember written = written := by
  cases deed with
  | list result =>
      cases result with
      | ok => cases h
      | error => rfl
  | apply => cases h
  | _ => rfl

/-- The log ends with a listing and the first of the writes that it calls for, all of them done. -/
def HasListed (log : List (Deed K)) (version : String) (pending : List (Write K)) : Prop :=
  ∃ before listing order done,
    log = before ++ .list (.ok listing) :: done.map (Deed.write · (.ok ())) ∧
      (plan (remembered before) listing.items order).writes = done ++ pending ∧
        listing.version = version

/-- The log ends with what has been taken so far from the feed of a watch. -/
def HasTaken (log : List (Deed K)) (taken left : List (WatchEvent K)) : Prop :=
  ∃ before version, log = before ++
    .watch version (.ok (taken ++ left)) :: .enter .streaming :: taken.map Deed.apply

/-- What has come before a deed. A wait comes after a failure, which does not count itself. -/
def Deed.Requires (backoff : Backoff) (earlier : List (Deed K)) : Deed K → Prop
  | .enter .streaming => ∃ before version feed,
      HasListed before version [] ∧ earlier = before ++ [.watch version (.ok feed)]
  | .apply event => ∃ taken left, HasTaken earlier taken (event :: left)
  | .close => ∃ taken, HasTaken earlier taken []
  | .sleep ms => ms = backoff.waitAfter (failures earlier - 1) ∧
      ∃ before failed, failed.fails ∧ earlier = before ++ [failed, .enter .reconnecting]
  | _ => True

/-- Nothing comes after the end. A failure is followed by a wait, and the end of a feed is not. -/
structure Lawful (backoff : Backoff) (earlier : List (Deed K)) (deed : Deed K)
    (later : List (Deed K)) : Prop where
  unended : .enter .terminated ∉ earlier
  requires : deed.Requires backoff earlier
  failing : deed.fails → ∃ ms rest, later = .enter .reconnecting :: .sleep ms :: rest
  opening : deed.opens → ∃ rest, later = .enter .streaming :: rest
  closing : deed = .close → ∃ rest, later = .enter .reconnecting :: .enter .connecting :: rest

namespace Lawful

variable {backoff : Backoff} {earlier later : List (Deed K)} {deed : Deed K}

theorem of_requires (hunended : .enter .terminated ∉ earlier)
    (hrequires : deed.Requires backoff earlier) (hfails : deed.fails = false)
    (hopens : deed.opens = false) (hclose : deed ≠ .close) :
    Lawful backoff earlier deed later where
  unended := hunended
  requires := hrequires
  failing h := absurd h (by simp [hfails])
  opening h := absurd h (by simp [hopens])
  closing h := absurd h hclose

theorem of_fails (hunended : .enter .terminated ∉ earlier) (hfails : deed.fails) {ms : Nat}
    {rest : List (Deed K)} :
    Lawful backoff earlier deed (.enter .reconnecting :: .sleep ms :: rest) where
  unended := hunended
  requires := by
    cases deed with
    | list | write | watch => trivial
    | _ => cases hfails
  failing _ := ⟨ms, rest, rfl⟩
  opening h := by
    cases deed with
    | watch version result =>
        cases result with
        | ok => cases hfails
        | error => cases h
    | _ => cases h
  closing h := by
    subst h
    cases hfails

theorem append (h : Lawful backoff earlier deed later) (others : List (Deed K)) :
    Lawful backoff earlier deed (later ++ others) where
  unended := h.unended
  requires := h.requires
  failing hfails := by
    obtain ⟨ms, rest, rfl⟩ := h.failing hfails
    exact ⟨ms, rest ++ others, rfl⟩
  opening hopens := by
    obtain ⟨rest, rfl⟩ := h.opening hopens
    exact ⟨rest ++ others, rfl⟩
  closing hclose := by
    obtain ⟨rest, rfl⟩ := h.closing hclose
    exact ⟨rest ++ others, rfl⟩

end Lawful

def Stage.Trails (log : List (Deed K)) (feed : List (WatchEvent K)) : Stage K → Prop
  | .writing pending version => HasListed log version pending
  | .opening version => HasListed log version []
  | .streaming => ∃ taken, HasTaken log taken feed
  | .listing | .waiting _ | .stopped => True

end Log

namespace Course

variable {γ K : Type} [Gate γ] [Collected K] {backoff : Backoff} {course : Course K}
  {outcome : Outcome γ K} {deeds : List (Deed K)} {next : Machine K × Store γ}
  {feed : List (WatchEvent K)}

theorem Moves.written_eq (moves : Moves backoff course outcome deeds next feed)
    (h : course.machine.written = remembered course.log) :
    next.1.written = remembered (course.log ++ deeds) := by
  have hremembered : remembered (course.log ++ deeds) =
      deeds.foldl Deed.remember course.machine.written := by
    rw [h]
    exact List.foldl_append ..
  rw [hremembered]
  cases moves with
  | fail stage deed fails => exact (Deed.remember_of_fails fails _).symm
  | _ => rfl

theorem Moves.trails (moves : Moves backoff course outcome deeds next feed)
    (hwritten : course.machine.written = remembered course.log)
    (h : course.machine.stage.Trails course.log course.feed) :
    next.1.stage.Trails (course.log ++ deeds) feed := by
  cases moves with
  | stay stage =>
      rw [stage]
      trivial
  | stop => trivial
  | fail => trivial
  | listed stage listing order =>
      rw [hwritten]
      exact ⟨course.log, listing, order, [], rfl, rfl, rfl⟩
  | wrote write rest version stage =>
      -- the write goes over from those that are pending to those that are done
      rw [stage] at h
      obtain ⟨before, listing, order, done, hlog, hplan, hversion⟩ := h
      exact ⟨before, listing, order, done ++ [write], by simp [hlog], by simp [hplan], hversion⟩
  | written version stage =>
      rw [stage] at h
      rw [List.append_nil]
      exact h
  | opened version stage => exact ⟨[], course.log, version, rfl⟩
  | applied stage event rest hfeed =>
      rw [stage, hfeed] at h
      obtain ⟨taken, before, version, hlog⟩ := h
      simp only [stage]
      exact ⟨taken ++ [event], before, version, by simp [hlog]⟩
  | closed => trivial
  | waited => trivial

def states (course : Course K) : List State := course.log.filterMap Deed.state?

theorem Moves.path (moves : Moves backoff course outcome deeds next feed) :
    State.Path course.machine.stage.state (deeds.filterMap Deed.state?) next.1.stage.state := by
  cases moves with
  | stay => exact .nil _
  | stop stage =>
      refine .cons ?_ (.nil _)
      cases hstage : course.machine.stage with
      | stopped => exact absurd hstage stage
      | _ => simp [Stage.state, State.successors]
  | fail stage deed fails =>
      have hstate : deed.state? = none := by
        cases deed with
        | enter state => cases fails
        | _ => rfl
      rw [stage, List.filterMap_cons_none hstate]
      exact .cons (by decide) (.nil _)
  | listed stage =>
      rw [stage]
      exact .nil _
  | wrote write rest version stage =>
      rw [stage]
      exact .nil _
  | written version stage =>
      rw [stage]
      exact .nil _
  | opened version stage =>
      rw [stage]
      show State.Path .connecting [.streaming] .streaming
      exact .cons (by decide) (.nil _)
  | applied => exact .nil _
  | closed stage =>
      rw [stage]
      show State.Path .streaming [.reconnecting, .connecting] .connecting
      exact .cons (by decide) (.cons (by decide) (.nil _))
  | waited ms stage =>
      rw [stage]
      show State.Path .reconnecting [.connecting] .connecting
      exact .cons (by decide) (.nil _)

theorem Moves.wait_eq (moves : Moves backoff course outcome deeds next feed)
    (hinitial : backoff.initial ≤ backoff.max)
    (h : course.machine.wait = backoff.waitAfter (failures course.log)) :
    next.1.wait = backoff.waitAfter (failures (course.log ++ deeds)) := by
  have hfailures : failures (course.log ++ deeds) = deeds.foldl Deed.count (failures course.log) :=
    List.foldl_append ..
  rw [hfailures]
  cases moves with
  | fail stage deed fails =>
      have hcount : [deed, .enter .reconnecting, .sleep course.machine.wait].foldl Deed.count
          (failures course.log) = failures course.log + 1 := if_pos fails
      rw [hcount, ← Backoff.next_waitAfter, ← h]
      rfl
  | opened => exact (Backoff.waitAfter_zero hinitial).symm
  | _ => simpa [Deed.count, Deed.fails, Deed.opens] using h

theorem Moves.lawful (moves : Moves backoff course outcome deeds next feed)
    (hended : .enter .terminated ∈ course.log → course.machine.stage = .stopped)
    (hwait : course.machine.wait = backoff.waitAfter (failures course.log))
    (htrails : course.machine.stage.Trails course.log course.feed) :
    Throughout (Lawful backoff) course.log deeds := by
  have hunended : ∀ {stage}, course.machine.stage = stage → stage ≠ .stopped →
      .enter .terminated ∉ course.log := by
    intro stage heq hne hmem
    exact hne (heq.symm.trans (hended hmem))
  -- each deed is judged with the log up to it, so those of one act come one after the other
  cases moves with
  | stay => trivial
  | stop stage => exact ⟨.of_requires (hunended rfl stage) trivial rfl rfl nofun, trivial⟩
  | fail stage deed fails =>
      have hnot : .enter .terminated ∉ course.log := by
        refine hunended rfl fun heq => ?_
        rw [heq] at stage
        cases stage
      have hne : .enter .terminated ≠ deed := by
        rintro rfl
        cases fails
      have hcount : failures (course.log ++ [deed] ++ [.enter .reconnecting]) =
          failures course.log + 1 := by
        rw [failures, List.foldl_append, List.foldl_append]
        exact if_pos fails
      -- the call that has failed, the state that follows and the wait
      refine ⟨.of_fails hnot fails, .of_requires ?_ trivial rfl rfl nofun,
        .of_requires ?_ ⟨?_, course.log, deed, fails, List.append_assoc ..⟩ rfl rfl nofun, trivial⟩
      · simpa [hne] using hnot
      · simpa [hne] using hnot
      · rw [hcount, hwait, Nat.add_sub_cancel]
  | listed stage => exact ⟨.of_requires (hunended stage nofun) trivial rfl rfl nofun, trivial⟩
  | wrote write rest version stage =>
      exact ⟨.of_requires (hunended stage nofun) trivial rfl rfl nofun, trivial⟩
  | written => trivial
  | opened version stage feed =>
      have hnot := hunended stage nofun
      rw [stage] at htrails
      refine ⟨⟨hnot, trivial, nofun, fun _ => ⟨[], rfl⟩, nofun⟩,
        .of_requires ?_ ⟨course.log, version, feed, htrails, rfl⟩ rfl rfl nofun, trivial⟩
      simpa using hnot
  | applied stage event rest hfeed =>
      have hnot := hunended stage nofun
      rw [stage, hfeed] at htrails
      obtain ⟨taken, htaken⟩ := htrails
      exact ⟨.of_requires hnot ⟨taken, _, htaken⟩ rfl rfl nofun, trivial⟩
  | closed stage hfeed =>
      have hnot := hunended stage nofun
      rw [stage, hfeed] at htrails
      refine ⟨⟨hnot, htrails, nofun, nofun, fun _ => ⟨[], rfl⟩⟩,
        .of_requires ?_ trivial rfl rfl nofun, .of_requires ?_ trivial rfl rfl nofun, trivial⟩
      · simpa using hnot
      · simpa using hnot
  | waited ms stage => exact ⟨.of_requires (hunended stage nofun) trivial rfl rfl nofun, trivial⟩

structure Sound (backoff : Backoff) (course : Course K) : Prop where
  path : ∃ word, course.states = .connecting :: word ∧
    State.Path .connecting word course.machine.stage.state
  written_eq : course.machine.written = remembered course.log
  trails : course.machine.stage.Trails course.log course.feed
  wait_eq : course.machine.wait = backoff.waitAfter (failures course.log)
  lawful : Throughout (Lawful backoff) [] course.log

theorem Sound.stopped (h : Sound backoff course) (hended : .enter .terminated ∈ course.log) :
    course.machine.stage = .stopped := by
  obtain ⟨word, hstates, path⟩ := h.path
  have hmem : State.terminated ∈ course.states :=
    List.mem_filterMap.mpr ⟨_, hended, rfl⟩
  rw [hstates] at hmem
  have hstate := path.last_of_mem hmem
  cases hstage : course.machine.stage with
  | stopped => rfl
  | _ =>
      rw [hstage] at hstate
      cases hstate

theorem sound_start (hinitial : backoff.initial ≤ backoff.max) :
    Sound backoff (start backoff : Course K) where
  path := ⟨[], rfl, .nil _⟩
  written_eq := rfl
  trails := trivial
  wait_eq := (Backoff.waitAfter_zero hinitial).symm
  lawful := ⟨.of_requires List.not_mem_nil trivial rfl rfl nofun, trivial⟩

theorem Sound.act (h : Sound backoff course) (hinitial : backoff.initial ≤ backoff.max)
    (outcome : Outcome γ K) : Sound backoff (course.act backoff outcome) := by
  have moves := moves_act backoff course outcome
  refine ⟨?_, moves.written_eq h.written_eq, moves.trails h.written_eq h.trails,
    moves.wait_eq hinitial h.wait_eq, ?_⟩
  · obtain ⟨word, hstates, path⟩ := h.path
    refine ⟨word ++ (course.deeds backoff outcome).filterMap Deed.state?, ?_,
      path.append moves.path⟩
    rw [← List.cons_append, ← hstates]
    exact List.filterMap_append
  · refine h.lawful.append (fun _ _ _ hlawful => hlawful.append _) ?_
    exact moves.lawful h.stopped h.wait_eq h.trails

theorem Sound.run (h : Sound backoff course) (hinitial : backoff.initial ≤ backoff.max)
    (outcomes : List (Outcome γ K)) :
    Sound backoff (outcomes.foldl (Course.act backoff) course) := by
  induction outcomes generalizing course with
  | nil => exact h
  | cons outcome rest ih => exact ih (h.act hinitial outcome)

/-- Done in a store that refuses nothing, the writes leave the objects of each collection under its
key, and nothing where something counted as written and there are no objects now. -/
def Settles (written : Written) (items : List K) (writes : List (Write K)) : Prop :=
  ∀ (now t : Int) (store : Store Unit) (key : String),
    (replay now (writes.map (Deed.write · (.ok ()))) store).rows.live t key =
      if filed key items ≠ [] ∨ (written.withFixed K).contains key = true then target? key items
      else store.rows.live t key

theorem replay_writes (now : Int) (writes : List (Write K)) (store : Store Unit) :
    replay now (writes.map (Deed.write · (.ok ()))) store =
      ⟨writes.foldl Write.effect store.rows, ()⟩ := by
  induction writes generalizing store with
  | nil => rfl
  | cons write rest ih =>
      have hwrite : (write.access.run now store).2 = ⟨write.effect store.rows, ()⟩ :=
        congrArg Prod.snd (write.run_access_ok now store)
      rw [List.map_cons, replay, List.foldl_cons, Deed.access, hwrite]
      exact ih ⟨write.effect store.rows, ()⟩

theorem settles_plan (written : Written) (items : List K) (order : Order) :
    Settles written items (plan written items order).writes := by
  intro now t store key
  rw [replay_writes]
  exact live_foldl_writes store.rows t key

/-- How a synchronizer conducts itself: all that it does is in its log, no wait is too long to be
doubled, and with its end it falls silent. -/
structure Conduct (γ : Type) [Gate γ] (backoff : Backoff) (limit : Nat) (course : Course K) :
    Prop where
  path : ∃ word, course.states = .connecting :: word ∧
    State.Path .connecting word course.machine.stage.state
  lawful : ∀ earlier deed later, course.log = earlier ++ deed :: later →
    Lawful backoff earlier deed later
  remembers : course.machine.written = remembered course.log
  settled : ∀ earlier later, course.log = earlier ++ .enter .streaming :: later →
    ∃ before listing writes feed,
      earlier = before ++ .list (.ok listing) :: writes.map (Deed.write · (.ok ())) ++
          [.watch listing.version (.ok feed)] ∧
        Settles (remembered before) listing.items writes
  bounded : ∀ ms, .sleep ms ∈ course.log → 2 * ms ≤ limit
  recorded : ∀ outcome : Outcome γ K, (course.step backoff outcome).2 =
    replay outcome.now (course.deeds backoff outcome) outcome.store
  answered : ∀ (outcome : Outcome γ K) write result,
    .write write result ∈ course.deeds backoff outcome →
      (write.access.run outcome.now outcome.store).1 = result
  requested : ∀ outcome : Outcome γ K, outcome.shutdown = false →
    (course.deeds backoff outcome).filterMap Deed.request? = course.machine.stage.request?.toList
  silent : .enter .terminated ∈ course.log → course.machine.stage.request? = none ∧
    ∀ input now (store : Store γ),
      course.machine.step backoff now input store = (course.machine, store)

theorem conduct_after {limit : Nat} (hinitial : backoff.initial ≤ backoff.max)
    (hlimit : 2 * backoff.max ≤ limit) (outcomes : List (Outcome γ K)) :
    Conduct γ backoff limit (after backoff outcomes) := by
  have hsound : Sound backoff (after backoff outcomes) :=
    (sound_start hinitial).run hinitial outcomes
  have hlawful : ∀ earlier deed later, (after backoff outcomes).log = earlier ++ deed :: later →
      Lawful backoff earlier deed later := by
    intro earlier deed later hlog
    have hall := hsound.lawful
    rw [hlog] at hall
    exact hall.split
  refine ⟨hsound.path, hlawful, hsound.written_eq, ?_, ?_,
    fun outcome => (moves_act backoff _ outcome).store_eq, fun _ _ _ => result_of_mem_deeds,
    fun outcome => (moves_act backoff _ outcome).requests, ?_⟩
  · intro earlier later hlog
    obtain ⟨_, _, feed, hlisted, rfl⟩ := (hlawful earlier _ later hlog).requires
    obtain ⟨before, listing, order, writes, rfl, hplan, rfl⟩ := hlisted
    rw [List.append_nil] at hplan
    exact ⟨before, listing, writes, feed, rfl, hplan ▸ settles_plan _ _ order⟩
  · intro ms hmem
    obtain ⟨earlier, later, hlog⟩ := List.append_of_mem hmem
    have hms := (hlawful earlier _ later hlog).requires.1
    have hle := backoff.waitAfter_le (failures earlier - 1)
    omega
  · intro hended
    have hstage := hsound.stopped hended
    rw [hstage]
    refine ⟨rfl, fun input now store => ?_⟩
    unfold Machine.step
    rw [hstage]

section Recovery

def quiet : Outcome Unit Job where
  listing := .ok ⟨[{ metadata := { name := some "run-0", ns := some "default" } }], "7"⟩
  watch := .ok [.added { metadata := { name := some "run-1", ns := some "default" } }]
  now := 0
  store := { gate := () }

def refusedListing : Outcome Unit Job := { quiet with listing := .error (.cluster "refused") }

def refusedWatch : Outcome Unit Job := { quiet with watch := .error (.cluster "refused") }

def recovery : List (Outcome Unit Job) :=
  [refusedListing, quiet, quiet, quiet, quiet, refusedWatch, quiet, quiet, quiet, quiet, quiet,
    quiet, quiet, refusedListing, { quiet with shutdown := true }]

theorem conduct_recovery :
    5 ≤ 20 ∧ 2 * 20 ≤ 40 ∧ Conduct Unit ⟨5, 20⟩ 40 (after ⟨5, 20⟩ recovery) :=
  ⟨by decide, by decide, conduct_after (by decide) (by decide) recovery⟩

example : (after ⟨5, 20⟩ recovery).states = [
      .connecting, .reconnecting, .connecting, .reconnecting, .connecting, .streaming,
      .reconnecting, .connecting, .reconnecting, .terminated] ∧
    (after ⟨5, 20⟩ recovery).log.filterMap
      (fun | .sleep ms => some ms | _ => none) = [5, 10, 5] := by
  decide +kernel

end Recovery

end Course
end RunMonitor.Sync
