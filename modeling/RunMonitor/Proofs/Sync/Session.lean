import Mathlib.Logic.Relation
import RunMonitor.Proofs.Sync.Mirror
import RunMonitor.Sync.Machine

namespace RunMonitor.Sync

/-! A synchronizer of a kind with one fixed collection, next to a cluster that keeps changing. -/

open Resource

/-- What a kind goes through in the cluster: what is live at first, the changes one after the other,
and how many of them have happened as of each version. -/
structure Timeline (K : Type) where
  first : Live K
  changes : Nat → WatchEvent K
  position : String → Nat

namespace Timeline

variable {K : Type} [Resource K]

def liveAt (timeline : Timeline K) : Nat → Live K
  | 0 => timeline.first
  | n + 1 => (timeline.liveAt n).change (timeline.changes n)

structure Storable [Truncated K] (timeline : Timeline K) : Prop where
  first : ∀ id object, timeline.first id = some object → Resource.Storable object
  changes : ∀ n object, (timeline.changes n).survivor? = some object → Resource.Storable object

theorem Storable.liveAt [Truncated K] {timeline : Timeline K} (h : timeline.Storable) (n : Nat)
    {id : Identity} {object : K} (hlive : timeline.liveAt n id = some object) :
    Resource.Storable object := by
  induction n with
  | zero => exact h.first id object hlive
  | succ n ih =>
      unfold Timeline.liveAt Live.change at hlive
      split at hlive
      case isTrue => exact h.changes n object hlive
      case isFalse => exact ih hlive

end Timeline

structure Session (γ K : Type) where
  machine : Machine K
  store : Store γ
  clock : Int
  /-- How many changes of the cluster the machine has heard of. -/
  cursor : Nat := 0
  /-- The store has refused no change since the watch was opened. -/
  intact : Bool := false

def Input.IsBare {K : Type} : Input K → Prop
  | .listed (.ok _) _ | .opened (.ok _) | .event _ => False
  | .listed (.error _) _ | .opened (.error _) | .proceed | .closed | .waited | .shutdown => True

namespace Session

variable {γ K : Type} [Gate γ] [Collected K]

def start (backoff : Backoff) (store : Store γ) (clock : Int) : Session γ K :=
  { machine := .start backoff, store := store, clock := clock }

def feed (backoff : Backoff) (input : Input K) (s : Session γ K) : Session γ K :=
  let (machine, store) := s.machine.step backoff s.clock input s.store
  { s with machine := machine, store := store }

/-- A listing has what is live as of its version, and a watch brings the changes after it in their
order. Others leave what is visible under the key as it is, now and later on. -/
inductive Step (backoff : Backoff) (timeline : Timeline K) (key : String) :
    Session γ K → Session γ K → Prop where
  | wait (s : Session γ K) (time : Int) (later : s.clock ≤ time) :
      Step backoff timeline key s { s with clock := time }
  | others (s : Session γ K) (store : Store γ)
      (elsewhere : ∀ t, s.clock ≤ t → store.rows.live t key = s.store.rows.live t key) :
      Step backoff timeline key s { s with store := store }
  | listed (s : Session γ K) (listing : Listing K) (order : Order)
      (snapshot : (timeline.liveAt (timeline.position listing.version)).Lists listing.items) :
      Step backoff timeline key s (s.feed backoff (.listed (.ok listing) order))
  | opened (s : Session γ K) (version : String) (opening : s.machine.stage = .opening version) :
      Step backoff timeline key s { s.feed backoff (.opened (.ok ())) with
        cursor := timeline.position version
        intact := true }
  | event (s : Session γ K) (streaming : s.machine.stage = .streaming) :
      Step backoff timeline key s { s.feed backoff (.event (timeline.changes s.cursor)) with
        cursor := s.cursor + 1
        intact := s.intact &&
          ((apply s.machine.written (timeline.changes s.cursor)).2.run s.clock s.store).1.isOk }
  | feed (s : Session γ K) (input : Input K) (bare : input.IsBare) :
      Step backoff timeline key s (s.feed backoff input)

abbrev Run (backoff : Backoff) (timeline : Timeline K) (key : String) :
    Session γ K → Session γ K → Prop :=
  Relation.ReflTransGen (Step backoff timeline key)

end Session

structure Fixed (K : Type) [Collected K] (key : String) : Prop where
  collection : Collected.collection K = some key
  collectionKey? : ∀ object : K, Collected.collectionKey? object = some key

theorem fixed_of_collection {kind : Kind} {key : String}
    (h : Collected.collection kind.Object = some key) : Fixed kind.Object key := by
  cases kind with
  | cronJob =>
      cases h
      exact ⟨rfl, fun _ => rfl⟩
  | job =>
      cases h
      exact ⟨rfl, fun _ => rfl⟩
  | pod => cases h

section Listings

variable {K : Type} [Collected K] {key : String}

theorem Fixed.filed_eq (h : Fixed K key) (items : List K) : filed key items = items :=
  List.filter_eq_self.mpr fun item _ => decide_eq_true (h.collectionKey? item)

theorem Fixed.contains (h : Fixed K key) (written : Written) :
    (written.withFixed K).contains key = true := by
  rw [Written.withFixed, h.collection, SortedMap.contains, SortedMap.find?_insert_self]
  rfl

variable [Truncated K] {live : Live K} {rows : Rows} {clock : Int}

structure Pending (live : Live K) (key : String) (rows : Rows) (clock : Int)
    (writes : List (Write K)) : Prop where
  distinct : (writes.map Write.key).Nodup
  content : ∀ write ∈ writes, write.key = key → ∃ items, Live.Lists live (filed key items) ∧
    (∀ object ∈ items, Storable object) ∧ write.content? = target? key items
  mirrors : key ∉ writes.map Write.key → ∀ t, clock ≤ t → Mirrors live key rows t

theorem Fixed.pending (h : Fixed K key) {items : List K} (hlists : Live.Lists live items)
    (hstorable : ∀ object ∈ items, Storable object) (written : Written) (order : Order) :
    Pending live key rows clock (plan written items order).writes := by
  refine ⟨nodup_key_writes, ?_, ?_⟩
  · intro write member hkey
    refine ⟨items, ?_, hstorable, hkey ▸ content?_of_mem member⟩
    rwa [h.filed_eq]
  · intro hnot
    exact absurd (mem_map_key_writes.mpr (.inr (h.contains written))) hnot

theorem Pending.done {write : Write K} {rest : List (Write K)}
    (h : Pending live key rows clock (write :: rest)) :
    Pending live key (write.effect rows) clock rest := by
  obtain ⟨hwrite, hrest⟩ := List.nodup_cons.mp h.distinct
  refine ⟨hrest, fun other member => h.content other (List.mem_cons_of_mem _ member), ?_⟩
  intro hnot t ht
  by_cases hkey : write.key = key
  · obtain ⟨items, hlists, hstorable, hcontent⟩ := h.content write List.mem_cons_self hkey
    refine Mirrors.of_target hlists hstorable ?_
    rw [Write.live_effect, if_pos hkey.symm, hcontent]
  · have hmem : key ∉ (write :: rest).map Write.key := by
      rw [List.map_cons, List.mem_cons, not_or]
      exact ⟨fun heq => hkey heq.symm, hnot⟩
    refine (h.mirrors hmem t ht).congr ?_
    rw [Write.live_effect, if_neg fun heq => hkey heq.symm]

end Listings

section Steps

variable {γ K : Type} [Gate γ] [Collected K] [Truncated K] {timeline : Timeline K} {key : String}
  {rows : Rows} {clock : Int} {cursor : Nat} {intact : Bool}

theorem Pending.congr {live : Live K} {writes : List (Write K)}
    (h : Pending live key rows clock writes) {rows' : Rows} {clock' : Int} (hclock : clock ≤ clock')
    (hrows : ∀ t, clock ≤ t → rows'.live t key = rows.live t key) :
    Pending live key rows' clock' writes where
  distinct := h.distinct
  content := h.content
  mirrors hnot t ht := by
    have hlater : clock ≤ t := Int.le_trans hclock ht
    exact (h.mirrors hnot t hlater).congr (hrows t hlater)

/-- From the listing to the watch the collection is on its way to what was live as of the version of
the listing, and from then on it follows the changes. -/
def Follows (timeline : Timeline K) (key : String) (rows : Rows) (clock : Int) (cursor : Nat)
    (intact : Bool) : Stage K → Prop
  | .writing writes version =>
      Pending (timeline.liveAt (timeline.position version)) key rows clock writes
  | .opening version => ∀ t, clock ≤ t →
      Mirrors (timeline.liveAt (timeline.position version)) key rows t
  | .streaming => intact = true → ∀ t, clock ≤ t → Mirrors (timeline.liveAt cursor) key rows t
  | .listing | .waiting _ | .stopped => True

theorem Follows.congr {stage : Stage K} (h : Follows timeline key rows clock cursor intact stage)
    {rows' : Rows} {clock' : Int} (hclock : clock ≤ clock')
    (hrows : ∀ t, clock ≤ t → rows'.live t key = rows.live t key) :
    Follows timeline key rows' clock' cursor intact stage := by
  cases stage with
  | writing writes version => exact Pending.congr h hclock hrows
  | opening version =>
      intro t ht
      have hlater : clock ≤ t := Int.le_trans hclock ht
      exact (h t hlater).congr (hrows t hlater)
  | streaming =>
      intro hintact t ht
      have hlater : clock ≤ t := Int.le_trans hclock ht
      exact (h hintact t hlater).congr (hrows t hlater)
  | listing => trivial
  | waiting => trivial
  | stopped => trivial

variable {backoff : Backoff} {machine : Machine K} {store : Store γ}

theorem Follows.listed (hfixed : Fixed K key) {listing : Listing K} {order : Order}
    (snapshot : (timeline.liveAt (timeline.position listing.version)).Lists listing.items)
    (hstorable : ∀ object ∈ listing.items, Storable object)
    (h : Follows timeline key store.rows clock cursor intact machine.stage) :
    Follows timeline key
      (machine.step backoff clock (.listed (.ok listing) order) store).2.rows clock cursor intact
      (machine.step backoff clock (.listed (.ok listing) order) store).1.stage := by
  obtain ⟨stage, written, wait⟩ := machine
  cases stage with
  | listing => exact hfixed.pending snapshot hstorable written order
  | writing writes version => cases writes <;> exact h
  | opening => exact h
  | streaming => exact h
  | waiting => exact h
  | stopped => exact h

theorem Follows.bare {input : Input K} (hbare : input.IsBare)
    (h : Follows timeline key store.rows clock cursor intact machine.stage) :
    Follows timeline key (machine.step backoff clock input store).2.rows clock cursor intact
      (machine.step backoff clock input store).1.stage := by
  obtain ⟨stage, written, wait⟩ := machine
  cases stage with
  | writing writes version =>
      cases input with
      | proceed =>
          cases writes with
          | nil => exact h.mirrors List.not_mem_nil
          | cons write rest =>
              simp only [Machine.step]
              rcases write.run_access clock store with ⟨gate, hrun⟩ | ⟨error, gate, hrun⟩
              · rw [hrun]
                exact Pending.done h
              · rw [hrun]
                trivial
      | shutdown => cases writes <;> trivial
      | _ => cases writes <;> exact h
  | opening version =>
      cases input with
      | shutdown => trivial
      | opened result =>
          cases result with
          | ok => cases hbare
          | error => trivial
      | _ => exact h
  | streaming =>
      cases input with
      | event => cases hbare
      | closed => trivial
      | shutdown => trivial
      | _ => exact h
  | listing =>
      cases input with
      | listed result order =>
          cases result with
          | ok => cases hbare
          | error => trivial
      | _ => trivial
  | waiting => cases input <;> trivial
  | stopped => cases input <;> trivial

theorem Follows.opened {version : String} (opening : machine.stage = .opening version)
    (h : Follows timeline key store.rows clock cursor intact machine.stage) :
    Follows timeline key (machine.step backoff clock (.opened (.ok ())) store).2.rows clock
      (timeline.position version) true
      (machine.step backoff clock (.opened (.ok ())) store).1.stage := by
  obtain ⟨stage, written, wait⟩ := machine
  cases opening
  exact fun _ => h

theorem Follows.event (hfixed : Fixed K key) (hstorable : timeline.Storable)
    (streaming : machine.stage = .streaming)
    (h : Follows timeline key store.rows clock cursor intact machine.stage) :
    Follows timeline key
      (machine.step backoff clock (.event (timeline.changes cursor)) store).2.rows
      clock (cursor + 1)
      (intact && ((apply machine.written (timeline.changes cursor)).2.run clock store).1.isOk)
      (machine.step backoff clock (.event (timeline.changes cursor)) store).1.stage := by
  obtain ⟨stage, written, wait⟩ := machine
  cases streaming
  intro hintact t _
  obtain ⟨hbefore, hok⟩ := Bool.and_eq_true_iff.mp hintact
  have hchange := hfixed.collectionKey? (timeline.changes cursor).object
  simp only [Machine.step, apply_of_filed hchange] at hok ⊢
  cases hrun : (Collection.update key (timeline.changes cursor).applyTo).run clock store with
  | mk result after =>
      rw [hrun] at hok
      cases result with
      | error => cases hok
      | ok =>
          have hnow := h hbefore clock (Int.le_refl _)
          exact mirrors_update hnow (hstorable.changes cursor) hrun t

namespace Session

theorem Step.follows {backoff : Backoff} {s s' : Session γ K} (hfixed : Fixed K key)
    (hstorable : timeline.Storable) (step : Step backoff timeline key s s')
    (h : Follows timeline key s.store.rows s.clock s.cursor s.intact s.machine.stage) :
    Follows timeline key s'.store.rows s'.clock s'.cursor s'.intact s'.machine.stage := by
  cases step with
  | wait time later => exact h.congr later fun _ _ => rfl
  | others store elsewhere => exact h.congr (Int.le_refl _) elsewhere
  | listed listing order snapshot =>
      apply h.listed hfixed snapshot
      intro object member
      exact hstorable.liveAt _ (snapshot.mem_iff.mp member)
  | opened version opening => exact h.opened opening
  | event streaming => exact h.event hfixed hstorable streaming
  | feed input bare => exact h.bare bare

theorem Run.follows {backoff : Backoff} {s s' : Session γ K} (hfixed : Fixed K key)
    (hstorable : timeline.Storable) (run : Run backoff timeline key s s')
    (h : Follows timeline key s.store.rows s.clock s.cursor s.intact s.machine.stage) :
    Follows timeline key s'.store.rows s'.clock s'.cursor s'.intact s'.machine.stage := by
  induction run with
  | refl => exact h
  | tail _ step ih => exact step.follows hfixed hstorable ih

/-- Whatever has been refused before: while the machine streams, and unless the store has refused a
change since the watch was opened, the collection is just what was live at the last change. -/
theorem lists_of_streaming {kind : Kind} {timeline : Timeline kind.Object} {backoff : Backoff}
    {store : Store γ} {clock : Int} {s : Session γ kind.Object}
    (hkey : Collected.collection kind.Object = some key) (hstorable : timeline.Storable)
    (run : Run backoff timeline key (start backoff store clock) s)
    (streaming : s.machine.stage = .streaming) (intact : s.intact = true) {t : Int}
    (ht : s.clock ≤ t) :
    (timeline.liveAt s.cursor).truncate.Lists
      (Collection.decodeOrEmpty (s.store.rows.live t key) : List kind.Object) := by
  have h := run.follows (fixed_of_collection hkey) hstorable trivial
  rw [streaming] at h
  exact (h intact t ht).lists

end Session
end Steps

namespace Session

section Arrival

def newcomer : Job where
  metadata := { name := some "run-1", ns := some "default" }
  status := some { startTime := some ⟨3, 400000000⟩ }

def arrival : Timeline Kind.job.Object where
  first := Live.empty
  changes _ := .added newcomer
  position _ := 0

theorem storable_arrival : arrival.Storable where
  first _ _ h := by cases h
  changes _ object h := by
    cases h
    change Storable newcomer
    decide +kernel

def atFirst : Session Unit Kind.job.Object := start {} { gate := () } 0

def listed : Session Unit Kind.job.Object :=
  ((atFirst.feed {} (.listed (.ok ⟨[], "7"⟩))).feed {} .proceed).feed {} .proceed

def heard : Session Unit Kind.job.Object :=
  { (listed.feed {} (.opened (.ok ()))).feed {} (.event (.added newcomer)) with
    cursor := 1
    intact := true }

theorem run_heard : Run {} arrival Key.jobs atFirst heard :=
  .trans (.tail (.tail (.single (.listed _ ⟨[], "7"⟩ .ascending Live.lists_empty))
    (.feed _ .proceed trivial)) (.feed _ .proceed trivial))
    (.tail (.single (.opened _ "7" rfl)) (.event _ rfl))

theorem lists_of_arrival :
    (arrival.liveAt 1).truncate.Lists
      (Collection.decodeOrEmpty (heard.store.rows.live 5 Key.jobs) : List Kind.job.Object) :=
  lists_of_streaming rfl storable_arrival run_heard rfl rfl (by decide)

end Arrival

end Session
end RunMonitor.Sync
