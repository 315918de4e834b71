import RunMonitor.Proofs.Cluster.Codec
import RunMonitor.Proofs.Cluster.Live
import RunMonitor.Proofs.Sync.Plan

namespace RunMonitor

open Resource

namespace Live

variable {K : Type} [Collected K]

def within (live : Live K) (key : String) : Live K := fun id =>
  (live id).filter fun object => Collected.collectionKey? object = some key

variable {live : Live K} {key : String}

theorem lists_within {items : List K} (h : Lists live items) (key : String) :
    Lists (live.within key) (Sync.filed key items) := by
  refine ⟨h.distinct.filter _, ?_⟩
  intro id object
  rw [within, Option.filter_eq_some_iff, h.live_iff, Sync.filed, List.mem_filter]
  exact and_right_comm

theorem within_change {event : WatchEvent K}
    (h : Collected.collectionKey? event.object = some key) :
    (live.change event).within key = (live.within key).change event := by
  funext id
  unfold within change
  split
  case isTrue =>
    cases hsurvivor : event.survivor? with
    | none => rfl
    | some object =>
        rw [WatchEvent.identity_of_survivor? hsurvivor]
        exact if_pos (decide_eq_true h)
  case isFalse => rfl

theorem within_change_of_ne {event : WatchEvent K}
    (h : Collected.collectionKey? event.object ≠ some key)
    (hbefore : ∀ object, live (identity event.object) = some object →
      Collected.collectionKey? object ≠ some key) :
    (live.change event).within key = live.within key := by
  funext id
  unfold within change
  split
  case isTrue hid =>
    have hafter : event.survivor?.filter
        (fun object => decide (Collected.collectionKey? object = some key)) = none := by
      apply Option.filter_eq_none_iff.mpr
      intro object hobject
      rw [WatchEvent.identity_of_survivor? hobject]
      simpa using h
    rw [hafter, eq_comm, Option.filter_eq_none_iff]
    intro object hobject
    simpa using hbefore object (hid ▸ hobject)
  case isFalse => rfl

end Live

namespace Sync

variable {γ K : Type} [Gate γ] [Collected K] [Truncated K]

/-- What is read under the key are the live objects, each of them once and with its times cut. -/
def Mirrors (live : Live K) (key : String) (rows : Rows) (t : Int) : Prop :=
  ∃ items, Live.Lists live items ∧ (∀ object ∈ items, Storable object) ∧
    Collection.decodeOrEmpty (rows.live t key) = items.map Truncated.truncate

namespace Mirrors

variable {live : Live K} {key : String} {rows : Rows} {t : Int}

theorem lists (h : Mirrors live key rows t) :
    Live.Lists live.truncate (Collection.decodeOrEmpty (rows.live t key)) := by
  obtain ⟨items, hlists, -, hread⟩ := h
  rw [hread]
  exact hlists.truncate

theorem congr {rows' : Rows} {t' : Int} (h : Mirrors live key rows t)
    (heq : rows'.live t' key = rows.live t key) : Mirrors live key rows' t' := by
  obtain ⟨items, hlists, hstorable, hread⟩ := h
  exact ⟨items, hlists, hstorable, heq ▸ hread⟩

theorem of_none (hnone : rows.live t key = none) : Mirrors (Live.empty : Live K) key rows t :=
  ⟨[], Live.lists_empty, List.forall_mem_nil _, by rw [hnone]; rfl⟩

theorem of_target {items : List K} (hlists : Live.Lists live (filed key items))
    (hstorable : ∀ object ∈ items, Storable object) (h : rows.live t key = target? key items) :
    Mirrors live key rows t := by
  have hfiled : ∀ object ∈ filed key items, Storable object := fun object member =>
    hstorable object (List.mem_filter.mp member).1
  refine ⟨filed key items, hlists, hfiled, ?_⟩
  rw [h, target?]
  split
  case isTrue hnil =>
    rw [hnil]
    rfl
  case isFalse => exact Collection.decodeOrEmpty_encodeAll hfiled

theorem change {now : Int} {event : WatchEvent K} (h : Mirrors live key rows now)
    (hstorable : ∀ object, event.survivor? = some object → Storable object) {rows' : Rows}
    (hwrite : rows'.live t key =
      some (encodeAll (event.applyTo (Collection.decodeOrEmpty (rows.live now key))))) :
    Mirrors (live.change event) key rows' t := by
  obtain ⟨items, hlists, hitems, hread⟩ := h
  refine ⟨event.applyTo items, hlists.change event, ?_, ?_⟩
  · intro object member
    rcases WatchEvent.mem_applyTo.mp member with ⟨member, -⟩ | hsurvivor
    · exact hitems object member
    · exact hstorable object hsurvivor
  · rw [hwrite, hread, Collection.decodeOrEmpty_encodeAll, WatchEvent.map_truncate_applyTo]
    intro object member
    rcases WatchEvent.mem_applyTo.mp member with ⟨member, -⟩ | hsurvivor
    · obtain ⟨original, horiginal, rfl⟩ := List.mem_map.mp member
      exact (hitems original horiginal).truncate
    · exact hstorable object hsurvivor

end Mirrors

variable {live : Live K} {key : String} {now : Int} {store after : Store γ}
  {event : WatchEvent K}

theorem mirrors_update (h : Mirrors live key store.rows now)
    (hstorable : ∀ object, event.survivor? = some object → Storable object)
    (hrun : (Collection.update key event.applyTo).run now store = (.ok (), after)) (t : Int) :
    Mirrors (live.change event) key after.rows t := by
  rcases live_update now store key event.applyTo with
    ⟨gate, heq⟩ | ⟨error, gate, heq⟩
  · rw [hrun] at heq
    cases heq
    refine h.change hstorable ?_
    rw [Rows.live_insert, if_pos rfl]
  · rw [hrun] at heq
    cases heq

end Sync
end RunMonitor
