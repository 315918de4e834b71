import RunMonitor.Cluster.Event
import RunMonitor.Proofs.Cluster.Truncation

namespace RunMonitor

/-! For each identity its latest version is live, or none once it has been deleted. -/

abbrev Identity : Type := Option String × Option String

variable {K : Type} [Resource K]

def Resource.identity (object : K) : Identity :=
  ((Resource.metadata object).name, (Resource.metadata object).ns)

open Resource

theorem Resource.sameIdentity_iff {a b : K} :
    SameIdentity a b ↔ identity a = identity b := by
  rw [identity, identity, Prod.mk.injEq]
  rfl

theorem Resource.identity_truncate [Truncated K] (object : K) :
    identity (Truncated.truncate object) = identity object := by
  simp only [identity, Truncated.metadata_truncate]
  rfl

abbrev Live (K : Type) : Type := Identity → Option K

def WatchEvent.survivor? : WatchEvent K → Option K
  | .added object | .modified object => some object
  | .deleted _ => none

omit [Resource K] in
theorem WatchEvent.identity_of_survivor? {event : WatchEvent K} {object : K}
    (h : event.survivor? = some object) : object = event.object := by
  cases event <;> cases h <;> rfl

/-- What has the identity of the changed object goes, and what survives of that object is added at
the end. -/
theorem WatchEvent.applyTo_eq (items : List K) (event : WatchEvent K) :
    event.applyTo items =
      items.filter (fun item => identity item ≠ identity event.object) ++
        event.survivor?.toList := by
  have hfilter (object : K) :
      items.filter (fun item => ¬ SameIdentity item object) =
        items.filter fun item => identity item ≠ identity object := by
    simp only [sameIdentity_iff]
  cases event with
  | added object | modified object => exact congrArg (· ++ [object]) (hfilter object)
  | deleted object => exact (hfilter object).trans (List.append_nil _).symm

theorem WatchEvent.mem_applyTo {items : List K} {event : WatchEvent K} {object : K} :
    object ∈ event.applyTo items ↔
      (object ∈ items ∧ identity object ≠ identity event.object) ∨
        event.survivor? = some object := by
  simp [applyTo_eq]

theorem WatchEvent.distinct_applyTo {items : List K}
    (distinct : items.Pairwise fun a b => identity a ≠ identity b) (event : WatchEvent K) :
    (event.applyTo items).Pairwise fun a b => identity a ≠ identity b := by
  rw [applyTo_eq, List.pairwise_append]
  refine ⟨distinct.filter _, ?_, ?_⟩
  · cases event.survivor? with
    | none => exact .nil
    | some object => exact List.pairwise_singleton _ _
  · intro item hitem other hother
    rw [identity_of_survivor? (Option.mem_toList.mp hother)]
    simpa using (List.mem_filter.mp hitem).2

theorem WatchEvent.map_truncate_applyTo [Truncated K] (items : List K) (event : WatchEvent K) :
    (event.applyTo (items.map Truncated.truncate)).map Truncated.truncate =
      (event.applyTo items).map Truncated.truncate := by
  simp only [applyTo_eq, List.filter_map, List.map_append, List.map_map]
  congr 1
  simp [Function.comp_def, identity_truncate, Truncated.truncate_truncate]

namespace Live

def empty : Live K := fun _ => none

def ofItems (items : List K) : Live K := fun id => items.find? fun item => identity item = id

def change (live : Live K) (event : WatchEvent K) : Live K := fun id =>
  if identity event.object = id then event.survivor? else live id

def truncate [Truncated K] (live : Live K) : Live K := fun id =>
  (live id).map Truncated.truncate

/-- The items are the live objects, each of them once. -/
structure Lists (live : Live K) (items : List K) : Prop where
  distinct : items.Pairwise fun a b => identity a ≠ identity b
  live_iff : ∀ id object, live id = some object ↔ object ∈ items ∧ identity object = id

theorem lists_empty : Lists (empty : Live K) [] :=
  ⟨.nil, by simp [empty]⟩

theorem lists_ofItems {items : List K}
    (distinct : items.Pairwise fun a b => identity a ≠ identity b) :
    Lists (ofItems items) items := by
  refine ⟨distinct, ?_⟩
  intro id object
  induction items with
  | nil => simp [ofItems]
  | cons item rest ih =>
      obtain ⟨hitem, hrest⟩ := List.pairwise_cons.mp distinct
      have ih := ih hrest
      unfold ofItems at ih ⊢
      by_cases h : identity item = id
      · rw [List.find?_cons_of_pos (by simpa using h)]
        constructor
        · intro given
          obtain ⟨rfl⟩ := given
          exact ⟨List.mem_cons_self, h⟩
        · intro given
          obtain ⟨member, hobject⟩ := given
          rcases List.mem_cons.mp member with rfl | member
          · rfl
          · exact absurd (h.trans hobject.symm) (hitem object member)
      · rw [List.find?_cons_of_neg (by simpa using h), ih, List.mem_cons]
        constructor
        · exact fun ⟨member, hobject⟩ => ⟨.inr member, hobject⟩
        · intro given
          obtain ⟨rfl | member, hobject⟩ := given
          · exact absurd hobject h
          · exact ⟨member, hobject⟩

namespace Lists

variable {live : Live K} {items : List K}

theorem mem_iff (h : Lists live items) {object : K} :
    object ∈ items ↔ live (identity object) = some object := by
  rw [h.live_iff]
  exact (and_iff_left rfl).symm

theorem change (h : Lists live items) (event : WatchEvent K) :
    Lists (live.change event) (event.applyTo items) := by
  constructor
  · exact WatchEvent.distinct_applyTo h.distinct event
  · intro id object
    rw [WatchEvent.mem_applyTo]
    unfold Live.change
    split
    case isTrue hid =>
      constructor
      · intro hsurvivor
        exact ⟨.inr hsurvivor, WatchEvent.identity_of_survivor? hsurvivor ▸ hid⟩
      · intro given
        obtain ⟨⟨_, hne⟩ | hsurvivor, hobject⟩ := given
        · exact absurd (hobject.trans hid.symm) hne
        · exact hsurvivor
    case isFalse hid =>
      rw [h.live_iff]
      constructor
      · intro given
        obtain ⟨member, rfl⟩ := given
        exact ⟨.inl ⟨member, fun heq => hid heq.symm⟩, rfl⟩
      · intro given
        obtain ⟨⟨member, _⟩ | hsurvivor, hobject⟩ := given
        · exact ⟨member, hobject⟩
        · exact absurd (WatchEvent.identity_of_survivor? hsurvivor ▸ hobject) hid

theorem truncate [Truncated K] (h : Lists live items) :
    Lists live.truncate (items.map Truncated.truncate) := by
  constructor
  · rw [List.pairwise_map]
    exact h.distinct.imp fun hne => by rwa [identity_truncate, identity_truncate]
  · intro id object
    simp only [Live.truncate, Option.map_eq_some_iff, List.mem_map, h.live_iff]
    constructor
    · intro given
      obtain ⟨original, ⟨member, hid⟩, rfl⟩ := given
      exact ⟨⟨original, member, rfl⟩, (identity_truncate original).trans hid⟩
    · intro given
      obtain ⟨⟨original, member, rfl⟩, hid⟩ := given
      exact ⟨original, ⟨member, (identity_truncate original).symm.trans hid⟩, rfl⟩

end Lists
end Live
end RunMonitor
