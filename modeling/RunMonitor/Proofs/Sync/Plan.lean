import RunMonitor.Proofs.SortedMap
import RunMonitor.Proofs.Store.Access
import RunMonitor.Sync.Plan

namespace RunMonitor.Sync

section Writes

variable {K : Type} [Resource K]

def Write.key : Write K → String
  | .replace key _ | .remove key => key

def Write.content? : Write K → Option ByteArray
  | .replace _ items => some (Resource.encodeAll items)
  | .remove _ => none

def Write.effect (rows : Rows) : Write K → Rows
  | .replace key items => rows.insert key ⟨Resource.encodeAll items, none⟩
  | .remove key => rows.erase key

theorem Write.live_effect (rows : Rows) (write : Write K) (t : Int) (key : String) :
    (write.effect rows).live t key =
      if key = write.key then write.content? else rows.live t key := by
  cases write with
  | replace k items => exact Rows.live_insert rows t k key _
  | remove k => exact Rows.live_erase rows t k key

theorem live_foldl_of_notMem {writes : List (Write K)} {key : String}
    (h : key ∉ writes.map Write.key) (rows : Rows) (t : Int) :
    (writes.foldl Write.effect rows).live t key = rows.live t key := by
  induction writes generalizing rows with
  | nil => rfl
  | cons write rest ih =>
      rw [List.map_cons, List.mem_cons, not_or] at h
      rw [List.foldl_cons, ih h.2, Write.live_effect, if_neg h.1]

theorem live_foldl_of_mem {writes : List (Write K)} (distinct : (writes.map Write.key).Nodup)
    {write : Write K} (member : write ∈ writes) (rows : Rows) (t : Int) :
    (writes.foldl Write.effect rows).live t write.key = write.content? := by
  induction writes generalizing rows with
  | nil => cases member
  | cons first rest ih =>
      obtain ⟨hfirst, hrest⟩ := List.nodup_cons.mp distinct
      rcases List.mem_cons.mp member with rfl | member
      · rw [List.foldl_cons, live_foldl_of_notMem hfirst, Write.live_effect, if_pos rfl]
      · rw [List.foldl_cons, ih hrest member]

end Writes

variable {γ K : Type} [Gate γ] [Collected K]

theorem Write.run_access (write : Write K) (now : Int) (store : Store γ) :
    (∃ gate, write.access.run now store = (.ok (), ⟨write.effect store.rows, gate⟩)) ∨
    ∃ error gate, write.access.run now store = (.error error, ⟨store.rows, gate⟩) := by
  cases write with
  | replace key items => exact Store.reply_cases now (.set key _ none) store
  | remove key => exact Store.reply_cases now (.delete key) store

theorem Write.run_access_ok (write : Write K) (now : Int) (store : Store Unit) :
    write.access.run now store = (.ok (), ⟨write.effect store.rows, ()⟩) := by
  cases write <;> rfl

theorem run_writeAll (writes : List (Write K)) (now : Int) (store : Store γ) :
    ∃ done left gate, writes = done ++ left ∧
      ((writeAll writes).run now store).2 = ⟨done.foldl Write.effect store.rows, gate⟩ ∧
      (((writeAll writes).run now store).1 = .ok () ↔ left = []) := by
  induction writes generalizing store with
  | nil => exact ⟨[], [], store.gate, rfl, rfl, by simp [writeAll, Access.run]⟩
  | cons write rest ih =>
      rcases write.run_access now store with ⟨passed, h⟩ | ⟨error, refused, h⟩
      · obtain ⟨done, left, gate, heq, hstore, hok⟩ := ih ⟨write.effect store.rows, passed⟩
        have hrun : (writeAll (write :: rest)).run now store =
            (writeAll rest).run now ⟨write.effect store.rows, passed⟩ :=
          Store.run_bind_ok _ h
        refine ⟨write :: done, left, gate, by rw [heq, List.cons_append], ?_, ?_⟩
        · rw [hrun, hstore, List.foldl_cons]
        · rw [hrun, hok]
      · have hrun : (writeAll (write :: rest)).run now store =
            (.error error, ⟨store.rows, refused⟩) :=
          Store.run_bind_error _ h
        exact ⟨[], write :: rest, refused, rfl, by rw [hrun]; rfl, by rw [hrun]; simp⟩

/-- The items that belong in the collection of that key, in their order. -/
def filed (key : String) (items : List K) : List K :=
  items.filter fun item => Collected.collectionKey? item = some key

theorem find?_foldl_addItem (items : List K) (groups : SortedMap (List K)) (key : String) :
    (items.foldl addItem groups).find? key =
      if filed key items = [] then groups.find? key
      else some ((groups.find? key).getD [] ++ filed key items) := by
  refine SortedMap.find?_foldl_push _ addItem (fun groups item => ?_) items groups key
  rw [addItem]
  cases Collected.collectionKey? item <;> rfl

theorem find?_group (items : List K) (key : String) :
    (group items).find? key = if filed key items = [] then none else some (filed key items) :=
  find?_foldl_addItem items SortedMap.empty key

theorem contains_group {items : List K} {key : String} :
    (group items).contains key = true ↔ filed key items ≠ [] := by
  rw [SortedMap.contains, find?_group]
  split <;> simp_all

theorem contains_plan_written (written : Written) {items : List K} (order : Order) {key : String} :
    (plan written items order).written.contains key = true ↔ filed key items ≠ [] := by
  rw [← contains_group, SortedMap.contains, SortedMap.contains, plan, SortedMap.find?_mapValues,
    Option.isSome_map]

theorem mem_stale {written : Written} {items : List K} {key : String} :
    key ∈ stale written (group items) ↔
      (written.withFixed K).contains key = true ∧ filed key items = [] := by
  rw [stale, List.mem_filter, SortedMap.mem_keys_iff, Bool.not_eq_true', ← Bool.not_eq_true,
    contains_group, Classical.not_not]
  rfl

/-- What the store is to hold under the key once the listing has been written. -/
def target? (key : String) (items : List K) : Option ByteArray :=
  if filed key items = [] then none else some (Resource.encodeAll (filed key items))

section Plans

variable {order : Order} {written : Written} {items : List K}

theorem map_key_writes : (plan written items order).writes.map Write.key =
    (group items).keys ++ order.arrange (stale written (group items)) := by
  simp [plan, SortedMap.keys, Function.comp_def, Write.key]

theorem nodup_key_writes : ((plan written items order).writes.map Write.key).Nodup := by
  have hperm := order.perm (stale written (group items))
  rw [map_key_writes, List.nodup_append]
  refine ⟨SortedMap.nodup_keys _, hperm.nodup_iff.mpr ((SortedMap.nodup_keys _).filter _), ?_⟩
  intro key hgroup other hstale heq
  subst heq
  have hfiled := contains_group.mp ((SortedMap.mem_keys_iff _).mp hgroup)
  exact hfiled (mem_stale.mp (hperm.mem_iff.mp hstale)).2

theorem content?_of_mem {write : Write K} (member : write ∈ (plan written items order).writes) :
    write.content? = target? write.key items := by
  rcases List.mem_append.mp member with hgroup | hstale
  · obtain ⟨⟨key, group⟩, hentry, rfl⟩ := List.mem_map.mp hgroup
    have hfind := (SortedMap.mem_entries_iff _).mp hentry
    rw [find?_group] at hfind
    split at hfind
    case isTrue => cases hfind
    case isFalse hne =>
      cases hfind
      exact (if_neg hne).symm
  · obtain ⟨key, hkey, rfl⟩ := List.mem_map.mp hstale
    exact (if_pos (mem_stale.mp ((order.perm _).mem_iff.mp hkey)).2).symm

theorem mem_map_key_writes {key : String} :
    key ∈ (plan written items order).writes.map Write.key ↔
      filed key items ≠ [] ∨ (written.withFixed K).contains key = true := by
  have hgroup : ((group items).find? key).isSome = true ↔ filed key items ≠ [] := contains_group
  rw [map_key_writes, List.mem_append, SortedMap.mem_keys_iff, (order.perm _).mem_iff, mem_stale,
    hgroup]
  by_cases hfiled : filed key items = [] <;> simp [hfiled]

variable {now : Int} {store after : Store γ}

/-- Whatever is refused on the way, each collection is as it was or as the listing has it. -/
theorem live_resync_cases (h : ((resync written items order).2.run now store).2 = after) (t : Int)
    (key : String) :
    after.rows.live t key = store.rows.live t key ∨
      ((filed key items ≠ [] ∨ (written.withFixed K).contains key = true) ∧
        after.rows.live t key = target? key items) := by
  obtain ⟨done, left, gate, heq, hstore, -⟩ :=
    run_writeAll (plan written items order).writes now store
  have hafter : after = ⟨done.foldl Write.effect store.rows, gate⟩ := h.symm.trans hstore
  have hnodup : ((plan written items order).writes.map Write.key).Nodup := nodup_key_writes
  rw [heq, List.map_append, List.nodup_append] at hnodup
  subst hafter
  by_cases hkey : key ∈ done.map Write.key
  · obtain ⟨write, hdone, rfl⟩ := List.mem_map.mp hkey
    have member : write ∈ (plan written items order).writes :=
      heq ▸ List.mem_append_left _ hdone
    refine .inr ⟨mem_map_key_writes.mp (List.mem_map_of_mem member), ?_⟩
    rw [live_foldl_of_mem hnodup.1 hdone, content?_of_mem member]
  · exact .inl (live_foldl_of_notMem hkey _ t)

/-- All the writes of a listing settle its own collections and those that counted as written, and
leave all others. -/
theorem live_foldl_writes (rows : Rows) (t : Int) (key : String) :
    ((plan written items order).writes.foldl Write.effect rows).live t key =
      if filed key items ≠ [] ∨ (written.withFixed K).contains key = true then target? key items
      else rows.live t key := by
  split
  case isTrue hkey =>
    obtain ⟨write, member, rfl⟩ := List.mem_map.mp (mem_map_key_writes.mpr hkey)
    rw [live_foldl_of_mem nodup_key_writes member, content?_of_mem member]
  case isFalse hkey =>
    exact live_foldl_of_notMem (fun hmem => hkey (mem_map_key_writes.mp hmem)) _ t

theorem live_resync (h : (resync written items order).2.run now store = (.ok (), after)) (t : Int)
    (key : String) :
    after.rows.live t key =
      if filed key items ≠ [] ∨ (written.withFixed K).contains key = true then target? key items
      else store.rows.live t key := by
  obtain ⟨done, left, gate, heq, hstore, hok⟩ :=
    run_writeAll (plan written items order).writes now store
  have hrun : (writeAll (plan written items order).writes).run now store = (.ok (), after) := h
  rw [hrun] at hstore hok
  have hafter : after = ⟨done.foldl Write.effect store.rows, gate⟩ := hstore
  rw [hok.mp rfl, List.append_nil] at heq
  rw [hafter, ← heq]
  exact live_foldl_writes store.rows t key

end Plans

section Changes

variable {written : Written} {event : WatchEvent K}

theorem apply_of_homeless (h : Collected.collectionKey? event.object = none) :
    apply written event = (written, pure ()) := by
  rw [apply, h]

theorem apply_of_filed {key : String} (h : Collected.collectionKey? event.object = some key) :
    apply written event = (written.insert key (), Collection.update key event.applyTo) := by
  rw [apply, h]

theorem live_update (now : Int) (store : Store γ) (key : String) (f : List K → List K) :
    (∃ gate, (Collection.update key f).run now store =
      (.ok (), ⟨store.rows.insert key
        ⟨Resource.encodeAll (f (Collection.decodeOrEmpty (store.rows.live now key))), none⟩,
        gate⟩)) ∨
    ∃ error gate, (Collection.update key f).run now store = (.error error, ⟨store.rows, gate⟩) :=
  Store.reply_cases now (.update key _) store

end Changes
end RunMonitor.Sync
