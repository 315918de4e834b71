import RunMonitor.SortedMap

namespace RunMonitor.SortedMap

variable {α β : Type}

theorem mem_of_findEntry {key : String} {value : α} {entries : List (String × α)}
    (h : findEntry key entries = some value) : (key, value) ∈ entries := by
  induction entries with
  | nil => cases h
  | cons entry rest ih =>
      obtain ⟨k, v⟩ := entry
      rw [findEntry] at h
      split at h
      case isTrue heq =>
        cases h
        exact heq ▸ List.mem_cons_self
      case isFalse => exact List.mem_cons_of_mem _ (ih h)

theorem findEntry_of_mem {key : String} {value : α} {entries : List (String × α)}
    (ordered : entries.Pairwise fun a b => a.1 < b.1) (h : (key, value) ∈ entries) :
    findEntry key entries = some value := by
  induction entries with
  | nil => cases h
  | cons entry rest ih =>
      obtain ⟨hentry, hrest⟩ := List.pairwise_cons.mp ordered
      rcases List.mem_cons.mp h with rfl | member
      · simp [findEntry]
      · have hlt : entry.1 < key := hentry (key, value) member
        have hne : entry.1 ≠ key := fun heq => String.lt_irrefl key (heq ▸ hlt)
        rw [findEntry, if_neg hne, ih hrest member]

theorem mem_entries_iff (m : SortedMap α) {key : String} {value : α} :
    (key, value) ∈ m.entries ↔ m.find? key = some value :=
  ⟨findEntry_of_mem m.ordered, mem_of_findEntry⟩

theorem mem_keys_iff (m : SortedMap α) {key : String} : key ∈ m.keys ↔ (m.find? key).isSome := by
  rw [keys, List.mem_map, Option.isSome_iff_exists]
  constructor
  · intro given
    obtain ⟨⟨k, value⟩, member, rfl⟩ := given
    exact ⟨value, m.mem_entries_iff.mp member⟩
  · intro given
    obtain ⟨value, h⟩ := given
    exact ⟨(key, value), m.mem_entries_iff.mpr h, rfl⟩

theorem find?_filter (p : String → α → Bool) (m : SortedMap α) (key : String) :
    (m.filter p).find? key = (m.find? key).filter (p key) := by
  refine Option.ext fun value => ?_
  rw [← mem_entries_iff, Option.filter_eq_some_iff, ← mem_entries_iff]
  exact List.mem_filter

theorem nodup_keys (m : SortedMap α) : m.keys.Nodup := by
  refine List.pairwise_map.mpr (m.ordered.imp ?_)
  intro a b hlt heq
  exact String.lt_irrefl b.1 (heq ▸ hlt)

theorem nodup_entries (m : SortedMap α) : m.entries.Nodup :=
  List.Pairwise.of_map Prod.fst (fun _ _ hne heq => hne (congrArg Prod.fst heq)) m.nodup_keys

theorem ext_find? {m n : SortedMap α} (h : ∀ key, m.find? key = n.find? key) : m = n := by
  have hperm : m.entries.Perm n.entries := by
    refine (List.perm_ext_iff_of_nodup m.nodup_entries n.nodup_entries).mpr fun ⟨key, value⟩ => ?_
    rw [mem_entries_iff, mem_entries_iff, h]
  exact SortedMap.ext (hperm.eq_of_pairwise
    (fun a b _ _ hab hba => absurd (String.lt_trans hab hba) (String.lt_irrefl _))
    m.ordered n.ordered)

theorem eq_empty {m : SortedMap α} (h : ∀ key, m.find? key = none) : m = empty :=
  ext_find? h

theorem find?_push (m : SortedMap (List α)) (key k : String) (value : α) :
    (m.push key value).find? k =
      if k = key then some ((m.find? key).getD [] ++ [value]) else m.find? k :=
  find?_insert m key k _

theorem find?_foldl_push (key? : α → Option String)
    (add : SortedMap (List α) → α → SortedMap (List α))
    (hadd : ∀ m item, add m item = (key? item).elim m fun key => m.push key item)
    (items : List α) (m : SortedMap (List α)) (key : String) :
    (items.foldl add m).find? key =
      if items.filter (key? · = some key) = [] then m.find? key
      else some ((m.find? key).getD [] ++ items.filter (key? · = some key)) := by
  induction items generalizing m with
  | nil => rfl
  | cons item rest ih =>
      rw [List.foldl_cons, ih, hadd]
      by_cases hitem : key? item = some key
      · rw [List.filter_cons_of_pos (by simpa using hitem), if_neg (List.cons_ne_nil _ _), hitem]
        simp only [Option.elim, find?_push, if_true, Option.getD_some]
        split
        case isTrue hnil => rw [hnil]
        case isFalse => rw [List.append_assoc, List.singleton_append]
      · rw [List.filter_cons_of_neg (by simpa using hitem)]
        cases hkey : key? item with
        | none => rfl
        | some k =>
            have hne : key ≠ k := fun heq => hitem (by rw [hkey, heq])
            simp only [Option.elim, find?_push, if_neg hne]

theorem insertEntry_perm {key : String} {entries : List (String × α)}
    (absent : key ∉ entries.map Prod.fst) (value : α) :
    (insertEntry key value entries).Perm ((key, value) :: entries) := by
  induction entries with
  | nil => exact .refl _
  | cons entry rest ih =>
      simp only [List.map_cons, List.mem_cons, not_or] at absent
      rw [insertEntry]
      split
      · exact .refl _
      · rw [if_neg absent.1]
        exact ((ih absent.2).cons entry).trans (.swap ..)

theorem foldl_insert_perm {entries : List (String × α)} {m : SortedMap α}
    (distinct : (entries.map Prod.fst).Nodup) (absent : ∀ e ∈ entries, e.1 ∉ m.keys) :
    (entries.foldl (fun m e => m.insert e.1 e.2) m).entries.Perm (m.entries ++ entries) := by
  induction entries generalizing m with
  | nil => simp
  | cons entry rest ih =>
      rw [List.map_cons, List.nodup_cons] at distinct
      have hentry := insertEntry_perm (absent entry List.mem_cons_self) entry.2
      have hrest : ∀ e ∈ rest, e.1 ∉ (m.insert entry.1 entry.2).keys := by
        intro e member given
        rcases List.mem_cons.mp ((hentry.map Prod.fst).mem_iff.mp given) with heq | given
        · exact distinct.1 (heq ▸ List.mem_map_of_mem member)
        · exact absent e (List.mem_cons_of_mem _ member) given
      rw [List.foldl_cons]
      exact (ih distinct.2 hrest).trans ((hentry.append_right rest).trans List.perm_middle.symm)

theorem insert_perm (m : SortedMap α) (key : String) (value : α) :
    (m.insert key value).entries.Perm ((key, value) :: (m.erase key).entries) := by
  have habsent : (key, value) ∉ (m.erase key).entries := by
    rw [mem_entries_iff, find?_erase, if_pos rfl]
    exact nofun
  have hnodup := List.nodup_cons.mpr ⟨habsent, (m.erase key).nodup_entries⟩
  refine (List.perm_ext_iff_of_nodup (nodup_entries _) hnodup).mpr fun ⟨k, v⟩ => ?_
  rw [List.mem_cons, mem_entries_iff, mem_entries_iff, find?_insert, find?_erase]
  by_cases hk : k = key
  · simp [hk, eq_comm]
  · simp [hk]

theorem insert_eq_self {m : SortedMap α} {key : String} {value : α}
    (h : m.find? key = some value) : m.insert key value = m := by
  refine ext_find? fun k => ?_
  rw [find?_insert]
  split
  case isTrue hk => rw [hk, h]
  case isFalse => rfl

theorem erase_eq_self {m : SortedMap α} {key : String} (h : m.find? key = none) :
    m.erase key = m := by
  refine ext_find? fun k => ?_
  rw [find?_erase]
  split
  case isTrue hk => rw [hk, h]
  case isFalse => rfl

theorem flatten_values_push (m : SortedMap (List α)) (key : String) (value : α) :
    (m.push key value).values.flatten.Perm (value :: m.values.flatten) := by
  have hinsert (list : List α) :
      (m.insert key list).values.flatten.Perm (list ++ (m.erase key).values.flatten) :=
    ((m.insert_perm key list).map Prod.snd).flatten
  cases hfind : m.find? key with
  | none =>
      have hpush := hinsert [value]
      rw [erase_eq_self hfind] at hpush
      rwa [push, hfind]
  | some list =>
      have hself := hinsert list
      rw [insert_eq_self hfind] at hself
      have hpush := hinsert (list ++ [value])
      rw [List.append_assoc] at hpush
      rw [push, hfind, Option.getD_some]
      exact hpush.trans (List.perm_middle.trans (hself.symm.cons value))

theorem ofList_perm {entries : List (String × α)} (distinct : (entries.map Prod.fst).Nodup) :
    (ofList entries).entries.Perm entries :=
  foldl_insert_perm distinct fun _ _ given => nomatch given

theorem mem_of_mem_foldl_insert {entries : List (String × α)} {m : SortedMap α}
    {e : String × α} (h : e ∈ (entries.foldl (fun m e => m.insert e.1 e.2) m).entries) :
    e ∈ entries ∨ e ∈ m.entries := by
  induction entries generalizing m with
  | nil => exact .inr h
  | cons entry rest ih =>
      rcases ih h with given | given
      · exact .inl (List.mem_cons_of_mem _ given)
      · rw [mem_entries_iff, find?_insert] at given
        split at given
        case isTrue hkey =>
          obtain rfl : entry = e := Prod.ext hkey.symm (Option.some.inj given)
          exact .inl List.mem_cons_self
        case isFalse => exact .inr ((mem_entries_iff m).mpr given)

theorem mem_of_mem_ofList {entries : List (String × α)} {e : String × α}
    (h : e ∈ (ofList entries).entries) : e ∈ entries :=
  (mem_of_mem_foldl_insert h).resolve_right nofun

theorem ofList_entries (m : SortedMap α) : ofList m.entries = m := by
  refine ext_find? fun key => Option.ext fun value => ?_
  rw [← mem_entries_iff, ← mem_entries_iff, (ofList_perm m.nodup_keys).mem_iff]

theorem findEntry_map (f : α → β) (key : String) (entries : List (String × α)) :
    findEntry key (entries.map fun e => (e.1, f e.2)) = (findEntry key entries).map f := by
  induction entries with
  | nil => rfl
  | cons entry rest ih =>
      rw [List.map_cons, findEntry, findEntry, ih]
      split <;> rfl

theorem find?_mapValues (f : α → β) (m : SortedMap α) (key : String) :
    (m.mapValues f).find? key = (m.find? key).map f :=
  findEntry_map f key m.entries

end RunMonitor.SortedMap
