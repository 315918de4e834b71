namespace RunMonitor

structure SortedMap (α : Type) where
  entries : List (String × α)
  ordered : entries.Pairwise (fun a b => a.1 < b.1) := by simp

namespace SortedMap

variable {α β : Type}

@[ext] theorem ext {m n : SortedMap α} (h : m.entries = n.entries) : m = n := by
  cases m; cases n; cases h; rfl

instance [DecidableEq α] : DecidableEq (SortedMap α) := fun m n =>
  decidable_of_iff (m.entries = n.entries) ⟨ext, congrArg entries⟩

def empty : SortedMap α := ⟨[], .nil⟩

instance : Inhabited (SortedMap α) := ⟨empty⟩

def findEntry (key : String) : List (String × α) → Option α
  | [] => none
  | (k, v) :: rest => if k = key then some v else findEntry key rest

def find? (m : SortedMap α) (key : String) : Option α :=
  findEntry key m.entries

def contains (m : SortedMap α) (key : String) : Bool :=
  (m.find? key).isSome

def keys (m : SortedMap α) : List String := m.entries.map (·.1)

def values (m : SortedMap α) : List α := m.entries.map (·.2)

def insertEntry (key : String) (value : α) : List (String × α) → List (String × α)
  | [] => [(key, value)]
  | (k, v) :: rest =>
      if key < k then (key, value) :: (k, v) :: rest
      else if key = k then (key, value) :: rest
      else (k, v) :: insertEntry key value rest

theorem fst_mem_insertEntry {key : String} {value : α} {entries : List (String × α)}
    {e : String × α} (h : e ∈ insertEntry key value entries) :
    e.1 = key ∨ e ∈ entries := by
  induction entries with
  | nil => simp_all [insertEntry]
  | cons first rest ih =>
      obtain ⟨k, v⟩ := first
      simp only [insertEntry] at h
      split at h
      · rcases List.mem_cons.mp h with rfl | h
        · exact .inl rfl
        · exact .inr h
      · split at h
        · rcases List.mem_cons.mp h with rfl | h
          · exact .inl rfl
          · exact .inr (List.mem_cons_of_mem _ h)
        · rcases List.mem_cons.mp h with rfl | h
          · exact .inr List.mem_cons_self
          · exact (ih h).imp_right (List.mem_cons_of_mem _)

theorem pairwise_insertEntry {key : String} {value : α} {entries : List (String × α)}
    (h : entries.Pairwise (fun a b => a.1 < b.1)) :
    (insertEntry key value entries).Pairwise (fun a b => a.1 < b.1) := by
  induction entries with
  | nil => simp [insertEntry]
  | cons first rest ih =>
      obtain ⟨k, v⟩ := first
      obtain ⟨hk, hrest⟩ := List.pairwise_cons.mp h
      simp only [insertEntry]
      split
      case isTrue hlt =>
        refine List.pairwise_cons.mpr ⟨fun e he => ?_, h⟩
        rcases List.mem_cons.mp he with rfl | he
        · exact hlt
        · exact String.lt_trans hlt (hk e he)
      case isFalse hge =>
        split
        case isTrue heq =>
          subst heq
          exact List.pairwise_cons.mpr ⟨hk, hrest⟩
        case isFalse hne =>
          refine List.pairwise_cons.mpr ⟨fun e he => ?_, ih hrest⟩
          rcases fst_mem_insertEntry he with heq | he
          · rw [heq]
            exact String.not_le.mp fun hle => hne (String.le_antisymm hle (String.not_lt.mp hge))
          · exact hk e he

def insert (m : SortedMap α) (key : String) (value : α) : SortedMap α :=
  ⟨insertEntry key value m.entries, pairwise_insertEntry m.ordered⟩

def filter (p : String → α → Bool) (m : SortedMap α) : SortedMap α :=
  ⟨m.entries.filter fun e => p e.1 e.2, m.ordered.filter _⟩

def erase (m : SortedMap α) (key : String) : SortedMap α :=
  m.filter fun k _ => k ≠ key

def mapValues (f : α → β) (m : SortedMap α) : SortedMap β :=
  ⟨m.entries.map fun e => (e.1, f e.2), by
    simpa [List.pairwise_map] using m.ordered⟩

/-- Later entries of the list win over earlier ones of the same key. -/
def ofList (entries : List (String × α)) : SortedMap α :=
  entries.foldl (fun m e => m.insert e.1 e.2) empty

def push (m : SortedMap (List α)) (key : String) (value : α) : SortedMap (List α) :=
  m.insert key ((m.find? key).getD [] ++ [value])

@[simp] theorem find?_empty (key : String) : (empty : SortedMap α).find? key = none := rfl

theorem findEntry_insertEntry_self (key : String) (value : α) (entries : List (String × α)) :
    findEntry key (insertEntry key value entries) = some value := by
  induction entries with
  | nil => simp [insertEntry, findEntry]
  | cons first rest ih =>
      simp only [insertEntry]
      split
      · simp [findEntry]
      · split
        · simp [findEntry]
        · rename_i hne
          simp [findEntry, Ne.symm hne, ih]

theorem findEntry_insertEntry_of_ne {key k : String} (hk : k ≠ key) (value : α)
    (entries : List (String × α)) :
    findEntry k (insertEntry key value entries) = findEntry k entries := by
  have hk' : key ≠ k := Ne.symm hk
  induction entries with
  | nil => simp [insertEntry, findEntry, hk']
  | cons first rest ih =>
      simp only [insertEntry]
      split
      · simp [findEntry, hk']
      · split
        · rename_i heq
          simp [findEntry, hk', ← heq]
        · simp [findEntry, ih]

theorem find?_insert (m : SortedMap α) (key k : String) (value : α) :
    (m.insert key value).find? k = if k = key then some value else m.find? k := by
  split
  case isTrue h => exact h ▸ findEntry_insertEntry_self k value m.entries
  case isFalse h => exact findEntry_insertEntry_of_ne h value m.entries

@[simp] theorem find?_insert_self (m : SortedMap α) (key : String) (value : α) :
    (m.insert key value).find? key = some value := by
  simp [find?_insert]

theorem findEntry_filter_ne (key k : String) (entries : List (String × α)) :
    findEntry k (entries.filter fun e => e.1 ≠ key) =
      if k = key then none else findEntry k entries := by
  induction entries with
  | nil => simp [findEntry]
  | cons first rest ih =>
      obtain ⟨k', v'⟩ := first
      by_cases h' : k' = key
      · subst h'
        rw [List.filter_cons_of_neg (by simp), ih]
        by_cases hk : k = k' <;> simp [findEntry, hk, eq_comm]
      · rw [List.filter_cons_of_pos (by simpa using h'), findEntry, ih, findEntry]
        by_cases hk : k' = k
        · subst hk
          simp [h']
        · simp [hk]

theorem find?_erase (m : SortedMap α) (key k : String) :
    (m.erase key).find? k = if k = key then none else m.find? k :=
  findEntry_filter_ne key k m.entries

end SortedMap
end RunMonitor
