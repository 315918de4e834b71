import Mathlib.Data.List.Nodup

namespace RunMonitor

structure StableOrder {α κ : Type} [DecidableEq κ] (key : α → κ) (le : κ → κ → Bool)
    (items sorted : List α) : Prop where
  perm : sorted.Perm items
  ordered : sorted.Pairwise fun a b => le (key a) (key b)
  ties : ∀ k, sorted.filter (key · = k) = items.filter (key · = k)

theorem stableOrder_mergeSort {α κ : Type} [DecidableEq κ] (key : α → κ) (le : κ → κ → Bool)
    (trans : ∀ a b c, le a b → le b c → le a c) (total : ∀ a b, le a b || le b a)
    (items : List α) :
    StableOrder key le items (items.mergeSort fun a b => le (key a) (key b)) := by
  have htrans : ∀ a b c : α, le (key a) (key b) → le (key b) (key c) → le (key a) (key c) :=
    fun a b c => trans (key a) (key b) (key c)
  have htotal : ∀ a b : α, le (key a) (key b) || le (key b) (key a) :=
    fun a b => total (key a) (key b)
  have hperm := items.mergeSort_perm fun a b => le (key a) (key b)
  refine ⟨hperm, ?_, fun k => ?_⟩
  · exact List.pairwise_mergeSort htrans htotal items
  · have hrefl : le k k := by simpa using total k k
    have htied : (items.filter (key · = k)).Pairwise fun a b => le (key a) (key b) := by
      apply List.pairwise_of_forall_mem_list
      intro a ha b hb
      rw [of_decide_eq_true (List.mem_filter.mp ha).2, of_decide_eq_true (List.mem_filter.mp hb).2]
      exact hrefl
    -- the ties keep their order and none is added, as the sorted list has the same items
    have hties :=
      (List.sublist_mergeSort htrans htotal htied List.filter_sublist).filter (key · = k)
    rw [List.filter_filter] at hties
    simp only [Bool.and_self] at hties
    exact (hties.eq_of_length (hperm.filter _).length_eq.symm).symm

namespace StableOrder

variable {α κ : Type} [DecidableEq κ] {key key' : α → κ} {le : κ → κ → Bool}
  {items others sorted sorted' : List α}

theorem congr (h : StableOrder key le items sorted) (hkey : ∀ item ∈ items, key item = key' item) :
    StableOrder key' le items sorted := by
  have hsorted : ∀ item ∈ sorted, key item = key' item :=
    fun item member => hkey item (h.perm.mem_iff.mp member)
  refine ⟨h.perm, h.ordered.imp_of_mem ?_, fun k => ?_⟩
  · intro a b ha hb hle
    rwa [← hsorted a ha, ← hsorted b hb]
  · have hfilter (list : List α) (hlist : ∀ item ∈ list, key item = key' item) :
        list.filter (key · = k) = list.filter (key' · = k) :=
      List.filter_congr fun item member => by rw [hlist item member]
    rw [← hfilter sorted hsorted, ← hfilter items hkey]
    exact h.ties k

/-- Without ties the order of the items is of no account. -/
theorem eq_of_perm (h : StableOrder key le items sorted) (h' : StableOrder key le others sorted')
    (antisymm : ∀ a b, le a b → le b a → a = b) (hperm : items.Perm others)
    (distinct : (items.map key).Nodup) : sorted = sorted' := by
  refine List.Perm.eq_of_pairwise ?_ h.ordered h'.ordered
    (h.perm.trans (hperm.trans h'.perm.symm))
  intro a b ha hb hab hba
  exact List.inj_on_of_nodup_map distinct (h.perm.mem_iff.mp ha)
    ((h'.perm.trans hperm.symm).mem_iff.mp hb) (antisymm _ _ hab hba)

end StableOrder
end RunMonitor
