import Mathlib.Data.Set.Basic
import RunMonitor.Cluster.Version

namespace RunMonitor

/-! A text can come between two numbers the wrong way round, and then the three go in a circle. -/

namespace Version

/-- Two numbers and a version that is none. As texts they stand the other way round, with the third
version between them. -/
def Straddles (low high middle : Option String) : Prop :=
  (∃ m n, low.bind Text.nat64? = some m ∧ high.bind Text.nat64? = some n ∧ m ≤ n) ∧
    middle.bind Text.nat64? = none ∧
    compareText high middle = .lt ∧ compareText middle low = .lt

/-- No three of the versions go in a circle. -/
def Coherent (versions : Set (Option String)) : Prop :=
  ∀ a ∈ versions, ∀ b ∈ versions, ∀ c ∈ versions, ¬ Straddles a b c

variable {a b c : Option String} {m n : Nat}

theorem compareText_eq (a b : Option String) : compareText a b = compare a b := by
  cases a <;> cases b <;> rfl

theorem compareVersions_numbers (ha : a.bind Text.nat64? = some m)
    (hb : b.bind Text.nat64? = some n) : compareVersions a b = compare m n := by
  rw [compareVersions, ha, hb]

theorem compareVersions_texts
    (h : a.bind Text.nat64? = none ∨ b.bind Text.nat64? = none) :
    compareVersions a b = compare a b := by
  rw [compareVersions, ← compareText_eq]
  rcases h with h | h
  · rw [h]
  · rw [h]
    cases a.bind Text.nat64? <;> rfl

theorem compareVersions_swap (a b : Option String) :
    compareVersions a b = (compareVersions b a).swap := by
  cases ha : a.bind Text.nat64? with
  | none =>
      rw [compareVersions_texts (.inl ha), compareVersions_texts (.inr ha)]
      exact Std.OrientedCmp.eq_swap
  | some m =>
      cases hb : b.bind Text.nat64? with
      | none =>
          rw [compareVersions_texts (.inr hb), compareVersions_texts (.inl hb)]
          exact Std.OrientedCmp.eq_swap
      | some n =>
          rw [compareVersions_numbers ha hb, compareVersions_numbers hb ha]
          exact Std.OrientedCmp.eq_swap

theorem compare_eq_lt_of_isLE (h : (compare a b).isLE = true)
    (hne : a.bind Text.nat64? ≠ b.bind Text.nat64?) : compare a b = .lt := by
  cases hcompare : compare a b with
  | lt => rfl
  | eq => exact absurd (congrArg (·.bind Text.nat64?) (Std.compare_eq_iff_eq.mp hcompare)) hne
  | gt =>
      rw [hcompare] at h
      cases h

theorem straddles_of_compare (hlow : a.bind Text.nat64? = some m)
    (hhigh : b.bind Text.nat64? = some n) (hle : m ≤ n) (hmiddle : c.bind Text.nat64? = none)
    (hbc : (compare b c).isLE = true) (hca : (compare c a).isLE = true) : Straddles a b c := by
  refine ⟨⟨m, n, hlow, hhigh, hle⟩, hmiddle, ?_, ?_⟩
  · rw [compareText_eq]
    exact compare_eq_lt_of_isLE hbc (by rw [hhigh, hmiddle]; nofun)
  · rw [compareText_eq]
    exact compare_eq_lt_of_isLE hca (by rw [hlow, hmiddle]; nofun)

/-- If the order goes back, two of the three are numbers and the other one is not. -/
theorem straddles_of_not_isLE (hab : (compareVersions a b).isLE = true)
    (hbc : (compareVersions b c).isLE = true) (hac : ¬ (compareVersions a c).isLE = true) :
    Straddles a b c ∨ Straddles b c a ∨ Straddles c a b := by
  have hca : (compareVersions c a).isLE = true := by
    rw [compareVersions_swap]
    revert hac
    cases compareVersions a c <;> decide
  cases ha : a.bind Text.nat64? with
  | none =>
      rw [compareVersions_texts (.inl ha)] at hab hac
      rw [compareVersions_texts (.inr ha)] at hca
      cases hb : b.bind Text.nat64? with
      | none =>
          rw [compareVersions_texts (.inl hb)] at hbc
          exact absurd (Std.TransCmp.isLE_trans hab hbc) hac
      | some m =>
          cases hc : c.bind Text.nat64? with
          | none =>
              rw [compareVersions_texts (.inr hc)] at hbc
              exact absurd (Std.TransCmp.isLE_trans hab hbc) hac
          | some n =>
              rw [compareVersions_numbers hb hc, Nat.isLE_compare] at hbc
              exact .inr (.inl (straddles_of_compare hb hc hbc ha hca hab))
  | some m =>
      cases hb : b.bind Text.nat64? with
      | none =>
          rw [compareVersions_texts (.inr hb)] at hab
          rw [compareVersions_texts (.inl hb)] at hbc
          cases hc : c.bind Text.nat64? with
          | none =>
              rw [compareVersions_texts (.inr hc)] at hac
              exact absurd (Std.TransCmp.isLE_trans hab hbc) hac
          | some n =>
              rw [compareVersions_numbers hc ha, Nat.isLE_compare] at hca
              exact .inr (.inr (straddles_of_compare hc ha hca hb hab hbc))
      | some n =>
          rw [compareVersions_numbers ha hb, Nat.isLE_compare] at hab
          cases hc : c.bind Text.nat64? with
          | none =>
              rw [compareVersions_texts (.inr hc)] at hbc
              rw [compareVersions_texts (.inl hc)] at hca
              exact .inl (straddles_of_compare ha hb hab hc hbc hca)
          | some k =>
              rw [compareVersions_numbers hb hc, Nat.isLE_compare] at hbc
              rw [compareVersions_numbers ha hc, Nat.isLE_compare] at hac
              exact absurd (Nat.le_trans hab hbc) hac

theorem Straddles.goesBack (h : Straddles a b c) :
    (compareVersions a b).isLE = true ∧ compareVersions b c = .lt ∧ compareVersions a c = .gt := by
  obtain ⟨⟨m, n, hlow, hhigh, hle⟩, hmiddle, hbc, hca⟩ := h
  rw [compareText_eq] at hbc hca
  refine ⟨?_, ?_, ?_⟩
  · rw [compareVersions_numbers hlow hhigh]
    exact Nat.isLE_compare.mpr hle
  · rwa [compareVersions_texts (.inr hmiddle)]
  · rw [compareVersions_swap, compareVersions_texts (.inl hmiddle), hca]
    rfl

theorem trans_iff_coherent (versions : Set (Option String)) :
    (∀ a ∈ versions, ∀ b ∈ versions, ∀ c ∈ versions, (compareVersions a b).isLE = true →
      (compareVersions b c).isLE = true → (compareVersions a c).isLE = true) ↔
      Coherent versions := by
  constructor
  · intro htrans a ha b hb c hc hstraddles
    obtain ⟨hab, hbc, hac⟩ := hstraddles.goesBack
    have hle := htrans a ha b hb c hc hab (by rw [hbc]; rfl)
    rw [hac] at hle
    cases hle
  · intro hcoherent a ha b hb c hc hab hbc
    by_contra hac
    rcases straddles_of_not_isLE hab hbc hac with h | h | h
    · exact hcoherent a ha b hb c hc h
    · exact hcoherent b hb c hc a ha h
    · exact hcoherent c hc a ha b hb h

theorem coherent_of_numbers {versions : Set (Option String)}
    (h : ∀ version ∈ versions, version = none ∨ (version.bind Text.nat64?).isSome = true) :
    Coherent versions := by
  intro low hlow high hhigh middle hmiddle hstraddles
  obtain ⟨-, hnumber, hbehind, -⟩ := hstraddles
  rcases h middle hmiddle with rfl | hsome
  · -- nothing comes before an absent version
    cases high <;> cases hbehind
  · rw [hnumber] at hsome
    cases hsome

end Version
end RunMonitor
