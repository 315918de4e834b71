import RunMonitor.Store.Access

namespace RunMonitor

namespace Store

variable {γ β : Type} [Gate γ]

theorem reply_cases (now : Int) (call : StoreCall β) (store : Store γ) :
    (∃ gate, reply now call store =
      ((call.perform now store.rows).1, ⟨(call.perform now store.rows).2, gate⟩)) ∨
    ∃ error gate, reply now call store = (.error error, ⟨store.rows, gate⟩) := by
  unfold reply
  cases Gate.allow call.operation call.key store.gate with
  | mk verdict gate =>
      cases verdict with
      | ok _ => exact .inl ⟨gate, rfl⟩
      | error error => exact .inr ⟨error, gate, rfl⟩

section Sequence

variable {α : Type} {now : Int} {access : Access β} {store after : Store γ} (f : β → Access α)

theorem run_bind_ok {value : β} (h : access.run now store = (.ok value, after)) :
    (access >>= f).run now store = (f value).run now after := by
  unfold Access.run at h ⊢
  rw [Procedure.run_bind, h]

theorem run_bind_error {error : Error} (h : access.run now store = (.error error, after)) :
    (access >>= f).run now store = (.error error, after) := by
  unfold Access.run at h ⊢
  rw [Procedure.run_bind, h]

end Sequence

end Store

namespace Rows

theorem live_insert (rows : Rows) (t : Int) (key k : String) (value : ByteArray) :
    live (rows.insert key ⟨value, none⟩) t k =
      if k = key then some value else rows.live t k :=
  live_put rows 0 t key k value none

theorem isLive_of_le {row : Row} {now t : Int} (hle : now ≤ t) (h : row.isLive t) :
    row.isLive now := by
  obtain ⟨value, expiry⟩ := row
  cases expiry with
  | none => rfl
  | some expiry =>
      have hlt : t < expiry := by simpa [Row.isLive] using h
      simpa [Row.isLive] using Int.lt_of_le_of_lt hle hlt

theorem live_of_le {rows : Rows} {now t : Int} {key : String} {value : ByteArray} (hle : now ≤ t)
    (h : rows.live t key = some value) : rows.live now key = some value := by
  obtain ⟨row, hrow, rfl⟩ := Option.map_eq_some_iff.mp h
  obtain ⟨hfind, hlive⟩ := Option.filter_eq_some_iff.mp hrow
  exact Option.map_eq_some_iff.mpr
    ⟨row, Option.filter_eq_some_iff.mpr ⟨hfind, isLive_of_le hle hlive⟩, rfl⟩

def InRange (t : Int) : Prop :=
  -((Nat.pow 2 63 : Nat) : Int) ≤ t ∧ t < (Nat.pow 2 63 : Nat)

instance (t : Int) : Decidable (InRange t) := inferInstanceAs (Decidable (_ ∧ _))

theorem InRange.between {a b c : Int} (ha : InRange a) (hc : InRange c) (hab : a ≤ b)
    (hbc : b ≤ c) : InRange b :=
  ⟨Int.le_trans ha.1 hab, Int.lt_of_le_of_lt hbc hc.2⟩

theorem expiryAfter_of_inRange {now : Int} {ttl : Nat} (h : InRange (now + ttl)) :
    expiryAfter now ttl = now + ttl := by
  have hlower := h.1
  have hupper := h.2
  have hhalf : Nat.pow 2 63 = 9223372036854775808 := rfl
  have hwhole : Nat.pow 2 64 = 18446744073709551616 := rfl
  rw [hhalf] at hlower hupper
  refine Int.bmod_eq_of_le_mul_two ?_ ?_ <;> rw [hwhole] <;> omega

theorem live_put_of_inRange (rows : Rows) {now : Int} {ttl : Nat} (h : InRange (now + ttl))
    (t : Int) (key k : String) (value : ByteArray) :
    (rows.put now key value (some ttl)).live t k =
      if k = key then if t < now + ttl then some value else none else rows.live t k := by
  simp [live_put, expiryAfter_of_inRange h]

end Rows
end RunMonitor
