import RunMonitor.Proofs.Store.Expiry

namespace RunMonitor

/-! What a call can see and what it can change. -/

def StoreCall.Within {β : Type} (keys : String → Prop) : StoreCall β → Prop
  | .get key | .set key _ _ | .update key _ | .delete key => keys key
  | .purge => False

namespace Rows

/-- From the given time on, the same is visible under these keys. -/
def AgreesOn (keys : String → Prop) (t : Int) (rows others : Rows) : Prop :=
  ∀ t', t ≤ t' → ∀ key, keys key → rows.live t' key = others.live t' key

namespace AgreesOn

variable {β : Type} {keys : String → Prop} {now t : Int} {rows others : Rows} {call : StoreCall β}

theorem refl (keys : String → Prop) (t : Int) (rows : Rows) : rows.AgreesOn keys t rows :=
  fun _ _ _ _ => rfl

theorem trans {third : Rows} (h : rows.AgreesOn keys t others) (h' : others.AgreesOn keys t third) :
    rows.AgreesOn keys t third :=
  fun t' hle key hkey => (h t' hle key hkey).trans (h' t' hle key hkey)

theorem later (h : rows.AgreesOn keys t others) (hle : t ≤ now) : rows.AgreesOn keys now others :=
  fun t' hle' key hkey => h t' (Int.le_trans hle hle') key hkey

theorem put (h : rows.AgreesOn keys t others) (now : Int) (key : String) (value : ByteArray)
    (ttl : Option Nat) :
    (rows.put now key value ttl).AgreesOn keys t (others.put now key value ttl) := by
  intro t' hle k hk
  rw [live_put, live_put, h t' hle k hk]

theorem erase (h : rows.AgreesOn keys t others) (key : String) :
    AgreesOn keys t (rows.erase key) (others.erase key) := by
  intro t' hle k hk
  rw [live_erase, live_erase, h t' hle k hk]

theorem perform (h : rows.AgreesOn keys now others) (hwithin : call.Within keys) :
    (call.perform now rows).1 = (call.perform now others).1 ∧
      (call.perform now rows).2.AgreesOn keys now (call.perform now others).2 := by
  cases call with
  | get key => exact ⟨congrArg Except.ok (h now (Int.le_refl now) key hwithin), h⟩
  | set key value ttl => exact ⟨rfl, h.put now key value ttl⟩
  | update key f =>
      have hhanded : rows.handed now key = others.handed now key :=
        h now (Int.le_refl now) key hwithin
      simp only [StoreCall.perform_update, hhanded]
      cases f (others.handed now key) with
      | ok value => exact ⟨rfl, h.put now key value none⟩
      | error error => exact ⟨rfl, h⟩
  | delete key => exact ⟨rfl, h.erase key⟩
  | purge => exact hwithin.elim

theorem of_within {elsewhere : String → Prop} (hwithin : call.Within elsewhere)
    (apart : ∀ key, keys key → ¬ elsewhere key) (now : Int) (rows : Rows) :
    (call.perform now rows).2.AgreesOn keys t rows := by
  have hput : ∀ key, elsewhere key → ∀ value ttl,
      (rows.put now key value ttl).AgreesOn keys t rows := by
    intro key hkey value ttl t' _ k hk
    have hne : k ≠ key := fun heq => apart k hk (heq ▸ hkey)
    rw [live_put, if_neg hne]
  cases call with
  | get key => exact refl keys t rows
  | set key value ttl => exact hput key hwithin value ttl
  | update key f =>
      simp only [StoreCall.perform_update]
      cases f (rows.handed now key) with
      | ok value => exact hput key hwithin value none
      | error error => exact refl keys t rows
  | delete key =>
      intro t' _ k hk
      have hne : k ≠ key := fun heq => apart k hk (heq ▸ hwithin)
      exact (live_erase rows t' key k).trans (if_neg hne)
  | purge => exact hwithin.elim

theorem of_isPurge (hpurge : call.isPurge = true) (now : Int) (rows : Rows) :
    (call.perform now rows).2.AgreesOn keys now rows := by
  cases call with
  | purge => exact fun t' hle key _ => live_purge rows hle key
  | _ => cases hpurge

end AgreesOn
end Rows
end RunMonitor
