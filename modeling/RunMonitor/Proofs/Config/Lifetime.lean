import RunMonitor.Config.Basic
import RunMonitor.Proofs.Store.Access

namespace RunMonitor

namespace Rows

theorem inRange_iff {t : Int} :
    InRange t ↔ -9223372036854775808 ≤ t ∧ t < 9223372036854775808 := Iff.rfl

theorem expiryAfter_lt_of_not_inRange {now : Int} {ttl : Nat} (past : InRange now)
    (h : ¬ InRange (now + ttl)) : expiryAfter now ttl < now + ttl := by
  have hlimit : ((Nat.pow 2 63 : Nat) : Int) ≤ now + ttl := by
    have hlower := past.1
    unfold InRange at h
    omega
  have hbmod : expiryAfter now ttl < ((Nat.pow 2 64 : Nat) + 1) / 2 := Int.bmod_lt (by decide)
  have hhalf : (((Nat.pow 2 64 : Nat) : Int) + 1) / 2 = (Nat.pow 2 63 : Nat) := by decide
  omega

theorem live_put_iff_inRange {now : Int} {ttl : Nat} (past : InRange now) (rows : Rows)
    (key : String) (value : ByteArray) :
    (∀ t, now ≤ t → (rows.put now key value (some ttl)).live t key =
        if t < now + ttl then some value else none) ↔
      InRange (now + ttl) := by
  constructor
  · intro hkept
    apply Classical.byContradiction
    intro hout
    -- the first instant from which on nothing is visible comes too early
    have hearly := expiryAfter_lt_of_not_inRange past hout
    have hstored : now < now + ttl := by
      apply Int.not_le.mp
      intro hle
      have hzero : now + ttl = now := by omega
      exact hout (hzero.symm ▸ past)
    have hvisible := hkept (max now (expiryAfter now ttl)) (by omega)
    rw [if_pos (by omega), live_put, if_pos rfl, Option.map_some, Option.all_some,
      decide_eq_false (by omega)] at hvisible
    cases hvisible
  · intro hin t _
    rw [live_put_of_inRange rows hin, if_pos rfl]

end Rows

def IsPresent (now : Int) : Prop := 0 ≤ now ∧ now < 253402300800000

instance (now : Int) : Decidable (IsPresent now) := inferInstanceAs (Decidable (_ ∧ _))

theorem IsPresent.inRange {now : Int} (h : IsPresent now) : Rows.InRange now := by
  unfold IsPresent at h
  rw [Rows.inRange_iff]
  omega

namespace CacheConfig

/-- What is stored now for the configured time is found until that time is over, and not found from
then on. -/
def KeepsTime (config : CacheConfig) (now : Int) : Prop :=
  ∀ (store : Store Unit) (key : String) (value : ByteArray) (t : Int), now ≤ t →
    ((Store.get key).run t ((Store.set key value (some config.ttlMillis)).run now store).2).1 =
      .ok (if t < now + 1000 * config.ttlSeconds then some value else none)

theorem ttlMillis_eq (config : CacheConfig) :
    (config.ttlMillis : Int) = 1000 * config.ttlSeconds := by
  unfold ttlMillis
  omega

theorem keepsTime_iff_inRange (config : CacheConfig) {now : Int} (present : IsPresent now) :
    config.KeepsTime now ↔ Rows.InRange (now + 1000 * config.ttlSeconds) := by
  rw [← ttlMillis_eq]
  constructor
  · intro hkeeps
    refine (Rows.live_put_iff_inRange present.inRange SortedMap.empty "" ByteArray.empty).mp ?_
    intro t hle
    rw [ttlMillis_eq]
    exact Except.ok.inj (hkeeps { gate := () } "" ByteArray.empty t hle)
  · intro hin store key value t hle
    rw [← ttlMillis_eq]
    exact congrArg Except.ok
      ((Rows.live_put_iff_inRange present.inRange store.rows key value).mpr hin t hle)

theorem ttlSeconds_pos {config : CacheConfig} (valid : config.validate = .ok ()) :
    0 < config.ttlSeconds := by
  apply Nat.pos_of_ne_zero
  intro hzero
  rw [validate, if_pos hzero] at valid
  cases valid

end CacheConfig

namespace Config

theorem validate_cache {config : Config} (valid : config.validate = .ok ()) :
    config.cache.validate = .ok () := by
  unfold validate at valid
  cases hdatabase : config.database.validate with
  | error fault =>
      rw [hdatabase] at valid
      cases valid
  | ok _ =>
      rw [hdatabase] at valid
      exact valid

def longestTtl : Nat := 9223118634553975

/-- Entries are kept for just the configured time, which is never zero, exactly as long as their
expiry fits 64 bits. No configuration is refused because its time to live is too long for that. -/
theorem keepsTime_iff {config : Config} (valid : config.validate = .ok ()) :
    0 < config.cache.ttlSeconds ∧
      (∀ now, IsPresent now →
        (config.cache.KeepsTime now ↔ Rows.InRange (now + 1000 * config.cache.ttlSeconds))) ∧
      ((∀ now, IsPresent now → config.cache.KeepsTime now) ↔
        config.cache.ttlSeconds ≤ longestTtl) := by
  have hkeeps : ∀ now, IsPresent now →
      (config.cache.KeepsTime now ↔ Rows.InRange (now + 1000 * config.cache.ttlSeconds)) :=
    fun now present => config.cache.keepsTime_iff_inRange present
  refine ⟨CacheConfig.ttlSeconds_pos (validate_cache valid), hkeeps, ?_⟩
  constructor
  · intro hall
    have hlast : IsPresent 253402300799999 := by decide
    have hin := (Rows.inRange_iff.mp ((hkeeps _ hlast).mp (hall _ hlast))).2
    unfold longestTtl
    omega
  · intro hle now present
    apply (hkeeps now present).mpr
    unfold IsPresent at present
    unfold longestTtl at hle
    rw [Rows.inRange_iff]
    omega

theorem keepsTime_default :
    ({} : Config).validate = .ok () ∧ ({} : Config).cache.KeepsTime 1709294400000 :=
  ⟨rfl, (keepsTime_iff rfl).2.2.mpr (by decide) _ (by decide)⟩

section Wrapping

def overlong : Config := { cache := { ttlSeconds := 9223372036854776 } }

/-- The configuration is accepted, and what is stored for so long is never visible. -/
theorem not_keepsTime_of_overlong :
    ¬ ∀ (config : Config) (now : Int), config.validate = .ok () → IsPresent now →
      config.cache.KeepsTime now := by
  intro hall
  have hkeeps := hall overlong 1709294400000 rfl (by decide) { gate := () } "k" ByteArray.empty
    1709294400000 (Int.le_refl _)
  rw [if_pos (by decide)] at hkeeps
  have hgone : (Rows.put SortedMap.empty 1709294400000 "k" ByteArray.empty
      (some overlong.cache.ttlMillis)).live 1709294400000 "k" = none := by
    decide +kernel
  cases hgone.symm.trans (Except.ok.inj hkeeps)

end Wrapping

end Config
end RunMonitor
