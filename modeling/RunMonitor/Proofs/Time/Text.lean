import Mathlib.Algebra.GroupWithZero.Nat
import Mathlib.Data.List.Induction
import Mathlib.Data.List.TakeWhile
import Mathlib.Data.Option.Basic
import RunMonitor.Proofs.Time.Calendar
import RunMonitor.Time.Instant

namespace RunMonitor.Instant

def IsProper (t : Instant) : Prop := t.isLeap → t.seconds % 60 = 59

instance (t : Instant) : Decidable t.IsProper :=
  inferInstanceAs (Decidable (t.isLeap → t.seconds % 60 = 59))

structure IsReadable (t : Instant) : Prop where
  year : HasDates t.date.year
  proper : t.IsProper

section Padding

variable {width n : Nat}

theorem length_padded (hwidth : 0 < width) (h : n < 10 ^ width) :
    (padded width n).length = width := by
  have hdigits : (Nat.toDigits 10 n).length ≤ width :=
    (Nat.length_toDigits_le_iff (by decide) hwidth).mpr h
  simp only [padded, List.length_append, List.length_replicate]
  omega

theorem isDigit_of_mem_padded {c : Char} (h : c ∈ padded width n) : c.isDigit := by
  rcases List.mem_append.mp h with h | h
  · rw [List.eq_of_mem_replicate h]
    rfl
  · exact Nat.isDigit_of_mem_toDigits (by decide) (by decide) h

theorem ofDigitChars_padded (width n : Nat) : Nat.ofDigitChars 10 (padded width n) 0 = n := by
  rw [padded, Nat.ofDigitChars_append, Nat.ofDigitChars_replicate_zero, Nat.mul_zero,
    Nat.ofDigitChars_ten_toDigits]

theorem takeNumber?_append {least most : Nat} {digits rest : List Char}
    (hdigits : ∀ c ∈ digits, c.isDigit) (hleast : least ≤ digits.length)
    (hmost : digits.length ≤ most)
    (hend : digits.length = most ∨ ∀ c ∈ rest.head?, c.isDigit = false) :
    takeNumber? least most (digits ++ rest) = some (Nat.ofDigitChars 10 digits 0, rest) := by
  have hrest : (rest.take (most - digits.length)).takeWhile Char.isDigit = [] := by
    rcases hend with hfull | hhead
    · rw [hfull, Nat.sub_self]
      rfl
    · cases rest with
      | nil => simp
      | cons c rest =>
          cases most - digits.length with
          | zero => rfl
          | succ count => rw [List.take_succ_cons, List.takeWhile_cons, hhead c rfl]; rfl
  have htaken : ((digits ++ rest).take most).takeWhile Char.isDigit = digits := by
    rw [List.take_append, List.take_of_length_le hmost, List.takeWhile_append_of_pos hdigits, hrest,
      List.append_nil]
  simp only [takeNumber?, htaken, Nat.not_lt.mpr hleast, if_false, List.drop_left]
  rfl

theorem takeNumber?_padded (hwidth : 0 < width) (h : n < 10 ^ width) (rest : List Char) :
    takeNumber? width width (padded width n ++ rest) = some (n, rest) := by
  have hlength := length_padded hwidth h
  rw [takeNumber?_append (fun _ => isDigit_of_mem_padded) hlength.ge hlength.le (.inl hlength),
    ofDigitChars_padded]

end Padding

theorem guard_divider (rest : List Char) :
    guard (('T' :: rest).head?.any isDivider) = some () := rfl

theorem takeChar?_cons (c : Char) (rest : List Char) : takeChar? c (c :: rest) = some rest :=
  if_pos rfl

theorem bind_of_eq_some {α β : Type} {x : Option α} {a : α} (h : x = some a) (f : α → Option β) :
    (x >>= f) = f a := by
  rw [h]
  rfl

theorem readStrict?_padded {year month day hour minute second : Nat} (hyear : year < 10000)
    (hmonth : month < 100) (hday : day < 100) (hhour : hour < 100) (hminute : minute < 100)
    (hsecond : second < 100) :
    readStrict? (padded 4 year ++ '-' :: padded 2 month ++ '-' :: padded 2 day ++
      'T' :: padded 2 hour ++ ':' :: padded 2 minute ++ ':' :: padded 2 second ++ ['Z']) =
        ofParts? ⟨year, month, day⟩ hour minute second 0 0 := by
  have hfour := takeNumber?_padded (by decide : 0 < 4) hyear
  have htwo {n : Nat} (h : n < 100) := takeNumber?_padded (by decide : 0 < 2) h
  have hfraction : takeFraction? ['Z'] = some (0, ['Z']) := rfl
  have hoffset : takeOffset? (takeChar? ':') ['Z'] = some (0, []) := rfl
  simp only [List.append_assoc, List.cons_append]
  refine (bind_of_eq_some (hfour _) _).trans ?_
  refine (bind_of_eq_some (takeChar?_cons '-' _) _).trans ?_
  refine (bind_of_eq_some (htwo hmonth _) _).trans ?_
  refine (bind_of_eq_some (takeChar?_cons '-' _) _).trans ?_
  refine (bind_of_eq_some (htwo hday _) _).trans ?_
  refine (bind_of_eq_some (guard_divider _) _).trans ?_
  refine (bind_of_eq_some (htwo hhour _) _).trans ?_
  refine (bind_of_eq_some (takeChar?_cons ':' _) _).trans ?_
  refine (bind_of_eq_some (htwo hminute _) _).trans ?_
  refine (bind_of_eq_some (takeChar?_cons ':' _) _).trans ?_
  refine (bind_of_eq_some (htwo hsecond _) _).trans ?_
  refine (bind_of_eq_some hfraction _).trans ?_
  exact bind_of_eq_some hoffset _

theorem dateTimeChars_eq {t : Instant} (hyear : 0 ≤ t.date.year ∧ t.date.year ≤ 9999) :
    t.dateTimeChars =
      padded 4 t.date.year.toNat ++ '-' :: padded 2 t.date.month ++ '-' :: padded 2 t.date.day ++
        'T' :: padded 2 (t.secondOfDay.toNat / 3600) ++
        ':' :: padded 2 (t.secondOfDay.toNat % 3600 / 60) ++
        ':' :: padded 2 (t.secondOfDay.toNat % 60 + if t.isLeap then 1 else 0) := by
  have hchars : yearChars t.date.year = padded 4 t.date.year.toNat := if_pos hyear
  rw [← hchars]
  rfl

theorem ofParts?_eq {date : Date} {hour minute second : Nat} (hdate : date.IsValid)
    (hhour : hour < 24) (hminute : minute < 60) (hsecond : second ≤ 60) :
    ofParts? date hour minute second 0 0 =
      some ⟨date.toDays * 86400 + (hour * 3600 + minute * 60 + min second 59 : Nat),
        if second = 60 then 1000000000 else 0⟩ := by
  have hguard : guard (date.IsValid ∧ hour < 24 ∧ minute < 60 ∧ second ≤ 60) = some () :=
    if_pos ⟨hdate, hhour, hminute, hsecond⟩
  simp only [ofParts?, hguard, Option.bind_eq_bind, Option.bind_some]
  simp

theorem ofParts?_clock {t : Instant} (hproper : t.IsProper) :
    ofParts? t.date (t.secondOfDay.toNat / 3600) (t.secondOfDay.toNat % 3600 / 60)
      (t.secondOfDay.toNat % 60 + if t.isLeap then 1 else 0) 0 0 = some t.truncate := by
  have hvalid : t.date.IsValid := Date.isValid_ofDays _
  have hdays : t.date.toDays = t.seconds / 86400 := Date.toDays_ofDays _
  have hclock : (t.secondOfDay.toNat : Int) = t.seconds % 86400 := by
    unfold secondOfDay
    omega
  have hsecond : t.secondOfDay.toNat % 60 + (if t.isLeap then 1 else 0) ≤ 60 := by
    split <;> omega
  rw [ofParts?_eq hvalid (by omega) (by omega) hsecond, hdays, truncate]
  cases hleap : t.isLeap with
  | false =>
      have hlast : ¬ t.secondOfDay.toNat % 60 + 0 = 60 := by omega
      simp only [Bool.false_eq_true, if_false, if_neg hlast]
      congr 2
      omega
  | true =>
      have hlast : t.secondOfDay.toNat % 60 + 1 = 60 := by
        have hminute := hproper hleap
        omega
      simp only [if_true, if_pos hlast]
      congr 2
      omega

theorem parts_lt (t : Instant) :
    t.date.month < 100 ∧ t.date.day < 100 ∧ t.secondOfDay.toNat / 3600 < 100 ∧
      t.secondOfDay.toNat % 3600 / 60 < 100 ∧
      t.secondOfDay.toNat % 60 + (if t.isLeap then 1 else 0) < 100 := by
  obtain ⟨_, hmonth, _, hday⟩ : t.date.IsValid := Date.isValid_ofDays _
  have hlength := Date.monthLength_le t.date.year t.date.month
  have hclock : t.secondOfDay.toNat < 86400 := by
    unfold secondOfDay
    omega
  refine ⟨by omega, by omega, by omega, by omega, ?_⟩
  split <;> omega

theorem ofRfc3339?_wholeText {t : Instant} (hyear : 0 ≤ t.date.year ∧ t.date.year ≤ 9999)
    (hproper : t.IsProper) : ofRfc3339? t.wholeText = some t.truncate := by
  obtain ⟨hmonth, hday, hhour, hminute, hsecond⟩ := t.parts_lt
  have hdate : Date.mk t.date.year.toNat t.date.month t.date.day = t.date := by
    rw [Int.toNat_of_nonneg hyear.1]
  rw [ofRfc3339?, wholeText, String.toList_ofList, dateTimeChars_eq hyear,
    readStrict?_padded (by omega) hmonth hday hhour hminute hsecond, hdate, ofParts?_clock hproper]

theorem isBlank_of_isDigit {c : Char} (h : c.isDigit) : Text.isBlank c = false := by
  have hrange := Char.isDigit_iff_toNat.mp h
  have hends : '0'.toNat = 48 ∧ '9'.toNat = 57 := ⟨rfl, rfl⟩
  simp [Text.isBlank, Char.le_def, Char.ext_iff, UInt32.le_iff_toNat_le, ← UInt32.toNat_inj]
  omega

theorem le_length_padded (width n : Nat) : width ≤ (padded width n).length := by
  simp only [padded, List.length_append, List.length_replicate]
  omega

theorem exists_padded_eq_cons {width n : Nat} (hwidth : 0 < width) :
    ∃ c cs, padded width n = c :: cs ∧ c.isDigit := by
  cases hpadded : padded width n with
  | nil =>
      have hlength := le_length_padded width n
      rw [hpadded, List.length_nil] at hlength
      omega
  | cons c cs => exact ⟨c, cs, rfl, isDigit_of_mem_padded (hpadded ▸ List.mem_cons_self)⟩

theorem skipBlank_padded {width n : Nat} (hwidth : 0 < width) (rest : List Char) :
    skipBlank (padded width n ++ rest) = padded width n ++ rest := by
  obtain ⟨c, cs, hpadded, hdigit⟩ := exists_padded_eq_cons hwidth
  rw [hpadded, List.cons_append, skipBlank, List.dropWhile_cons_of_neg]
  simp [isBlank_of_isDigit hdigit]

theorem takeLoose?_padded {n : Nat} (h : n < 100) (rest : List Char) :
    takeLoose? (padded 2 n ++ rest) = some (n, rest) := by
  have hlength := length_padded (by decide : 0 < 2) h
  rw [takeLoose?, skipBlank_padded (by decide),
    takeNumber?_append (fun _ => isDigit_of_mem_padded) (by omega) hlength.le (.inl hlength),
    ofDigitChars_padded]

theorem takeYear?_yearChars (year : Int) (rest : List Char) :
    takeYear? (yearChars year ++ '-' :: rest) = some (year, '-' :: rest) := by
  have hnumber {most : Nat} (n : Nat) (hmost : (padded 4 n).length ≤ most) :
      takeNumber? 1 most (padded 4 n ++ '-' :: rest) = some (n, '-' :: rest) := by
    have hfour := le_length_padded 4 n
    rw [takeNumber?_append (fun _ => isDigit_of_mem_padded) (by omega) hmost (.inr (by simp)),
      ofDigitChars_padded]
  have hsigned (n : Nat) :
      takeNumber? 1 (padded 4 n ++ '-' :: rest).length (padded 4 n ++ '-' :: rest) =
        some (n, '-' :: rest) :=
    hnumber n (by rw [List.length_append]; omega)
  by_cases hplain : 0 ≤ year ∧ year ≤ 9999
  case pos =>
    have hdigits : (padded 4 year.toNat).length = 4 := length_padded (by decide) (by omega)
    have hread := hnumber year.toNat hdigits.le
    have hskip := skipBlank_padded (by decide : 0 < 4) (n := year.toNat) ('-' :: rest)
    have hyear : (year.toNat : Int) = year := Int.toNat_of_nonneg hplain.1
    obtain ⟨c, cs, hpadded, hdigit⟩ : ∃ c cs, padded 4 year.toNat = c :: cs ∧ c.isDigit :=
      exists_padded_eq_cons (by decide)
    have hsign : c ≠ '-' ∧ c ≠ '+' := by
      constructor <;> (rintro rfl; cases hdigit)
    rw [hpadded, List.cons_append] at hread hskip
    rw [yearChars, if_pos hplain, hpadded, List.cons_append, takeYear?, hskip]
    split <;> simp_all
  case neg =>
    by_cases hnegative : year < 0
    case pos =>
      have hyear : -(year.natAbs : Int) = year := by omega
      have hskip (cs : List Char) : skipBlank ('-' :: cs) = '-' :: cs := rfl
      rw [yearChars, if_neg hplain, if_pos hnegative, List.cons_append, takeYear?, hskip]
      simp only [hsigned, Option.bind_eq_bind, Option.bind_some, hyear]
      rfl
    case neg =>
      have hyear : (year.natAbs : Int) = year := by omega
      have hskip (cs : List Char) : skipBlank ('+' :: cs) = '+' :: cs := rfl
      rw [yearChars, if_neg hplain, if_neg hnegative, List.cons_append, takeYear?, hskip]
      simp only [hsigned, Option.bind_eq_bind, Option.bind_some, hyear]
      rfl

theorem readLoose?_padded {year : Int} {month day hour minute second : Nat} (hyear : HasDates year)
    (hmonth : month < 100) (hday : day < 100) (hhour : hour < 100) (hminute : minute < 100)
    (hsecond : second < 100) :
    readLoose? (yearChars year ++ '-' :: padded 2 month ++ '-' :: padded 2 day ++
      'T' :: padded 2 hour ++ ':' :: padded 2 minute ++ ':' :: padded 2 second ++ ['Z']) =
        (ofParts? ⟨year, month, day⟩ hour minute second 0 0).filter (HasDates ·.date.year) := by
  have hdash (rest : List Char) : takeChar? '-' (skipBlank ('-' :: rest)) = some rest := rfl
  have hcolon (rest : List Char) : takeChar? ':' (skipBlank (':' :: rest)) = some rest := rfl
  have hfraction : takeFraction? ['Z'] = some (0, ['Z']) := rfl
  have hzone : takeZone? (skipBlank ['Z']) = some (0, []) := rfl
  have hend : guard (skipBlank ([] : List Char) = []) = some () := rfl
  simp only [List.append_assoc, List.cons_append]
  refine (bind_of_eq_some (takeYear?_yearChars year _) _).trans ?_
  refine (bind_of_eq_some (if_pos hyear) _).trans ?_
  refine (bind_of_eq_some (hdash _) _).trans ?_
  refine (bind_of_eq_some (takeLoose?_padded hmonth _) _).trans ?_
  refine (bind_of_eq_some (hdash _) _).trans ?_
  refine (bind_of_eq_some (takeLoose?_padded hday _) _).trans ?_
  refine (bind_of_eq_some (guard_divider _) _).trans ?_
  refine (bind_of_eq_some (takeLoose?_padded hhour _) _).trans ?_
  refine (bind_of_eq_some (hcolon _) _).trans ?_
  refine (bind_of_eq_some (takeLoose?_padded hminute _) _).trans ?_
  refine (bind_of_eq_some (hcolon _) _).trans ?_
  refine (bind_of_eq_some (takeLoose?_padded hsecond _) _).trans ?_
  refine (bind_of_eq_some hfraction _).trans ?_
  refine (bind_of_eq_some hzone _).trans ?_
  refine (bind_of_eq_some hend _).trans ?_
  cases ofParts? ⟨year, month, day⟩ hour minute second 0 0 with
  | none => rfl
  | some t =>
      by_cases hdates : HasDates t.date.year <;> simp [guard, hdates, Option.filter_some]

theorem ofText?_wholeText {t : Instant} (h : t.IsReadable) :
    ofText? t.wholeText = some t.truncate := by
  obtain ⟨hmonth, hday, hhour, hminute, hsecond⟩ := t.parts_lt
  have hyear : HasDates t.truncate.date.year := h.year
  have hread := readLoose?_padded h.year hmonth hday hhour hminute hsecond
  have hparts : ofParts? ⟨t.date.year, t.date.month, t.date.day⟩ _ _ _ 0 0 = some t.truncate :=
    ofParts?_clock h.proper
  rw [hparts, Option.filter_some, if_pos (decide_eq_true hyear)] at hread
  rw [ofText?, wholeText, String.toList_ofList]
  exact hread

theorem ofDigitChars_lt {digits : List Char} (h : ∀ c ∈ digits, c.isDigit) :
    Nat.ofDigitChars 10 digits 0 < 10 ^ digits.length := by
  induction digits using List.reverseRecOn with
  | nil => decide
  | append_singleton digits c ih =>
      have hinit := ih fun d member => h d (List.mem_append_left _ member)
      have hdigit : c.toNat - '0'.toNat ≤ 9 := by
        have hrange := Char.isDigit_iff_toNat.mp (h c (List.mem_append_right _ List.mem_cons_self))
        have hends : '0'.toNat = 48 ∧ '9'.toNat = 57 := ⟨rfl, rfl⟩
        omega
      rw [Nat.ofDigitChars_append, Nat.ofDigitChars_cons, Nat.ofDigitChars_nil, List.length_append,
        List.length_singleton, Nat.pow_succ]
      omega

theorem takeNumber?_lt {least most n : Nat} {cs rest : List Char}
    (h : takeNumber? least most cs = some (n, rest)) :
    cs.length - rest.length ≤ most ∧ n < 10 ^ (cs.length - rest.length) := by
  simp only [takeNumber?] at h
  generalize hdigits : (cs.take most).takeWhile Char.isDigit = digits at h
  have hlength : digits.length ≤ min most cs.length := by
    rw [← hdigits, ← List.length_take]
    exact (List.takeWhile_prefix _).length_le
  have hall : ∀ c ∈ digits, c.isDigit := by
    rw [← hdigits]
    exact fun c => List.mem_takeWhile_imp
  split at h
  · cases h
  · obtain ⟨rfl, rfl⟩ := Prod.mk.inj (Option.some.inj h)
    have hwidth : cs.length - (cs.drop digits.length).length = digits.length := by
      rw [List.length_drop]
      omega
    rw [hwidth]
    exact ⟨by omega, ofDigitChars_lt hall⟩

theorem takeFraction?_lt {nanos : Nat} {cs rest : List Char}
    (h : takeFraction? cs = some (nanos, rest)) : nanos < 1000000000 := by
  unfold takeFraction? at h
  split at h
  case h_1 digits =>
    simp only [Option.bind_eq_bind, Option.bind_eq_some_iff] at h
    obtain ⟨⟨value, after⟩, hvalue, heq⟩ := h
    obtain ⟨hwidth, hlt⟩ := takeNumber?_lt hvalue
    obtain ⟨rfl, -⟩ := Prod.mk.inj (Option.some.inj heq)
    generalize digits.length - after.length = width at hwidth hlt
    calc value * 10 ^ (9 - width)
        < 10 ^ width * 10 ^ (9 - width) :=
          Nat.mul_lt_mul_of_pos_right hlt (Nat.pow_pos (by decide))
      _ = 1000000000 := by rw [← Nat.pow_add, Nat.add_sub_cancel' hwidth]
  case h_2 =>
    obtain ⟨rfl, -⟩ := Prod.mk.inj (Option.some.inj h)
    decide

theorem emod_of_hoursMinutes {divide : List Char → Option (List Char)} {sign offset : Int}
    {cs rest : List Char}
    (h : ((takeNumber? 2 2 cs).bind fun hours => (divide hours.2).bind fun cs =>
      (takeNumber? 2 2 cs).bind fun minutes =>
        Option.bind (guard (minutes.1 < 60 ∧ hours.1 < 24)) fun _ =>
          some (sign * (hours.1 * 3600 + minutes.1 * 60 : Nat), minutes.2)) = some (offset, rest)) :
    offset % 60 = 0 := by
  simp only [Option.bind_eq_some_iff] at h
  obtain ⟨⟨hours, _⟩, -, _, -, ⟨minutes, _⟩, -, -, -, heq⟩ := h
  obtain ⟨rfl, -⟩ := Prod.mk.inj (Option.some.inj heq)
  have hminutes : ((hours * 3600 + minutes * 60 : Nat) : Int) % 60 = 0 := by omega
  rw [Int.mul_emod, hminutes, Int.mul_zero]
  rfl

theorem takeOffset?_emod {divide : List Char → Option (List Char)} {offset : Int}
    {cs rest : List Char} (h : takeOffset? divide cs = some (offset, rest)) : offset % 60 = 0 := by
  unfold takeOffset? at h
  split at h
  case h_1 => cases h; rfl
  case h_2 => cases h; rfl
  case h_3 =>
    split at h
    · exact emod_of_hoursMinutes h
    · split at h
      · exact emod_of_hoursMinutes h
      · cases h
  case h_4 => cases h

theorem takeZone?_emod {offset : Int} {cs rest : List Char}
    (h : takeZone? cs = some (offset, rest)) : offset % 60 = 0 := by
  unfold takeZone? at h
  split at h
  · obtain ⟨rfl, -⟩ := Prod.mk.inj (Option.some.inj h)
    rfl
  · exact takeOffset?_emod h

theorem isProper_of_ofParts? {date : Date} {hour minute second nanos : Nat} {offset : Int}
    {t : Instant} (hnanos : nanos < 1000000000) (hoffset : offset % 60 = 0)
    (h : ofParts? date hour minute second nanos offset = some t) : t.IsProper := by
  simp only [ofParts?, Option.bind_eq_bind, Option.bind_eq_some_iff] at h
  obtain ⟨-, -, heq⟩ := h
  obtain rfl := Option.some.inj heq
  intro hleap
  have hsecond : second = 60 := by
    simp only [isLeap, decide_eq_true_eq] at hleap
    split at hleap <;> omega
  simp only [hsecond]
  omega

theorem isReadable_of_ofText? {text : String} {t : Instant} (h : ofText? text = some t) :
    t.IsReadable := by
  rw [ofText?] at h
  unfold readLoose? at h
  -- the date and the time of day may be anything
  iterate 12 obtain ⟨_, -, h⟩ := Option.bind_eq_some_iff.mp h
  obtain ⟨⟨nanos, _⟩, hfraction, h⟩ := Option.bind_eq_some_iff.mp h
  obtain ⟨⟨offset, _⟩, hzone, h⟩ := Option.bind_eq_some_iff.mp h
  obtain ⟨_, -, h⟩ := Option.bind_eq_some_iff.mp h
  obtain ⟨read, hparts, h⟩ := Option.bind_eq_some_iff.mp h
  obtain ⟨_, hyear, heq⟩ := Option.bind_eq_some_iff.mp h
  obtain rfl := Option.some.inj heq
  refine ⟨?_, isProper_of_ofParts? (takeFraction?_lt hfraction) (takeZone?_emod hzone) hparts⟩
  simpa [guard] using hyear

end RunMonitor.Instant
