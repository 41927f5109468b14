import Mathlib.Data.Nat.Find
import Mathlib.Data.Nat.Digits.Lemmas
import Mathlib.Data.String.Basic
import Mathlib.Tactic.IntervalCases
import AecBench.Lib.Text

/-!
# Stored timestamps

The operational store writes its times as texts, and its queries compare the texts. A time in UTC
is the number of microseconds since the start of year 1, and its text is the one of `isoformat`.

## Main definitions

* `AecBench.Execution.Datetime`, `isoformat`, `fromisoformat` — datetimes and their texts.
* `AecBench.Execution.timestamp`, `parseTimestamp` — what is stored, and how it is read.

## Main results

* `AecBench.Execution.timestamp_order` — stored texts compare as the times do.
-/

namespace AecBench.Execution

open Text

/-! ## Datetimes -/

/-- Days from the start of year 1 to the start of a year. -/
def daysBeforeYear (year : ℕ) : ℕ :=
  (year - 1) * 365 + (year - 1) / 4 - (year - 1) / 100 + (year - 1) / 400

/-- Days from the start of a year to the start of a month. -/
def daysBeforeMonth (year month : ℕ) : ℕ :=
  [0, 0, 31, 59, 90, 120, 151, 181, 212, 243, 273, 304, 334, 365].getD month 0 +
    if 2 < month ∧ year % 4 = 0 ∧ (year % 100 ≠ 0 ∨ year % 400 = 0) then 1 else 0

/-- The last of the periods up to `k` that starts at `n` or before. -/
def period (start : ℕ → ℕ) (k n : ℕ) : ℕ := Nat.findGreatest (start · ≤ n) k

def yearOf (days : ℕ) : ℕ := period daysBeforeYear 9999 days

/-- Days since the start of the year. -/
def dayOfYear (days : ℕ) : ℕ := days - daysBeforeYear (yearOf days)

def monthOf (days : ℕ) : ℕ := period (daysBeforeMonth (yearOf days)) 12 (dayOfYear days)

def dayOf (days : ℕ) : ℕ := dayOfYear days - daysBeforeMonth (yearOf days) (monthOf days) + 1

/-- Microseconds from the start of year 1 to the end of year 9999. -/
def clockEnd : ℕ := daysBeforeYear 10000 * 86400 * 1000000

/-- `datetime`: the microseconds on its clock, and its `utcoffset()`. -/
structure Datetime where
  clock : ℕ
  clock_lt : clock < clockEnd
  utcoffset : Option ℤ

/-- The time in UTC that a datetime with a time zone stands for. -/
def Datetime.instant (value : Datetime) : Option ℤ := value.utcoffset.map (value.clock - ·)

inductive DatetimeError
  | valueError (message : String)
  | overflowError

/-- `astimezone(UTC)` of the datetime with a clock and an offset. -/
def astimezone (clock : ℕ) (utcoffset : ℤ) : Except DatetimeError Datetime :=
  if h : 0 ≤ clock - utcoffset ∧ clock - utcoffset < clockEnd then
    .ok ⟨(clock - utcoffset).toNat, (Int.toNat_lt h.1).mpr h.2, some 0⟩
  else .error .overflowError

def fractionText (microsecond : ℕ) : String :=
  if microsecond = 0 then "+" ++ "00:00" else "." ++ (padded 6 microsecond ++ "+00:00")

/-- Date and time up to a second, and the rest of the text. -/
def secondText (second : ℕ) (rest : String) : String :=
  padded 4 (yearOf (second / 86400)) ++ ("-" ++ (padded 2 (monthOf (second / 86400)) ++ ("-" ++
    (padded 2 (dayOf (second / 86400)) ++ ("T" ++ (padded 2 (second % 86400 / 3600) ++ (":" ++
      (padded 2 (second % 3600 / 60) ++ (":" ++ (padded 2 (second % 60) ++ rest))))))))))

/-- `isoformat` of a time in UTC. -/
def isoformat (clock : ℕ) : String :=
  secondText (clock / 1000000) (fractionText (clock % 1000000))

/-- The numbers of the given widths, each with a mark behind it, and the rest of the text. -/
def readFields : List ℕ → List Char → List ℕ × List Char
  | [], text => ([], text)
  | width :: widths, text =>
    ((readFields widths (text.drop (width + 1))).1.cons (Nat.ofDigitChars 10 (text.take width) 0),
      (readFields widths (text.drop (width + 1))).2)

/-- `datetime.fromisoformat` on the texts of times in UTC; it refuses the others. -/
def fromisoformat (text : String) : Except DatetimeError ℕ :=
  match readFields [4, 2, 2, 2, 2, 2] text.toList with
  | ([year, month, day, hour, minute, second], rest) =>
    let days := daysBeforeYear year + daysBeforeMonth year month + day - 1
    let microsecond := if rest.length = 12 then Nat.ofDigitChars 10 (rest.take 6) 0 else 0
    let clock := (((days * 24 + hour) * 60 + minute) * 60 + second) * 1000000 + microsecond
    if isoformat clock = text ∧ clock < clockEnd then .ok clock
    else .error (.valueError "Invalid isoformat string")
  | _ => .error (.valueError "Invalid isoformat string")

/-- `_aware`. -/
def aware (value : Datetime) (label : String) : Except DatetimeError Datetime :=
  match value.utcoffset with
  | none => .error (.valueError (label ++ " must include a timezone"))
  | some utcoffset => astimezone value.clock utcoffset

/-- `_timestamp`. -/
def timestamp (value : Datetime) : Except DatetimeError String :=
  (aware value "timestamp").map fun utc => isoformat utc.clock

/-- `_parse_timestamp`. -/
def parseTimestamp (value : String) : Except DatetimeError Datetime :=
  (fromisoformat value).bind (astimezone · 0)

/-! ## Texts in order -/

lemma append_lt {x x' y y' : String} (hlen : x.length = x'.length)
    (h : x < x' ∨ x = x' ∧ y < y') : x ++ y < x' ++ y' := by
  simp only [String.lt_iff_toList_lt, String.toList_append, ← String.toList_inj] at h ⊢
  rw [← String.length_toList, ← String.length_toList] at hlen
  generalize x.toList = xs at *
  generalize x'.toList = xs' at *
  induction xs generalizing xs' with
  | nil =>
    obtain rfl := List.length_eq_zero_iff.mp hlen.symm
    simpa using h
  | cons c cs ih =>
    cases xs' with
    | nil => cases hlen
    | cons c' cs' =>
      have hcs := ih cs' (Nat.succ.inj hlen)
      simp only [List.cons_append, List.cons_lt_cons_iff, List.cons.injEq] at h ⊢
      grind

lemma mark_lt {mark y y' : String} (h : y < y') : mark ++ y < mark ++ y' :=
  append_lt rfl (.inr ⟨rfl, h⟩)

lemma length_padded {width n : ℕ} (hw : 0 < width) (hn : n < 10 ^ width) :
    (padded width n).length = width := by
  have h := (Nat.length_toDigits_le_iff (by decide) hw).mpr hn
  simp [padded]
  omega

lemma padded_succ {width n : ℕ} (hw : 0 < width) :
    padded (width + 1) n = padded width (n / 10) ++ String.ofList [(n % 10).digitChar] := by
  rw [← String.toList_inj]
  simp only [padded, String.toList_append, String.toList_ofList]
  by_cases h : n < 10
  · obtain ⟨k, rfl⟩ := Nat.exists_eq_succ_of_ne_zero hw.ne'
    simp [Nat.toDigits_of_lt_base h, Nat.div_eq_of_lt h, Nat.mod_eq_of_lt h, List.replicate_succ']
  · rw [Nat.toDigits_of_base_le (by decide) (by omega)]
    simp

lemma padded_lt {width m n : ℕ} (hw : 0 < width) (hn : n < 10 ^ width) (h : m < n) :
    padded width m < padded width n := by
  induction width, hw using Nat.le_induction generalizing m n with
  | base =>
    have hdigits : ∀ n < 10, ∀ m < n, padded 1 m < padded 1 n := by decide
    exact hdigits n hn m h
  | succ width hw ih =>
    rw [padded_succ hw, padded_succ hw]
    have hn' : n / 10 < 10 ^ width := Nat.div_lt_of_lt_mul (by rwa [← pow_succ'])
    refine append_lt ?_ ?_
    · rw [length_padded hw hn', length_padded hw (by omega)]
    · have hdigit : ∀ n < 10, ∀ m < n,
          String.ofList [Nat.digitChar m] < String.ofList [Nat.digitChar n] := by decide
      obtain hlt | ⟨heq, hlt⟩ : m / 10 < n / 10 ∨ m / 10 = n / 10 ∧ m % 10 < n % 10 := by omega
      · exact .inl (ih hn' hlt)
      · exact .inr ⟨by rw [heq], hdigit _ (Nat.mod_lt n (by decide)) _ hlt⟩

lemma field_lt {width m n : ℕ} {y y' : String} (hw : 0 < width) (hm : m < 10 ^ width)
    (hn : n < 10 ^ width) (h : m < n ∨ m = n ∧ y < y') :
    padded width m ++ y < padded width n ++ y' :=
  append_lt (by rw [length_padded hw hm, length_padded hw hn])
    (h.imp (padded_lt hw hn) fun ⟨heq, hlt⟩ => ⟨by rw [heq], hlt⟩)

/-! ## Dates -/

section Period

variable {start : ℕ → ℕ} {k m n : ℕ}

lemma period_le (h₀ : start 0 = 0) : start (period start k n) ≤ n :=
  Nat.findGreatest_spec (P := (start · ≤ n)) (Nat.zero_le k) (h₀.trans_le (Nat.zero_le n))

lemma lt_next (h : n < start (k + 1)) : n < start (period start k n + 1) := by
  obtain hlt | heq : period start k n < k ∨ period start k n = k :=
    (Nat.findGreatest_le k).lt_or_eq
  · exact not_le.mp (Nat.findGreatest_is_greatest (P := (start · ≤ n)) (Nat.lt_succ_self _) hlt)
  · rwa [heq]

lemma period_lt {P : Prop} (h₀ : start 0 = 0) (h : m < n ∨ m = n ∧ P) :
    period start k m < period start k n ∨ period start k m = period start k n ∧
      (m - start (period start k m) < n - start (period start k n) ∨
        m - start (period start k m) = n - start (period start k n) ∧ P) := by
  obtain h | ⟨rfl, h⟩ := h
  · have hle : period start k m ≤ period start k n :=
      Nat.findGreatest_mono_left (fun i hi => hi.trans h.le) k
    refine hle.lt_or_eq.imp_right fun heq => ⟨heq, .inl ?_⟩
    have hm : start (period start k m) ≤ m := period_le h₀
    rw [← heq]
    omega
  · exact .inr ⟨rfl, .inr ⟨rfl, h⟩⟩

end Period

lemma date_bounds {days : ℕ} (h : days < daysBeforeYear 10000) :
    yearOf days < 10 ^ 4 ∧ monthOf days < 10 ^ 2 ∧ dayOf days < 10 ^ 2 := by
  have hyear : yearOf days ≤ 9999 := Nat.findGreatest_le _
  have hmonth : monthOf days ≤ 12 := Nat.findGreatest_le _
  refine ⟨by omega, by omega, ?_⟩
  have hnext : days < daysBeforeYear (yearOf days + 1) := lt_next h
  have hlength : dayOfYear days < daysBeforeMonth (yearOf days) 13 := by
    simp only [dayOfYear, daysBeforeMonth, daysBeforeYear, List.getD_cons_succ] at hnext ⊢
    split_ifs <;> simp <;> omega
  have hlast : dayOfYear days < daysBeforeMonth (yearOf days) (monthOf days + 1) := lt_next hlength
  rw [dayOf]
  generalize monthOf days = month at *
  interval_cases month <;> simp only [daysBeforeMonth] at hlast ⊢ <;> split_ifs at * <;>
    simp at hlast ⊢ <;> omega

lemma date_days (days : ℕ) : daysBeforeYear (yearOf days) +
    daysBeforeMonth (yearOf days) (monthOf days) + dayOf days - 1 = days := by
  have hyear : daysBeforeYear (yearOf days) ≤ days := period_le rfl
  have hmonth : daysBeforeMonth (yearOf days) (monthOf days) ≤ dayOfYear days := period_le rfl
  rw [dayOf]
  rw [dayOfYear] at *
  omega

lemma fractionText_lt {m n : ℕ} (hn : n < 1000000) (h : m < n) :
    fractionText m < fractionText n := by
  rw [fractionText, fractionText, if_neg (Nat.ne_zero_of_lt h)]
  split_ifs with hm
  · -- the sign of the offset comes before the point
    exact append_lt rfl (.inl (by decide))
  · exact mark_lt (field_lt (by decide) (h.trans hn) hn (.inl h))

lemma secondText_lt {m n : ℕ} {y y' : String} (hm : m / 86400 < daysBeforeYear 10000)
    (hn : n / 86400 < daysBeforeYear 10000) (h : m < n ∨ m = n ∧ y < y') :
    secondText m y < secondText n y' := by
  obtain ⟨hy, hmo, hd⟩ := date_bounds hm
  obtain ⟨hy', hmo', hd'⟩ := date_bounds hn
  have hdate : m / 86400 < n / 86400 ∨ m / 86400 = n / 86400 ∧
      (m % 86400 < n % 86400 ∨ m % 86400 = n % 86400 ∧ y < y') := by grind
  refine field_lt (by decide) hy hy' ?_
  refine (period_lt rfl hdate).imp_right fun ⟨hyear, h⟩ => ⟨hyear, mark_lt ?_⟩
  refine field_lt (by decide) hmo hmo' ?_
  simp only [dayOf, monthOf, show yearOf (m / 86400) = yearOf (n / 86400) from hyear] at hd hd' ⊢
  refine (period_lt rfl h).imp_right fun ⟨hmonth, h⟩ => ⟨hmonth, mark_lt ?_⟩
  refine field_lt (by decide) hd hd' ?_
  refine h.imp Nat.succ_lt_succ fun ⟨hday, h⟩ => ⟨congrArg Nat.succ hday, mark_lt ?_⟩
  refine field_lt (by decide) (by omega) (by omega) ?_
  have hhour : m % 86400 / 3600 < n % 86400 / 3600 ∨ m % 86400 / 3600 = n % 86400 / 3600 ∧
      (m % 3600 < n % 3600 ∨ m % 3600 = n % 3600 ∧ y < y') := by grind
  refine hhour.imp_right fun ⟨hhour, h⟩ => ⟨hhour, mark_lt ?_⟩
  refine field_lt (by decide) (by omega) (by omega) ?_
  have hminute : m % 3600 / 60 < n % 3600 / 60 ∨ m % 3600 / 60 = n % 3600 / 60 ∧
      (m % 60 < n % 60 ∨ m % 60 = n % 60 ∧ y < y') := by grind
  refine hminute.imp_right fun ⟨hminute, h⟩ => ⟨hminute, mark_lt ?_⟩
  exact field_lt (by decide) (by omega) (by omega) h

lemma isoformat_lt {s t : ℕ} (ht : t < clockEnd) (h : s < t) : isoformat s < isoformat t := by
  unfold clockEnd at ht
  refine secondText_lt (by omega) (by omega) ?_
  obtain hsecond | ⟨hsecond, hrest⟩ : s / 1000000 < t / 1000000 ∨
      s / 1000000 = t / 1000000 ∧ s % 1000000 < t % 1000000 := by omega
  · exact .inl hsecond
  · exact .inr ⟨hsecond, fractionText_lt (Nat.mod_lt t (by decide)) hrest⟩

/-! ## Reading the texts -/

lemma ofDigitChars_padded (width n : ℕ) :
    Nat.ofDigitChars 10 (padded width n).toList 0 = n := by
  rw [padded, String.toList_ofList, ofDigitChars_replicate_zero, Nat.ofDigitChars_ten_toDigits]

lemma readFields_padded {width n : ℕ} {widths : List ℕ} {mark rest : String} (hw : 0 < width)
    (hn : n < 10 ^ width) (hmark : mark.length = 1) :
    readFields (width :: widths) (padded width n ++ (mark ++ rest)).toList =
      (n :: (readFields widths rest.toList).1, (readFields widths rest.toList).2) := by
  have hlen : (padded width n).toList.length = width := length_padded hw hn
  have hdrop : ((padded width n).toList ++ (mark.toList ++ rest.toList)).drop (width + 1) =
      rest.toList := by
    rw [← List.append_assoc, List.drop_left' (by rw [List.length_append, hlen]; exact congrArg _ hmark)]
  rw [readFields, String.toList_append, String.toList_append, List.take_left' hlen,
    ofDigitChars_padded, hdrop]

lemma fractionText_read {n : ℕ} (h : n < 1000000) : ∃ mark rest, mark.length = 1 ∧
    fractionText n = mark ++ rest ∧
      (if rest.toList.length = 12 then Nat.ofDigitChars 10 (rest.toList.take 6) 0 else 0) = n := by
  unfold fractionText
  split_ifs with hn
  · exact ⟨"+", "00:00", rfl, rfl, hn.symm⟩
  · have hlen : (padded 6 n).toList.length = 6 := length_padded (by decide) h
    refine ⟨".", _, rfl, rfl, ?_⟩
    rw [String.toList_append, List.take_left' hlen, ofDigitChars_padded, List.length_append, hlen]
    rfl

lemma fromisoformat_isoformat {t : ℕ} (ht : t < clockEnd) :
    fromisoformat (isoformat t) = .ok t := by
  obtain ⟨hy, hm, hd⟩ : yearOf (t / 1000000 / 86400) < 10 ^ 4 ∧
      monthOf (t / 1000000 / 86400) < 10 ^ 2 ∧ dayOf (t / 1000000 / 86400) < 10 ^ 2 :=
    date_bounds (by unfold clockEnd at ht; omega)
  obtain ⟨mark, rest, hmark, hfraction, hmicro⟩ :=
    fractionText_read (Nat.mod_lt t (by decide : 0 < 1000000))
  have hdate := date_days (t / 1000000 / 86400)
  have hclock : (((t / 1000000 / 86400 * 24 + t / 1000000 % 86400 / 3600) * 60 +
      t / 1000000 % 3600 / 60) * 60 + t / 1000000 % 60) * 1000000 + t % 1000000 = t := by omega
  rw [fromisoformat]
  conv in readFields _ _ =>
    rw [isoformat, secondText, hfraction, readFields_padded (by decide) hy rfl,
      readFields_padded (by decide) hm rfl, readFields_padded (by decide) hd rfl,
      readFields_padded (by decide) (by omega) rfl, readFields_padded (by decide) (by omega) rfl,
      readFields_padded (by decide) (by omega) hmark]
  simp only [readFields, hmicro, hdate, hclock, ht, and_self, if_true]

/-! ## Stored times -/

lemma timestamp_eq {a : Datetime} {s : ℤ} (hs : a.instant = some s) : timestamp a =
    if 0 ≤ s ∧ s < clockEnd then .ok (isoformat s.toNat) else .error .overflowError := by
  obtain ⟨clock, hclock, _ | offset⟩ := a
  · cases hs
  · obtain rfl : clock - offset = s := Option.some.inj hs
    simp only [timestamp, aware, astimezone]
    split_ifs <;> rfl

lemma parseTimestamp_isoformat {s : ℕ} (hs : s < clockEnd) :
    (parseTimestamp (isoformat s)).map Datetime.instant = .ok (some (s : ℤ)) := by
  have hzone : astimezone s 0 = .ok ⟨s, hs, some 0⟩ := by
    simp [astimezone, hs]
  have hread : parseTimestamp (isoformat s) = .ok ⟨s, hs, some 0⟩ := by
    rw [parseTimestamp, fromisoformat_isoformat hs, ← hzone, Except.bind]
  rw [hread]
  change Except.ok (some ((s : ℤ) - 0)) = _
  rw [Int.sub_zero]

/-- **Stored timestamps sort like time**: the texts of two datetimes with a time zone compare as the
times do, and are read as these, when both times have a year from 1 to 9999 in UTC. -/
theorem timestamp_order (a b : Datetime) {s t : ℤ} (hs : a.instant = some s)
    (ht : b.instant = some t) :
    (∃ x y, timestamp a = .ok x ∧ timestamp b = .ok y ∧
      ((x < y ↔ s < t) ∧ (x = y ↔ s = t) ∧ (y < x ↔ t < s)) ∧
        (parseTimestamp x).map Datetime.instant = .ok (some s)) ↔
      (0 ≤ s ∧ s < clockEnd) ∧ 0 ≤ t ∧ t < clockEnd := by
  rw [timestamp_eq hs, timestamp_eq ht]
  constructor
  · rintro ⟨x, y, hx, hy, -⟩
    constructor <;> by_contra hout
    · rw [if_neg hout] at hx
      cases hx
    · rw [if_neg hout] at hy
      cases hy
  · rintro ⟨⟨hs₀, hs₁⟩, ht₀, ht₁⟩
    rw [if_pos ⟨hs₀, hs₁⟩, if_pos ⟨ht₀, ht₁⟩]
    lift s to ℕ using hs₀
    lift t to ℕ using ht₀
    have hs₁ : s < clockEnd := by omega
    have ht₁ : t < clockEnd := by omega
    refine ⟨_, _, rfl, rfl, ?_, parseTimestamp_isoformat hs₁⟩
    simp only [Int.toNat_natCast, Nat.cast_lt, Nat.cast_inj]
    obtain hlt | rfl | hlt := Nat.lt_trichotomy s t
    · have htexts := isoformat_lt ht₁ hlt
      simp [htexts, htexts.ne, htexts.not_gt, hlt, hlt.ne, hlt.not_gt]
    · simp
    · have htexts := isoformat_lt hs₁ hlt
      simp [htexts, htexts.ne', htexts.not_gt, hlt, hlt.ne', hlt.not_gt]

/-- A whole second and the microsecond after it. -/
theorem timestamp_order_second :
    ∃ x y, timestamp ⟨0, by decide, some 0⟩ = .ok x ∧ timestamp ⟨1, by decide, some 0⟩ = .ok y ∧
      (((x < y ↔ (0 : ℤ) < 1) ∧ (x = y ↔ (0 : ℤ) = 1) ∧ (y < x ↔ (1 : ℤ) < 0)) ∧
        (parseTimestamp x).map Datetime.instant = .ok (some 0)) :=
  (timestamp_order ⟨0, _, some 0⟩ ⟨1, _, some 0⟩ rfl rfl).mpr (by decide)

/-- `datetime.min` one hour east has no time in UTC. -/
theorem not_stored_datetimeMin :
    ¬ ∃ x, timestamp ⟨0, by decide, some 3600000000⟩ = .ok x := by
  rintro ⟨x, hx⟩
  cases hx

end AecBench.Execution
