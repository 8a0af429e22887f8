import HeadAudit.Calendar
import HeadAudit.Proofs.Text.Numeral

namespace HeadAudit

open List

namespace Date

def toDays (d : Date) : Int :=
  let month := (d.month + 9) % 12
  let year := if d.month ≤ 2 then d.year - 1 else d.year
  let yearOfEra := (year % 400).toNat
  let dayOfYear := (153 * month + 2) / 5 + (d.day - 1)
  let dayOfEra := 365 * yearOfEra + yearOfEra / 4 - yearOfEra / 100 + dayOfYear
  year / 400 * 146097 + dayOfEra - 719468

/-- A year of an era begins behind the years in front of it and their leap days. The centuries are
taken apart, as the rounding differs in the last of them. -/
theorem yearOfEra_spec {doe c z y : Nat} (h : doe < 146097) (hc : c = doe / 36524)
    (hz : z = doe - doe / 1460 + c - doe / 146096) (hy : y = z / 365) :
    y < 400 ∧ 365 * y + y / 4 - y / 100 ≤ doe ∧ doe ≤ 365 * y + y / 4 - y / 100 + 365 := by
  have hfour : y / 4 = z / 1460 := by rw [hy, Nat.div_div_eq_div_mul]
  have hcentury : y / 100 = z / 36500 := by rw [hy, Nat.div_div_eq_div_mul]
  have hlt : c < 5 := by omega
  interval_cases c <;> omega

/-- The date of the day `day` of year `y` of an era, both counted from 0 and from the first of
March. -/
def ofEra (era : Int) (y day : Nat) : Date :=
  let m := (5 * day + 2) / 153
  { year := y + era * 400 + if m < 10 then 0 else 1
    month := if m < 10 then m + 3 else m - 9
    day := day - (153 * m + 2) / 5 + 1 }

theorem exists_ofDays (days : Int) : ∃ (era : Int) (y day : Nat), y < 400 ∧ day < 366 ∧
    days + 719468 = era * 146097 + (365 * y + y / 4 - y / 100 + day : Nat) ∧
      ofDays days = ofEra era y day := by
  let era : Int := (days + 719468).fdiv 146097
  let doe : Nat := (days + 719468 - era * 146097).toNat
  let y : Nat := (doe - doe / 1460 + doe / 36524 - doe / 146096) / 365
  have hera : era = (days + 719468) / 146097 := Int.fdiv_eq_ediv_of_nonneg _ (by decide)
  have hdoe : days + 719468 = era * 146097 + doe := by omega
  have hspec : y < 400 ∧ 365 * y + y / 4 - y / 100 ≤ doe ∧
      doe ≤ 365 * y + y / 4 - y / 100 + 365 := yearOfEra_spec (by omega) rfl rfl rfl
  obtain ⟨hy, hle, hge⟩ := hspec
  have hday : doe - (365 * y + y / 4 - y / 100) < 366 := by omega
  refine ⟨era, y, doe - (365 * y + y / 4 - y / 100), hy, hday, by omega, ?_⟩
  have hmonth (m : Nat) (hm : m < 12) :
      (if (if m < 10 then m + 3 else m - 9) ≤ 2 then (1 : Int) else 0) =
        if m < 10 then 0 else 1 := by
    split <;> split <;> omega
  rw [ofEra, ← hmonth _ (by omega)]
  rfl

theorem toDays_ofEra {era : Int} {y day : Nat} (hy : y < 400) (hd : day < 366) :
    (ofEra era y day).toDays =
      era * 146097 + (365 * y + y / 4 - y / 100 + day : Nat) - 719468 := by
  obtain ⟨m, hm⟩ : ∃ m, m = (5 * day + 2) / 153 := ⟨_, rfl⟩
  have hlt : m < 12 := by omega
  simp only [toDays, ofEra, ← hm]
  by_cases hmarch : m < 10
  · have hlate : ¬m + 3 ≤ 2 := by omega
    have hmod : (m + 3 + 9) % 12 = m := by omega
    have hyear : ((y : Int) + era * 400 + 0) % 400 = y := by omega
    have hera : ((y : Int) + era * 400 + 0) / 400 = era := by omega
    rw [if_pos hmarch, if_pos hmarch, if_neg hlate, hmod, hyear, hera, Int.toNat_natCast]
    omega
  · have hearly : m - 9 ≤ 2 := by omega
    have hmod : (m - 9 + 9) % 12 = m := by omega
    have hyear : ((y : Int) + era * 400 + 1 - 1) % 400 = y := by omega
    have hera : ((y : Int) + era * 400 + 1 - 1) / 400 = era := by omega
    rw [if_neg hmarch, if_neg hmarch, if_pos hearly, hmod, hyear, hera, Int.toNat_natCast]
    omega

theorem toDays_ofDays (days : Int) : (ofDays days).toDays = days := by
  obtain ⟨era, y, day, hy, hd, hdays, hof⟩ := exists_ofDays days
  rw [hof, toDays_ofEra hy hd]
  omega

theorem ofDays_injective : Function.Injective ofDays :=
  Function.LeftInverse.injective toDays_ofDays

theorem ofDays_lt (days : Int) : (ofDays days).month < 100 ∧ (ofDays days).day < 100 := by
  obtain ⟨era, y, day, -, hd, -, hof⟩ := exists_ofDays days
  rw [hof, ofEra]
  dsimp only
  split <;> omega

end Date

namespace Instant

open Numeral

def sign (y : Int) : Char := if y < 0 then '-' else '+'

theorem isDigit_sign (y : Int) : (sign y).isDigit = false := by
  rw [sign]
  split <;> rfl

theorem sign_inj {y z : Int} (h : sign y = sign z) : y < 0 ↔ z < 0 := by
  by_cases hy : y < 0 <;> by_cases hz : z < 0 <;> simp [sign, hy, hz] at h ⊢

theorem year_of_short {y : Int} (h : 0 ≤ y ∧ y ≤ 9999) : year y = padded 4 y.natAbs := if_pos h

theorem toList_year_of_not_short {y : Int} (h : ¬(0 ≤ y ∧ y ≤ 9999)) :
    (year y).toList = sign y :: (padded 4 y.natAbs).toList := by
  rw [year, if_neg h, sign, String.toList_append]
  split <;> rfl

theorem year_ne {y z : Int} (hy : 0 ≤ y ∧ y ≤ 9999) (hz : ¬(0 ≤ z ∧ z ≤ 9999)) :
    year y ≠ year z := by
  intro h
  have hlist := congrArg String.toList h
  rw [year_of_short hy, toList_year_of_not_short hz] at hlist
  have hdigit := isDigit_of_mem_padded (hlist ▸ mem_cons_self)
  rw [isDigit_sign] at hdigit
  cases hdigit

theorem year_injective : Function.Injective year := by
  intro y z h
  by_cases hy : 0 ≤ y ∧ y ≤ 9999 <;> by_cases hz : 0 ≤ z ∧ z ≤ 9999
  · rw [year_of_short hy, year_of_short hz] at h
    have habs := padded_injective 4 h
    omega
  · exact absurd h (year_ne hy hz)
  · exact absurd h.symm (year_ne hz hy)
  · have hlist := congrArg String.toList h
    rw [toList_year_of_not_short hy, toList_year_of_not_short hz] at hlist
    obtain ⟨hsign, hdigits⟩ := cons.inj hlist
    have habs := padded_injective 4 (String.toList_injective hdigits)
    have hneg := sign_inj hsign
    omega

def behindYear (month day time : Nat) : List Char :=
  '-' :: ((padded 2 month).toList ++ '-' :: ((padded 2 day).toList ++ 'T' ::
    ((padded 2 (time / 3600)).toList ++ ':' :: ((padded 2 (time / 60 % 60)).toList ++ ':' ::
      ((padded 2 (time % 60)).toList ++ ['Z'])))))

theorem toList_text (seconds : Int) : (text seconds).toList =
    (year (Date.ofDays (seconds.fdiv 86400)).year).toList ++
      behindYear (Date.ofDays (seconds.fdiv 86400)).month (Date.ofDays (seconds.fdiv 86400)).day
        (seconds.fmod 86400).toNat := by
  simp [text, behindYear]

variable {month day time month' day' time' : Nat}

theorem length_behindYear (hm : month < 100) (hd : day < 100) (ht : time < 86400) :
    (behindYear month day time).length = 16 := by
  simp only [behindYear, length_cons, length_append, length_padded_two _ hm,
    length_padded_two _ hd, length_padded_two (time / 3600) (by omega),
    length_padded_two (time / 60 % 60) (by omega), length_padded_two (time % 60) (by omega),
    length_nil]

theorem behindYear_inj (hm : month < 100) (hd : day < 100) (ht : time < 86400)
    (hm' : month' < 100) (hd' : day' < 100) (ht' : time' < 86400)
    (h : behindYear month day time = behindYear month' day' time') :
    month = month' ∧ day = day' ∧ time = time' := by
  obtain ⟨hmonth, h⟩ := padded_two_append_inj hm hm' (cons.inj h).2
  obtain ⟨hday, h⟩ := padded_two_append_inj hd hd' (cons.inj h).2
  obtain ⟨hhour, h⟩ := padded_two_append_inj (by omega) (by omega) (cons.inj h).2
  obtain ⟨hminute, h⟩ := padded_two_append_inj (by omega) (by omega) (cons.inj h).2
  obtain ⟨hsecond, -⟩ := padded_two_append_inj (by omega) (by omega) (cons.inj h).2
  exact ⟨hmonth, hday, by omega⟩

theorem time_lt (seconds : Int) : (seconds.fmod 86400).toNat < 86400 := by
  rw [Int.fmod_eq_emod_of_nonneg _ (by decide)]
  omega

/-- The text of an instant tells the instant, in years of any length. -/
theorem text_injective : Function.Injective text := by
  intro i j h
  obtain ⟨him, hid⟩ := Date.ofDays_lt (i.fdiv 86400)
  obtain ⟨hjm, hjd⟩ := Date.ofDays_lt (j.fdiv 86400)
  have hlist := congrArg String.toList h
  rw [toList_text, toList_text] at hlist
  have hlen := (length_behindYear him hid (time_lt i)).trans
    (length_behindYear hjm hjd (time_lt j)).symm
  obtain ⟨hyear, hbehind⟩ := append_inj' hlist hlen
  obtain ⟨hmonth, hday, htime⟩ := behindYear_inj him hid (time_lt i) hjm hjd (time_lt j) hbehind
  have hdate : Date.ofDays (i.fdiv 86400) = Date.ofDays (j.fdiv 86400) :=
    Date.ext (year_injective (String.toList_injective hyear)) hmonth hday
  have hdays := Date.ofDays_injective hdate
  rw [Int.fmod_eq_emod_of_nonneg _ (by decide), Int.fmod_eq_emod_of_nonneg _ (by decide)] at htime
  rw [Int.fdiv_eq_ediv_of_nonneg _ (by decide), Int.fdiv_eq_ediv_of_nonneg _ (by decide)] at hdays
  omega

end Instant

end HeadAudit
