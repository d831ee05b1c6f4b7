import OnAir.LegacyImport
import Mathlib.Data.Finset.Lattice.Fold
import Mathlib.Data.Fintype.Fin
import Mathlib.Order.Bounds.Basic

/-!
The schedule of a legacy database: its entries are weekly, and `_schedule_window` puts one
occurrence of each into the table of one-shot windows, from the days and the two clocks that the
row names.

Times are in microseconds since 1970, and dates in days since then, all in UTC; a time that the
source writes as a text is the number that the text stands for.
-/

namespace OnAir.ScheduleWindow

open OnAir.Database LegacyImport PythonText

/-! ### Days and clocks -/

/-- Microseconds. -/
def dayLength : ℤ := 86400000000

/-- `date.weekday()`: Monday is 0, and 1970 began on a Thursday. -/
def weekday (date : ℤ) : Fin 7 := ⟨((date + 3) % 7).toNat, by omega⟩

abbrev Days := { days : Finset (Fin 7) // days.Nonempty }

def everyDay : Days := ⟨Finset.univ, Finset.univ_nonempty⟩

def dayOf (token : List Char) : Option (Fin 7) :=
  let token := strip token
  if token = [] then none
  else (intOf (String.ofList token)).bind fun d =>
    if h : 0 ≤ d ∧ d ≤ 6 then some ⟨d.toNat, by omega⟩ else none

def legacyDays (raw : String) : Days :=
  let text := strip (if raw = "" then "*" else raw).toList
  if text = [] ∨ text = ['*'] then everyDay
  else
    let days := ((text.splitOn ',').filterMap dayOf).toFinset
    if h : days.Nonempty then ⟨days, h⟩ else everyDay

structure Clock where
  hour : Fin 24
  minute : Fin 60
  deriving DecidableEq, Repr

/-- `max(0, min(n, x))`. -/
def clamp (n : ℕ) (x : ℤ) : Fin (n + 1) := ⟨(max 0 (min (n : ℤ) x)).toNat, by omega⟩

/-- `none` where there is no colon, or no number on a side of the first one. -/
def clockOf (raw : String) : Option Clock := do
  let text := strip raw.toList
  let ':' :: mm := text.dropWhile (· ≠ ':') | none
  let hour ← intOf (String.ofList (text.takeWhile (· ≠ ':')))
  let minute ← intOf (String.ofList mm)
  return ⟨clamp 23 hour, clamp 59 minute⟩

def parseClock (raw : String) (defaultHour : Fin 24) : Clock :=
  (clockOf raw).getD ⟨defaultHour, 0⟩

def Clock.sinceMidnight (c : Clock) : ℤ := (c.hour * 60 + c.minute) * 60000000

/-! ### The window -/

@[ext]
structure Window where
  starts : ℤ
  ends : ℤ
  starts_lt : starts < ends

/-- What starts on a date, and ends on the next one where the end is not after the start. -/
def windowOn (startClock endClock : Clock) (date : ℤ) : Window :=
  let startAt := date * dayLength + startClock.sinceMidnight
  let endAt := date * dayLength + endClock.sinceMidnight
  if h : endAt ≤ startAt then ⟨startAt, endAt + dayLength, by
    have : endClock.sinceMidnight < dayLength := by
      simp only [Clock.sinceMidnight, dayLength]; omega
    have : 0 ≤ endClock.sinceMidnight := by simp only [Clock.sinceMidnight]; omega
    have : startClock.sinceMidnight < dayLength := by
      simp only [Clock.sinceMidnight, dayLength]; omega
    omega⟩
  else ⟨startAt, endAt, by omega⟩

/-- An hour from the start clock of the current date. -/
def fallbackWindow (now : ℤ) (startClock : Clock) : Window where
  starts := now / dayLength * dayLength + startClock.sinceMidnight
  ends := now / dayLength * dayLength + startClock.sinceMidnight + 3600000000
  starts_lt := by omega

/-- The first date of eight with an allowed weekday, where the current one has to have its end
still before it. -/
def nextWindow (now : ℤ) (days : Days) (startClock endClock : Clock) : Window :=
  let found := (List.range 8).findSome? fun dayOffset : ℕ =>
    let date := now / dayLength + dayOffset
    if weekday date ∉ days.1 then none
    else
      let window := windowOn startClock endClock date
      if 0 < dayOffset ∨ now ≤ window.ends then some window else none
  found.getD (fallbackWindow now startClock)

def startOf (startTimeText : String) : Clock := parseClock startTimeText 0

/-- An end that is no clock is an hour after the start. -/
def endOf (startTimeText endTimeText : String) : Clock :=
  parseClock endTimeText ((startOf startTimeText).hour + 1)

def scheduleWindow (now : ℤ) (dayOfWeek startTimeText endTimeText : String) : Window :=
  nextWindow now (legacyDays dayOfWeek) (startOf startTimeText) (endOf startTimeText endTimeText)

/-! ### The rows -/

structure ScheduleRow where
  id : ℤ
  stationId : ℤ
  playlistId : ℤ
  dayOfWeek : String
  startTime : String
  endTime : String
  isActive : String

def rowWindow (now : ℤ) (r : ScheduleRow) : Window :=
  scheduleWindow now (orDefault "*" r.dayOfWeek) (orDefault "00:00" r.startTime)
    (orDefault "01:00" r.endTime)

/-- `isoText` is what `isoformat` writes of a time, with a `Z` for UTC. -/
def importRow (isoText : ℤ → String) (now : ℤ) (r : ScheduleRow) (t : Table ScheduleItem) :
    Table ScheduleItem :=
  let window := rowWindow now r
  t.insert r.id
    { stationId := if r.stationId = 0 then 1 else r.stationId
      trackId := r.playlistId
      playAt := isoText window.starts
      windowEnd := some (isoText window.ends)
      eventName := ((t[r.id]?).map (·.eventName)).getD ""
      status := if parseBool r.isActive true then .pending else .failed }

def rowWarning (r : ScheduleRow) : String :=
  s!"schedule {r.id} imported as next upcoming one-shot window"

/-- The clock is read again for each row. -/
def importSchedule (isoText : ℤ → String) (rows : List (ℤ × ScheduleRow))
    (t : Table ScheduleItem) : Table ScheduleItem × List String :=
  (rows.foldl (fun t r => importRow isoText r.1 r.2 t) t, rows.map fun r => rowWarning r.2)

/-! ### Weekly occurrences -/

/-- What starts on one of the days at the start clock, and ends when the end clock comes next. -/
def IsOccurrence (days : Days) (startClock endClock : Clock) (w : Window) : Prop :=
  (∃ date, weekday date ∈ days.1 ∧ w.starts = date * dayLength + startClock.sinceMidnight) ∧
    IsLeast {t | w.starts < t ∧ t % dayLength = endClock.sinceMidnight} w.ends

/-- The earliest occurrence that has not ended. -/
structure IsNext (now : ℤ) (days : Days) (startClock endClock : Clock) (w : Window) : Prop where
  occurs : IsOccurrence days startClock endClock w
  lasts : now ≤ w.ends
  earliest : ∀ v, IsOccurrence days startClock endClock v → now ≤ v.ends → w.starts ≤ v.starts

/-- What began on the day before has not ended. -/
def IsCarried (now : ℤ) (days : Days) (startClock endClock : Clock) : Prop :=
  weekday (now / dayLength - 1) ∈ days.1 ∧ endClock.sinceMidnight ≤ startClock.sinceMidnight ∧
    now % dayLength ≤ endClock.sinceMidnight

instance (now : ℤ) (days : Days) (startClock endClock : Clock) :
    Decidable (IsCarried now days startClock endClock) := inferInstanceAs (Decidable (_ ∧ _))

variable {now date : ℤ} {days : Days} {startClock endClock : Clock} {w : Window}

lemma Clock.sinceMidnight_nonneg (c : Clock) : 0 ≤ c.sinceMidnight := by
  simp only [Clock.sinceMidnight]; omega

lemma Clock.sinceMidnight_lt (c : Clock) : c.sinceMidnight < dayLength := by
  simp only [Clock.sinceMidnight, dayLength]; omega

lemma windowOn_starts :
    (windowOn startClock endClock date).starts = date * dayLength + startClock.sinceMidnight := by
  unfold windowOn; simp only; split <;> rfl

lemma windowOn_ends :
    (windowOn startClock endClock date).ends =
      if endClock.sinceMidnight ≤ startClock.sinceMidnight then
        (date + 1) * dayLength + endClock.sinceMidnight
      else date * dayLength + endClock.sinceMidnight := by
  unfold windowOn
  by_cases h : endClock.sinceMidnight ≤ startClock.sinceMidnight
  · rw [dif_pos (by omega), if_pos h, add_mul]; simp only; omega
  · rw [dif_neg (by omega), if_neg h]

lemma windowOn_ends_isLeast :
    IsLeast {t | (windowOn startClock endClock date).starts < t ∧
        t % dayLength = endClock.sinceMidnight} (windowOn startClock endClock date).ends := by
  have hs := startClock.sinceMidnight_nonneg
  have hs' := startClock.sinceMidnight_lt
  have he := endClock.sinceMidnight_nonneg
  have he' := endClock.sinceMidnight_lt
  rw [windowOn_starts, windowOn_ends]
  simp only [dayLength] at *
  refine ⟨⟨?_, ?_⟩, ?_⟩
  · split <;> omega
  · split <;> omega
  · rintro t ⟨hlt, hmod⟩
    split <;> omega

/-- The occurrences are the windows on the allowed days. -/
lemma isOccurrence_iff :
    IsOccurrence days startClock endClock w ↔
      ∃ date, weekday date ∈ days.1 ∧ windowOn startClock endClock date = w := by
  constructor
  · rintro ⟨⟨date, hday, hstart⟩, hend⟩
    refine ⟨date, hday, ?_⟩
    have hsame : (windowOn startClock endClock date).starts = w.starts :=
      windowOn_starts.trans hstart.symm
    rw [← hsame] at hend
    exact Window.ext hsame (windowOn_ends_isLeast.unique hend)
  · rintro ⟨date, hday, rfl⟩
    exact ⟨⟨date, hday, windowOn_starts⟩, windowOn_ends_isLeast⟩

lemma windowOn_starts_le {d : ℤ} :
    (windowOn startClock endClock d).starts ≤ (windowOn startClock endClock date).starts ↔
      d ≤ date := by
  simp only [windowOn_starts, dayLength]; omega

/-! ### The search -/

lemma exists_weekday (date : ℤ) (d : Fin 7) : ∃ k : ℕ, 0 < k ∧ k < 8 ∧ weekday (date + k) = d := by
  refine ⟨((d - (date + 3) - 1) % 7).toNat + 1, by omega, by omega, Fin.ext ?_⟩
  simp only [weekday]; omega

/-- The search ends at a date with this offset, where it has not ended before. -/
def Hits (now : ℤ) (days : Days) (startClock endClock : Clock) (k : ℕ) : Prop :=
  weekday (now / dayLength + k) ∈ days.1 ∧
    (0 < k ∨ now ≤ (windowOn startClock endClock (now / dayLength + k)).ends)

lemma findSome?_range {α : Type*} {f : ℕ → Option α} {n k : ℕ} {a : α} (hk : k < n)
    (ha : f k = some a) (hbefore : ∀ j < k, f j = none) :
    (List.range n).findSome? f = some a := by
  induction n with
  | zero => omega
  | succ n ih =>
    rw [List.range_succ, List.findSome?_append]
    by_cases h : k < n
    · rw [ih h]; rfl
    · obtain rfl : k = n := by omega
      have hnone : (List.range k).findSome? f = none :=
        List.findSome?_eq_none_iff.mpr fun j hj => hbefore j (List.mem_range.mp hj)
      simp [hnone, ha]

variable (now days startClock endClock) in
lemma exists_hit : ∃ k < 8, Hits now days startClock endClock k := by
  obtain ⟨d, hd⟩ := days.2
  obtain ⟨k, hpos, hlt, hday⟩ := exists_weekday (now / dayLength) d
  exact ⟨k, hlt, hday ▸ hd, .inl hpos⟩

variable (now days startClock endClock) in
/-- Eight dates are enough: the window is the one of the first date that ends the search. -/
lemma nextWindow_eq :
    ∃ k, Hits now days startClock endClock k ∧
      (∀ j < k, ¬ Hits now days startClock endClock j) ∧
      nextWindow now days startClock endClock =
        windowOn startClock endClock (now / dayLength + k) := by
  classical
  obtain ⟨n, hn, hhit⟩ := exists_hit now days startClock endClock
  have hex : ∃ k, Hits now days startClock endClock k := ⟨n, hhit⟩
  have hlt : Nat.find hex < 8 := lt_of_le_of_lt (Nat.find_min' hex hhit) hn
  refine ⟨Nat.find hex, Nat.find_spec hex, fun j hj => Nat.find_min hex hj, ?_⟩
  obtain ⟨hday, hends⟩ := Nat.find_spec hex
  unfold nextWindow
  simp only
  rw [findSome?_range hlt, Option.getD_some]
  · rw [if_neg (not_not.mpr hday), if_pos hends]
  · intro j hj
    have hmiss := Nat.find_min hex hj
    simp only [Hits, not_and] at hmiss
    by_cases hj : weekday (now / dayLength + j) ∈ days.1
    · simp [hj, hmiss hj]
    · simp [hj]

/-- What began before the current date has ended, unless it began on the day before and goes
through midnight. -/
lemma ended_of_lt (h : date < now / dayLength) (hday : weekday date ∈ days.1)
    (hc : ¬ IsCarried now days startClock endClock) :
    (windowOn startClock endClock date).ends < now := by
  have he := endClock.sinceMidnight_lt
  rw [windowOn_ends]
  by_cases hnight : endClock.sinceMidnight ≤ startClock.sinceMidnight
  · rw [if_pos hnight]
    by_cases hd : date = now / dayLength - 1
    · subst hd
      have hlt : endClock.sinceMidnight < now % dayLength :=
        not_le.mp fun hle => hc ⟨hday, hnight, hle⟩
      simp only [dayLength] at *; omega
    · simp only [dayLength] at *; omega
  · rw [if_neg hnight]
    simp only [dayLength] at *; omega

lemma isNext_iff :
    IsNext now days startClock endClock (nextWindow now days startClock endClock) ↔
      ¬ IsCarried now days startClock endClock := by
  obtain ⟨k, ⟨hday, hends⟩, hbefore, heq⟩ := nextWindow_eq now days startClock endClock
  rw [heq]
  constructor
  · rintro hnext ⟨hyesterday, hnight, hle⟩
    have hearlier := hnext.earliest (windowOn startClock endClock (now / dayLength - 1))
      (isOccurrence_iff.mpr ⟨_, hyesterday, rfl⟩) (by
        rw [windowOn_ends, if_pos hnight]
        simp only [dayLength] at *; omega)
    rw [windowOn_starts_le] at hearlier
    omega
  · intro hc
    refine ⟨isOccurrence_iff.mpr ⟨_, hday, rfl⟩, ?_, ?_⟩
    · rcases hends with hpos | hends
      · have := endClock.sinceMidnight_nonneg
        rw [windowOn_ends]
        simp only [dayLength]
        split <;> omega
      · exact hends
    · rintro v hv hlasts
      obtain ⟨date, hdate, rfl⟩ := isOccurrence_iff.mp hv
      have hfrom : now / dayLength ≤ date := by
        by_contra hlt
        exact absurd (ended_of_lt (not_le.mp hlt) hdate hc) (not_lt.mpr hlasts)
      rw [windowOn_starts_le]
      by_contra hlt
      obtain ⟨j, rfl⟩ : ∃ j : ℕ, date = now / dayLength + j :=
        ⟨(date - now / dayLength).toNat, by omega⟩
      exact hbefore j (by omega) ⟨hdate, .inr hlasts⟩

/-- **The imported window.** The window of an imported row starts before it ends, and it is the
earliest weekly occurrence that has not ended, except where an occurrence of the day before goes
through midnight and has not ended: that one is passed over. -/
theorem scheduleWindow_iff (now : ℤ) (dayOfWeek startTimeText endTimeText : String) :
    let window := scheduleWindow now dayOfWeek startTimeText endTimeText
    (window.starts < window.ends ∧
        IsNext now (legacyDays dayOfWeek) (startOf startTimeText)
          (endOf startTimeText endTimeText) window) ↔
      ¬ IsCarried now (legacyDays dayOfWeek) (startOf startTimeText)
          (endOf startTimeText endTimeText) := by
  intro window
  rw [← isNext_iff]
  exact and_iff_right window.starts_lt

/-- One in the morning of a Tuesday: the show of Monday evening goes on until two, and the window
is the one of the week after. -/
theorem monday_night_passed_over :
    ¬ ∀ (now : ℤ) (dayOfWeek startTimeText endTimeText : String),
      let window := scheduleWindow now dayOfWeek startTimeText endTimeText
      window.starts < window.ends ∧
        IsNext now (legacyDays dayOfWeek) (startOf startTimeText)
          (endOf startTimeText endTimeText) window := by
  intro h
  have hnext := (h (5 * dayLength + 3600000000) "0" "22:00" "02:00").2
  exact isNext_iff.mp hnext (by decide +kernel)

example : (scheduleWindow (5 * dayLength + 3600000000) "0" "22:00" "02:00").starts =
    11 * dayLength + 79200000000 := by decide +kernel

/-! ### The table -/

end OnAir.ScheduleWindow
