import Holidays.Proofs.Chronology.RoundTrip

namespace Holidays

namespace Ymd

def Precedes (a b : Ymd) : Prop :=
  a.year < b.year ∨
    a.year = b.year ∧ (a.month < b.month ∨ a.month = b.month ∧ a.day < b.day)

end Ymd

namespace MonthTable

variable {lengths : List Nat} {month day month' day' : Nat}

theorem daysBefore_succ {length : Nat} (h : lengthOf? lengths month = some length) :
    daysBefore lengths (month + 1) = daysBefore lengths month + length := by
  cases month with
  | zero => cases h
  | succ k =>
    have listed : lengths[k]? = some length := h
    simp only [daysBefore, Nat.add_sub_cancel]
    rw [List.take_add_one, listed, total_append]
    simp

theorem daysBefore_mono (later : month ≤ month') :
    daysBefore lengths month ≤ daysBefore lengths month' := by
  have split := List.take_append_drop (month - 1) (lengths.take (month' - 1))
  rw [List.take_take, Nat.min_eq_left (Nat.sub_le_sub_right later 1)] at split
  rw [daysBefore, daysBefore, ← split, total_append]
  exact Nat.le_add_right _ _

theorem daysBefore_eq_total (past : lengths.length < month) :
    daysBefore lengths month = total lengths := by
  rw [daysBefore, List.take_of_length_le (by omega)]

theorem HasDay.passed_lt_iff (h : HasDay lengths month day) (h' : HasDay lengths month' day') :
    daysBefore lengths month + day < daysBefore lengths month' + day' ↔
      month < month' ∨ month = month' ∧ day < day' := by
  have apart {month day month' day' : Nat} (h : HasDay lengths month day)
      (h' : HasDay lengths month' day') (earlier : month < month') :
      daysBefore lengths month + day < daysBefore lengths month' + day' := by
    obtain ⟨-, length, sized, within⟩ := h
    have next := daysBefore_succ sized
    have passed : daysBefore lengths (month + 1) ≤ daysBefore lengths month' :=
      daysBefore_mono earlier
    have first := h'.1
    omega
  rcases Nat.lt_trichotomy month month' with earlier | rfl | later
  · simp [apart h h' earlier, earlier]
  · simp
  · have := apart h' h later
    omega

/-- After a day comes another one of its month, or the first of the next one; or the year ends. -/
theorem HasDay.next (positive : ∀ length ∈ lengths, 0 < length) (h : HasDay lengths month day)
    (last : ¬ HasDay lengths month (day + 1)) :
    daysBefore lengths (month + 1) = daysBefore lengths month + day ∧
      (HasDay lengths (month + 1) 1 ∨ daysBefore lengths (month + 1) = total lengths) := by
  obtain ⟨first, length, sized, within⟩ := h
  have ends : day = length := by
    by_contra other
    exact last ⟨by omega, length, sized, by omega⟩
  refine ⟨ends ▸ daysBefore_succ sized, ?_⟩
  cases following : lengthOf? lengths (month + 1) with
  | some size =>
    have held : 0 < size := positive size (List.mem_of_getElem? following)
    exact .inl ⟨Nat.le_refl 1, size, following, held⟩
  | none =>
    have past : lengths.length ≤ month := List.getElem?_eq_none_iff.mp following
    exact .inr (daysBefore_eq_total (by omega))

end MonthTable

namespace CalendarSystem

def dayAfter (s : CalendarSystem) (date : Ymd) : Ymd :=
  if s.HasDay ⟨date.year, date.month, date.day + 1⟩ then ⟨date.year, date.month, date.day + 1⟩
  else if s.HasDay ⟨date.year, date.month + 1, 1⟩ then ⟨date.year, date.month + 1, 1⟩
  else ⟨date.year + 1, 1, 1⟩

/-- The place of a date among the days of all years, also of those whose days have no pivot. -/
def place (s : CalendarSystem) (date : Ymd) : Int :=
  s.yearStart date.year + MonthTable.daysBefore (s.monthLengths date.year) date.month + date.day - 1

theorem monthLengths_positive (s : CalendarSystem) (year : Int) :
    ∀ length ∈ s.monthLengths year, 0 < length := by
  intro length listed
  cases s with
  | table c =>
    obtain ⟨m, held, rfl⟩ := List.mem_map.mp listed
    exact c.length_pos held _
  | gregorian | julian =>
    simp only [monthLengths, Julian.monthLengths, Civil.monthLengths, List.mem_cons,
      List.not_mem_nil, or_false] at listed
    split at listed <;> omega
  | islamic =>
    simp only [monthLengths, Islamic.monthLengths, List.mem_cons, List.not_mem_nil,
      or_false] at listed
    split at listed <;> omega

theorem monthLengths_ne_nil (s : CalendarSystem) (year : Int) : s.monthLengths year ≠ [] := by
  cases s with
  | table c => simpa [monthLengths, TableCalendar.monthLengths] using c.months_ne_nil
  | gregorian | julian | islamic => exact List.cons_ne_nil _ _

variable {s : CalendarSystem} {a b date : Ymd}

theorem hasDay_first (s : CalendarSystem) (year : Int) : s.HasDay ⟨year, 1, 1⟩ := by
  obtain ⟨length, rest, shape⟩ := List.exists_cons_of_ne_nil (s.monthLengths_ne_nil year)
  have positive := s.monthLengths_positive year length (by simp [shape])
  exact ⟨Nat.le_refl 1, length, by simp [shape, MonthTable.lengthOf?], positive⟩

theorem hasDay_dayAfter (s : CalendarSystem) (date : Ymd) : s.HasDay (s.dayAfter date) := by
  unfold dayAfter
  split
  · assumption
  · split
    · assumption
    · exact s.hasDay_first _

theorem place_dayAfter (has : s.HasDay date) : s.place (s.dayAfter date) = s.place date + 1 := by
  unfold dayAfter
  split
  · simp only [place]
    omega
  · next last =>
    obtain ⟨passed, onward⟩ := MonthTable.HasDay.next (s.monthLengths_positive _) has last
    split
    · simp only [place]
      omega
    · next ended =>
      -- The month was the last one, so the days passed make up the year.
      have total := onward.resolve_left ended
      have year := s.yearStart_succ date.year
      have start : MonthTable.daysBefore (s.monthLengths (date.year + 1)) 1 = 0 := rfl
      simp only [place, start]
      omega

theorem place_lt_place_of_year (ha : s.HasDay a) (hb : s.HasDay b) (earlier : a.year < b.year) :
    s.place a < s.place b := by
  have before := (inYear_of_hasDay ha).2
  have begun := (inYear_of_hasDay hb).1
  have between := s.yearStart_mono (show a.year + 1 ≤ b.year from earlier)
  simp only [place]
  omega

theorem precedes_iff_place_lt (ha : s.HasDay a) (hb : s.HasDay b) :
    a.Precedes b ↔ s.place a < s.place b := by
  rcases Int.lt_trichotomy a.year b.year with earlier | same | later
  · simp [Ymd.Precedes, earlier, place_lt_place_of_year ha hb earlier]
  · have hb' : MonthTable.HasDay (s.monthLengths a.year) b.month b.day := same ▸ hb
    have within : s.place a < s.place b ↔
        MonthTable.daysBefore (s.monthLengths a.year) a.month + a.day <
          MonthTable.daysBefore (s.monthLengths a.year) b.month + b.day := by
      simp only [place, ← same]
      omega
    rw [within, MonthTable.HasDay.passed_lt_iff ha hb']
    simp [Ymd.Precedes, same]
  · have after := place_lt_place_of_year hb ha later
    simp only [Ymd.Precedes]
    omega

theorem place_inj (ha : s.HasDay a) (hb : s.HasDay b) (same : s.place a = s.place b) : a = b := by
  have ab := precedes_iff_place_lt ha hb
  have ba := precedes_iff_place_lt hb ha
  simp only [same, Int.lt_irrefl, iff_false, Ymd.Precedes] at ab ba
  obtain ⟨year, month, day⟩ := a
  obtain ⟨year', month', day'⟩ := b
  simp only [Ymd.mk.injEq] at *
  omega

theorem toPivot_eq_place (year : s.HasYear date.year) (has : s.HasDay date) :
    s.toPivot date = .ok (s.place date) := by
  obtain ⟨pivot, there⟩ := toPivot_of_hasDay year has
  rw [there, (toPivot_eq there).2, place]

/-- In a built-in system and in one built from a definition, pivots are in the order of the dates
that have them. The day after a date exists, no day comes between, and its pivot is the next one. -/
theorem toPivot_in_order (s : CalendarSystem) :
    (∀ a b : Ymd, s.HasYear a.year → s.HasDay a → s.HasYear b.year → s.HasDay b →
      ∃ p q, s.toPivot a = .ok p ∧ s.toPivot b = .ok q ∧ (a.Precedes b ↔ p < q)) ∧
    ∀ date : Ymd, s.HasDay date →
      s.HasDay (s.dayAfter date) ∧
      (∀ b : Ymd, s.HasDay b →
        (date.Precedes b ↔ b = s.dayAfter date ∨ (s.dayAfter date).Precedes b)) ∧
      (s.HasYear date.year → s.HasYear (s.dayAfter date).year →
        ∃ p, s.toPivot date = .ok p ∧ s.toPivot (s.dayAfter date) = .ok (p + 1)) := by
  constructor
  · intro a b yearA ha yearB hb
    exact ⟨s.place a, s.place b, toPivot_eq_place yearA ha, toPivot_eq_place yearB hb,
      precedes_iff_place_lt ha hb⟩
  · intro date has
    have after := s.hasDay_dayAfter date
    have step := place_dayAfter has
    refine ⟨after, ?_, ?_⟩
    · intro b hb
      rw [precedes_iff_place_lt has hb, precedes_iff_place_lt after hb]
      constructor
      · intro later
        by_cases same : s.place b = s.place (s.dayAfter date)
        · exact .inl (place_inj hb after same)
        · exact .inr (by omega)
      · rintro (rfl | later) <;> omega
    · intro year next
      refine ⟨s.place date, toPivot_eq_place year has, ?_⟩
      rw [toPivot_eq_place next after, step]

theorem toPivot_in_order_epoch :
    let s := CalendarSystem.table TableCalendar.tenDayCalendar
    s.HasDay ⟨0, 11, 6⟩ ∧ s.dayAfter ⟨0, 11, 6⟩ = ⟨1, 1, 1⟩ ∧
    s.toPivot ⟨0, 11, 6⟩ = .ok 2451544 ∧ s.toPivot ⟨1, 1, 1⟩ = .ok 2451545 ∧
    Ymd.Precedes ⟨0, 11, 6⟩ ⟨1, 1, 1⟩ := by
  intro s
  have has : s.HasDay ⟨0, 11, 6⟩ := by decide
  have after : s.dayAfter ⟨0, 11, 6⟩ = ⟨1, 1, 1⟩ := by decide
  have known : s.toPivot ⟨0, 11, 6⟩ = .ok 2451544 := by decide
  obtain ⟨hasAfter, -, next⟩ := (toPivot_in_order s).2 _ has
  obtain ⟨p, there, onward⟩ := next trivial trivial
  rw [known] at there
  cases there
  rw [after] at onward hasAfter
  obtain ⟨p, q, hp, hq, ordered⟩ := (toPivot_in_order s).1 _ ⟨1, 1, 1⟩ trivial has trivial hasAfter
  rw [known] at hp
  rw [onward] at hq
  cases hp
  cases hq
  exact ⟨has, after, known, onward, ordered.mpr (by decide)⟩

end CalendarSystem

end Holidays
