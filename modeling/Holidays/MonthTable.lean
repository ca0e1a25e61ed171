/-!
A year laid out as a list of month lengths: where a month starts, and which month a day falls in.
`locate` inverts `daysBefore` for every list of lengths.
-/
namespace Holidays.MonthTable

def lengthOf? (lengths : List Nat) : Nat → Option Nat
  | 0 => none
  | month + 1 => lengths[month]?

def total (lengths : List Nat) : Nat := lengths.foldr (· + ·) 0

@[simp] theorem total_nil : total [] = 0 := rfl

@[simp] theorem total_cons (length : Nat) (rest : List Nat) :
    total (length :: rest) = length + total rest := rfl

def daysBefore (lengths : List Nat) (month : Nat) : Nat := total (lengths.take (month - 1))

def HasDay (lengths : List Nat) (month day : Nat) : Prop :=
  1 ≤ day ∧ ∃ length, lengthOf? lengths month = some length ∧ day ≤ length

instance (lengths : List Nat) (month day : Nat) : Decidable (HasDay lengths month day) :=
  match h : lengthOf? lengths month with
  | none => isFalse fun ⟨_, _, found, _⟩ => by simp [h] at found
  | some length =>
    if fits : 1 ≤ day ∧ day ≤ length then isTrue ⟨fits.1, length, h, fits.2⟩
    else isFalse fun ⟨low, _, found, high⟩ => by simp_all; omega

theorem HasDay.month_bounds {lengths : List Nat} {month day : Nat}
    (h : HasDay lengths month day) : 1 ≤ month ∧ month ≤ lengths.length := by
  obtain ⟨-, length, found, -⟩ := h
  cases month with
  | zero => cases found
  | succ k =>
    have := (List.getElem?_eq_some_iff.mp found).1
    omega

theorem HasDay.exists_length {lengths : List Nat} {month day : Nat}
    (h : HasDay lengths month day) : ∃ length ∈ lengths, day ≤ length := by
  obtain ⟨-, length, found, within⟩ := h
  cases month with
  | zero => cases found
  | succ k => exact ⟨length, List.mem_of_getElem? found, within⟩

/-- The month and the day of it on which `passed` days of the year are over. -/
def locate : List Nat → Nat → Option (Nat × Nat)
  | [], _ => none
  | length :: rest, passed =>
    if passed < length then some (1, passed + 1)
    else (locate rest (passed - length)).map fun (month, day) => (month + 1, day)

theorem hasDay_of_locate {lengths : List Nat} {passed month day : Nat}
    (h : locate lengths passed = some (month, day)) :
    HasDay lengths month day ∧ daysBefore lengths month + day = passed + 1 := by
  induction lengths generalizing passed month with
  | nil => cases h
  | cons length rest ih =>
    simp only [locate] at h
    split at h
    · next within =>
      obtain ⟨rfl, rfl⟩ := Prod.mk.inj (Option.some.inj h)
      exact ⟨⟨by omega, length, rfl, by omega⟩, by simp [daysBefore]⟩
    · next past =>
      obtain ⟨⟨m, d⟩, found, pair⟩ := Option.map_eq_some_iff.1 h
      obtain ⟨rfl, rfl⟩ := Prod.mk.inj pair
      obtain ⟨⟨low, size, sized, high⟩, same⟩ := ih found
      cases m with
      | zero => cases sized
      | succ k => exact ⟨⟨low, size, sized, high⟩, by simp [daysBefore] at *; omega⟩

theorem locate_daysBefore {lengths : List Nat} {month day : Nat} (h : HasDay lengths month day) :
    locate lengths (daysBefore lengths month + day - 1) = some (month, day) := by
  obtain ⟨low, size, sized, high⟩ := h
  induction lengths generalizing month with
  | nil => cases month <;> simp [lengthOf?] at sized
  | cons length rest ih =>
    cases month with
    | zero => cases sized
    | succ k =>
      cases k with
      | zero =>
        cases Option.some.inj sized
        have within : day - 1 < size := by omega
        have again : day - 1 + 1 = day := by omega
        simp [locate, daysBefore, within, again]
      | succ k =>
        have next := @ih (k + 1) sized
        have past : ¬ length + total (rest.take k) + day - 1 < length := by omega
        have left : length + total (rest.take k) + day - 1 - length =
            total (rest.take k) + day - 1 := by
          omega
        simp only [daysBefore, Nat.add_sub_cancel] at next
        simp [locate, daysBefore, past, left, next]

theorem locate_isSome {lengths : List Nat} {passed : Nat} (h : passed < total lengths) :
    ∃ month day, locate lengths passed = some (month, day) := by
  induction lengths generalizing passed with
  | nil => simp at h
  | cons length rest ih =>
    by_cases within : passed < length
    · exact ⟨1, passed + 1, by simp [locate, within]⟩
    · rw [total_cons] at h
      have left : passed - length < total rest := by omega
      obtain ⟨month, day, found⟩ := ih left
      exact ⟨month + 1, day, by simp [locate, within, found]⟩

theorem daysBefore_add_le_total {lengths : List Nat} {month day : Nat}
    (h : HasDay lengths month day) : daysBefore lengths month + day ≤ total lengths := by
  obtain ⟨low, size, sized, high⟩ := h
  induction lengths generalizing month with
  | nil => cases month <;> simp [lengthOf?] at sized
  | cons length rest ih =>
    cases month with
    | zero => cases sized
    | succ k =>
      cases k with
      | zero =>
        cases Option.some.inj sized
        simp [daysBefore]
        omega
      | succ k =>
        have next := @ih (k + 1) sized
        simp [daysBefore] at *
        omega

end Holidays.MonthTable
