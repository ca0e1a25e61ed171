import Holidays.Civil.DateText
import Holidays.Proofs.Civil.Order
import Holidays.Proofs.Sequence
import Mathlib.Algebra.Group.Nat.Defs

namespace Holidays

theorem append_cons_inj_of_last {α : Type} {a : α} {xs ys ts us : List α}
    (same : xs ++ a :: ts = ys ++ a :: us) (notIn : a ∉ ts) (notIn' : a ∉ us) :
    xs = ys ∧ ts = us := by
  rcases List.append_eq_append_iff.1 same with ⟨cs, front, back⟩ | ⟨cs, front, back⟩
  · cases cs with
    | nil =>
      rw [List.nil_append] at back
      exact ⟨by simpa using front.symm, (List.cons.inj back).2⟩
    | cons c cs =>
      have inside := (List.cons.inj back).2
      exact absurd (inside ▸ List.mem_append_right _ List.mem_cons_self) notIn
  · cases cs with
    | nil =>
      rw [List.nil_append] at back
      exact ⟨by simpa using front, (List.cons.inj back).2.symm⟩
    | cons c cs =>
      have inside := (List.cons.inj back).2
      exact absurd (inside ▸ List.mem_append_right _ List.mem_cons_self) notIn'

namespace Text

theorem isDigit_of_mem_padded {width n : Nat} {c : Char} (h : c ∈ padded width n) :
    c.isDigit = true := by
  rcases List.mem_append.1 h with zero | digit
  · rw [List.eq_of_mem_replicate zero]
    decide
  · exact Nat.isDigit_of_mem_toDigits (by omega) (by omega) digit

theorem ofDigitChars_padded (width n : Nat) : Nat.ofDigitChars 10 (padded width n) 0 = n := by
  rw [padded, Nat.ofDigitChars_append, Nat.ofDigitChars_replicate_zero, Nat.mul_zero]
  exact Nat.ofDigitChars_ten_toDigits

theorem length_padded_le {width n : Nat} (positive : 0 < width) (small : n < 10 ^ width) :
    (padded width n).length ≤ width := by
  have digits := (Nat.length_toDigits_le_iff (b := 10) (by decide) positive).mpr small
  simp only [padded, naturalChars, List.length_append, List.length_replicate]
  omega

theorem exists_padded_eq_cons (width n : Nat) :
    ∃ c cs, padded width n = c :: cs ∧ c.isDigit = true := by
  have some_digit : padded width n ≠ [] := by simp [padded, naturalChars, Nat.toDigits_ne_nil]
  obtain ⟨c, cs, shape⟩ := List.exists_cons_of_ne_nil some_digit
  exact ⟨c, cs, shape, isDigit_of_mem_padded (shape ▸ List.mem_cons_self)⟩

theorem numeralUpTo?_padded {limit width n : Nat} {rest : List Char}
    (fits : (padded width n).length ≤ limit) (ends : ∀ c, rest.head? = some c → c.isDigit = false) :
    numeralUpTo? limit (padded width n ++ rest) = some (n, rest) := by
  have digits : ∀ c ∈ padded width n, c.isDigit = true := fun c => isDigit_of_mem_padded
  have stops (k : Nat) : (rest.take k).takeWhile Char.isDigit = [] := by
    cases rest with
    | nil => simp
    | cons c rest =>
      cases k with
      | zero => rfl
      | succ k => simp [ends c rfl]
  have taken : ((padded width n ++ rest).take limit).takeWhile Char.isDigit = padded width n := by
    rw [List.take_append, List.take_of_length_le fits, List.takeWhile_append_of_pos digits, stops,
      List.append_nil]
  obtain ⟨c, cs, shape, -⟩ := exists_padded_eq_cons width n
  have some_digit : padded width n ≠ [] := by simp [shape]
  simp only [numeralUpTo?, taken, if_neg some_digit, ofDigitChars_padded, List.drop_left]

theorem isSpace_of_isDigit {c : Char} (digit : c.isDigit = true) : isSpace c = false := by
  have range : 48 ≤ c.toNat ∧ c.toNat ≤ 57 := by
    simp only [Char.isDigit, Bool.and_eq_true, decide_eq_true_eq, UInt32.le_iff_toNat_le] at digit
    exact digit
  simp only [isSpace]
  grind

theorem dropSpaces_padded (width n : Nat) (rest : List Char) :
    dropSpaces (padded width n ++ rest) = padded width n ++ rest := by
  obtain ⟨c, cs, shape, digit⟩ := exists_padded_eq_cons width n
  simp [shape, dropSpaces, isSpace_of_isDigit digit]

end Text

namespace Date

theorem dash?_dash (cs : List Char) : dash? ('-' :: cs) = some cs := by
  have dash : Text.isSpace '-' = false := by decide
  simp [dash?, Text.dropSpaces, dash]

theorem yearField?_minus (cs : List Char) : yearField? ('-' :: cs) =
    (Text.numeralUpTo? cs.length cs).map fun (n, left) => (-(n : Int), left) := by
  have minus : Text.isSpace '-' = false := by decide
  simp [yearField?, Text.dropSpaces, minus]

theorem yearField?_plus (cs : List Char) : yearField? ('+' :: cs) =
    (Text.numeralUpTo? cs.length cs).map fun (n, left) => ((n : Int), left) := by
  have plus : Text.isSpace '+' = false := by decide
  simp [yearField?, Text.dropSpaces, plus]

theorem yearField?_padded (width n : Nat) (rest : List Char) :
    yearField? (Text.padded width n ++ rest) =
      (Text.numeralUpTo? 4 (Text.padded width n ++ rest)).map
        fun (n, left) => ((n : Int), left) := by
  obtain ⟨c, cs, shape, digit⟩ := Text.exists_padded_eq_cons width n
  rw [yearField?, Text.dropSpaces_padded, shape]
  split
  · next same =>
    cases same
    cases digit
  · next same =>
    cases same
    cases digit
  · rfl

theorem dash_ends (cs : List Char) : ∀ c, ('-' :: cs).head? = some c → c.isDigit = false := by
  intro c first
  cases first
  rfl

theorem yearField?_yearChars (year : Int) (rest : List Char) :
    yearField? (yearChars year ++ '-' :: rest) = some (year, '-' :: rest) := by
  unfold yearChars
  split
  · next plain =>
    have fits : (Text.padded 4 year.natAbs).length ≤ 4 :=
      Text.length_padded_le (by decide) (by omega)
    have value : (year.natAbs : Int) = year := by omega
    rw [yearField?_padded, Text.numeralUpTo?_padded fits (dash_ends rest)]
    exact congrArg (fun y => some (y, '-' :: rest)) value
  · next signed =>
    have fits : (Text.padded 4 year.natAbs).length ≤
        (Text.padded 4 year.natAbs ++ '-' :: rest).length := by simp
    have read := Text.numeralUpTo?_padded fits (dash_ends rest)
    split
    · next negative =>
      have value : -(year.natAbs : Int) = year := by omega
      rw [List.cons_append, yearField?_minus, read]
      exact congrArg (fun y => some (y, '-' :: rest)) value
    · next positive =>
      have value : (year.natAbs : Int) = year := by omega
      rw [List.cons_append, yearField?_plus, read]
      exact congrArg (fun y => some (y, '-' :: rest)) value

theorem ofText?_text (d : Date) : ofText? d.text = some d := by
  have has : MonthTable.HasDay (Civil.monthLengths (Civil.isLeap d.year)) d.month d.day :=
    (Civil.hasDay_monthDayOf d.number).1
  have month : d.month ≤ 12 := has.month_bounds.2
  have day : d.day ≤ 31 := by
    obtain ⟨length, listed, within⟩ := has.exists_length
    have longest : ∀ length ∈ Civil.monthLengths (Civil.isLeap d.year), length ≤ 31 := by
      cases Civil.isLeap d.year <;> decide
    exact Nat.le_trans within (longest length listed)
  have ends : ∀ c, ([] : List Char).head? = some c → c.isDigit = false := nofun
  have monthFits : (Text.padded 2 d.month).length ≤ 2 :=
    Text.length_padded_le (by decide) (by omega)
  have dayFits : (Text.padded 2 d.day).length ≤ 2 :=
    Text.length_padded_le (by decide) (by omega)
  have monthRead := Text.numeralUpTo?_padded monthFits (dash_ends (Text.padded 2 d.day))
  have dayRead := Text.numeralUpTo?_padded dayFits ends
  rw [List.append_nil] at dayRead
  have dayField := Text.dropSpaces_padded 2 d.day []
  rw [List.append_nil] at dayField
  have nothing : Text.dropSpaces [] = [] := rfl
  have fields : fields? d.chars = some (d.year, d.month, d.day) := by
    simp [fields?, chars, yearField?_yearChars, dash?_dash, Text.dropSpaces_padded, monthRead,
      dayField, dayRead, nothing]
  simp [ofText?, text, fields, ofYmd?_self]

theorem chars_inj {d e : Date} (same : d.chars = e.chars) : d = e := by
  have texts : d.text = e.text := by rw [text, text, same]
  have here := ofText?_text d
  rw [texts, ofText?_text] at here
  exact (Option.some.inj here).symm

theorem equals_not_mem_chars (d : Date) : '=' ∉ d.chars := by
  have plain (width n : Nat) : '=' ∉ Text.padded width n := by
    intro held
    have digit := Text.isDigit_of_mem_padded held
    cases digit
  unfold chars yearChars
  split
  · simp [plain]
  · split <;> simp [plain]

end Date

end Holidays
