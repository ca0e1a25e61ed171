import Holidays.Proofs.Chronology.RoundTrip

namespace Holidays

namespace Islamic

def leapYears : List Nat := [2, 5, 7, 10, 13, 16, 18, 21, 24, 26, 29]

def leapFormula : String :=
  " || ".intercalate (leapYears.map fun year => "year % 30 == " ++ Text.natural year)

theorem isLeap_iff {year : Int} : isLeap year = true ↔ ∃ k ∈ leapYears, year % 30 = k := by
  have place : (14 + 11 * year) % 30 = (14 + 11 * (year % 30)) % 30 := by omega
  have low := Int.emod_nonneg year (b := 30) (by decide)
  have high := Int.emod_lt_of_pos year (b := 30) (by decide)
  simp only [isLeap, place, decide_eq_true_eq]
  generalize year % 30 = r at low high
  interval_cases r <;> decide

def isPlace (k : Nat) : LeapRule.BoolExpr :=
  .compareInts .equal (.remainder .year 30) (.literal k)

theorem eval_isPlace {year : Int} {k : Nat} :
    (isPlace k).eval year = true ↔ year % 30 = k :=
  ⟨of_decide_eq_true, decide_eq_true⟩

def leapCondition : LeapRule.BoolExpr :=
  leapYears.tail.foldl (fun e k => .or e (isPlace k)) (isPlace 2)

theorem eval_disjunction (year : Int) (ks : List Nat) (first : LeapRule.BoolExpr) :
    (ks.foldl (fun e k => .or e (isPlace k)) first).eval year = true ↔
      first.eval year = true ∨ ∃ k ∈ ks, year % 30 = k := by
  induction ks generalizing first with
  | nil => simp
  | cons k ks ih =>
    rw [List.foldl_cons, ih, LeapRule.BoolExpr.eval, Bool.or_eq_true, eval_isPlace]
    simp [or_assoc]

theorem eval_leapCondition (year : Int) : leapCondition.eval year = isLeap year := by
  rw [Bool.eq_iff_iff, isLeap_iff, leapCondition, eval_disjunction, eval_isPlace]
  simp [leapYears]

/-- The tokens of the disjunction over some places, the first of which starts in a column. -/
def placeTokens (column : Nat) : List Nat → List LeapRule.Placed
  | [] => []
  | k :: ks =>
    let past := column + if k < 10 then 14 else 15
    [⟨.year, column⟩, ⟨.percent, column + 5⟩, ⟨.integer 30, column + 7⟩, ⟨.equal, column + 10⟩,
      ⟨.integer k, column + 13⟩] ++
      if ks = [] then [] else ⟨.or, past + 1⟩ :: placeTokens (past + 4) ks

theorem toList_leapFormula : leapFormula.toList =
    " || ".toList.intercalate (leapYears.map fun year =>
      "year % 30 == ".toList ++ (Text.natural year).toList) := by
  rw [leapFormula, String.toList_intercalate, List.map_map]
  simp only [Function.comp_def, String.toList_append]

theorem tokenize_leapFormula : LeapRule.tokenize leapFormula = .ok (placeTokens 1 leapYears) := by
  rw [LeapRule.tokenize, toList_leapFormula]
  decide +kernel

theorem parse_leapFormula :
    LeapRule.parse (leapFormula.length + 1) (placeTokens 1 leapYears) = .ok leapCondition := by
  have others : leapYears.tail = [5, 7, 10, 13, 16, 18, 21, 24, 26, 29] := rfl
  rw [leapCondition, others, ← String.length_toList, toList_leapFormula]
  cbv

theorem compile_leapFormula : LeapRule.compile leapFormula = .ok ⟨leapFormula, leapCondition⟩ := by
  rw [LeapRule.compile, tokenize_leapFormula]
  dsimp only
  rw [parse_leapFormula, Except.map]

end Islamic

/-- What years are made of: the month lengths of ordinary and of leap years, and a formula that
tells leap years. Year 1 starts at `epoch`. -/
structure Layout where
  epoch : Int
  ordinary : List Nat
  leap : List Nat
  formula : String

def Layout.lengths (l : Layout) (leap : Bool) : List Nat := if leap then l.leap else l.ordinary

structure ChronologyDefinition.Follows (d : ChronologyDefinition) (l : Layout) : Prop where
  named : Text.trim d.id ≠ ""
  byFormula : d.algorithm = .formula
  epoch : d.epoch.toInt = l.epoch
  months : ∀ leap, d.months.map (·.length leap) = l.lengths leap
  formula : d.leapFormula = some l.formula

theorem ChronologyDefinition.Follows.exists_calendar {d : ChronologyDefinition} {l : Layout}
    (follows : d.Follows l) (nonempty : l.ordinary ≠ []) (positive : ∀ leap, 0 ∉ l.lengths leap)
    {rule : LeapRule} (compiled : LeapRule.compile l.formula = .ok rule) :
    ∃ c, TableCalendar.ofDefinition d = .ok c ∧ c.epoch = l.epoch ∧
      ∀ year, c.monthLengths year = l.lengths (rule.isLeap year) := by
  have someMonth : d.months ≠ [] := by
    intro empty
    have ordinary := follows.months false
    rw [empty] at ordinary
    exact nonempty ordinary.symm
  have someDay : ∀ m ∈ d.months, m.days ≠ 0 ∧ m.leapDays ≠ some 0 := by
    intro m held
    -- A month without days is one of length zero, in ordinary or in leap years.
    have days (leap : Bool) : m.length leap ≠ 0 := by
      intro zero
      apply positive leap
      rw [← follows.months leap, ← zero]
      exact List.mem_map_of_mem held
    constructor
    · intro none
      exact days false (by simp [Month.length, none])
    · intro none
      exact days true (by simp [Month.length, none])
  have fits : Fits64 d.epoch.toInt := ⟨d.epoch.le_toInt, Int.le_sub_one_of_lt d.epoch.toInt_lt⟩
  have built : TableCalendar.ofDefinition d =
      .ok ⟨Text.trim d.id, d.epoch.toInt, d.months, rule, fits, someMonth, someDay⟩ :=
    TableCalendar.ofDefinition_eq_ok_of rfl follows.named follows.byFormula rfl rfl follows.formula
      compiled
  exact ⟨_, built, follows.epoch, fun year => follows.months (rule.isLeap year)⟩

namespace CalendarSystem

def layout? : CalendarSystem → Option Layout
  | .gregorian => some
    { epoch := 1721426
      ordinary := [31, 28, 31, 30, 31, 30, 31, 31, 30, 31, 30, 31]
      leap := [31, 29, 31, 30, 31, 30, 31, 31, 30, 31, 30, 31]
      formula := "(year % 4 == 0 && year % 100 != 0) || year % 400 == 0" }
  | .julian => some
    { epoch := 1721424
      ordinary := [31, 28, 31, 30, 31, 30, 31, 31, 30, 31, 30, 31]
      leap := [31, 29, 31, 30, 31, 30, 31, 31, 30, 31, 30, 31]
      formula := "year % 4 == 0" }
  | .islamic => some
    { epoch := 1948440
      ordinary := [30, 29, 30, 29, 30, 29, 30, 29, 30, 29, 30, 29]
      leap := [30, 29, 30, 29, 30, 29, 30, 29, 30, 29, 30, 30]
      formula := Islamic.leapFormula }
  | .table _ => none

section

variable {s : CalendarSystem} {l : Layout}

theorem layout_positive (described : s.layout? = some l) :
    l.ordinary ≠ [] ∧ ∀ leap, 0 ∉ l.lengths leap := by
  cases s <;> cases described <;> decide

theorem yearStart_one (described : s.layout? = some l) : s.yearStart 1 = l.epoch := by
  cases s <;> cases described <;> rfl

theorem monthLengths_eq (described : s.layout? = some l) (year : Int) :
    s.monthLengths year = l.lengths (s.isLeap year) := by
  cases s with
  | gregorian =>
    cases described
    cases leap : Civil.isLeap year <;>
      simp [monthLengths, isLeap, leap, Layout.lengths, Civil.monthLengths]
  | julian =>
    cases described
    cases leap : Julian.isLeap year <;>
      simp [monthLengths, isLeap, leap, Layout.lengths, Julian.monthLengths, Civil.monthLengths]
  | islamic =>
    cases described
    cases leap : Islamic.isLeap year <;>
      simp [monthLengths, isLeap, leap, Layout.lengths, Islamic.monthLengths]
  | table c => cases described

theorem compile_civilFormula :
    LeapRule.compile "(year % 4 == 0 && year % 100 != 0) || year % 400 == 0" =
      .ok ⟨"(year % 4 == 0 && year % 100 != 0) || year % 400 == 0",
        .or (.and (.compareInts .equal (.remainder .year 4) (.literal 0))
          (.compareInts .notEqual (.remainder .year 100) (.literal 0)))
          (.compareInts .equal (.remainder .year 400) (.literal 0))⟩ := by
  have read : LeapRule.tokenize "(year % 4 == 0 && year % 100 != 0) || year % 400 == 0" =
      .ok [⟨.openParen, 1⟩, ⟨.year, 2⟩, ⟨.percent, 7⟩, ⟨.integer 4, 9⟩, ⟨.equal, 11⟩,
        ⟨.integer 0, 14⟩, ⟨.and, 16⟩, ⟨.year, 19⟩, ⟨.percent, 24⟩, ⟨.integer 100, 26⟩,
        ⟨.notEqual, 30⟩, ⟨.integer 0, 33⟩, ⟨.closeParen, 34⟩, ⟨.or, 36⟩, ⟨.year, 39⟩,
        ⟨.percent, 44⟩, ⟨.integer 400, 46⟩, ⟨.equal, 50⟩, ⟨.integer 0, 53⟩] := by
    decide +kernel
  rw [LeapRule.compile, read]
  cbv

theorem exists_rule (described : s.layout? = some l) :
    ∃ rule, LeapRule.compile l.formula = .ok rule ∧ ∀ year, rule.isLeap year = s.isLeap year := by
  cases s with
  | gregorian =>
    cases described
    refine ⟨_, compile_civilFormula, ?_⟩
    intro year
    have differ : decide (year % 100 ≠ 0) = (year % 100 != 0) := decide_not
    show (decide (year % 4 = 0) && decide (year % 100 ≠ 0) || decide (year % 400 = 0)) =
      Civil.isLeap year
    rw [differ]
    rfl
  | julian =>
    cases described
    exact ⟨_, LeapRule.compile_everyFourth, fun _ => rfl⟩
  | islamic =>
    cases described
    exact ⟨_, Islamic.compile_leapFormula, Islamic.eval_leapCondition⟩
  | table c => cases described

end

theorem yearStart_congr {s t : CalendarSystem} (first : s.yearStart 1 = t.yearStart 1)
    (lengths : ∀ year, s.monthLengths year = t.monthLengths year) (year : Int) :
    s.yearStart year = t.yearStart year := by
  induction year using Int.inductionOn' (b := 1) with
  | zero => exact first
  | succ year _ ih => rw [yearStart_succ, yearStart_succ, ih, lengths]
  | pred year _ ih =>
    have step := s.yearStart_succ (year - 1)
    have step' := t.yearStart_succ (year - 1)
    rw [Int.sub_add_cancel] at step step'
    rw [lengths] at step
    omega

theorem toPivot_congr {s t : CalendarSystem} (first : s.yearStart 1 = t.yearStart 1)
    (lengths : ∀ year, s.monthLengths year = t.monthLengths year) {date : Ymd}
    (year : s.HasYear date.year) (year' : t.HasYear date.year) (has : s.HasDay date) :
    ∃ pivot, s.toPivot date = .ok pivot ∧ t.toPivot date = .ok pivot := by
  have has' : t.HasDay date := by rwa [HasDay, ← lengths]
  obtain ⟨pivot, there⟩ := toPivot_of_hasDay year has
  obtain ⟨pivot', there'⟩ := toPivot_of_hasDay year' has'
  have same : pivot = pivot' := by
    rw [(toPivot_eq there).2, (toPivot_eq there').2, yearStart_congr first lengths, lengths]
  exact ⟨pivot, there, same ▸ there'⟩

/-- Every definition that follows the layout of a built-in system makes a calendar with the days of
that system and their pivots. -/
theorem builtIn_eq_laidOut {s : CalendarSystem} {l : Layout} (described : s.layout? = some l)
    {d : ChronologyDefinition} (follows : d.Follows l) :
    ∃ c, TableCalendar.ofDefinition d = .ok c ∧
      ∀ date : Ymd, (s.HasDay date ↔ (CalendarSystem.table c).HasDay date) ∧
        (s.HasYear date.year → s.HasDay date → ∃ pivot, s.toPivot date = .ok pivot ∧
          (CalendarSystem.table c).toPivot date = .ok pivot) := by
  obtain ⟨rule, compiled, leaps⟩ := exists_rule described
  obtain ⟨nonempty, positive⟩ := layout_positive described
  obtain ⟨c, built, epoch, months⟩ := follows.exists_calendar nonempty positive compiled
  have lengths : ∀ year, s.monthLengths year = (CalendarSystem.table c).monthLengths year := by
    intro year
    rw [monthLengths_eq described, ← leaps]
    exact (months year).symm
  have first : s.yearStart 1 = (CalendarSystem.table c).yearStart 1 := by
    rw [yearStart_one described, ← epoch]
    exact c.yearStart_one.symm
  refine ⟨c, built, ?_⟩
  intro date
  constructor
  · rw [HasDay, HasDay, lengths]
  · intro year has
    exact toPivot_congr first lengths year True.intro has

def islamicDefinition : ChronologyDefinition where
  id := "hijri"
  name := none
  description := none
  epoch := 1948440
  months := (List.replicate 5 [⟨"", 30, none⟩, ⟨"", 29, none⟩]).flatten ++
    [⟨"", 30, some 30⟩, ⟨"", 29, some 30⟩]
  algorithm := .formula
  leapFormula := some Islamic.leapFormula

theorem builtIn_eq_laidOut_islamic :
    ∃ c, TableCalendar.ofDefinition islamicDefinition = .ok c ∧
      islamic.toPivot ⟨-1, 12, 30⟩ = .ok 1948085 ∧
      (CalendarSystem.table c).toPivot ⟨-1, 12, 30⟩ = .ok 1948085 := by
  have follows : islamicDefinition.Follows ⟨1948440,
      [30, 29, 30, 29, 30, 29, 30, 29, 30, 29, 30, 29],
      [30, 29, 30, 29, 30, 29, 30, 29, 30, 29, 30, 30], Islamic.leapFormula⟩ :=
    ⟨by decide, rfl, rfl, by decide, rfl⟩
  obtain ⟨c, built, agree⟩ := builtIn_eq_laidOut (s := .islamic) rfl follows
  obtain ⟨pivot, there, there'⟩ := (agree ⟨-1, 12, 30⟩).2 True.intro (by decide)
  have known : islamic.toPivot ⟨-1, 12, 30⟩ = .ok 1948085 := by decide
  rw [known] at there
  cases there
  exact ⟨c, built, known, there'⟩

end CalendarSystem

end Holidays
