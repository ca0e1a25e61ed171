import Holidays.Proofs.Generation.Anchors
import Mathlib.Data.Set.Card

namespace Holidays

def Direction.Ahead (direction : Direction) (a d : Date) : Prop :=
  match direction with
  | .before => d < a
  | .after => a < d

instance (direction : Direction) (a d : Date) : Decidable (direction.Ahead a d) :=
  match direction with
  | .before => inferInstanceAs (Decidable (d < a))
  | .after => inferInstanceAs (Decidable (a < d))

theorem Direction.ahead_iff {direction : Direction} {a d : Date} :
    direction.Ahead a d ↔ 0 < direction.step * (d.number - a.number) := by
  cases direction with
  | before =>
    show d.number < a.number ↔ 0 < -1 * (d.number - a.number)
    omega
  | after =>
    show a.number < d.number ↔ 0 < 1 * (d.number - a.number)
    omega

namespace Date

/-- The dates with a weekday that lie strictly between a day number and a date ahead of it. -/
def weekdaysFrom (weekday : Weekday) (direction : Direction) (start : Int) (d : Date) : Set Date :=
  {e | e.weekday = weekday ∧ 0 < direction.step * (e.number - start) ∧ direction.Ahead e d}

def weekdaysBetween (weekday : Weekday) (direction : Direction) (a d : Date) : Set Date :=
  {e | e.weekday = weekday ∧ direction.Ahead a e ∧ direction.Ahead e d}

theorem weekdaysBetween_eq (weekday : Weekday) (direction : Direction) (a d : Date) :
    weekdaysBetween weekday direction a d = weekdaysFrom weekday direction a.number d := by
  ext e
  simp only [weekdaysBetween, weekdaysFrom, Set.mem_ofPred_eq, Direction.ahead_iff (a := a)]

variable {weekday : Weekday} {direction : Direction} {start : Int} {d e : Date}

theorem weekday_eq_iff : e.weekday = d.weekday ↔ e.number % 7 = d.number % 7 := by
  simp only [Date.weekday, Weekday.ofMonday_eq_iff, Weekday.index_ofMonday]
  omega

theorem number_weekdaysFrom (low : first.number ≤ start + 1) (high : start ≤ last.number + 1)
    (reached : d.weekday = weekday) {weeks : Nat}
    (passed : (weeks : Int) = (direction.step * (d.number - start) - 1) / 7) :
    number '' weekdaysFrom weekday direction start d =
      (fun week : Nat => d.number - direction.step * (7 * (week + 1))) ''
        (Finset.range weeks : Set Nat) := by
  have here := d.number_bounds
  subst reached
  ext n
  simp only [weekdaysFrom, Set.mem_image, Set.mem_ofPred_eq, Finset.coe_range, Set.mem_Iio,
    Direction.ahead_iff, weekday_eq_iff]
  constructor
  · rintro ⟨e, ⟨same, met, before⟩, rfl⟩
    refine ⟨((direction.step * (d.number - e.number)) / 7 - 1).toNat, ?_, ?_⟩ <;>
      cases direction <;> simp only [Direction.step] at * <;> omega
  · rintro ⟨week, within, rfl⟩
    -- Such a day lies between the start and the date, so it is a date too.
    obtain ⟨e, moved⟩ : ∃ e, d.addDays? (-(direction.step * (7 * (week + 1)))) = some e := by
      apply exists_addDays? <;> cases direction <;> simp only [Direction.step] at * <;> omega
    rw [addDays?_eq_some_iff] at moved
    refine ⟨e, ⟨?_, ?_, ?_⟩, by omega⟩ <;>
      cases direction <;> simp only [Direction.step] at * <;> omega

theorem ncard_weekdaysFrom (low : first.number ≤ start + 1) (high : start ≤ last.number + 1)
    (reached : d.weekday = weekday) (ahead : 0 < direction.step * (d.number - start)) :
    ((weekdaysFrom weekday direction start d).ncard : Int) =
      (direction.step * (d.number - start) - 1) / 7 := by
  obtain ⟨weeks, passed⟩ : ∃ weeks : Nat,
      (weeks : Int) = (direction.step * (d.number - start) - 1) / 7 :=
    ⟨((direction.step * (d.number - start) - 1) / 7).toNat, by omega⟩
  have distinct : Function.Injective number := fun _ _ => ext_number
  have apart : Function.Injective fun week : Nat =>
      d.number - direction.step * (7 * (week + 1)) := by
    intro week week' same
    cases direction <;> simp only [Direction.step] at same <;> omega
  rw [← passed, ← Set.ncard_image_of_injective _ distinct,
    number_weekdaysFrom low high reached passed, Set.ncard_image_of_injective _ apart,
    Set.ncard_coe_finset, Finset.card_range]

end Date

/-- The run of a search from a date: how many steps it tries, and what it ends with. -/
inductive Seeks (weekday : Weekday) (direction : Direction) : Date → Nat → Option Date → Prop where
  | reached {date : Date} : date.weekday = weekday → Seeks weekday direction date 0 (some date)
  | stuck {date : Date} : date.weekday ≠ weekday → date.addDays? direction.step = none →
      Seeks weekday direction date 1 none
  | step {date next : Date} {steps : Nat} {found : Option Date} : date.weekday ≠ weekday →
      date.addDays? direction.step = some next → Seeks weekday direction next steps found →
      Seeks weekday direction date (steps + 1) found

inductive SeeksFrom (weekday : Weekday) (direction : Direction) (anchor : Date) :
    Nat → Option Date → Prop where
  | stuck : anchor.addDays? direction.step = none → SeeksFrom weekday direction anchor 1 none
  | step {next : Date} {steps : Nat} {found : Option Date} :
      anchor.addDays? direction.step = some next → Seeks weekday direction next steps found →
      SeeksFrom weekday direction anchor (steps + 1) found

def missingDays (weekday : Weekday) (direction : Direction) (date : Date) : Int :=
  (direction.step * (weekday.index - (date.number - 1))) % 7

section

variable {weekday : Weekday} {direction : Direction} {date next : Date}

theorem missingDays_pos (other : date.weekday ≠ weekday) :
    1 ≤ missingDays weekday direction date := by
  have apart : (weekday.index : Int) ≠ (date.number - 1) % 7 := by
    rw [← index_weekday]
    exact fun same => other (Weekday.index_inj (by omega))
  have bound := Weekday.index_lt weekday
  unfold missingDays
  cases direction <;> simp only [Direction.step] <;> omega

theorem missingDays_step (other : date.weekday ≠ weekday)
    (stepped : date.addDays? direction.step = some next) :
    missingDays weekday direction next + 1 = missingDays weekday direction date := by
  have positive : 1 ≤ missingDays weekday direction date := missingDays_pos other
  rw [Date.addDays?_eq_some_iff] at stepped
  unfold missingDays at *
  cases direction <;> simp only [Direction.step] at * <;> omega

/-- Every step of a search takes one from the days that are missing, or is its last. -/
theorem exists_seeks (weekday : Weekday) (direction : Direction) (date : Date) :
    ∃ steps : Nat, (steps : Int) ≤ missingDays weekday direction date ∧
      Seeks weekday direction date steps (seekWeekday? weekday direction date) := by
  fun_induction seekWeekday? weekday direction date with
  | case1 date reached => exact ⟨0, Int.emod_nonneg _ (by decide), .reached reached⟩
  | case2 date other stuck => exact ⟨1, missingDays_pos other, .stuck other stuck⟩
  | case3 date other next stepped ih =>
    obtain ⟨steps, few, run⟩ := ih
    have missing := missingDays_step other stepped
    exact ⟨steps + 1, by omega, .step other stepped run⟩

/-- A search goes to the nearest date with its weekday in at most seven steps, and from there the
weeks that are left at once. -/
theorem exists_seeksFrom (w : WeekdayOffset) (anchor : Date) :
    ∃ steps ≤ 7, ∃ nearest, SeeksFrom w.weekday w.direction anchor steps nearest ∧
      weekdaySearch? anchor w = nearest.bind fun d =>
        d.addDays? (w.direction.step * 7 * (w.nth.toNat - 1 : Nat)) := by
  cases stepped : anchor.addDays? w.direction.step with
  | none => exact ⟨1, by omega, none, .stuck stepped, by simp [weekdaySearch?, stepped]⟩
  | some next =>
    obtain ⟨steps, few, run⟩ := exists_seeks w.weekday w.direction next
    have week : missingDays w.weekday w.direction next < 7 := Int.emod_lt_of_pos _ (by decide)
    exact ⟨steps + 1, by omega, _, .step stepped run, by simp [weekdaySearch?, stepped]⟩

end

theorem Offset.leads_weekday_iff {w : WeekdayOffset} (counted : 1 ≤ w.nth.toNat) {a d : Date} :
    (weekday w).Leads a d ↔ d.weekday = w.weekday ∧ w.direction.Ahead a d ∧
      (Date.weekdaysBetween w.weekday w.direction a d).ncard = w.nth.toNat - 1 := by
  have here := a.number_bounds
  simp only [Leads, Direction.ahead_iff]
  apply and_congr_right
  intro reached
  have count (ahead : 0 < w.direction.step * (d.number - a.number)) :
      ((Date.weekdaysBetween w.weekday w.direction a d).ncard : Int) =
        (w.direction.step * (d.number - a.number) - 1) / 7 := by
    rw [Date.weekdaysBetween_eq]
    exact Date.ncard_weekdaysFrom (by omega) (by omega) reached ahead
  constructor
  · rintro ⟨near, far⟩
    have passed := count (by omega)
    omega
  · rintro ⟨ahead, passed⟩
    have := count ahead
    omega

/-- A search finds a date just where as many dates with the weekday lie strictly between it and the
anchor as are passed over. It ends, with a date or at the ends of the calendar, after at most seven
steps from the anchor. -/
theorem weekdaySearch?_eq_some_iff {w : WeekdayOffset} (counted : 1 ≤ w.nth.toNat) (a : Date) :
    (∀ d, weekdaySearch? a w = some d ↔
      d.weekday = w.weekday ∧ w.direction.Ahead a d ∧
        (Date.weekdaysBetween w.weekday w.direction a d).ncard = w.nth.toNat - 1) ∧
    ∃ steps ≤ 7, ∃ nearest, SeeksFrom w.weekday w.direction a steps nearest ∧
      weekdaySearch? a w = nearest.bind fun d =>
        d.addDays? (w.direction.step * 7 * (w.nth.toNat - 1 : Nat)) := by
  refine ⟨fun d => ?_, exists_seeksFrom w a⟩
  have valid : Offset.Valid (.weekday w) := counted
  rw [← Offset.leads_weekday_iff counted]
  exact Offset.from?_eq_some_iff valid

/-- 2022-11-01, a Tuesday. -/
def novemberFirst : Date := (Date.ofNumber? 738460).getD .first

def secondTuesday : Date := (Date.ofNumber? 738474).getD .first

/-- The anchor is no Tuesday after itself, so the second one is two weeks on. -/
theorem weekdaySearch?_tuesday :
    novemberFirst.weekday = .tue ∧
    weekdaySearch? novemberFirst ⟨.tue, 2, .after⟩ = some secondTuesday ∧
    (Date.weekdaysBetween .tue .after novemberFirst secondTuesday).ncard = 1 := by
  have counted : 1 ≤ (2 : UInt32).toNat := by decide
  have found : weekdaySearch? novemberFirst ⟨.tue, 2, .after⟩ = some secondTuesday := by
    decide +kernel
  obtain ⟨finds, -⟩ := weekdaySearch?_eq_some_iff (w := ⟨.tue, 2, .after⟩) counted novemberFirst
  exact ⟨by decide, found, ((finds secondTuesday).mp found).2.2⟩

end Holidays
