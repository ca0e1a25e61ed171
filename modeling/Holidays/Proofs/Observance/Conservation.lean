import Holidays.Proofs.Observance.Shifted

namespace Holidays.Observance

theorem nearest?_business {weekend : Weekend} {d t : Date} (h : nearest? weekend d = some t) :
    weekend.covers t = false := by
  unfold nearest? at h
  split at h
  · obtain ⟨distance, -, found⟩ := List.exists_of_findSome?_eq_some h
    simpa using List.find?_some found
  · next business =>
    cases h
    simpa using business

theorem nearest?_of_business {weekend : Weekend} {d : Date} (h : weekend.covers d = false) :
    nearest? weekend d = some d := by
  rw [nearest?, if_neg (by simp [h])]

theorem length_nextAvailable (weekend : Weekend) (dates : List Date) :
    (nextAvailable weekend dates).length = dates.length := by
  unfold nextAvailable
  split <;> simp

/-- A day for a holiday, if it has one: on a business day its own, else some business day. -/
def Suits (weekend : Weekend) (o : Occurrence) (target : Option Date) : Prop :=
  (weekend.covers o.date = false → target = some o.date) ∧
    ∀ d, target = some d → weekend.covers d = false

theorem targets_suit {policy : ShiftPolicy} (moves : policy ≠ .none) (weekend : Weekend)
    (os : List Occurrence) :
    List.Forall₂ (Suits weekend) os (targets policy weekend (os.map Occurrence.date)) := by
  cases policy with
  | none => exact absurd rfl moves
  | nearest =>
    rw [targets, List.map_map, List.forall₂_map_right_iff, List.forall₂_same]
    intro o _
    exact ⟨nearest?_of_business, fun d found => nearest?_business found⟩
  | nextAvailable =>
    rw [targets, List.forall₂_iff_zip]
    refine ⟨by rw [length_nextAvailable, List.length_map], ?_⟩
    intro o target listed
    refine ⟨target_of_staying listed, ?_⟩
    rintro d rfl
    cases waits : weekend.covers o.date with
    | true => exact (target_of_waiting listed waits).1
    | false =>
      cases target_of_staying listed waits
      exact waits

inductive Outcome (weekend : Weekend) (shiftable : List String) (range : DateRange) :
    Occurrence → Option Occurrence → Prop where
  | stays {o : Occurrence} (business : weekend.covers o.date = false) :
      Outcome weekend shiftable range o (some o)
  | lost {o : Occurrence} (waits : weekend.covers o.date = true) :
      Outcome weekend shiftable range o none
  | moved {o : Occurrence} {d : Date} (waits : weekend.covers o.date = true)
      (free : o.key ∈ shiftable) (business : weekend.covers d = false) (other : d ≠ o.date)
      (inside : range.Contains d) :
      Outcome weekend shiftable range o
        (some ⟨o.key, d, o.name, o.provenance ++ ";observed-from=" ++ o.date.text⟩)

section

variable {weekend : Weekend} {shiftable : List String} {range : DateRange}

theorem Outcome.business {o a : Occurrence} (h : Outcome weekend shiftable range o (some a)) :
    weekend.covers a.date = false := by
  cases h with
  | stays business => exact business
  | moved _ _ business => exact business

theorem outcome_of_suits {o : Occurrence} {target : Option Date} (suits : Suits weekend o target)
    (kept : weekend.covers o.date = true → o.key ∈ shiftable) :
    Outcome weekend shiftable range o (move? range o target) := by
  obtain ⟨own, business⟩ := suits
  cases waits : weekend.covers o.date with
  | false =>
    obtain rfl := own waits
    simpa [move?] using Outcome.stays waits
  | true =>
    cases target with
    | none => exact .lost waits
    | some d =>
      have open' := business d rfl
      have other : d ≠ o.date := by
        rintro rfl
        rw [waits] at open'
        cases open'
      simp only [move?, if_neg other]
      split
      · next inside => exact .moved waits (kept waits) open' other inside
      · exact .lost waits

theorem exists_outcomes {policy : ShiftPolicy} (moves : policy ≠ .none) (weekend : Weekend)
    (shiftable : List String) (range : DateRange) (os : List Occurrence) :
    ∃ outcomes, List.Forall₂ (Outcome weekend shiftable range) os outcomes ∧
      apply policy weekend shiftable range os = outcomes.filterMap id := by
  have suited := targets_suit moves weekend
    (os.filter fun o => shiftable.contains o.key || !weekend.covers o.date)
  have kept (o : Occurrence) (target : Option Date)
      (keep : (shiftable.contains o.key || !weekend.covers o.date) = true)
      (suits : Suits weekend o target) :
      Outcome weekend shiftable range o (move? range o target) :=
    outcome_of_suits suits fun waits => by simpa [waits] using keep
  have dropped (o : Occurrence)
      (drop : (shiftable.contains o.key || !weekend.covers o.date) = false) :
      Outcome weekend shiftable range o none :=
    .lost (by simpa using (Bool.or_eq_false_iff.mp drop).2)
  rw [apply, if_neg moves]
  exact exists_forall₂_of_filter suited kept dropped

theorem business_of_mem_apply {policy : ShiftPolicy} (moves : policy ≠ .none)
    {os : List Occurrence} {a : Occurrence} (h : a ∈ apply policy weekend shiftable range os) :
    weekend.covers a.date = false := by
  obtain ⟨outcomes, related, left⟩ := exists_outcomes moves weekend shiftable range os
  rw [left, List.mem_filterMap] at h
  obtain ⟨outcome, listed, rfl⟩ := h
  obtain ⟨o, -, became⟩ := exists_of_forall₂_right related listed
  exact became.business

end

/-- Under a policy that moves holidays each one has its outcome, and what is left is read off the
outcomes in the order of the list. No holiday is left on a weekend day. -/
theorem apply_conserves {policy : ShiftPolicy} (moves : policy ≠ .none) (weekend : Weekend)
    (shiftable : List String) (range : DateRange) (os : List Occurrence) :
    ∃ outcomes, List.Forall₂ (Outcome weekend shiftable range) os outcomes ∧
      apply policy weekend shiftable range os = outcomes.filterMap id ∧
      ∀ a ∈ apply policy weekend shiftable range os, weekend.covers a.date = false := by
  obtain ⟨outcomes, related, left⟩ := exists_outcomes moves weekend shiftable range os
  exact ⟨outcomes, related, left, fun a held => business_of_mem_apply moves held⟩

/-- A day of the first week of 2022, which starts on a Saturday. -/
def newYearWeek (day : Fin 7) : Date := (Date.ofNumber? (738156 + day)).getD .first

def newYearHolidays : List Occurrence :=
  [⟨"inventory", newYearWeek 5, "Inventory", "rule:inventory"⟩,
    ⟨"market", newYearWeek 0, "Market", "rule:market"⟩,
    ⟨"second-day", newYearWeek 1, "Second Day", "rule:second-day"⟩,
    ⟨"new-year", newYearWeek 0, "New Year", "rule:new-year"⟩,
    ⟨"bridge", newYearWeek 2, "Bridge Day", "rule:bridge"⟩]

def newYearKeys : List String := ["new-year", "second-day"]

def newYearRange : DateRange := ⟨newYearWeek 0, newYearWeek 2, by decide⟩

/-- The market may not move, New Year would move out of the range, and the inventory beyond it
stays. -/
theorem apply_conserves_newYear :
    ShiftPolicy.nearest ≠ .none ∧
    (apply .nearest .satSun newYearKeys newYearRange newYearHolidays).map
      (fun o => (o.key, o.date, o.provenance)) =
        [("inventory", newYearWeek 5, "rule:inventory"),
          ("second-day", newYearWeek 2, "rule:second-day;observed-from=2022-01-02"),
          ("bridge", newYearWeek 2, "rule:bridge")] ∧
    ∃ outcomes,
      List.Forall₂ (Outcome .satSun newYearKeys newYearRange) newYearHolidays outcomes ∧
      apply .nearest .satSun newYearKeys newYearRange newYearHolidays =
        outcomes.filterMap id := by
  have moves : ShiftPolicy.nearest ≠ .none := by decide
  obtain ⟨outcomes, related, left, -⟩ :=
    apply_conserves moves .satSun newYearKeys newYearRange newYearHolidays
  exact ⟨moves, by decide +kernel, outcomes, related, left⟩

end Holidays.Observance
