import Holidays.Civil.Range
import Holidays.Generation.Occurrence

/-!
Where holidays on weekend days are observed. `nearest?` looks at one date alone; `assign` hands out
business days one by one, so that no two weekend holidays are observed on one day.
-/
namespace Holidays.Observance

/-- The closest business day, the later one of two equally close. -/
def nearest? (weekend : Weekend) (d : Date) : Option Date :=
  if weekend.covers d then
    (span 1 7).findSome? fun distance =>
      ([d.addDays? distance, d.addDays? (-distance)].filterMap id).find? fun c =>
        !weekend.covers c
  else some d

def nextFree? (weekend : Weekend) (claimed : List Date) (d : Date) : Option Date :=
  match _found : d.addDays? 1 with
  | none => none
  | some next =>
    if weekend.covers next || claimed.contains next then nextFree? weekend claimed next
    else some next
termination_by (Date.last.number - d.number).toNat
decreasing_by
  rw [Date.addDays?, Date.ofNumber?_eq_some_iff] at _found
  have high : next.number ≤ Date.last.number := Int.le_sub_one_of_lt next.notAfter
  omega

def assign (weekend : Weekend) (claimed : List Date) : List (Nat × Date) → List (Nat × Option Date)
  | [] => []
  | (place, d) :: rest =>
    let target := nextFree? weekend claimed d
    (place, target) :: assign weekend (target.toList ++ claimed) rest

def pending (weekend : Weekend) (dates : List Date) : List (Nat × Date) :=
  ((dates.zipIdx.filter fun x => weekend.covers x.1).map fun x => (x.2, x.1)).mergeSort
    fun x y => decide (x.2 ≤ y.2)

/-- For each of the dates, the day on which it is observed. Dates that are business days stay and
are claimed from the start. -/
def nextAvailable (weekend : Weekend) (dates : List Date) : List (Option Date) :=
  if weekend.isWhole then dates.map fun d => if weekend.covers d then none else some d
  else
    let claimed := dates.filter fun d => !weekend.covers d
    let assigned := assign weekend claimed (pending weekend dates)
    dates.zipIdx.map fun (d, place) =>
      if weekend.covers d then (assigned.lookup place).getD none else some d

def targets (policy : ShiftPolicy) (weekend : Weekend) (dates : List Date) : List (Option Date) :=
  match policy with
  | .none => dates.map some
  | .nearest => dates.map (nearest? weekend)
  | .nextAvailable => nextAvailable weekend dates

/-- An occurrence on the day it is observed; lost where there is none, or none in the range. -/
def move? (range : DateRange) (o : Occurrence) (target : Option Date) : Option Occurrence :=
  match target with
  | none => none
  | some d =>
    if d = o.date then some o
    else if range.Contains d then
      some { o with date := d, provenance := o.provenance ++ ";observed-from=" ++ o.date.text }
    else none

/-- Under a policy, weekend occurrences whose key is not shiftable are dropped and the others
move. -/
def apply (policy : ShiftPolicy) (weekend : Weekend) (shiftable : List String) (range : DateRange)
    (os : List Occurrence) : List Occurrence :=
  if policy = .none then os
  else
    let kept := os.filter fun o => shiftable.contains o.key || !weekend.covers o.date
    (kept.zip (targets policy weekend (kept.map Occurrence.date))).filterMap fun (o, target) =>
      move? range o target

end Holidays.Observance
