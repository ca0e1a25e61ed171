namespace Holidays

inductive Weekday where
  | mon
  | tue
  | wed
  | thu
  | fri
  | sat
  | sun
deriving DecidableEq, Repr, Inhabited

namespace Weekday

def all : List Weekday := [.mon, .tue, .wed, .thu, .fri, .sat, .sun]

theorem mem_all (d : Weekday) : d ∈ all := by cases d <;> decide

def ofMonday (n : Int) : Weekday :=
  match (n % 7).toNat with
  | 0 => .mon
  | 1 => .tue
  | 2 => .wed
  | 3 => .thu
  | 4 => .fri
  | 5 => .sat
  | _ => .sun

def index : Weekday → Nat
  | .mon => 0
  | .tue => 1
  | .wed => 2
  | .thu => 3
  | .fri => 4
  | .sat => 5
  | .sun => 6

theorem index_lt (d : Weekday) : d.index < 7 := by cases d <;> decide

theorem index_ofMonday (n : Int) : ((ofMonday n).index : Int) = n % 7 := by
  have low := Int.emod_nonneg n (b := 7) (by decide)
  have high := Int.emod_lt_of_pos n (b := 7) (by decide)
  obtain ⟨k, hk⟩ := Int.eq_ofNat_of_zero_le low
  rw [hk] at high
  have : k = 0 ∨ k = 1 ∨ k = 2 ∨ k = 3 ∨ k = 4 ∨ k = 5 ∨ k = 6 := by omega
  rcases this with h | h | h | h | h | h | h <;> subst h <;> simp [ofMonday, hk, index]

theorem index_inj {d e : Weekday} (h : d.index = e.index) : d = e := by
  cases d <;> cases e <;> first | rfl | cases h

theorem ofMonday_eq_iff {n : Int} {d : Weekday} : ofMonday n = d ↔ n % 7 = d.index := by
  rw [← index_ofMonday]
  exact ⟨fun h => h ▸ rfl, fun h => index_inj (Int.ofNat.inj h)⟩

def shortName : Weekday → String
  | .mon => "Mon"
  | .tue => "Tue"
  | .wed => "Wed"
  | .thu => "Thu"
  | .fri => "Fri"
  | .sat => "Sat"
  | .sun => "Sun"

def fullName : Weekday → String
  | .mon => "Monday"
  | .tue => "Tuesday"
  | .wed => "Wednesday"
  | .thu => "Thursday"
  | .fri => "Friday"
  | .sat => "Saturday"
  | .sun => "Sunday"

/-- The short or the full English name; the case of its ASCII letters does not matter. -/
def ofText? (s : String) : Option Weekday :=
  let same (name : String) := s.toList.map Char.toLower == name.toList.map Char.toLower
  all.find? fun d => same d.shortName || same d.fullName

theorem ofText?_shortName (d : Weekday) : ofText? d.shortName = some d := by
  cases d <;> decide

end Weekday

structure Weekend where
  has : Weekday → Bool

namespace Weekend

@[ext] theorem ext {v w : Weekend} (h : ∀ d, v.has d = w.has d) : v = w := by
  cases v
  cases w
  simpa using funext h

instance : DecidableEq Weekend := fun v w =>
  decidable_of_iff (∀ d ∈ Weekday.all, v.has d = w.has d)
    ⟨fun h => ext fun d => h d (Weekday.mem_all d), fun h _ _ => h ▸ rfl⟩

def ofList (days : List Weekday) : Weekend := ⟨fun d => days.contains d⟩

def insert (w : Weekend) (day : Weekday) : Weekend := ⟨fun d => d == day || w.has d⟩

def toList (w : Weekend) : List Weekday := Weekday.all.filter w.has

def satSun : Weekend := ofList [.sat, .sun]

def isWhole (w : Weekend) : Bool := Weekday.all.all w.has

theorem ofList_toList (w : Weekend) : ofList w.toList = w := by
  ext d
  have member : d ∈ w.toList ↔ w.has d = true := by simp [toList, Weekday.mem_all]
  rw [Bool.eq_iff_iff, ← member]
  exact List.contains_iff_mem

theorem isWhole_iff {w : Weekend} : w.isWhole = true ↔ ∀ d, w.has d = true := by
  simp [isWhole, List.all_eq_true, Weekday.mem_all]

end Weekend

end Holidays
