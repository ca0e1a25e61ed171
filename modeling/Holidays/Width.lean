namespace Holidays

def Fits32 (n : Int) : Prop := -2147483648 ≤ n ∧ n ≤ 2147483647

def Fits64 (n : Int) : Prop := -9223372036854775808 ≤ n ∧ n ≤ 9223372036854775807

instance (n : Int) : Decidable (Fits32 n) := inferInstanceAs (Decidable (_ ∧ _))

instance (n : Int) : Decidable (Fits64 n) := inferInstanceAs (Decidable (_ ∧ _))

def fit32? (n : Int) : Option Int := if Fits32 n then some n else none

def fit64? (n : Int) : Option Int := if Fits64 n then some n else none

def natural32? (n : Int) : Option Nat :=
  if 0 ≤ n ∧ n ≤ 4294967295 then some n.toNat else none

theorem fit32?_eq_some_iff {n m : Int} : fit32? n = some m ↔ Fits32 n ∧ n = m := by
  simp [fit32?]

theorem fit64?_eq_some_iff {n m : Int} : fit64? n = some m ↔ Fits64 n ∧ n = m := by
  simp [fit64?]

def span (first last : Int) : List Int :=
  (List.range (last + 1 - first).toNat).map fun i : Nat => first + (i : Int)

theorem mem_span {first last n : Int} : n ∈ span first last ↔ first ≤ n ∧ n ≤ last := by
  simp only [span, List.mem_map, List.mem_range]
  constructor
  · rintro ⟨i, hi, rfl⟩
    omega
  · intro h
    exact ⟨(n - first).toNat, by omega, by omega⟩

end Holidays
