/-!
Lists whose entries have keys. An entry put under a key that is there already takes the place of
the old one; so each key keeps the position of its first entry and has the value of its last.
-/
namespace Holidays.Keyed

variable {α κ : Type} [DecidableEq κ]

def find? (key : α → κ) (k : κ) (xs : List α) : Option α := xs.find? fun x => key x = k

def put (key : α → κ) (x : α) : List α → List α
  | [] => [x]
  | y :: ys => if key y = key x then x :: ys else y :: put key x ys

def putAll (key : α → κ) (xs ys : List α) : List α := ys.foldl (fun acc y => put key y acc) xs

def erase (key : α → κ) (k : κ) (xs : List α) : List α := xs.filter fun x => key x ≠ k

theorem keys_put (key : α → κ) (x : α) (xs : List α) :
    (put key x xs).map key = if key x ∈ xs.map key then xs.map key else xs.map key ++ [key x] := by
  induction xs with
  | nil => simp [put]
  | cons y ys ih =>
    by_cases same : key y = key x
    · simp [put, same]
    · have other : ¬ key x = key y := fun e => same e.symm
      simp only [put, if_neg same, List.map_cons, ih, List.mem_cons, other, false_or]
      split <;> rfl

theorem find?_put_self (key : α → κ) (x : α) (xs : List α) :
    find? key (key x) (put key x xs) = some x := by
  induction xs with
  | nil => simp [put, find?]
  | cons y ys ih =>
    by_cases same : key y = key x
    · simp [put, find?, same]
    · simpa [put, find?, same] using ih

theorem find?_put_of_ne (key : α → κ) {x : α} {k : κ} (other : key x ≠ k) (xs : List α) :
    find? key k (put key x xs) = find? key k xs := by
  induction xs with
  | nil => simp [put, find?, other]
  | cons y ys ih =>
    by_cases same : key y = key x
    · have : key y ≠ k := same ▸ other
      simp [put, find?, same, other]
    · by_cases here : key y = k
      · have apart : ¬ k = key x := fun e => other e.symm
        simp [put, find?, here, apart]
      · simpa [put, find?, same, here] using ih

theorem find?_put (key : α → κ) (x : α) (k : κ) (xs : List α) :
    find? key k (put key x xs) = if key x = k then some x else find? key k xs := by
  split
  · next same => rw [← same, find?_put_self]
  · next other => exact find?_put_of_ne key other xs

end Holidays.Keyed
