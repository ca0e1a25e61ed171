/-!
Reading a text from its front. A reader hands back what is left with the proof that it took
something, so a loop over readers ends.
-/
namespace Holidays.Text

/-- What a reader leaves of `cs`: less than it was given. -/
abbrev Rest (cs : List Char) := { rest : List Char // rest.length < cs.length }

abbrev Reader (α : Type) := (cs : List Char) → Option (α × Rest cs)

def run (kind : Char → Bool) : Reader (List Char) := fun cs =>
  if shorter : (cs.dropWhile kind).length < cs.length then
    some (cs.takeWhile kind, ⟨cs.dropWhile kind, shorter⟩)
  else none

def taking {α : Type} (step : List Char → Option (α × List Char)) : Reader α := fun cs =>
  (step cs).bind fun (a, rest) =>
    if shorter : rest.length < cs.length then some (a, ⟨rest, shorter⟩) else none

def behind {α β : Type} {c : Char} {cs : List Char} (f : α → β) (found : Option (α × Rest cs)) :
    Option (β × Rest (c :: cs)) :=
  found.map fun (a, rest) => (f a, ⟨rest.val, Nat.lt_succ_of_lt rest.property⟩)

def nextLine (cs : List Char) : List Char := (cs.dropWhile (· ≠ '\n')).drop 1

theorem length_nextLine_le (cs : List Char) : (nextLine cs).length ≤ cs.length := by
  have : (cs.dropWhile (· ≠ '\n')).length ≤ cs.length := (List.dropWhile_sublist _).length_le
  rw [nextLine, List.length_drop]
  omega

def hexValue? (c : Char) : Option Nat :=
  if '0' ≤ c ∧ c ≤ '9' then some (c.toNat - 48)
  else if 'a' ≤ c ∧ c ≤ 'f' then some (c.toNat - 87)
  else if 'A' ≤ c ∧ c ≤ 'F' then some (c.toNat - 55)
  else none

def hexNumber? (cs : List Char) : Option Nat :=
  cs.foldlM (fun value c => (hexValue? c).map (16 * value + ·)) 0

def hexChar? (digits : List Char) : Option Char :=
  (hexNumber? digits).bind fun n => if n.isValidChar then some (Char.ofNat n) else none

end Holidays.Text
