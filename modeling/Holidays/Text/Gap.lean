import Holidays.Text.Reader

namespace Holidays.Text

structure Gap where
  drop : List Char → List Char
  length_drop_le : ∀ cs, (drop cs).length ≤ cs.length

namespace Gap

def ofKind (kind : Char → Bool) : Gap where
  drop := List.dropWhile kind
  length_drop_le _ := (List.dropWhile_sublist _).length_le

def mark (gap : Gap) : Reader Char := fun cs =>
  have fewer := gap.length_drop_le cs
  match h : gap.drop cs with
  | [] => none
  | c :: rest => some (c, ⟨rest, by rw [h, List.length_cons] at fewer; omega⟩)

/-- Items up to the closing mark, a comma after each but perhaps the last. -/
def items {α : Type} (gap : Gap) (item : Reader α) (close : Char) (cs : List Char) :
    Option (List α × Rest cs) :=
  have fewer := gap.length_drop_le cs
  match gap.mark cs with
  | none => none
  | some (c, after) =>
    if c = close then some ([], after)
    else
      match item (gap.drop cs) with
      | none => none
      | some (first, ⟨rest, less⟩) =>
        match gap.mark rest with
        | none => none
        | some (d, ⟨left, lesser⟩) =>
          have smaller : left.length < cs.length := by omega
          if d = close then some ([first], ⟨left, smaller⟩)
          else if d = ',' then
            match items gap item close left with
            | none => none
            | some (others, ⟨last, least⟩) => some (first :: others, ⟨last, by omega⟩)
          else none
termination_by cs.length

def pair {α β : Type} (gap : Gap) (name : Reader α) (sign : Char) (value : Reader β) :
    Reader (α × β) := fun cs =>
  match name cs with
  | none => none
  | some (k, ⟨rest, less⟩) =>
    match gap.mark rest with
    | none => none
    | some (c, ⟨after, lesser⟩) =>
      if c = sign then
        (value (gap.drop after)).map fun (v, ⟨left, least⟩) => ((k, v), ⟨left, by
          have := gap.length_drop_le after
          omega⟩)
      else none

end Gap

end Holidays.Text
