import Holidays.Catalog

/-!
The order in which a calendar and all that it needs are merged: each entry once, after everything
it needs. An entry that is needed while its own needs are being met closes a cycle.
-/
namespace Holidays

inductive ResolutionError where
  | unknownCalendar (id : String)
  | unknownModule (id : String)
  | circular (cycle : List Entry)
deriving DecidableEq, Repr

def ResolutionError.message : ResolutionError → String
  | .unknownCalendar id => "Unknown calendar: " ++ id
  | .unknownModule id => "Unknown module: " ++ id
  | .circular cycle => "Circular dependency: " ++ " -> ".intercalate (cycle.map Entry.text)

namespace Catalog

def missing : Entry → ResolutionError
  | .calendar id => .unknownCalendar id
  | .module id => .unknownModule id

theorem length_filter_lt {α : Type} {p q : α → Bool} {xs : List α} {x : α} (held : x ∈ xs)
    (narrower : ∀ y, p y → q y) (kept : q x) (dropped : ¬ p x) :
    (xs.filter p).length < (xs.filter q).length := by
  have twice : xs.filter p = (xs.filter q).filter p := by
    rw [List.filter_filter]
    congr 1
    funext y
    by_cases here : p y <;> simp_all
  rw [twice, List.length_filter_lt_length_iff_exists]
  exact ⟨x, by simp [held, kept], dropped⟩

def offPath (c : Catalog) (path : List Entry) : List Entry := c.entries.filter (· ∉ path)

theorem offPath_append_lt {c : Catalog} {path : List Entry} {e : Entry} {needs : List Entry}
    (new : e ∉ path) (h : c.needs? e = some needs) :
    (c.offPath (path ++ [e])).length < (c.offPath path).length := by
  apply length_filter_lt (mem_entries_of_needs? h) <;> simp_all

/-- `chain` with `es` and all that they need appended, below the entries of `path`. -/
def order (c : Catalog) (path chain : List Entry) (es : List Entry) :
    Except ResolutionError (List Entry) :=
  match es with
  | [] => .ok chain
  | e :: es =>
    if e ∈ chain then c.order path chain es
    else if _onPath : e ∈ path then .error (.circular (path.dropWhile (· ≠ e) ++ [e]))
    else
      match _found : c.needs? e with
      | none => .error (missing e)
      | some needs =>
        match c.order (path ++ [e]) chain needs with
        | .error error => .error error
        | .ok below => c.order path (below ++ [e]) es
termination_by ((c.offPath path).length, es.length)
decreasing_by
  · exact Prod.Lex.right _ (Nat.lt_succ_self _)
  · exact Prod.Lex.left _ _ (offPath_append_lt _onPath _found)
  · exact Prod.Lex.right _ (Nat.lt_succ_self _)

def chain (c : Catalog) (id : String) : Except ResolutionError (List Entry) :=
  c.order [] [] [.calendar id]

end Catalog

end Holidays
