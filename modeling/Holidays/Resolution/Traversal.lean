import Holidays.Resolution.Merge

/-!
One walk from a calendar, with its bookkeeping: marks on what has been visited, the names of what is
being visited, outermost first, and what has been merged so far. An entry is merged when the walk
leaves it.
-/
namespace Holidays

inductive Mark where
  | inProgress
  | done
deriving DecidableEq

inductive TraversalError where
  | unknownCalendar (id : String)
  | unknownModule (id : String)
  | circular (cycle : List String)
deriving DecidableEq

structure Traversal where
  calendars : List (String × Mark)
  modules : List (String × Mark)
  path : List String
  merged : Merged
  chain : List String

namespace Traversal

def start : Traversal := ⟨[], [], [], .empty, []⟩

def mark? (t : Traversal) : Entry → Option Mark
  | .calendar id => (Keyed.find? Prod.fst id t.calendars).map Prod.snd
  | .module id => (Keyed.find? Prod.fst id t.modules).map Prod.snd

def mark (t : Traversal) (m : Mark) : Entry → Traversal
  | .calendar id => { t with calendars := Keyed.put Prod.fst (id, m) t.calendars }
  | .module id => { t with modules := Keyed.put Prod.fst (id, m) t.modules }

def enter (t : Traversal) (e : Entry) : Traversal :=
  { t.mark .inProgress e with path := t.path ++ [e.text] }

def leave (c : Catalog) (t : Traversal) (e : Entry) : Traversal :=
  { t.mark .done e with
    path := t.path.dropLast
    merged := Merged.add c t.merged e
    chain := t.chain ++ [e.text] }

/-- The cycle that an edge back to `e` closes, from where its name first appears on the path. -/
def cycle (t : Traversal) (e : Entry) : List String :=
  t.path.drop ((t.path.findIdx? (· == e.text)).getD 0) ++ [e.text]

theorem mark?_mark (t : Traversal) (m : Mark) (e f : Entry) :
    (t.mark m e).mark? f = if e = f then some m else t.mark? f := by
  cases e <;> cases f <;> simp [mark?, mark, Keyed.find?_put]
  all_goals split <;> rfl

@[simp] theorem mark?_enter (t : Traversal) (e f : Entry) :
    (t.enter e).mark? f = if e = f then some .inProgress else t.mark? f := t.mark?_mark _ e f

@[simp] theorem mark?_leave (c : Catalog) (t : Traversal) (e f : Entry) :
    (t.leave c e).mark? f = if e = f then some .done else t.mark? f := t.mark?_mark _ e f

def specification (t : Traversal) (id : String) : Specification :=
  { t.merged.specification id [] with chain := t.chain }

end Traversal

namespace Catalog

def unmarked (c : Catalog) (t : Traversal) : Nat :=
  (c.entries.filter fun e => (t.mark? e).isNone).length

theorem unmarked_leave_le (c d : Catalog) (t : Traversal) (e : Entry) :
    c.unmarked (t.leave d e) ≤ c.unmarked t := by
  simp only [unmarked, ← List.countP_eq_length_filter]
  apply List.countP_mono_left
  intro f _ unvisited
  simp only [Traversal.mark?_leave] at unvisited
  split at unvisited
  · cases unvisited
  · exact unvisited

theorem unmarked_enter_lt {c : Catalog} {t : Traversal} {e : Entry} (new : t.mark? e = none)
    (held : e ∈ c.entries) : c.unmarked (t.enter e) < c.unmarked t := by
  apply length_filter_lt held
  · intro f unvisited
    simp only [Traversal.mark?_enter] at unvisited
    split at unvisited
    · cases unvisited
    · exact unvisited
  · simp [new]
  · simp

def unknown : Entry → TraversalError
  | .calendar id => .unknownCalendar id
  | .module id => .unknownModule id

/-- Visits entries in turn. Marks are only ever added, so the walk ends. -/
def visit (c : Catalog) (t : Traversal) (es : List Entry) :
    Except TraversalError { next : Traversal // c.unmarked next ≤ c.unmarked t } :=
  match es with
  | [] => .ok ⟨t, Nat.le_refl _⟩
  | e :: es =>
    match _unvisited : t.mark? e with
    | some .done => c.visit t es
    | some .inProgress => .error (.circular (t.cycle e))
    | none =>
      match _found : c.needs? e with
      | none => .error (unknown e)
      | some needs =>
        have fewer := unmarked_enter_lt _unvisited (mem_entries_of_needs? _found)
        match c.visit (t.enter e) needs with
        | .error error => .error error
        | .ok ⟨below, _⟩ =>
          have := c.unmarked_leave_le c below e
          match c.visit (below.leave c e) es with
          | .error error => .error error
          | .ok ⟨next, _⟩ => .ok ⟨next, by omega⟩
termination_by (c.unmarked t, es.length)
decreasing_by
  · exact Prod.Lex.right _ (Nat.lt_succ_self _)
  · exact Prod.Lex.left _ _ fewer
  · exact Prod.Lex.left _ _ (by omega)

def walk (c : Catalog) (t : Traversal) (es : List Entry) : Except TraversalError Traversal :=
  (c.visit t es).map Subtype.val

def traverse (c : Catalog) (id : String) : Except TraversalError Specification :=
  (c.walk .start [.calendar id]).map fun t => t.specification id

end Catalog

end Holidays
