import Holidays.Proofs.Resolution.Flattening
import Holidays.Resolution.Traversal

/-!
The walk with its marks does what the order of merging says. What is in progress is what is on the
path, what is done is in the chain, and what has been merged is the chain so far.
-/
namespace Holidays

def ResolutionError.named : ResolutionError → TraversalError
  | .unknownCalendar id => .unknownCalendar id
  | .unknownModule id => .unknownModule id
  | .circular cycle => .circular (cycle.map Entry.text)

namespace Traversal

variable {c : Catalog} {t : Traversal} {path chain : List Entry} {e : Entry}

/-- The bookkeeping of a walk, in step with the path and the chain that it stands for. -/
structure InStep (c : Catalog) (t : Traversal) (path chain : List Entry) : Prop where
  inProgress : ∀ e, t.mark? e = some .inProgress ↔ e ∈ path
  done : ∀ e, t.mark? e = some .done ↔ e ∈ chain
  names : t.path = path.map Entry.text
  listed : t.chain = chain.map Entry.text
  merged : t.merged = chain.foldl (Merged.add c) .empty

theorem inStep_start (c : Catalog) : InStep c start [] [] where
  inProgress e := by cases e <;> simp [mark?, start, Keyed.find?]
  done e := by cases e <;> simp [mark?, start, Keyed.find?]
  names := rfl
  listed := rfl
  merged := rfl

namespace InStep

theorem unvisited_iff (h : InStep c t path chain) : t.mark? e = none ↔ e ∉ path ∧ e ∉ chain := by
  rw [← h.inProgress, ← h.done]
  cases t.mark? e with
  | none => simp
  | some m => cases m <;> simp

theorem enter (h : InStep c t path chain) (new : t.mark? e = none) :
    InStep c (t.enter e) (path ++ [e]) chain where
  inProgress f := by
    rw [mark?_enter, List.mem_append, List.mem_singleton, ← h.inProgress]
    by_cases same : e = f <;> simp [same, eq_comm]
  done f := by
    rw [mark?_enter, ← h.done]
    by_cases same : e = f
    · subst same
      simp [new]
    · simp [same]
  names := by simp [Traversal.enter, h.names]
  listed := by
    rw [← h.listed]
    cases e <;> rfl
  merged := by
    rw [← h.merged]
    cases e <;> rfl

theorem leave (h : InStep c t (path ++ [e]) chain) (once : e ∉ path) :
    InStep c (t.leave c e) path (chain ++ [e]) where
  inProgress f := by
    rw [mark?_leave]
    by_cases same : e = f
    · subst same
      simp [once]
    · simp [same, h.inProgress, Ne.symm same]
  done f := by
    rw [mark?_leave, List.mem_append, List.mem_singleton, ← h.done]
    by_cases same : e = f <;> simp [same, eq_comm]
  names := by simp [Traversal.leave, h.names]
  listed := by simp [Traversal.leave, h.listed]
  merged := by simp [Traversal.leave, h.merged]

/-- The name of an entry on the path is found there, so the cycle starts with it. -/
theorem cycle_eq (h : InStep c t path chain) (onPath : e ∈ path) :
    t.cycle e = (path.dropWhile (· ≠ e) ++ [e]).map Entry.text := by
  have named : (fun name => name == e.text) ∘ Entry.text = fun f => !decide (f ≠ e) := by
    funext f
    by_cases same : f = e <;> simp [same, Entry.text_injective.eq_iff]
  have found : t.path.findIdx? (· == e.text) = some (path.findIdx fun f => !decide (f ≠ e)) := by
    rw [h.names, List.findIdx?_map, named, List.findIdx?_eq_some_iff_findIdx_eq]
    exact ⟨List.findIdx_lt_length_of_exists ⟨e, onPath, by simp⟩, rfl⟩
  rw [Traversal.cycle, found, h.names, List.dropWhile_eq_drop_findIdx_not]
  simp

end InStep

end Traversal

namespace Catalog

open Traversal (InStep)

variable {c : Catalog} {t : Traversal} {e : Entry} {path chain es : List Entry}

theorem walk_nil : c.walk t [] = .ok t := by
  rw [walk, visit]
  rfl

theorem walk_of_done (marked : t.mark? e = some .done) : c.walk t (e :: es) = c.walk t es := by
  rw [walk, visit]
  split <;> simp_all [walk]

theorem walk_of_inProgress (marked : t.mark? e = some .inProgress) :
    c.walk t (e :: es) = .error (.circular (t.cycle e)) := by
  rw [walk, visit]
  split <;> simp_all [Except.map]

theorem walk_of_missing (new : t.mark? e = none) (absent : c.needs? e = none) :
    c.walk t (e :: es) = .error (unknown e) := by
  rw [walk, visit]
  split
  · simp_all
  · simp_all
  · split
    · rfl
    · simp_all

theorem walk_of_needs {needs : List Entry} (new : t.mark? e = none)
    (found : c.needs? e = some needs) :
    c.walk t (e :: es) =
      c.walk (t.enter e) needs >>= fun below => c.walk (below.leave c e) es := by
  simp only [walk]
  rw [visit]
  split
  · simp_all
  · simp_all
  · split
    · simp_all
    · next needs' found' =>
      rw [found] at found'
      cases found'
      cases c.visit (t.enter e) needs with
      | error error => rfl
      | ok below =>
        simp only [Except.map, bind, Except.bind]
        cases c.visit (below.val.leave c e) es <;> rfl

inductive Follows (c : Catalog) (path : List Entry) :
    Except TraversalError Traversal → Except ResolutionError (List Entry) → Prop
  | done {t : Traversal} {chain : List Entry} (h : InStep c t path chain) :
      Follows c path (.ok t) (.ok chain)
  | stopped (error : ResolutionError) : Follows c path (.error error.named) (.error error)

theorem walk_follows (h : InStep c t path chain) :
    Follows c path (c.walk t es) (c.order path chain es) := by
  -- The bookkeeping is in step again each time an entry has been left.
  fun_induction order c path chain es generalizing t with
  | case1 path chain =>
    rw [walk_nil]
    exact .done h
  | case2 path chain e es held ih =>
    rw [walk_of_done ((h.done e).mpr held)]
    exact ih h
  | case3 path chain e es new onPath =>
    rw [walk_of_inProgress ((h.inProgress e).mpr onPath), h.cycle_eq onPath]
    exact .stopped (.circular _)
  | case4 path chain e es new offPath missed =>
    rw [walk_of_missing (h.unvisited_iff.mpr ⟨offPath, new⟩) missed]
    cases e with
    | calendar id => exact .stopped (.unknownCalendar id)
    | module id => exact .stopped (.unknownModule id)
  | case5 path chain e es new offPath needs found error ran ih =>
    have unvisited := h.unvisited_iff.mpr ⟨offPath, new⟩
    rw [walk_of_needs unvisited found]
    have below := ih (h.enter unvisited)
    rw [ran] at below
    generalize c.walk (t.enter e) needs = visited at below
    cases below
    exact .stopped error
  | case6 path chain e es new offPath needs found below ran ihBelow ihRest =>
    have unvisited := h.unvisited_iff.mpr ⟨offPath, new⟩
    rw [walk_of_needs unvisited found]
    have visited := ihBelow (h.enter unvisited)
    rw [ran] at visited
    generalize c.walk (t.enter e) needs = outcome at visited
    cases visited with
    | done inStep => exact ihRest (inStep.leave offPath)

/-- The walk with its bookkeeping resolves what the order of merging resolves, to the same
specification or with the same error. -/
theorem traverse_eq (c : Catalog) (id : String) :
    c.traverse id = (c.resolve id).mapError ResolutionError.named := by
  have follows : Follows c [] (c.walk .start [.calendar id]) (c.chain id) :=
    walk_follows (Traversal.inStep_start c)
  simp only [traverse, resolve]
  generalize c.walk .start [.calendar id] = walked at follows
  generalize c.chain id = ordered at follows
  cases follows with
  | done h =>
    simp [Except.map, Except.mapError, Traversal.specification, Merged.specification, h.merged,
      h.listed]
  | stopped error => rfl

end Catalog

end Holidays
