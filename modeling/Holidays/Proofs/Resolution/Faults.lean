import Holidays.Proofs.Resolution.Flattening
import Mathlib.Data.List.Chain

namespace Holidays

open Relation (ReflTransGen)

namespace Catalog

structure UnknownCalendar (c : Catalog) (id x : String) : Prop where
  named : x = id ∨ ∃ child, ReflTransGen c.Extends id child ∧ c.Extends child x
  absent : c.calendar? x = none

structure UnknownModule (c : Catalog) (id x : String) : Prop where
  named : (∃ calendar, ReflTransGen c.Extends id calendar ∧ c.Brings calendar x) ∨
    ∃ user, c.UsesFrom id user ∧ c.Uses user x
  absent : c.module? x = none

structure Cycle (c : Catalog) (id : String) (cycle : List Entry) : Prop where
  moves : 2 ≤ cycle.length
  closed : cycle.head? = cycle.getLast?
  once : (cycle.map Entry.text).dropLast.Nodup
  alike :
    (∃ ids : List String, cycle = ids.map Entry.calendar ∧ ids.IsChain c.Extends ∧
      ∀ k ∈ ids, ReflTransGen c.Extends id k) ∨
    ∃ ids : List String, cycle = ids.map Entry.module ∧ ids.IsChain c.Uses ∧
      ∀ m ∈ ids, c.UsesFrom id m

/-- What is wrong with the catalog where the calendar fails with this error. -/
def Faulty (c : Catalog) (id : String) : ResolutionError → Prop
  | .unknownCalendar x => c.UnknownCalendar id x
  | .unknownModule x => c.UnknownModule id x
  | .circular cycle => c.Cycle id cycle

variable {c : Catalog}

theorem exists_calendars {walk : List Entry} (steps : walk.IsChain c.Needs)
    (ends : ∃ k, walk.getLast? = some (.calendar k)) :
    ∃ ids : List String, walk = ids.map Entry.calendar ∧ ids.IsChain c.Extends := by
  obtain ⟨k, ends⟩ := ends
  induction walk with
  | nil => cases ends
  | cons e rest ih =>
    cases rest with
    | nil =>
      cases ends
      exact ⟨[k], rfl, .singleton k⟩
    | cons f rest =>
      obtain ⟨edge, onward⟩ := List.isChain_cons_cons.mp steps
      obtain ⟨ids, same, chained⟩ := ih onward (by simpa using ends)
      cases ids with
      | nil => cases same
      | cons first ids =>
        obtain ⟨rfl, rfl⟩ := List.cons.inj same
        -- No module needs a calendar.
        cases e with
        | module m => exact absurd edge not_needs_module_calendar
        | calendar j =>
          exact ⟨j :: first :: ids, rfl, .cons_cons (needs_calendar_calendar.mp edge) chained⟩

theorem exists_modules {walk : List Entry} {m : String}
    (steps : (Entry.module m :: walk).IsChain c.Needs) :
    ∃ ids : List String, walk = ids.map Entry.module ∧ (m :: ids).IsChain c.Uses := by
  induction walk generalizing m with
  | nil => exact ⟨[], rfl, .singleton m⟩
  | cons e rest ih =>
    obtain ⟨edge, onward⟩ := List.isChain_cons_cons.mp steps
    cases e with
    | calendar k => exact absurd edge not_needs_module_calendar
    | module used =>
      obtain ⟨ids, rfl, chained⟩ := ih onward
      exact ⟨used :: ids, rfl, .cons_cons (needs_module_module.mp edge) chained⟩

theorem faulty_missing {id : String} {e : Entry} (reached : ReflTransGen c.Needs (.calendar id) e)
    (absent : c.needs? e = none) : c.Faulty id (missing e) := by
  cases e with
  | calendar x =>
    refine ⟨?_, Option.map_eq_none_iff.mp absent⟩
    rcases ReflTransGen.cases_tail (reaches_calendar.mp reached) with same | onward
    · exact .inl same
    · exact .inr onward
  | module x =>
    refine ⟨?_, Option.map_eq_none_iff.mp absent⟩
    obtain ⟨k, first, up, brings, down⟩ := reaches_module_of_calendar.mp reached
    rcases ReflTransGen.cases_tail down with rfl | ⟨user, walk, uses⟩
    · exact .inl ⟨k, up, brings⟩
    · exact .inr ⟨user, ⟨k, first, up, brings, walk⟩, uses⟩

theorem cycle_of_path {id : String} {path : List Entry} {e : Entry} (onPath : e ∈ path)
    (once : path.Nodup) (steps : (path ++ [e]).IsChain c.Needs)
    (visited : ∀ x ∈ path, ReflTransGen c.Needs (.calendar id) x) :
    c.Cycle id (path.dropWhile (· ≠ e) ++ [e]) := by
  obtain ⟨front, back, rfl, new⟩ := List.eq_append_cons_of_mem onPath
  have cut : (front ++ e :: back).dropWhile (· ≠ e) = e :: back := by
    have other : ∀ x ∈ front, x ≠ e := fun x held same => new (same ▸ held)
    rw [List.dropWhile_append_of_pos (by simpa using other)]
    simp
  rw [List.append_assoc] at steps
  have steps : (e :: (back ++ [e])).IsChain c.Needs := steps.right_of_append
  have reached : ∀ x ∈ e :: (back ++ [e]), ReflTransGen c.Needs (.calendar id) x := by
    intro x held
    apply visited
    simp only [List.mem_append, List.mem_cons, List.not_mem_nil, or_false] at held ⊢
    tauto
  rw [cut, List.cons_append]
  constructor
  · simp
  · simp [List.getLast?_cons]
  · rw [← List.cons_append, List.map_append, List.map_singleton, List.dropLast_concat]
    exact once.of_append_right.map Entry.text_injective
  · cases e with
    | calendar k =>
      obtain ⟨ids, same, chained⟩ := exists_calendars steps ⟨k, by simp [List.getLast?_cons]⟩
      refine .inl ⟨ids, same, chained, ?_⟩
      intro j held
      exact reaches_calendar.mp (reached _ (same ▸ List.mem_map_of_mem held))
    | module m =>
      obtain ⟨ids, same, chained⟩ := exists_modules steps
      have same : Entry.module m :: (back ++ [.module m]) = (m :: ids).map Entry.module := by
        rw [same, List.map_cons]
      refine .inr ⟨m :: ids, same, chained, ?_⟩
      intro j held
      exact reaches_module_of_calendar.mp (reached _ (same ▸ List.mem_map_of_mem held))

/-- A traversal that stops names an entry that is not held, or a cycle: each entry of the path needs
the next one, and the last of them every entry that is asked for. -/
theorem order_faulty {id : String} {path chain es : List Entry} {error : ResolutionError}
    (run : c.order path chain es = .error error) (once : path.Nodup)
    (steps : ∀ e ∈ es, (path ++ [e]).IsChain c.Needs)
    (visited : ∀ x ∈ path, ReflTransGen c.Needs (.calendar id) x)
    (asked : ∀ e ∈ es, ReflTransGen c.Needs (.calendar id) e) : c.Faulty id error := by
  fun_induction order c path chain es with
  | case1 => cases run
  | case2 path chain e es held ih =>
    exact ih run once (List.forall_mem_cons.mp steps).2 visited (List.forall_mem_cons.mp asked).2
  | case3 path chain e es new onPath =>
    cases run
    exact cycle_of_path onPath once (List.forall_mem_cons.mp steps).1 visited
  | case4 path chain e es new onPath absent =>
    cases run
    exact faulty_missing (List.forall_mem_cons.mp asked).1 absent
  | case5 path chain e es new onPath needs found error ran ih =>
    cases run
    have here := (List.forall_mem_cons.mp asked).1
    have edge : ∀ f ∈ needs, c.Needs e f := fun f named => ⟨needs, found, named⟩
    refine ih ran ?_ ?_ ?_ ?_
    · have apart : ∀ x ∈ path, x ≠ e := fun x held same => onPath (same ▸ held)
      simpa [List.nodup_append] using ⟨once, apart⟩
    · intro f named
      rw [List.append_assoc]
      have onward := (List.forall_mem_cons.mp steps).1
      exact List.isChain_append_cons_cons.mpr ⟨onward, edge f named, .singleton f⟩
    · intro x held
      rcases List.mem_append.mp held with old | last
      · exact visited x old
      · exact List.mem_singleton.mp last ▸ here
    · exact fun f named => here.tail (edge f named)
  | case6 path chain e es new onPath needs found below ran ihBelow ihRest =>
    exact ihRest run once (List.forall_mem_cons.mp steps).2 visited
      (List.forall_mem_cons.mp asked).2

theorem chain_faulty {id : String} {error : ResolutionError} (run : c.chain id = .error error) :
    c.Faulty id error := by
  refine order_faulty run .nil ?_ (by simp) ?_
  · exact List.forall_mem_singleton.mpr (.singleton _)
  · exact List.forall_mem_singleton.mpr .refl

theorem resolve_eq_error {id : String} {error : ResolutionError} :
    c.resolve id = .error error ↔ c.chain id = .error error := by
  unfold resolve
  cases c.chain id <;> simp [Except.map]

end Catalog

namespace Resolver

/-- What a failing resolution reports is wrong with the catalog, and the calendar leads to it. -/
theorem resolve_error_faulty {c : Catalog} {r : Resolver} (h : r.Reachable c) {id : String}
    {error : ResolutionError} (run : (r.resolve id).1 = .error error) : c.Faulty id error := by
  rw [h.resolve_eq, Catalog.resolve_eq_error] at run
  exact Catalog.chain_faulty run

def oneName : Catalog where
  calendars :=
    [⟨"lunar", .empty, ["solar"], ["lunar"], none, [], [], []⟩,
      ⟨"solar", .empty, [], ["lunar"], none, [], [], []⟩]
  modules :=
    [⟨"lunar", ["phases", "solar"], [], [], []⟩, ⟨"phases", [], [], [], []⟩,
      ⟨"solar", ["phases", "lunar"], [], [], []⟩]

/-- The calendars are met first, but the cycle is one of the modules. -/
theorem resolve_error_faulty_oneName :
    (Resolver.of oneName).Reachable oneName ∧
    ((Resolver.of oneName).resolve "lunar").1 =
      .error (.circular [.module "lunar", .module "solar", .module "lunar"]) ∧
    oneName.Cycle "lunar" [.module "lunar", .module "solar", .module "lunar"] := by
  have start : (Resolver.of oneName).Reachable oneName := .new
  have stopped : oneName.chain "lunar" =
      .error (.circular [.module "lunar", .module "solar", .module "lunar"]) := by cbv
  have run : ((Resolver.of oneName).resolve "lunar").1 =
      .error (.circular [.module "lunar", .module "solar", .module "lunar"]) := by
    rw [start.resolve_eq, Catalog.resolve_eq_error, stopped]
  exact ⟨start, run, resolve_error_faulty start run⟩

end Resolver

end Holidays
