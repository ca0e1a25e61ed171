import Holidays.Proofs.Resolution.Flattening

namespace Holidays

open Relation (ReflTransGen)

namespace Catalog

section

variable {c : Catalog} {path chain es : List Entry} {e : Entry}

theorem order_of_missing (new : e ∉ chain) (offPath : e ∉ path) (absent : c.needs? e = none) :
    c.order path chain (e :: es) = .error (missing e) := by
  rw [order, if_neg new, dif_neg offPath]
  split
  · rfl
  · next found =>
    rw [absent] at found
    cases found

theorem order_of_needs {needs : List Entry} (new : e ∉ chain) (offPath : e ∉ path)
    (found : c.needs? e = some needs) :
    c.order path chain (e :: es) =
      (c.order (path ++ [e]) chain needs).bind fun below => c.order path (below ++ [e]) es := by
  rw [order, if_neg new, dif_neg offPath]
  split
  · next absent =>
    rw [absent] at found
    cases found
  · next found' =>
    rw [found'] at found
    cases found
    cases c.order (path ++ [e]) chain needs <;> rfl

end

variable {a b : Catalog}

theorem order_congr {path chain es : List Entry}
    (same : ∀ e ∈ es, ∀ f, ReflTransGen a.Needs e f → b.needs? f = a.needs? f) :
    b.order path chain es = a.order path chain es := by
  fun_induction order a path chain es with
  | case1 => rw [order]
  | case2 path chain e es held ih =>
    rw [order, if_pos held]
    exact ih (List.forall_mem_cons.mp same).2
  | case3 path chain e es new onPath => rw [order, if_neg new, dif_pos onPath]
  | case4 path chain e es new offPath absent =>
    have here := (List.forall_mem_cons.mp same).1 e .refl
    exact order_of_missing new offPath (here.trans absent)
  | case5 path chain e es new offPath needs found error ran ih =>
    obtain ⟨first, -⟩ := List.forall_mem_cons.mp same
    have below := ih fun f named g walk => first g (.head ⟨needs, found, named⟩ walk)
    rw [order_of_needs new offPath ((first e .refl).trans found), below, ran]
    rfl
  | case6 path chain e es new offPath needs found below ran ihBelow ihRest =>
    obtain ⟨first, rest⟩ := List.forall_mem_cons.mp same
    have below' := ihBelow fun f named g walk => first g (.head ⟨needs, found, named⟩ walk)
    rw [order_of_needs new offPath ((first e .refl).trans found), below', ran]
    exact ihRest rest

def Keeps (b a : Catalog) : Entry → Prop
  | .calendar k => ∀ d, a.calendar? k = some d → b.calendar? k = some d
  | .module m => ∀ d, a.module? m = some d → b.module? m = some d

theorem Keeps.same {e : Entry} {needs : List Entry} (kept : b.Keeps a e)
    (found : a.needs? e = some needs) : b.needs? e = a.needs? e ∧ b.contents e = a.contents e := by
  cases e with
  | calendar k =>
    obtain ⟨d, held, -⟩ := Option.map_eq_some_iff.mp found
    simp [needs?, contents, held, kept d held]
  | module m =>
    obtain ⟨d, held, -⟩ := Option.map_eq_some_iff.mp found
    simp [needs?, contents, held, kept d held]

theorem resolve_of_keeps {id : String} {s : Specification} (ran : a.resolve id = .ok s)
    (kept : ∀ e, ReflTransGen a.Needs (.calendar id) e → b.Keeps a e) :
    b.resolve id = .ok s := by
  obtain ⟨chain, run, rfl⟩ := resolve_eq_ok.mp ran
  have sound := wellFormed_iff.mp (chain_ok_iff.mp ⟨chain, run⟩)
  have same : ∀ e, ReflTransGen a.Needs (.calendar id) e →
      b.needs? e = a.needs? e ∧ b.contents e = a.contents e := by
    intro e walk
    obtain ⟨⟨needs, found⟩, -⟩ := sound e walk
    exact (kept e walk).same found
  have run' : b.chain id = .ok chain := by
    rw [← run]
    exact order_congr (List.forall_mem_singleton.mpr fun f walk => (same f walk).1)
  have contents : chain.map b.contents = chain.map a.contents := by
    apply List.map_congr_left
    intro e held
    exact (same e (((linear_of_chain run).entries e).mp held)).2
  rw [resolve_eq_ok]
  refine ⟨chain, run', ?_⟩
  rw [Merged.foldl_add, Merged.foldl_add, contents]

end Catalog

namespace Resolver

variable {a b : Catalog} {r t : Resolver}

/-- What one catalog resolves, another resolves alike that holds the documents which the calendar
leads to, whatever else it holds. -/
theorem resolve_unrelated (hr : r.Reachable a) (ht : t.Reachable b) {id : String}
    {s : Specification}
    (calendars : ∀ k d, ReflTransGen a.Extends id k → a.calendar? k = some d →
      b.calendar? k = some d)
    (modules : ∀ m d, a.UsesFrom id m → a.module? m = some d → b.module? m = some d)
    (ran : (r.resolve id).1 = .ok s) : (t.resolve id).1 = .ok s := by
  rw [hr.resolve_eq] at ran
  rw [ht.resolve_eq]
  refine Catalog.resolve_of_keeps ran ?_
  intro e walk
  cases e with
  | calendar k =>
    intro d held
    exact calendars k d (Catalog.reaches_calendar.mp walk) held
  | module m =>
    intro d held
    exact modules m d (Catalog.reaches_module_of_calendar.mp walk) held

/-- The same documents in another order, with others that have faults of their own. -/
def crowded : Catalog where
  calendars :=
    ⟨"western", .empty, ["western"], ["lost"], some .nearest, [], [], []⟩ ::
      sharedAncestor.calendars.reverse
  modules := ⟨"desk", ["desk"], [], [], []⟩ :: sharedAncestor.modules

theorem resolve_unrelated_crowded :
    ∃ s, ((of sharedAncestor).resolve "desk").1 = .ok s ∧
      ((of crowded).resolve "desk").1 = .ok s ∧ crowded.resolve "western" =
        .error (.circular [.calendar "western", .calendar "western"]) := by
  have start : (of sharedAncestor).Reachable sharedAncestor := .new
  have run : sharedAncestor.chain "desk" =
      .ok [.module "western", .calendar "federal", .calendar "banks", .calendar "exchange",
        .calendar "desk"] := by cbv
  have ran := (start.resolve_eq "desk").trans (Catalog.resolve_eq_ok.mpr ⟨_, run, rfl⟩)
  have calendars : ∀ d ∈ sharedAncestor.calendars, crowded.calendar? d.id = some d := by decide
  have modules : ∀ d ∈ sharedAncestor.modules, crowded.module? d.id = some d := by decide
  refine ⟨_, ran, resolve_unrelated start .new ?_ ?_ ran, by cbv⟩
  · intro k d _ found
    have same : d.id = k := by simpa using List.find?_some found
    exact same ▸ calendars d (List.mem_of_find?_eq_some found)
  · intro m d _ found
    have same : d.id = m := by simpa using List.find?_some found
    exact same ▸ modules d (List.mem_of_find?_eq_some found)

end Resolver

end Holidays
