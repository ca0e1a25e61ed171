import Holidays.Resolution.Resolver
import Mathlib.Logic.Relation

namespace Holidays

open Relation (ReflTransGen TransGen)

namespace Catalog

def Extends (c : Catalog) (child parent : String) : Prop :=
  ∃ d, c.calendar? child = some d ∧ parent ∈ d.parents

def Brings (c : Catalog) (calendar module : String) : Prop :=
  ∃ d, c.calendar? calendar = some d ∧ module ∈ d.uses

def Uses (c : Catalog) (user used : String) : Prop :=
  ∃ d, c.module? user = some d ∧ used ∈ d.uses

def UsesFrom (c : Catalog) (id module : String) : Prop :=
  ∃ k first, ReflTransGen c.Extends id k ∧ c.Brings k first ∧ ReflTransGen c.Uses first module

structure WellFormed (c : Catalog) (id : String) : Prop where
  isCalendar : ∃ d, c.calendar? id = some d
  ancestors : ∀ k, ReflTransGen c.Extends id k → ∃ d, c.calendar? k = some d
  modules : ∀ m, c.UsesFrom id m → ∃ d, c.module? m = some d
  noAncestorCycle : ∀ k, ReflTransGen c.Extends id k → ¬ TransGen c.Extends k k
  noModuleCycle : ∀ m, c.UsesFrom id m → ¬ TransGen c.Uses m m

def Needs (c : Catalog) (e f : Entry) : Prop := ∃ needs, c.needs? e = some needs ∧ f ∈ needs

variable {c : Catalog}

theorem needs_calendar {id : String} {f : Entry} :
    c.Needs (.calendar id) f ↔ ∃ d, c.calendar? id = some d ∧
      f ∈ d.parents.map Entry.calendar ++ d.uses.map Entry.module := by
  simp only [Needs, needs?, Option.map_eq_some_iff]
  constructor
  · rintro ⟨_, ⟨d, found, rfl⟩, named⟩
    exact ⟨d, found, named⟩
  · rintro ⟨d, found, named⟩
    exact ⟨_, ⟨d, found, rfl⟩, named⟩

theorem needs_module {id : String} {f : Entry} :
    c.Needs (.module id) f ↔ ∃ d, c.module? id = some d ∧ f ∈ d.uses.map Entry.module := by
  simp only [Needs, needs?, Option.map_eq_some_iff]
  constructor
  · rintro ⟨_, ⟨d, found, rfl⟩, named⟩
    exact ⟨d, found, named⟩
  · rintro ⟨d, found, named⟩
    exact ⟨_, ⟨d, found, rfl⟩, named⟩

theorem needs_calendar_calendar {child parent : String} :
    c.Needs (.calendar child) (.calendar parent) ↔ c.Extends child parent := by
  simp [needs_calendar, Extends]

theorem needs_calendar_module {calendar module : String} :
    c.Needs (.calendar calendar) (.module module) ↔ c.Brings calendar module := by
  simp [needs_calendar, Brings]

theorem needs_module_module {user used : String} :
    c.Needs (.module user) (.module used) ↔ c.Uses user used := by
  simp [needs_module, Uses]

theorem not_needs_module_calendar {user calendar : String} :
    ¬ c.Needs (.module user) (.calendar calendar) := by
  simp [needs_module]

theorem exists_module_of_reaches {m : String} {e : Entry}
    (h : ReflTransGen c.Needs (.module m) e) :
    ∃ used, e = .module used ∧ ReflTransGen c.Uses m used := by
  induction h with
  | refl => exact ⟨m, rfl, .refl⟩
  | @tail mid last _ edge ih =>
    obtain ⟨used, rfl, walk⟩ := ih
    cases last with
    | calendar id => exact absurd edge not_needs_module_calendar
    | module id => exact ⟨id, rfl, walk.tail (needs_module_module.1 edge)⟩

theorem reaches_module {m used : String} :
    ReflTransGen c.Needs (.module m) (.module used) ↔ ReflTransGen c.Uses m used := by
  constructor
  · intro h
    obtain ⟨used', same, walk⟩ := exists_module_of_reaches h
    cases same
    exact walk
  · intro h
    exact h.lift Entry.module fun _ _ edge => needs_module_module.2 edge

theorem reaches_calendar {id k : String} :
    ReflTransGen c.Needs (.calendar id) (.calendar k) ↔ ReflTransGen c.Extends id k := by
  constructor
  · intro h
    generalize same : Entry.calendar k = e at h
    induction h generalizing k with
    | refl => cases same; exact .refl
    | @tail mid last _ edge ih =>
      subst same
      cases mid with
      | calendar j => exact (ih rfl).tail (needs_calendar_calendar.1 edge)
      | module j => exact absurd edge not_needs_module_calendar
  · intro h
    exact h.lift Entry.calendar fun _ _ edge => needs_calendar_calendar.2 edge

theorem reaches_module_of_calendar {id m : String} :
    ReflTransGen c.Needs (.calendar id) (.module m) ↔ c.UsesFrom id m := by
  constructor
  · intro h
    generalize same : Entry.module m = e at h
    induction h generalizing m with
    | refl => cases same
    | @tail mid last walk edge ih =>
      subst same
      cases mid with
      | calendar k =>
        exact ⟨k, m, reaches_calendar.1 walk, needs_calendar_module.1 edge, .refl⟩
      | module j =>
        obtain ⟨k, first, up, brings, down⟩ := ih rfl
        exact ⟨k, first, up, brings, down.tail (needs_module_module.1 edge)⟩
  · rintro ⟨k, first, up, brings, down⟩
    have toFirst := (reaches_calendar.2 up).tail (needs_calendar_module.2 brings)
    exact toFirst.trans (reaches_module.2 down)

theorem loops_calendar {k : String} :
    TransGen c.Needs (.calendar k) (.calendar k) ↔ TransGen c.Extends k k := by
  simp only [TransGen.tail'_iff]
  constructor
  · rintro ⟨e, walk, edge⟩
    cases e with
    | calendar j => exact ⟨j, reaches_calendar.1 walk, needs_calendar_calendar.1 edge⟩
    | module j => exact absurd edge not_needs_module_calendar
  · rintro ⟨j, walk, edge⟩
    exact ⟨.calendar j, reaches_calendar.2 walk, needs_calendar_calendar.2 edge⟩

theorem loops_module {m : String} :
    TransGen c.Needs (.module m) (.module m) ↔ TransGen c.Uses m m := by
  simp only [TransGen.tail'_iff]
  constructor
  · rintro ⟨e, walk, edge⟩
    obtain ⟨used, rfl, walk'⟩ := exists_module_of_reaches walk
    exact ⟨used, walk', needs_module_module.1 edge⟩
  · rintro ⟨j, walk, edge⟩
    exact ⟨.module j, reaches_module.2 walk, needs_module_module.2 edge⟩

/-- What makes an entry fit to be merged, seen from the entry alone. -/
def Sound (c : Catalog) (e : Entry) : Prop :=
  (∃ needs, c.needs? e = some needs) ∧ ¬ TransGen c.Needs e e

theorem wellFormed_iff {id : String} :
    c.WellFormed id ↔ ∀ e, ReflTransGen c.Needs (.calendar id) e → c.Sound e := by
  constructor
  · intro good e walk
    cases e with
    | calendar k =>
      have up := reaches_calendar.1 walk
      obtain ⟨d, held⟩ := good.ancestors k up
      refine ⟨⟨_, by simp [needs?, held]; rfl⟩, ?_⟩
      exact (not_congr loops_calendar).2 (good.noAncestorCycle k up)
    | module m =>
      have brought := reaches_module_of_calendar.1 walk
      obtain ⟨d, held⟩ := good.modules m brought
      refine ⟨⟨_, by simp [needs?, held]; rfl⟩, ?_⟩
      exact (not_congr loops_module).2 (good.noModuleCycle m brought)
  · intro sound
    have calendars : ∀ k, ReflTransGen c.Extends id k → ∃ d, c.calendar? k = some d := by
      intro k up
      obtain ⟨⟨needs, held⟩, -⟩ := sound _ (reaches_calendar.2 up)
      obtain ⟨d, found, -⟩ := Option.map_eq_some_iff.1 held
      exact ⟨d, found⟩
    constructor
    · exact calendars id .refl
    · exact calendars
    · intro m brought
      obtain ⟨⟨needs, held⟩, -⟩ := sound _ (reaches_module_of_calendar.2 brought)
      obtain ⟨d, found, -⟩ := Option.map_eq_some_iff.1 held
      exact ⟨d, found⟩
    · intro k up
      exact (not_congr loops_calendar).1 (sound _ (reaches_calendar.2 up)).2
    · intro m brought
      exact (not_congr loops_module).1 (sound _ (reaches_module_of_calendar.2 brought)).2

/-- Chains in which every entry stands after all that it needs, and once. -/
inductive Grown (c : Catalog) : List Entry → Prop
  | nil : Grown c []
  | snoc {chain : List Entry} {e : Entry} {needs : List Entry} :
      Grown c chain → e ∉ chain → c.needs? e = some needs → needs ⊆ chain →
      Grown c (chain ++ [e])

theorem Grown.nodup {chain : List Entry} (h : c.Grown chain) : chain.Nodup := by
  induction h with
  | nil => exact .nil
  | snoc _ new _ _ ih => simpa [List.nodup_append] using ⟨ih, fun x held same => new (same ▸ held)⟩

theorem Grown.mem_of_needs {chain : List Entry} (h : c.Grown chain) {e f : Entry}
    (held : e ∈ chain) (edge : c.Needs e f) : f ∈ chain := by
  induction h with
  | nil => cases held
  | @snoc chain last needs _ _ found below ih =>
    rcases List.mem_append.1 held with old | new
    · exact List.mem_append_left _ (ih old)
    · obtain rfl := List.mem_singleton.1 new
      obtain ⟨needs', found', named⟩ := edge
      rw [found] at found'
      cases found'
      exact List.mem_append_left _ (below named)

theorem Grown.mem_of_reaches {chain : List Entry} (h : c.Grown chain) {e f : Entry}
    (held : e ∈ chain) (walk : ReflTransGen c.Needs e f) : f ∈ chain := by
  induction walk with
  | refl => exact held
  | tail _ edge ih => exact h.mem_of_needs ih edge

theorem Grown.sound {chain : List Entry} (h : c.Grown chain) : ∀ e ∈ chain, c.Sound e := by
  induction h with
  | nil => intro e held; cases held
  | @snoc chain last needs grown new found below ih =>
    intro e held
    rcases List.mem_append.1 held with old | isLast
    · exact ih e old
    · obtain rfl := List.mem_singleton.1 isLast
      refine ⟨⟨needs, found⟩, ?_⟩
      intro loop
      obtain ⟨f, edge, back⟩ := TransGen.head'_iff.1 loop
      obtain ⟨needs', found', named⟩ := edge
      rw [found] at found'
      cases found'
      exact new (grown.mem_of_reaches (below named) back)

/-- The chain so far only grows, by the entries asked for and by none that is being visited. -/
theorem order_grown {path chain es out : List Entry} (run : c.order path chain es = .ok out)
    (grown : c.Grown chain) :
    c.Grown out ∧ chain ⊆ out ∧ es ⊆ out ∧ ∀ p ∈ path, p ∈ out → p ∈ chain := by
  fun_induction order c path chain es generalizing out with
  | case1 path chain =>
    cases run
    exact ⟨grown, List.Subset.refl _, by simp, fun p _ held => held⟩
  | case2 path chain e es held ih =>
    obtain ⟨grown', kept, asked, fresh⟩ := ih run grown
    refine ⟨grown', kept, ?_, fresh⟩
    exact List.cons_subset.2 ⟨kept held, asked⟩
  | case3 => cases run
  | case4 => cases run
  | case5 => cases run
  | case6 path chain e es new onPath needs found below ran ihBelow ihRest =>
    obtain ⟨grownBelow, keptBelow, met, freshBelow⟩ := ihBelow ran grown
    -- `e` is on the path of the visit to what it needs, so that visit did not bring it in.
    have eNew : e ∉ below := fun held => new (freshBelow e (by simp) held)
    obtain ⟨grown', kept, asked, fresh⟩ := ihRest run (.snoc grownBelow eNew found met)
    refine ⟨grown', ?_, ?_, ?_⟩
    · intro x held
      exact kept (List.mem_append_left _ (keptBelow held))
    · exact List.cons_subset.2 ⟨kept (by simp), asked⟩
    · intro p visited held
      rcases List.mem_append.1 (fresh p visited held) with old | last
      · exact freshBelow p (List.mem_append_left _ visited) old
      · obtain rfl := List.mem_singleton.1 last
        exact absurd visited onPath

theorem order_error {path chain es : List Entry} {error : ResolutionError}
    (run : c.order path chain es = .error error)
    (leads : ∀ p ∈ path, ∀ e ∈ es, TransGen c.Needs p e) :
    ∃ e ∈ es, ∃ f, ReflTransGen c.Needs e f ∧ ¬ c.Sound f := by
  -- The invariant is that each entry of the path leads to every entry that is still asked for.
  fun_induction order c path chain es generalizing error with
  | case1 => cases run
  | case2 path chain e es held ih =>
    obtain ⟨x, asked, rest⟩ := ih run fun p visited x asked => leads p visited x (by simp [asked])
    exact ⟨x, by simp [asked], rest⟩
  | case3 path chain e es new onPath =>
    refine ⟨e, by simp, e, .refl, ?_⟩
    intro sound
    exact sound.2 (leads e onPath e (by simp))
  | case4 path chain e es new onPath missing =>
    refine ⟨e, by simp, e, .refl, ?_⟩
    rintro ⟨⟨needs, found⟩, -⟩
    rw [missing] at found
    cases found
  | case5 path chain e es new onPath needs found error ran ih =>
    have below : ∀ p ∈ path ++ [e], ∀ f ∈ needs, TransGen c.Needs p f := by
      intro p visited f named
      have edge : c.Needs e f := ⟨needs, found, named⟩
      rcases List.mem_append.1 visited with old | last
      · exact (leads p old e (by simp)).tail edge
      · obtain rfl := List.mem_singleton.1 last
        exact .single edge
    obtain ⟨f, named, g, walk, bad⟩ := ih ran below
    exact ⟨e, by simp, g, .head ⟨needs, found, named⟩ walk, bad⟩
  | case6 path chain e es new onPath needs found below ran ihBelow ihRest =>
    obtain ⟨x, asked, rest⟩ :=
      ihRest run fun p visited x asked => leads p visited x (by simp [asked])
    exact ⟨x, by simp [asked], rest⟩

theorem chain_grown {id : String} {chain : List Entry} (run : c.chain id = .ok chain) :
    c.Grown chain ∧ Entry.calendar id ∈ chain := by
  obtain ⟨grown, -, asked, -⟩ := order_grown run .nil
  exact ⟨grown, asked (by simp)⟩

theorem chain_ok_iff {id : String} : (∃ chain, c.chain id = .ok chain) ↔ c.WellFormed id := by
  rw [wellFormed_iff]
  constructor
  · rintro ⟨chain, run⟩ e walk
    obtain ⟨grown, held⟩ := chain_grown run
    exact grown.sound e (grown.mem_of_reaches held walk)
  · intro sound
    cases run : c.chain id with
    | ok chain => exact ⟨chain, rfl⟩
    | error error =>
      obtain ⟨e, asked, f, walk, bad⟩ := order_error run (by simp)
      obtain rfl := List.mem_singleton.1 asked
      exact absurd (sound f walk) bad

theorem resolve_eq_ok {id : String} {s : Specification} :
    c.resolve id = .ok s ↔
      ∃ chain, c.chain id = .ok chain ∧
        (chain.foldl (Merged.add c) .empty).specification id chain = s := by
  unfold resolve
  cases c.chain id <;> simp [Except.map]

end Catalog

namespace Resolver

inductive Reachable (c : Catalog) : Resolver → Prop
  | new : Reachable c (.of c)
  | resolve {r : Resolver} (id : String) : Reachable c r → Reachable c (r.resolve id).2
  | clear {r : Resolver} : Reachable c r → Reachable c r.clear

variable {c : Catalog} {r : Resolver}

theorem Reachable.cache_sound (h : r.Reachable c) :
    r.catalog = c ∧ ∀ entry ∈ r.cache, c.resolve entry.1 = .ok entry.2 := by
  induction h with
  | new => exact ⟨rfl, by simp [of]⟩
  | @resolve r id _ ih =>
    obtain ⟨rfl, sound⟩ := ih
    unfold Resolver.resolve
    split
    · exact ⟨rfl, sound⟩
    · split
      · exact ⟨rfl, sound⟩
      · rename_i s ran
        refine ⟨rfl, ?_⟩
        intro entry held
        rcases List.mem_append.1 held with old | new
        · exact sound entry old
        · obtain rfl := List.mem_singleton.1 new
          exact ran
  | clear _ ih => exact ⟨ih.1, by simp [Resolver.clear]⟩

theorem Reachable.resolve_eq (h : r.Reachable c) (id : String) :
    (r.resolve id).1 = c.resolve id := by
  obtain ⟨rfl, sound⟩ := h.cache_sound
  unfold Resolver.resolve
  split
  · rename_i key s found
    have same : key = id := by simpa using List.find?_some found
    have held := sound _ (List.mem_of_find?_eq_some found)
    subst same
    exact held.symm
  · split <;> simp_all

theorem resolve_ok_iff_wellFormed (h : r.Reachable c) (id : String) :
    (∃ s, (r.resolve id).1 = .ok s) ↔ c.WellFormed id := by
  rw [h.resolve_eq, ← Catalog.chain_ok_iff]
  simp only [Catalog.resolve_eq_ok]
  constructor
  · rintro ⟨s, chain, run, -⟩
    exact ⟨chain, run⟩
  · rintro ⟨chain, run⟩
    exact ⟨_, chain, run, rfl⟩

/-- A calendar with two parents that share an ancestor and, one of them with it, a module. -/
def sharedAncestor : Catalog where
  calendars :=
    [⟨"federal", ⟨some "Federal", none, none⟩, [], ["western"], none,
        [⟨"new-year", "New Year", .fixedMonthDay 1 1 none, none, none, none⟩], [], []⟩,
      ⟨"banks", .empty, ["federal"], [], some .nearest, [], [("new-year", .notable)], []⟩,
      ⟨"exchange", .empty, ["federal"], ["western"], none,
        [⟨"new-year", "New Year's Day", .fixedMonthDay 1 1 none, none, none, none⟩], [], []⟩,
      ⟨"desk", ⟨some "Desk", none, none⟩, ["banks", "exchange"], [], none, [], [], []⟩]
  modules := [⟨"western", [], [⟨"easter", "EASTER_WESTERN"⟩], [.sat, .sun], []⟩]

theorem sharedAncestor_wellFormed :
    (Resolver.of sharedAncestor).Reachable sharedAncestor ∧ sharedAncestor.WellFormed "desk" := by
  have start : (Resolver.of sharedAncestor).Reachable sharedAncestor := .new
  have run : sharedAncestor.chain "desk" =
      .ok [.module "western", .calendar "federal", .calendar "banks", .calendar "exchange",
        .calendar "desk"] := by cbv
  have ran : ∃ s, ((Resolver.of sharedAncestor).resolve "desk").1 = .ok s := by
    rw [start.resolve_eq]
    exact ⟨_, Catalog.resolve_eq_ok.2 ⟨_, run, rfl⟩⟩
  exact ⟨start, (resolve_ok_iff_wellFormed start "desk").1 ran⟩

end Resolver

end Holidays
