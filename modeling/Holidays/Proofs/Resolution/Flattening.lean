import Holidays.Proofs.Resolution.Contents
import Holidays.Proofs.Resolution.Graph

namespace Holidays

open Relation (ReflTransGen TransGen)

theorem Entry.text_injective : Function.Injective Entry.text := by
  intro e f same
  cases e <;> cases f <;> simp_all [Entry.text, String.ext_iff]

namespace Catalog

/-- The needs of each entry of a list, written out in full before the entry itself. -/
inductive PostOrder (c : Catalog) : List Entry → List Entry → Prop
  | nil : PostOrder c [] []
  | cons {e : Entry} {needs below es rest : List Entry} :
      c.needs? e = some needs → PostOrder c needs below → PostOrder c es rest →
      PostOrder c (e :: es) (below ++ e :: rest)

variable {c : Catalog}

namespace PostOrder

theorem unique {es full other : List Entry} (h : c.PostOrder es full)
    (h' : c.PostOrder es other) : full = other := by
  induction h generalizing other with
  | nil => cases h'; rfl
  | cons found _ _ ihBelow ihRest =>
    cases h' with
    | cons found' below' rest' =>
      rw [found] at found'
      cases found'
      rw [ihBelow below', ihRest rest']

theorem append {es fs full full' : List Entry} (h : c.PostOrder es full)
    (h' : c.PostOrder fs full') : c.PostOrder (es ++ fs) (full ++ full') := by
  induction h with
  | nil => exact h'
  | @cons e needs below es rest found below _ _ ihRest =>
    simpa using PostOrder.cons found below ihRest

theorem reached {es full : List Entry} (h : c.PostOrder es full) {x : Entry} (held : x ∈ full) :
    ∃ e ∈ es, ReflTransGen c.Needs e x := by
  induction h with
  | nil => cases held
  | @cons e needs below es rest found _ _ ihBelow ihRest =>
    rcases List.mem_append.1 held with inBelow | inRest
    · obtain ⟨f, named, walk⟩ := ihBelow inBelow
      exact ⟨e, by simp, .head ⟨needs, found, named⟩ walk⟩
    · rcases List.mem_cons.1 inRest with rfl | inRest
      · exact ⟨x, by simp, .refl⟩
      · obtain ⟨f, asked, walk⟩ := ihRest inRest
        exact ⟨f, by simp [asked], walk⟩

end PostOrder

theorem Grown.exists_postOrder {chain : List Entry} (h : c.Grown chain) {es : List Entry}
    (inside : es ⊆ chain) : ∃ full, c.PostOrder es full := by
  induction h generalizing es with
  | nil =>
    obtain rfl := List.subset_nil.1 inside
    exact ⟨[], .nil⟩
  | @snoc chain last needs _ _ found below ih =>
    induction es with
    | nil => exact ⟨[], .nil⟩
    | cons e es ihEs =>
      obtain ⟨rest, post⟩ := ihEs fun x held => inside (List.mem_cons_of_mem _ held)
      rcases List.mem_append.1 (inside List.mem_cons_self) with old | new
      · obtain ⟨first, alone⟩ := ih (List.cons_subset.2 ⟨old, List.nil_subset _⟩)
        exact ⟨first ++ rest, alone.append post⟩
      · obtain rfl := List.mem_singleton.1 new
        obtain ⟨under, met⟩ := ih below
        exact ⟨under ++ e :: rest, .cons found met post⟩

theorem Grown.before {chain : List Entry} (h : c.Grown chain) {e f : Entry} (held : e ∈ chain)
    (walk : TransGen c.Needs e f) : ∃ pre post, chain = pre ++ e :: post ∧ f ∈ pre := by
  induction h with
  | nil => cases held
  | @snoc chain last needs grown _ found below ih =>
    rcases List.mem_append.1 held with old | new
    · obtain ⟨pre, post, rfl, inPre⟩ := ih old
      exact ⟨pre, post ++ [last], by simp, inPre⟩
    · obtain rfl := List.mem_singleton.1 new
      obtain ⟨g, ⟨needs', found', named⟩, onward⟩ := TransGen.head'_iff.1 walk
      rw [found] at found'
      cases found'
      exact ⟨chain, [], rfl, grown.mem_of_reaches (below named) onward⟩

/-- Marking the entries that are done comes to keeping the first of equal ones. -/
theorem order_eq_eraseDups {path chain es out full : List Entry}
    (run : c.order path chain es = .ok out) (grown : c.Grown chain)
    (post : c.PostOrder es full) : out = (chain ++ full).eraseDups := by
  fun_induction order c path chain es generalizing out full with
  | case1 path chain =>
    cases run
    cases post
    rw [List.append_nil, eraseDups_eq_self grown.nodup]
  | case2 path chain e es held ih =>
    cases post with
    | @cons _ needs below _ rest found under after =>
      -- A marked entry has left everything below it in the chain.
      have known : below ++ [e] ⊆ chain := by
        intro x asked
        rcases List.mem_append.1 asked with inBelow | last
        · obtain ⟨f, named, walk⟩ := under.reached inBelow
          exact grown.mem_of_reaches held (.head ⟨needs, found, named⟩ walk)
        · exact List.mem_singleton.1 last ▸ held
      have skip := eraseDups_append_of_subset known rest
      rw [List.append_assoc, List.singleton_append] at skip
      rw [ih run grown after, skip]
  | case3 => cases run
  | case4 => cases run
  | case5 => cases run
  | case6 path chain e es new onPath needs found below ran ihBelow ihRest =>
    cases post with
    | @cons _ needs' full _ rest found' under after =>
      rw [found] at found'
      cases found'
      obtain ⟨grownBelow, keptBelow, met, freshBelow⟩ := order_grown ran grown
      have eNew : e ∉ below := fun held => new (freshBelow e (by simp) held)
      rw [ihRest run (.snoc grownBelow eNew found met) after, ihBelow ran grown under]
      rw [List.append_assoc, eraseDups_append_left, List.append_assoc, List.singleton_append]

theorem chain_concat {id : String} {chain : List Entry} (run : c.chain id = .ok chain) :
    ∃ below, chain = below ++ [.calendar id] := by
  rw [Catalog.chain, order, if_neg (by simp), dif_neg (by simp)] at run
  split at run
  · cases run
  · split at run
    · cases run
    · rename_i below _
      rw [order] at run
      cases run
      exact ⟨below, rfl⟩

structure Linear (c : Catalog) (id : String) (chain : List Entry) : Prop where
  once : chain.Nodup
  entries : ∀ e, e ∈ chain ↔ ReflTransGen c.Needs (.calendar id) e
  after : ∀ e ∈ chain, ∀ f, TransGen c.Needs e f → ∃ pre post, chain = pre ++ e :: post ∧ f ∈ pre
  last : chain.getLast? = some (.calendar id)

theorem linear_of_chain {id : String} {chain : List Entry} (run : c.chain id = .ok chain) :
    c.Linear id chain := by
  obtain ⟨grown, held⟩ := chain_grown run
  obtain ⟨full, post⟩ := grown.exists_postOrder (List.cons_subset.2 ⟨held, List.nil_subset _⟩)
  constructor
  · exact grown.nodup
  · intro e
    constructor
    · intro inChain
      rw [order_eq_eraseDups run .nil post, List.nil_append, List.mem_eraseDups] at inChain
      obtain ⟨f, asked, walk⟩ := post.reached inChain
      exact List.mem_singleton.1 asked ▸ walk
    · exact grown.mem_of_reaches held
  · intro e inChain f walk
    exact grown.before inChain walk
  · obtain ⟨below, rfl⟩ := chain_concat run
    exact List.getLast?_concat

theorem chain_eq_eraseDups {id : String} {chain : List Entry} (run : c.chain id = .ok chain) :
    ∃ full, (∀ other, c.PostOrder [.calendar id] other ↔ other = full) ∧
      chain = full.eraseDups := by
  obtain ⟨grown, held⟩ := chain_grown run
  obtain ⟨full, post⟩ := grown.exists_postOrder (List.cons_subset.2 ⟨held, List.nil_subset _⟩)
  refine ⟨full, ?_, order_eq_eraseDups run .nil post⟩
  intro other
  constructor
  · intro h
    exact h.unique post
  · rintro rfl
    exact post

end Catalog

/-- For each key that `x` has, the specification has the last entry of `x` and of those after. -/
structure Specification.Prefers (s : Specification) (x : Contents) (later : List Contents) :
    Prop where
  sources : ∀ a ∈ x.sources, Keyed.find? EventSource.key a.key s.sources =
    (((x :: later).flatMap Contents.sources).filter fun b => b.key = a.key).getLast?
  references : ∀ a ∈ x.references, Keyed.find? Reference.key a.key s.references =
    (((x :: later).flatMap Contents.references).filter fun b => b.key = a.key).getLast?
  classifications : ∀ a ∈ x.classifications, Keyed.find? Prod.fst a.1 s.classifications =
    (((x :: later).flatMap Contents.classifications).filter fun b => b.1 = a.1).getLast?

theorem Specification.Folds.prefers {s : Specification} {early later : List Contents}
    {x : Contents} (h : s.Folds (early ++ x :: later)) : s.Prefers x later := by
  have sources := h.sources
  have references := h.references
  have classifications := h.classifications
  rw [List.flatMap_append] at sources references classifications
  constructor
  · intro a held
    exact sources.value_of_suffix (by simp [held])
  · intro a held
    exact references.value_of_suffix (by simp [held])
  · intro a held
    exact classifications.value_of_suffix (by simp [held])

namespace Resolver

variable {c : Catalog} {r : Resolver}

theorem resolve_flattens (h : r.Reachable c) {id : String} {s : Specification}
    (ran : (r.resolve id).1 = .ok s) :
    ∃ full chain : List Entry,
      (∀ other, c.PostOrder [.calendar id] other ↔ other = full) ∧
      chain = full.eraseDups ∧
      c.Linear id chain ∧
      s.id = id ∧
      s.chain = chain.map Entry.text ∧
      s.chain.Nodup ∧
      s.chain.getLast? = some (Entry.calendar id).text ∧
      s.Folds (chain.map c.contents) ∧
      ∀ x ∈ chain, ∀ y, TransGen c.Needs x y → ∃ pre post,
        chain = pre ++ x :: post ∧ y ∈ pre ∧ s.Prefers (c.contents x) (post.map c.contents) := by
  rw [h.resolve_eq, Catalog.resolve_eq_ok] at ran
  obtain ⟨chain, run, rfl⟩ := ran
  obtain ⟨full, only, erased⟩ := Catalog.chain_eq_eraseDups run
  have linear := Catalog.linear_of_chain run
  have folds : ((chain.foldl (Merged.add c) .empty).specification id chain).Folds
      (chain.map c.contents) := by
    rw [Merged.foldl_add]
    exact Merged.specification_folds _ id chain
  refine ⟨full, chain, only, erased, linear, rfl, rfl, ?_, ?_, folds, ?_⟩
  · exact linear.once.map Entry.text_injective
  · have last : (chain.map Entry.text).getLast? = some (Entry.calendar id).text := by
      rw [List.getLast?_map, linear.last]
      rfl
    exact last
  · intro x held y walk
    obtain ⟨pre, post, split, inPre⟩ := linear.after x held y walk
    rw [split, List.map_append, List.map_cons] at folds
    exact ⟨pre, post, split, inPre, split ▸ folds.prefers⟩

/-- The ancestor is merged once, and its name for the holiday gives way to that of the exchange. -/
theorem sharedAncestor_flattens :
    ∃ s, ((Resolver.of sharedAncestor).resolve "desk").1 = .ok s ∧
      s.chain = ["module:western", "calendar:federal", "calendar:banks", "calendar:exchange",
        "calendar:desk"] ∧
      s.chain.Nodup ∧
      s.sources.map EventSource.name = ["New Year's Day"] := by
  have start : (Resolver.of sharedAncestor).Reachable sharedAncestor := .new
  have run : sharedAncestor.chain "desk" =
      .ok [.module "western", .calendar "federal", .calendar "banks", .calendar "exchange",
        .calendar "desk"] := by cbv
  have resolved := Catalog.resolve_eq_ok.2 ⟨_, run, rfl⟩
  have ran := (start.resolve_eq "desk").trans resolved
  obtain ⟨full, chain, -, -, -, -, -, once, -⟩ := resolve_flattens start ran
  exact ⟨_, ran, by decide, once, by decide⟩

end Resolver

end Holidays
