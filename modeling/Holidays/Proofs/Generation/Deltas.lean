import Holidays.Generation.Override
import Holidays.Proofs.Keyed
import Mathlib.Data.List.DropRight

namespace Holidays

namespace Occurrence

theorem pairs_addNew (os : List Occurrence) (o : Occurrence) :
    (addNew os o).map pair =
      if o.pair ∈ os.map pair then os.map pair else os.map pair ++ [o.pair] := by
  simp only [addNew, List.contains_iff_mem]
  split <;> simp

theorem find?_addNew (p : String × Date) (os : List Occurrence) (o : Occurrence) :
    Keyed.find? pair p (addNew os o) =
      (Keyed.find? pair p os <|> if o.pair = p then some o else none) := by
  simp only [addNew, List.contains_iff_mem]
  split
  · next known =>
    split
    · next same =>
      obtain ⟨held, found⟩ :=
        Option.isSome_iff_exists.mp (Keyed.isSome_find?_iff.mpr (same ▸ known))
      simp [found]
    · simp
  · rw [Keyed.find?_append]
    congr 1
    simp [Keyed.find?, List.find?_singleton]

theorem nodup_addNew {os : List Occurrence} (distinct : (os.map pair).Nodup) (o : Occurrence) :
    ((addNew os o).map pair).Nodup := by
  rw [pairs_addNew]
  split
  · exact distinct
  · next new => exact List.nodup_append.mpr ⟨distinct, by simp, by simpa using new⟩

def firsts (os : List Occurrence) : List Occurrence := os.foldl addNew []

theorem firsts_concat (os : List Occurrence) (o : Occurrence) :
    firsts (os ++ [o]) = addNew (firsts os) o := by
  simp [firsts]

theorem firsts_sublist (os : List Occurrence) : (firsts os).Sublist os := by
  induction os using List.reverseRecOn with
  | nil => exact .slnil
  | append_singleton os o ih =>
    rw [firsts_concat, addNew]
    split
    · exact ih.trans (List.sublist_append_left os [o])
    · exact ih.append (List.Sublist.refl [o])

theorem find?_firsts (p : String × Date) (os : List Occurrence) :
    Keyed.find? pair p (firsts os) = Keyed.find? pair p os := by
  induction os using List.reverseRecOn with
  | nil => rfl
  | append_singleton os o ih =>
    rw [firsts_concat, find?_addNew, ih, Keyed.find?_append]
    congr 1
    simp [Keyed.find?, List.find?_singleton]

theorem nodup_firsts (os : List Occurrence) : ((firsts os).map pair).Nodup := by
  induction os using List.reverseRecOn with
  | nil => exact List.nodup_nil
  | append_singleton os o ih => exact firsts_concat os o ▸ nodup_addNew ih o

end Occurrence

namespace Delta

def removes (p : String × Date) : Delta → Bool
  | .remove key date => decide ((key, date) = p)
  | _ => false

/-- An addition outside the range adds nothing. -/
def adds (range : DateRange) (p : String × Date) : Delta → Bool
  | .add key date _ _ => decide (range.Contains date ∧ (key, date) = p)
  | _ => false

def addition? (sources : List EventSource) (range : DateRange) (p : String × Date) :
    Delta → Option Occurrence
  | .add key date name _ =>
    if range.Contains date ∧ (key, date) = p then
      some ⟨key, date, name.getD (sourceName sources key), addedProvenance⟩
    else none
  | _ => none

def acts (range : DateRange) : Delta → Bool
  | .add _ date _ _ => decide (range.Contains date)
  | .remove _ _ => true
  | .reclassify _ _ _ => false

def lastOn? (range : DateRange) (p : String × Date) (deltas : List Delta) : Option Delta :=
  (deltas.filter fun δ => δ.removes p || δ.adds range p).getLast?

/-- The deltas after the last removal of the pair; all of them if there is none. -/
def sinceRemoval (p : String × Date) (deltas : List Delta) : List Delta :=
  deltas.rtakeWhile fun δ => !δ.removes p

variable {sources : List EventSource} {range : DateRange} {p : String × Date}

theorem isSome_addition? (δ : Delta) : (δ.addition? sources range p).isSome = δ.adds range p := by
  cases δ with
  | add key date name classification =>
    simp only [addition?, adds]
    split <;> simp_all
  | remove key date => rfl
  | reclassify key date classification => rfl

theorem addition?_eq_some {δ : Delta} {o : Occurrence} (h : δ.addition? sources range p = some o) :
    o.pair = p ∧ range.Contains o.date ∧ o.provenance = addedProvenance ∧
      ∃ name classification, δ = .add o.key o.date name classification ∧
        o.name = name.getD (sourceName sources o.key) := by
  cases δ with
  | add key date name classification =>
    simp only [addition?, Option.ite_none_right_eq_some] at h
    obtain ⟨⟨inside, same⟩, made⟩ := h
    cases made
    exact ⟨same, inside, rfl, name, classification, rfl, rfl⟩
  | remove key date => cases h
  | reclassify key date classification => cases h

theorem not_removes_of_adds {δ : Delta} (h : δ.adds range p = true) : δ.removes p = false := by
  cases δ with
  | add key date name classification => rfl
  | remove key date => cases h
  | reclassify key date classification => rfl

theorem find?_applyOne (os : List Occurrence) (δ : Delta) :
    Keyed.find? Occurrence.pair p (applyOne sources range os δ) =
      if δ.removes p then none
      else (Keyed.find? Occurrence.pair p os <|> δ.addition? sources range p) := by
  cases δ with
  | add key date name classification =>
    simp only [applyOne, removes, addition?, Bool.false_eq_true, if_false]
    by_cases inside : range.Contains date
    · rw [if_pos inside, Occurrence.find?_addNew]
      by_cases same : (key, date) = p <;> simp [inside, same, Occurrence.pair]
    · rw [if_neg inside]
      simp [inside]
  | remove key date =>
    simp only [applyOne, removes, addition?, Keyed.find?_erase, decide_eq_true_eq]
    by_cases same : p = (key, date)
    · simp [same]
    · have other : ¬ (key, date) = p := fun e => same e.symm
      simp [same, other]
  | reclassify key date classification => simp [applyOne, removes, addition?]

theorem nodup_applyOne {os : List Occurrence} (distinct : (os.map Occurrence.pair).Nodup)
    (δ : Delta) : ((applyOne sources range os δ).map Occurrence.pair).Nodup := by
  cases δ with
  | add key date name classification =>
    simp only [applyOne]
    split
    · exact Occurrence.nodup_addNew distinct _
    · exact distinct
  | remove key date => exact distinct.sublist (List.filter_sublist.map _)
  | reclassify key date classification => exact distinct

variable {os : List Occurrence}

theorem applyAll_nil : applyAll sources range os [] = Occurrence.firsts os := rfl

theorem applyAll_concat (deltas : List Delta) (δ : Delta) :
    applyAll sources range os (deltas ++ [δ]) =
      applyOne sources range (applyAll sources range os deltas) δ := by
  simp [applyAll]

theorem nodup_applyAll (deltas : List Delta) :
    ((applyAll sources range os deltas).map Occurrence.pair).Nodup := by
  induction deltas using List.reverseRecOn with
  | nil => exact Occurrence.nodup_firsts os
  | append_singleton deltas δ ih => exact applyAll_concat deltas δ ▸ nodup_applyOne ih δ

theorem find?_applyAll (deltas : List Delta) :
    Keyed.find? Occurrence.pair p (applyAll sources range os deltas) =
      ((if deltas.any (removes p) then none else Keyed.find? Occurrence.pair p os) <|>
        (sinceRemoval p deltas).findSome? (addition? sources range p)) := by
  -- Deltas act from the left, so the induction takes the last one off.
  induction deltas using List.reverseRecOn with
  | nil => simp [applyAll_nil, Occurrence.find?_firsts, sinceRemoval]
  | append_singleton deltas δ ih =>
    rw [applyAll_concat, find?_applyOne, ih, sinceRemoval, sinceRemoval, List.rtakeWhile_concat]
    cases removed : δ.removes p with
    | true => simp [removed]
    | false => simp [removed, List.findSome?_append, Option.or_assoc]

/-- The last delta that acts on a pair decides whether it has an occurrence. -/
theorem mem_pairs_applyAll (deltas : List Delta) :
    p ∈ (applyAll sources range os deltas).map Occurrence.pair ↔
      match lastOn? range p deltas with
      | some δ => δ.adds range p = true
      | none => p ∈ os.map Occurrence.pair := by
  induction deltas using List.reverseRecOn with
  | nil =>
    rw [← Keyed.isSome_find?_iff, applyAll_nil, Occurrence.find?_firsts, Keyed.isSome_find?_iff]
    rfl
  | append_singleton deltas δ ih =>
    rw [← Keyed.isSome_find?_iff, applyAll_concat, find?_applyOne]
    simp only [lastOn?, List.filter_append] at ih ⊢
    cases removed : δ.removes p with
    | true =>
      have other : δ.adds range p = false := by
        cases added : δ.adds range p with
        | false => rfl
        | true => simp [not_removes_of_adds added] at removed
      simp [removed, other]
    | false =>
      cases added : δ.adds range p with
      | true => simp [removed, added, isSome_addition?]
      | false =>
        have idle : δ.addition? sources range p = none := by
          rw [← Option.isNone_iff_eq_none, ← Option.not_isSome, isSome_addition?, added]
          rfl
        simp [removed, added, idle, Keyed.isSome_find?_iff, ih]

/-- The delta at this place inserts the occurrence: its pair has none before, and it is there from
then on. -/
structure InsertsAt (sources : List EventSource) (range : DateRange) (os : List Occurrence)
    (deltas : List Delta) (place : Nat) (o : Occurrence) : Prop where
  listed : place < deltas.length
  absent : o.pair ∉ (applyAll sources range os (deltas.take place)).map Occurrence.pair
  present : ∀ later, place < later → later ≤ deltas.length →
    o ∈ applyAll sources range os (deltas.take later)

theorem InsertsAt.concat {deltas : List Delta} {place : Nat} {o : Occurrence}
    (h : InsertsAt sources range os deltas place o) {δ : Delta}
    (held : o ∈ applyAll sources range os (deltas ++ [δ])) :
    InsertsAt sources range os (deltas ++ [δ]) place o where
  listed := by
    have := h.listed
    simp
    omega
  absent := by
    rw [List.take_append_of_le_length (Nat.le_of_lt h.listed)]
    exact h.absent
  present later after within := by
    by_cases before : later ≤ deltas.length
    · rw [List.take_append_of_le_length before]
      exact h.present later after before
    · rw [List.take_of_length_le (by simp; omega)]
      exact held

theorem insertsAt_concat {deltas : List Delta} {δ : Delta} {o : Occurrence}
    (absent : o.pair ∉ (applyAll sources range os deltas).map Occurrence.pair)
    (held : o ∈ applyAll sources range os (deltas ++ [δ])) :
    InsertsAt sources range os (deltas ++ [δ]) deltas.length o where
  listed := by simp
  absent := by simpa using absent
  present later after within := by
    rw [List.take_of_length_le (by simp; omega)]
    exact held

theorem InsertsAt.addition {deltas : List Delta} {place : Nat} {o : Occurrence}
    (h : InsertsAt sources range os deltas place o) :
    ∃ δ, deltas[place]? = some δ ∧ δ.addition? sources range o.pair = some o := by
  have listed := h.listed
  have step : deltas.take (place + 1) = deltas.take place ++ [deltas[place]] :=
    List.take_succ_eq_append_getElem listed
  have held := h.present (place + 1) (Nat.lt_succ_self place) listed
  have found := Keyed.find?_of_mem (nodup_applyAll _) held
  have before := Keyed.find?_eq_none_iff.mpr h.absent
  rw [step, applyAll_concat, find?_applyOne, before] at found
  refine ⟨deltas[place], List.getElem?_eq_getElem listed, ?_⟩
  split at found
  · cases found
  · simpa using found

def spared (os : List Occurrence) (deltas : List Delta) : List Occurrence :=
  (Occurrence.firsts os).filter fun o => !deltas.any (removes o.pair)

theorem spared_concat (deltas : List Delta) (δ : Delta) :
    spared os (deltas ++ [δ]) = (spared os deltas).filter fun o => !δ.removes o.pair := by
  rw [spared, spared, List.filter_filter]
  apply List.filter_congr
  intro o _
  simp [Bool.and_comm]

theorem applyOne_cases (sources : List EventSource) (range : DateRange) (os : List Occurrence)
    (δ : Delta) :
    applyOne sources range os δ = os.filter (fun o => !δ.removes o.pair) ∨
      ∃ o, δ.addition? sources range o.pair = some o ∧ o.pair ∉ os.map Occurrence.pair ∧
        applyOne sources range os δ = os ++ [o] := by
  cases δ with
  | add key date name classification =>
    have unmoved :
        os.filter (fun o => !(add key date name classification).removes o.pair) = os := by
      simp [removes]
    rw [unmoved]
    simp only [applyOne, Occurrence.addNew, List.contains_iff_mem]
    split
    · next inside =>
      split
      · exact .inl rfl
      · next absent => exact .inr ⟨_, by simp [addition?, inside, Occurrence.pair], absent, rfl⟩
    · exact .inl rfl
  | remove key date =>
    left
    simp [applyOne, Keyed.erase, removes, eq_comm]
  | reclassify key date classification =>
    left
    simp [applyOne, removes]

/-- Occurrences stay in order: those given, then those inserted, by the places of the deltas. -/
theorem exists_placed (sources : List EventSource) (range : DateRange) (os : List Occurrence)
    (deltas : List Delta) :
    ∃ placed : List (Nat × Occurrence),
      applyAll sources range os deltas = spared os deltas ++ placed.map Prod.snd ∧
      placed.Pairwise (fun x y => x.1 < y.1) ∧
      ∀ x ∈ placed, InsertsAt sources range os deltas x.1 x.2 := by
  induction deltas using List.reverseRecOn with
  | nil => exact ⟨[], by simp [applyAll_nil, spared], .nil, by simp⟩
  | append_singleton deltas δ ih =>
    obtain ⟨placed, whole, sorted, inserts⟩ := ih
    rcases applyOne_cases sources range (applyAll sources range os deltas) δ with
      left | ⟨o, made, absent, more⟩
    -- A removal may take away from both parts; what it leaves keeps its place.
    · rw [← applyAll_concat, whole, List.filter_append, ← spared_concat, List.filter_map] at left
      refine ⟨_, left, sorted.filter _, ?_⟩
      intro x listed
      apply (inserts x (List.mem_filter.mp listed).1).concat
      rw [left]
      exact List.mem_append_right _ (List.mem_map_of_mem listed)
    · rw [← applyAll_concat, whole] at more
      have unmoved : spared os (deltas ++ [δ]) = spared os deltas := by
        obtain ⟨-, -, -, name, classification, rfl, -⟩ := addition?_eq_some made
        simp [spared_concat, removes]
      refine ⟨placed ++ [(deltas.length, o)], ?_, ?_, ?_⟩
      · rw [more, unmoved]
        simp
      · rw [List.pairwise_append]
        refine ⟨sorted, List.pairwise_singleton _ _, ?_⟩
        intro x listed y last
        rw [List.mem_singleton.mp last]
        exact (inserts x listed).listed
      · intro x listed
        rcases List.mem_append.mp listed with early | last
        · apply (inserts x early).concat
          rw [more]
          exact List.mem_append_left _ (List.mem_append_right _ (List.mem_map_of_mem early))
        · rw [List.mem_singleton.mp last]
          apply insertsAt_concat absent
          rw [more]
          exact List.mem_append_right _ List.mem_cons_self

theorem applyOne_idle (os : List Occurrence) {δ : Delta} (idle : δ.acts range = false) :
    applyOne sources range os δ = os := by
  cases δ with
  | add key date name classification =>
    have outside : ¬ range.Contains date := by simpa [acts] using idle
    simp only [applyOne, if_neg outside]
  | remove key date => cases idle
  | reclassify key date classification => rfl

theorem applyAll_filter_acts (deltas : List Delta) :
    applyAll sources range os (deltas.filter (acts range)) = applyAll sources range os deltas := by
  induction deltas using List.reverseRecOn with
  | nil => rfl
  | append_singleton deltas δ ih =>
    rw [applyAll_concat, List.filter_append]
    cases active : δ.acts range with
    | true => rw [List.filter_cons_of_pos active, List.filter_nil, applyAll_concat, ih]
    | false =>
      rw [List.filter_cons_of_neg (by simp [active]), List.filter_nil, List.append_nil, ih,
        applyOne_idle _ active]

theorem applyAll_elsewhere {deltas : List Delta} (outside : ∀ δ ∈ deltas, ¬ range.Contains δ.date)
    (placed : ∀ o ∈ os, range.Contains o.date) :
    applyAll sources range os deltas = Occurrence.firsts os := by
  induction deltas using List.reverseRecOn with
  | nil => rfl
  | append_singleton deltas δ ih =>
    have last : ¬ range.Contains δ.date := outside δ (by simp)
    rw [applyAll_concat, ih fun δ held => outside δ (List.mem_append_left _ held)]
    cases δ with
    | add key date name classification =>
      exact applyOne_idle _ (by simpa [acts, Delta.date] using last)
    | reclassify key date classification => rfl
    | remove key date =>
      apply List.filter_eq_self.mpr
      intro o held
      have inside := placed o ((Occurrence.firsts_sublist os).subset held)
      apply decide_eq_true
      intro same
      have here : o.date = date := congrArg Prod.snd same
      exact last (show range.Contains date from here ▸ inside)

structure Outcome (sources : List EventSource) (range : DateRange) (os : List Occurrence)
    (deltas : List Delta) (out : List Occurrence) : Prop where
  distinct : (out.map Occurrence.pair).Nodup
  present : ∀ p, p ∈ out.map Occurrence.pair ↔
    match lastOn? range p deltas with
    | some δ => δ.adds range p = true
    | none => p ∈ os.map Occurrence.pair
  given : ∀ o ∈ out, o.pair ∈ os.map Occurrence.pair →
    (∀ δ ∈ deltas, δ.removes o.pair = false) → Keyed.find? Occurrence.pair o.pair os = some o
  added : ∀ o ∈ out,
    (o.pair ∉ os.map Occurrence.pair ∨ ∃ δ ∈ deltas, δ.removes o.pair = true) →
    (sinceRemoval o.pair deltas).findSome? (addition? sources range o.pair) = some o
  ordered : ∃ (kept : List Occurrence) (placed : List (Nat × Occurrence)),
    out = kept ++ placed.map Prod.snd ∧ kept.Sublist os ∧
    (∀ o ∈ kept, ∀ δ ∈ deltas, δ.removes o.pair = false) ∧
    placed.Pairwise (fun x y => x.1 < y.1) ∧
    ∀ x ∈ placed, InsertsAt sources range os deltas x.1 x.2

theorem applyAll_outcome (sources : List EventSource) (range : DateRange) (os : List Occurrence)
    (deltas : List Delta) :
    Outcome sources range os deltas (applyAll sources range os deltas) ∧
    applyAll sources range os (deltas.filter (acts range)) =
      applyAll sources range os deltas := by
  have seen {o : Occurrence} (held : o ∈ applyAll sources range os deltas) :=
    (find?_applyAll (p := o.pair) deltas).symm.trans
      (Keyed.find?_of_mem (nodup_applyAll deltas) held)
  refine ⟨⟨nodup_applyAll deltas, fun p => mem_pairs_applyAll deltas, ?_, ?_, ?_⟩,
    applyAll_filter_acts deltas⟩
  · intro o held known untouched
    have spared : deltas.any (removes o.pair) = false := by simpa using untouched
    obtain ⟨first, found⟩ := Option.isSome_iff_exists.mp (Keyed.isSome_find?_iff.mpr known)
    have same := seen held
    rw [spared, found] at same
    rw [found]
    simpa using same
  · intro o held gone
    have same := seen held
    have none : (if deltas.any (removes o.pair) then none
        else Keyed.find? Occurrence.pair o.pair os) = none := by
      rcases gone with unknown | removed
      · rw [Keyed.find?_eq_none_iff.mpr unknown, ite_self]
      · rw [if_pos (by simpa using removed)]
    rw [none] at same
    simpa using same
  · obtain ⟨placed, whole, sorted, inserts⟩ := exists_placed sources range os deltas
    refine ⟨spared os deltas, placed, whole,
      List.filter_sublist.trans (Occurrence.firsts_sublist os), ?_, sorted, inserts⟩
    intro o held
    simpa using (List.mem_filter.mp held).2

end Delta

end Holidays
