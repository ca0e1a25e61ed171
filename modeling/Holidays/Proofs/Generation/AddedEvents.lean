import Holidays.Generation.Classify
import Holidays.Proofs.Generation.Deltas

/-!
How added occurrences are classified. The classification comes from the first addition of the pair
that has one, wherever that stands in the list; this need not be the delta that inserted the
occurrence, since an addition may have been removed again or may have come too late.
-/
namespace Holidays

namespace Delta

def FirstClassified (deltas : List Delta) (p : String × Date) (c : Classification) : Prop :=
  ∃ before name after, deltas = before ++ .add p.1 p.2 name (some c) :: after ∧
    ∀ name' c', .add p.1 p.2 name' (some c') ∉ before

theorem addsAs?_eq_some {o : Occurrence} {δ : Delta} {c : Classification} :
    addsAs? o δ = some c ↔ ∃ name, δ = .add o.key o.date name (some c) := by
  cases δ with
  | add key date name classification =>
    simp only [addsAs?, Option.ite_none_right_eq_some, add.injEq, exists_and_left, exists_eq_left']
    constructor
    · rintro ⟨⟨rfl, rfl⟩, rfl⟩
      exact ⟨rfl, rfl, rfl⟩
    · rintro ⟨rfl, rfl, rfl⟩
      exact ⟨⟨rfl, rfl⟩, rfl⟩
  | remove key date => simp [addsAs?]
  | reclassify key date classification => simp [addsAs?]

theorem firstClassified_iff {o : Occurrence} {deltas : List Delta} {c : Classification} :
    FirstClassified deltas o.pair c ↔ deltas.findSome? (addsAs? o) = some c := by
  rw [List.findSome?_eq_some_iff]
  constructor
  · rintro ⟨before, name, after, split, none⟩
    refine ⟨before, _, after, split, addsAs?_eq_some.mpr ⟨name, rfl⟩, ?_⟩
    intro δ early
    cases found : addsAs? o δ with
    | none => rfl
    | some c' =>
      obtain ⟨name', rfl⟩ := addsAs?_eq_some.mp found
      exact absurd early (none name' c')
  · rintro ⟨before, δ, after, split, found, none⟩
    obtain ⟨name, rfl⟩ := addsAs?_eq_some.mp found
    refine ⟨before, name, after, split, ?_⟩
    intro name' c' early
    have own : addsAs? o (.add o.key o.date name' (some c')) = some c' :=
      addsAs?_eq_some.mpr ⟨name', rfl⟩
    exact Option.some_ne_none c' (own.symm.trans (none _ early))

end Delta

namespace Specification

def due (s : Specification) (key : String) (given : Option Classification) : Classification :=
  (given <|> (s.source? key).bind EventSource.classification).getD .closed

theorem classificationOf_plain {s : Specification} {o : Occurrence}
    (unchanged : ∀ c, .reclassify o.key o.date c ∉ s.deltas)
    (unlisted : o.key ∉ s.classifications.map Prod.fst) :
    s.classificationOf o = s.due o.key (s.deltas.findSome? (Delta.addsAs? o)) := by
  have none : s.deltas.reverse.findSome? (Delta.reclassifies? o) = none := by
    rw [List.findSome?_eq_none_iff]
    intro δ listed
    cases δ with
    | add key date name classification => rfl
    | remove key date => rfl
    | reclassify key date classification =>
      simp only [Delta.reclassifies?, ite_eq_right_iff, reduceCtorEq, imp_false]
      rintro ⟨rfl, rfl⟩
      exact unchanged _ (List.mem_reverse.mp listed)
  rw [classificationOf, none, Keyed.find?_eq_none_iff.mpr unlisted]
  rfl

/-- An inserted occurrence has the classification due to it from the delta that inserted it exactly
where the first addition of its pair that has a classification has that one. -/
theorem classificationOf_inserted {s : Specification} {range : DateRange} {os : List Occurrence}
    {place : Nat} {o : Occurrence}
    (inserted : Delta.InsertsAt s.sources range os s.deltas place o)
    (unchanged : ∀ c, .reclassify o.key o.date c ∉ s.deltas)
    (unlisted : o.key ∉ s.classifications.map Prod.fst) :
    ∃ name c, s.deltas[place]? = some (.add o.key o.date name c) ∧
      o.name = name.getD (Delta.sourceName s.sources o.key) ∧
      o.provenance = Delta.addedProvenance ∧
      (s.classificationOf o = s.due o.key c ↔
        ∀ c', Delta.FirstClassified s.deltas o.pair c' → c' = s.due o.key c) := by
  obtain ⟨δ, listed, made⟩ := inserted.addition
  obtain ⟨-, -, added, name, c, rfl, named⟩ := Delta.addition?_eq_some made
  refine ⟨name, c, listed, named, added, ?_⟩
  simp only [Delta.firstClassified_iff]
  rw [classificationOf_plain unchanged unlisted]
  cases found : s.deltas.findSome? (Delta.addsAs? o) with
  | some c' => simp [due]
  | none =>
    have bare : c = none := by
      rw [List.findSome?_eq_none_iff] at found
      have own := found _ (List.mem_of_getElem? listed)
      simpa [Delta.addsAs?] using own
    simp [bare]

/-- January 9, 2024. -/
def funeralDay : Date := (Date.ofNumber? 738894).getD .first

def stateFuneral : Occurrence := ⟨"mourning", funeralDay, "State Funeral", "delta:add"⟩

/-- A day that is added, taken back and added again as a notable one. -/
def readded (first : Option Classification) : Specification where
  id := "readded"
  metadata := .empty
  weekend := .satSun
  policy := .none
  references := []
  sources := []
  classifications := []
  deltas :=
    [.add "mourning" funeralDay (some "Day of Mourning") first, .remove "mourning" funeralDay,
      .add "mourning" funeralDay (some "State Funeral") (some .notable)]
  chain := []

def funeralRange : DateRange := ⟨funeralDay, funeralDay, Int.le_refl _⟩

theorem readded_inserted (first : Option Classification) :
    Delta.InsertsAt (readded first).sources funeralRange [] (readded first).deltas 2
      stateFuneral where
  listed := Nat.lt_succ_self 2
  absent := by
    have empty : Delta.applyAll (readded first).sources funeralRange []
        ((readded first).deltas.take 2) = [] := by rfl
    simp [empty]
  present later after within := by
    have last : later = 3 := Nat.le_antisymm within after
    have one : Delta.applyAll (readded first).sources funeralRange []
        ((readded first).deltas.take 3) = [stateFuneral] := by rfl
    simp [last, one]

/-- Where the first addition has no classification, that of the second is found. -/
theorem classificationOf_inserted_readded :
    Delta.InsertsAt (readded none).sources funeralRange [] (readded none).deltas 2 stateFuneral ∧
    (∀ c, .reclassify "mourning" funeralDay c ∉ (readded none).deltas) ∧
    "mourning" ∉ (readded none).classifications.map Prod.fst ∧
    (readded none).classificationOf stateFuneral = .notable := by
  have unchanged : ∀ c, .reclassify "mourning" funeralDay c ∉ (readded none).deltas := by
    simp [readded]
  have unlisted : "mourning" ∉ (readded none).classifications.map Prod.fst := by simp [readded]
  refine ⟨readded_inserted none, unchanged, unlisted, ?_⟩
  obtain ⟨name, c, listed, -, -, agrees⟩ :=
    classificationOf_inserted (readded_inserted none) unchanged unlisted
  obtain ⟨rfl, rfl⟩ : some "State Funeral" = name ∧ some .notable = c := by
    simpa [readded, stateFuneral] using listed
  apply agrees.mpr
  intro c' first
  rw [Delta.firstClassified_iff] at first
  have found : (readded none).deltas.findSome? (Delta.addsAs? stateFuneral) = some .notable := by
    decide
  exact Option.some.inj (first.symm.trans found)

/-- Where it has one, that is given to the second as well, though another one is due to it. -/
theorem classificationOf_readded :
    ¬ ∀ (s : Specification) (range : DateRange) (os : List Occurrence) (place : Nat)
      (o : Occurrence) (name : Option String) (c : Option Classification),
      Delta.InsertsAt s.sources range os s.deltas place o →
      s.deltas[place]? = some (.add o.key o.date name c) →
      (∀ c', .reclassify o.key o.date c' ∉ s.deltas) →
      o.key ∉ s.classifications.map Prod.fst → s.classificationOf o = s.due o.key c := by
  intro given
  have own := given (readded (some .earlyClose)) funeralRange [] 2 stateFuneral
    (some "State Funeral") (some .notable) (readded_inserted _) rfl (by simp [readded])
    (by simp [readded])
  have other : (readded (some .earlyClose)).classificationOf stateFuneral = .earlyClose := by
    decide
  rw [other] at own
  exact absurd own (by decide)

end Specification

end Holidays
