import Holidays.Proofs.Observance.Cascade

/-!
Which days are taken does not depend on the order in which the holidays are served. Two holidays
that come one after the other and would take different days take these in either order; where both
would take the same day, the later one gets the next day after it, whichever comes later.
-/
namespace Holidays.Observance

section

variable {weekend : Weekend}

theorem nextFree?_eq_none_iff {claimed : List Date} {d : Date} :
    nextFree? weekend claimed d = none ↔ ∀ t, d < t → ¬ Free weekend claimed t := by
  constructor
  · intro missing t later free
    obtain ⟨t', found, -⟩ := nextFree?_le free later
    rw [missing] at found
    cases found
  · intro nothing
    cases found : nextFree? weekend claimed d with
    | none => rfl
    | some t =>
      obtain ⟨later, free, -⟩ := nextFree?_spec found
      exact absurd free (nothing t later)

theorem nextFree?_congr {these those : List Date} (same : ∀ d, d ∈ these ↔ d ∈ those) (d : Date) :
    nextFree? weekend these d = nextFree? weekend those d := by
  apply Option.ext
  intro t
  simp only [nextFree?_eq_some_iff, Free, same]

theorem claims_congr {these those : List Date} (same : ∀ d, d ∈ these ↔ d ∈ those)
    (os : List Occurrence) (d : Date) :
    d ∈ claims weekend these os ↔ d ∈ claims weekend those os := by
  induction os generalizing these those with
  | nil => exact same d
  | cons o os ih =>
    apply ih
    intro x
    simp only [List.mem_append, nextFree?_congr same, same]

theorem allot_congr {these those : List Date} (same : ∀ d, d ∈ these ↔ d ∈ those)
    (os : List Occurrence) : allot weekend these os = allot weekend those os := by
  induction os generalizing these those with
  | nil => rfl
  | cons o os ih =>
    simp only [allot, nextFree?_congr same]
    congr 1
    apply ih
    intro x
    simp only [List.mem_append, same]

theorem nextFree?_claim_other {claimed : List Date} {d t other : Date}
    (found : nextFree? weekend claimed d = some t) (apart : t ≠ other) :
    nextFree? weekend (other :: claimed) d = some t := by
  obtain ⟨later, free, least⟩ := nextFree?_spec found
  rw [nextFree?_eq_some_iff]
  refine ⟨later, ⟨free.1, by simp [apart, free.2]⟩, ?_⟩
  intro x after before free'
  exact least x after before (free'.mono (List.subset_cons_self _ _))

/-- Once the day found is claimed, the search goes on from it. -/
theorem nextFree?_claim_found {claimed : List Date} {d t : Date}
    (found : nextFree? weekend claimed d = some t) :
    nextFree? weekend (t :: claimed) d = nextFree? weekend (t :: claimed) t := by
  obtain ⟨later, -, least⟩ := nextFree?_spec found
  have notBefore : ∀ x, d < x → x ≤ t → ¬ Free weekend (t :: claimed) x := by
    intro x after upTo free
    by_cases here : x = t
    · exact free.2 (by simp [here])
    · have apart : x.number ≠ t.number := fun same => here (Date.ext_number same)
      have upTo : x.number ≤ t.number := upTo
      exact least x after (show x.number < t.number by omega)
        (free.mono (List.subset_cons_self _ _))
  apply Option.ext
  intro u
  rw [nextFree?_eq_some_iff, nextFree?_eq_some_iff]
  constructor
  · rintro ⟨after, free, least'⟩
    have beyond : ¬ u ≤ t := fun upTo => notBefore u after upTo free
    refine ⟨Int.not_le.mp beyond, free, ?_⟩
    intro x fromT
    exact least' x (Int.lt_trans later fromT)
  · rintro ⟨after, free, least'⟩
    refine ⟨Int.lt_trans later after, free, ?_⟩
    intro x fromD toU
    by_cases upTo : x ≤ t
    · exact notBefore x fromD upTo
    · exact least' x (Int.not_le.mp upTo) toU

theorem mem_claims_swap (claimed : List Date) (o p : Occurrence) (d : Date) :
    d ∈ claims weekend claimed [o, p] ↔ d ∈ claims weekend claimed [p, o] := by
  simp only [claims]
  cases first : nextFree? weekend claimed o.date with
  | none =>
    have still : nextFree? weekend ((nextFree? weekend claimed p.date).toList ++ claimed) o.date =
        none := by
      rw [nextFree?_eq_none_iff] at first ⊢
      intro t later free
      exact first t later (free.mono (List.subset_append_right _ _))
    rw [still]
    simp
  | some s =>
    cases second : nextFree? weekend claimed p.date with
    | none =>
      have still : nextFree? weekend (s :: claimed) p.date = none := by
        rw [nextFree?_eq_none_iff] at second ⊢
        intro t later free
        exact second t later (free.mono (List.subset_cons_self _ _))
      simp [first, still]
    | some t =>
      by_cases same : s = t
      · subst same
        simp [nextFree?_claim_found first, nextFree?_claim_found second]
      · have here := nextFree?_claim_other second (Ne.symm same)
        have there := nextFree?_claim_other first same
        simp [here, there, or_left_comm]

theorem mem_claims_perm {os ps : List Occurrence} (h : os.Perm ps) (claimed : List Date)
    (d : Date) : d ∈ claims weekend claimed os ↔ d ∈ claims weekend claimed ps := by
  induction h generalizing claimed with
  | nil => exact Iff.rfl
  | cons o _ ih => exact ih _
  | swap o p os =>
    have together : d ∈ claims weekend (claims weekend claimed [p, o]) os ↔
        d ∈ claims weekend (claims weekend claimed [o, p]) os :=
      claims_congr (mem_claims_swap claimed p o) os d
    rwa [← claims_append, ← claims_append] at together
  | trans _ _ ih ih' => exact (ih claimed).trans (ih' claimed)

end

/-- The business days on which holidays are observed are those claimed in the end. -/
theorem mem_claims_iff_observed {weekend : Weekend} {os : List Occurrence} {d : Date}
    (business : weekend.covers d = false) :
    d ∈ claims weekend (staying weekend os) (waiting weekend os) ↔ onDay weekend os d ≠ [] := by
  by_cases stays : d ∈ staying weekend os
  · obtain ⟨⟨o, held, here⟩, -⟩ := mem_staying.mp stays
    have listed : o ∈ onDay weekend os d := by
      rw [onDay, observed_on_staying stays]
      exact List.mem_filter.mpr ⟨held, by simpa using here⟩
    exact ⟨fun _ => List.ne_nil_of_mem listed, fun _ => subset_claims _ _ stays⟩
  · rw [onDay, observed_on_free ⟨business, stays⟩, mem_claims, Ne, List.eq_nil_iff_forall_not_mem]
    simp [stays]

end Holidays.Observance
