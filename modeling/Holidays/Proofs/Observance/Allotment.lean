import Holidays.Generation.Observance
import Holidays.Proofs.Civil.Order
import Mathlib.Data.List.Induction

/-!
Business days handed out in turn. Two runs over one list of holidays are compared: with fewer days
claimed at the start every holiday gets its day no later, and where the same days are claimed the
same days are given. Two runs that give one holiday one day must have agreed from some day on.
-/
namespace Holidays.Observance

def Free (weekend : Weekend) (claimed : List Date) (d : Date) : Prop :=
  weekend.covers d = false ∧ d ∉ claimed

theorem Free.mono {weekend : Weekend} {few many : List Date} {d : Date}
    (h : Free weekend many d) (sub : few ⊆ many) : Free weekend few d :=
  ⟨h.1, fun held => h.2 (sub held)⟩

section

variable {weekend : Weekend}

theorem nextFree?_spec {claimed : List Date} {d t : Date}
    (h : nextFree? weekend claimed d = some t) :
    d < t ∧ Free weekend claimed t ∧ ∀ x, d < x → x < t → ¬ Free weekend claimed x := by
  fun_induction nextFree? weekend claimed d with
  | case1 => cases h
  | case2 d next found taken ih =>
    rw [Date.addDays?_eq_some_iff] at found
    obtain ⟨later, free, least⟩ := ih h
    have later : next.number < t.number := later
    refine ⟨show d.number < t.number by omega, free, ?_⟩
    intro x above below
    have above : d.number < x.number := above
    by_cases same : x.number = next.number
    · rw [Date.ext_number same]
      intro unclaimed
      simp [unclaimed.1, unclaimed.2] at taken
    · exact least x (show next.number < x.number by omega) below
  | case3 d next found taken =>
    rw [Date.addDays?_eq_some_iff] at found
    obtain rfl : next = t := Option.some.inj h
    refine ⟨show d.number < next.number by omega, by simpa [Free] using taken, ?_⟩
    intro x above below
    have above : d.number < x.number := above
    have below : x.number < next.number := below
    omega

theorem nextFree?_le {claimed : List Date} {d t : Date} (free : Free weekend claimed t)
    (later : d.number < t.number) : ∃ t', nextFree? weekend claimed d = some t' ∧ t' ≤ t := by
  fun_induction nextFree? weekend claimed d with
  | case1 d found =>
    have highest : t.number ≤ Date.last.number := Int.le_sub_one_of_lt t.notAfter
    have lowest := d.notBefore
    rcases Date.addDays?_eq_none found with low | high
    · have : Date.first.number ≤ d.number := lowest
      omega
    · omega
  | case2 d next found taken ih =>
    rw [Date.addDays?_eq_some_iff] at found
    have apart : t.number ≠ next.number := by
      intro same
      rw [Date.ext_number same] at free
      simp [free.1, free.2] at taken
    exact ih (by omega)
  | case3 d next found taken =>
    rw [Date.addDays?_eq_some_iff] at found
    exact ⟨next, rfl, show next.number ≤ t.number by omega⟩

theorem nextFree?_eq_some_iff {claimed : List Date} {d t : Date} :
    nextFree? weekend claimed d = some t ↔
      d < t ∧ Free weekend claimed t ∧ ∀ x, d < x → x < t → ¬ Free weekend claimed x := by
  constructor
  · exact nextFree?_spec
  · rintro ⟨later, free, least⟩
    obtain ⟨t', found, early⟩ := nextFree?_le free later
    obtain ⟨later', free', -⟩ := nextFree?_spec found
    have early : t'.number ≤ t.number := early
    by_cases same : t'.number = t.number
    · rw [found, Date.ext_number same]
    · exact absurd free' (least t' later' (show t'.number < t.number by omega))

end

def allot (weekend : Weekend) (claimed : List Date) :
    List Occurrence → List (Occurrence × Option Date)
  | [] => []
  | o :: os =>
    let target := nextFree? weekend claimed o.date
    (o, target) :: allot weekend (target.toList ++ claimed) os

def claims (weekend : Weekend) (claimed : List Date) : List Occurrence → List Date
  | [] => claimed
  | o :: os => claims weekend ((nextFree? weekend claimed o.date).toList ++ claimed) os

section

variable {weekend : Weekend}

theorem allot_append (claimed : List Date) (os ps : List Occurrence) :
    allot weekend claimed (os ++ ps) =
      allot weekend claimed os ++ allot weekend (claims weekend claimed os) ps := by
  induction os generalizing claimed with
  | nil => rfl
  | cons o os ih => simp only [List.cons_append, allot, claims, ih]

theorem claims_append (claimed : List Date) (os ps : List Occurrence) :
    claims weekend claimed (os ++ ps) = claims weekend (claims weekend claimed os) ps := by
  induction os generalizing claimed with
  | nil => rfl
  | cons o os ih => simp only [List.cons_append, claims, ih]

theorem mem_claims {claimed : List Date} {os : List Occurrence} {d : Date} :
    d ∈ claims weekend claimed os ↔ d ∈ claimed ∨ ∃ o, (o, some d) ∈ allot weekend claimed os := by
  induction os generalizing claimed with
  | nil => simp [claims, allot]
  | cons o os ih =>
    simp only [claims, allot, ih, List.mem_append, Option.mem_toList, List.mem_cons, Prod.mk.injEq]
    constructor
    · rintro ((target | old) | ⟨p, given⟩)
      · exact .inr ⟨o, .inl ⟨rfl, target.symm⟩⟩
      · exact .inl old
      · exact .inr ⟨p, .inr given⟩
    · rintro (old | ⟨p, ⟨-, target⟩ | given⟩)
      · exact .inl (.inr old)
      · exact .inl (.inl target.symm)
      · exact .inr ⟨p, given⟩

theorem subset_claims (claimed : List Date) (os : List Occurrence) :
    claimed ⊆ claims weekend claimed os := fun _ held => mem_claims.2 (.inl held)

theorem split_of_mem_allot {claimed : List Date} {os : List Occurrence} {o : Occurrence}
    {r : Option Date} (h : (o, r) ∈ allot weekend claimed os) :
    ∃ pre post, os = pre ++ o :: post ∧
      nextFree? weekend (claims weekend claimed pre) o.date = r := by
  induction os generalizing claimed with
  | nil => cases h
  | cons p os ih =>
    rcases List.mem_cons.1 h with here | there
    · cases here
      exact ⟨[], os, rfl, rfl⟩
    · obtain ⟨pre, post, rfl, given⟩ := ih there
      exact ⟨p :: pre, post, rfl, given⟩

theorem mem_of_mem_allot {claimed : List Date} {os : List Occurrence} {o : Occurrence}
    {r : Option Date} (h : (o, r) ∈ allot weekend claimed os) : o ∈ os := by
  obtain ⟨pre, post, rfl, -⟩ := split_of_mem_allot h
  simp

theorem free_of_mem_allot {claimed : List Date} {os : List Occurrence} {o : Occurrence} {t : Date}
    (h : (o, some t) ∈ allot weekend claimed os) : o.date < t ∧ Free weekend claimed t := by
  obtain ⟨pre, post, rfl, given⟩ := split_of_mem_allot h
  obtain ⟨later, free, -⟩ := nextFree?_spec given
  exact ⟨later, free.mono (subset_claims claimed pre)⟩

theorem target_lt {claimed : List Date} {os : List Occurrence} {o x : Occurrence} {t : Date}
    {r : Option Date} (sorted : ∀ x ∈ os, x.date ≤ o.date)
    (last : nextFree? weekend (claims weekend claimed os) o.date = some t)
    (earlier : (x, r) ∈ allot weekend claimed os) : ∃ t', r = some t' ∧ t' < t := by
  obtain ⟨later, free, -⟩ := nextFree?_spec last
  obtain ⟨pre, post, split, given⟩ := split_of_mem_allot earlier
  have before : x.date.number ≤ o.date.number := sorted x (mem_of_mem_allot earlier)
  have later : o.date.number < t.number := later
  have known : claims weekend claimed pre ⊆ claims weekend claimed os := by
    rw [split, claims_append]
    exact subset_claims _ _
  obtain ⟨t', found, early⟩ :=
    nextFree?_le (free.mono known) (show x.date.number < t.number by omega)
  rw [given] at found
  subst found
  have early : t'.number ≤ t.number := early
  refine ⟨t', rfl, ?_⟩
  by_cases same : t'.number = t.number
  · have taken : t' ∈ claims weekend claimed os := mem_claims.2 (.inr ⟨x, earlier⟩)
    exact absurd (Date.ext_number same ▸ taken) free.2
  · exact show t'.number < t.number by omega

theorem filter_target_eq_nil {claimed : List Date} {os : List Occurrence} {d : Date}
    (taken : d ∈ claimed) : (allot weekend claimed os).filter (fun x => x.2 = some d) = [] := by
  rw [List.filter_eq_nil_iff]
  rintro ⟨o, r⟩ given here
  obtain rfl : r = some d := by simpa using here
  exact (free_of_mem_allot given).2.2 taken

theorem length_filter_target (claimed : List Date) (os : List Occurrence) (d : Date) :
    ((allot weekend claimed os).filter fun x => x.2 = some d).length ≤ 1 := by
  induction os generalizing claimed with
  | nil => simp [allot]
  | cons o os ih =>
    by_cases here : nextFree? weekend claimed o.date = some d
    · have rest : d ∈ (nextFree? weekend claimed o.date).toList ++ claimed := by simp [here]
      simp only [allot]
      rw [List.filter_cons_of_pos (by simpa using here), filter_target_eq_nil rest]
      simp
    · simp only [allot]
      rw [List.filter_cons_of_neg (by simpa using here)]
      exact ih _

theorem claimed_mono {few many : List Date} (sub : few ⊆ many) (d : Date) :
    (nextFree? weekend few d).toList ++ few ⊆ (nextFree? weekend many d).toList ++ many := by
  intro x held
  rcases List.mem_append.1 held with target | old
  · obtain ⟨later, free, least⟩ := nextFree?_spec (Option.mem_toList.1 target)
    by_cases known : x ∈ many
    · exact List.mem_append_right _ known
    · obtain ⟨t, found, early⟩ := nextFree?_le ⟨free.1, known⟩ later
      obtain ⟨later', free', -⟩ := nextFree?_spec found
      have early : t.number ≤ x.number := early
      have same : t = x := by
        by_cases same : t.number = x.number
        · exact Date.ext_number same
        · exact absurd (free'.mono sub) (least t later' (show t.number < x.number by omega))
      subst same
      simp [found]
  · exact List.mem_append_right _ (sub old)

/-- With fewer days claimed no holiday is pushed further. -/
theorem allot_mono {few many : List Date} (sub : few ⊆ many) {os : List Occurrence}
    {o : Occurrence} {r : Option Date} (h : (o, r) ∈ allot weekend few os) :
    ∃ r', (o, r') ∈ allot weekend many os ∧ ∀ t, r' = some t → ∃ t', r = some t' ∧ t' ≤ t := by
  induction os generalizing few many with
  | nil => cases h
  | cons p os ih =>
    rcases List.mem_cons.1 h with here | there
    · cases here
      refine ⟨_, List.mem_cons_self, ?_⟩
      intro t found
      obtain ⟨later, free, -⟩ := nextFree?_spec found
      exact nextFree?_le (free.mono sub) later
    · obtain ⟨r', given, early⟩ := ih (claimed_mono sub p.date) there
      exact ⟨r', List.mem_cons_of_mem _ given, early⟩

def AgreeOn (low high : Int) (these those : List Date) : Prop :=
  ∀ d : Date, low ≤ d.number → d.number ≤ high → (d ∈ these ↔ d ∈ those)

theorem AgreeOn.symm {low high : Int} {these those : List Date} (h : AgreeOn low high these those) :
    AgreeOn low high those these := fun d above below => (h d above below).symm

theorem AgreeOn.free {low high : Int} {these those : List Date} (h : AgreeOn low high these those)
    {d : Date} (above : low ≤ d.number) (below : d.number ≤ high) :
    Free weekend these d ↔ Free weekend those d :=
  and_congr Iff.rfl (not_congr (h d above below))

theorem AgreeOn.target {low high : Int} {these those : List Date}
    (h : AgreeOn low high these those) {d t : Date} (above : low ≤ d.number)
    (below : t.number ≤ high) (found : nextFree? weekend these d = some t) :
    nextFree? weekend those d = some t := by
  obtain ⟨later, free, least⟩ := nextFree?_spec found
  have later' : d.number < t.number := later
  refine nextFree?_eq_some_iff.2 ⟨later, (h.free (by omega) below).1 free, ?_⟩
  intro x after before
  have after' : d.number < x.number := after
  have before' : x.number < t.number := before
  exact fun free' => least x after before ((h.free (by omega) (by omega)).2 free')

theorem AgreeOn.given {low high : Int} {these those : List Date}
    (h : AgreeOn low high these those) {os : List Occurrence}
    (after : ∀ o ∈ os, low ≤ o.date.number) {t : Date} (below : t.number ≤ high) :
    (allot weekend these os).filter (fun x => x.2 = some t) =
      (allot weekend those os).filter fun x => x.2 = some t := by
  induction os generalizing these those with
  | nil => rfl
  | cons o os ih =>
    have above := after o List.mem_cons_self
    have same (d : Date) (near : d.number ≤ high) :
        nextFree? weekend these o.date = some d ↔ nextFree? weekend those o.date = some d :=
      ⟨h.target above near, h.symm.target above near⟩
    have rest : AgreeOn low high ((nextFree? weekend these o.date).toList ++ these)
        ((nextFree? weekend those o.date).toList ++ those) := by
      intro d notBefore notAfter
      simp only [List.mem_append, Option.mem_toList, same d notAfter, h d notBefore notAfter]
    have tail := ih rest fun p held => after p (List.mem_cons_of_mem _ held)
    simp only [allot]
    by_cases here : nextFree? weekend these o.date = some t
    · rw [List.filter_cons_of_pos (by simpa using here),
        List.filter_cons_of_pos (by simpa using (same t below).1 here), tail, here,
        (same t below).1 here]
    · rw [List.filter_cons_of_neg (by simpa using here),
        List.filter_cons_of_neg (by simpa using fun found => here ((same t below).2 found)), tail]

end

/-- Every holiday before a day is observed before it. -/
def Clear (days : List (Occurrence × Option Date)) (c : Date) : Prop :=
  ∀ x ∈ days, x.1.date < c → ∃ t, x.2 = some t ∧ t < c

section

variable {weekend : Weekend}

/-- The last holiday of a run takes a day, and a day between is claimed in this run: then the
holiday before the last has a day between, no earlier than that one. -/
theorem previous_target {claimed : List Date} {os : List Occurrence} {q o : Occurrence} {t d : Date}
    (sorted : (os ++ [q] ++ [o]).Pairwise fun x y => x.date ≤ y.date)
    (last : nextFree? weekend (claims weekend claimed (os ++ [q])) o.date = some t)
    (taken : d ∈ claims weekend claimed (os ++ [q])) (new : d ∉ claimed) :
    ∃ e, nextFree? weekend (claims weekend claimed os) q.date = some e ∧ d ≤ e ∧ e < t := by
  rw [List.pairwise_append] at sorted
  obtain ⟨front, -, before⟩ := sorted
  rw [List.pairwise_append] at front
  have listed : (q, nextFree? weekend (claims weekend claimed os) q.date) ∈
      allot weekend claimed (os ++ [q]) := by
    rw [allot_append]
    exact List.mem_append_right _ List.mem_cons_self
  obtain ⟨e, given, early⟩ :=
    target_lt (fun x held => before x held o (by simp)) last listed
  refine ⟨e, given, ?_, early⟩
  rcases mem_claims.1 taken with old | ⟨x, held⟩
  · exact absurd old new
  · rw [allot_append] at held
    rcases List.mem_append.1 held with earlier | isLast
    · obtain ⟨t', same, less⟩ := target_lt (fun y h => front.2.2 y h q (by simp)) given earlier
      cases same
      exact Int.le_of_lt less
    · have same := (Prod.mk.inj (List.mem_singleton.1 isLast)).2
      rw [given] at same
      cases same
      exact Int.le_refl _

/-- What the last holiday of a run passes over was claimed before its turn. -/
theorem claimed_of_passed {claimed : List Date} {os : List Occurrence} {o : Occurrence} {t d : Date}
    (last : nextFree? weekend (claims weekend claimed os) o.date = some t) (after : o.date < d)
    (before : d < t) (business : weekend.covers d = false) : d ∈ claims weekend claimed os := by
  by_cases held : d ∈ claims weekend claimed os
  · exact held
  · exact absurd ⟨business, held⟩ ((nextFree?_spec last).2.2 d after before)

theorem clear_or_passed {claimed : List Date} {os : List Occurrence} {o : Occurrence} {t : Date}
    (sorted : ∀ x ∈ os, x.date ≤ o.date) (onWeekend : weekend.covers o.date = true)
    (last : nextFree? weekend (claims weekend claimed os) o.date = some t) :
    Clear (allot weekend claimed (os ++ [o])) o.date ∨
      ∃ d, o.date < d ∧ d < t ∧ Free weekend claimed d ∧ d ∈ claims weekend claimed os := by
  by_cases calm : ∀ x d, (x, some d) ∈ allot weekend claimed os → d ≤ o.date
  · left
    rintro ⟨x, r⟩ listed before
    rw [allot_append] at listed
    rcases List.mem_append.1 listed with earlier | isLast
    · obtain ⟨d, rfl, -⟩ := target_lt sorted last earlier
      have early : d.number ≤ o.date.number := calm x d earlier
      refine ⟨d, rfl, ?_⟩
      by_cases same : d.number = o.date.number
      · have business := (free_of_mem_allot earlier).2.1
        rw [Date.ext_number same, onWeekend] at business
        cases business
      · exact show d.number < o.date.number by omega
    · obtain rfl := (Prod.mk.inj (List.mem_singleton.1 isLast)).1
      exact absurd before (Int.lt_irrefl _)
  · right
    simp only [not_forall] at calm
    obtain ⟨x, d, given, late⟩ := calm
    obtain ⟨d', same, before⟩ := target_lt sorted last given
    cases same
    exact ⟨d, Int.lt_of_not_ge late, before, (free_of_mem_allot given).2,
      mem_claims.2 (.inr ⟨x, given⟩)⟩

/-- Two runs from what is claimed in a span, one of them with earlier holidays, give the last one
the same day: then the other run has a clear day in the span. -/
theorem exists_clear {low high : Int} {narrow wide : List Date}
    (agree : AgreeOn low high narrow wide)
    {early os : List Occurrence} {o : Occurrence} {t : Date}
    (sorted : (early ++ os ++ [o]).Pairwise fun x y => x.date ≤ y.date)
    (weekends : ∀ x ∈ os ++ [o], weekend.covers x.date = true)
    (above : ∀ x ∈ os ++ [o], low ≤ x.date.number) (below : t.number ≤ high)
    (inNarrow : nextFree? weekend (claims weekend narrow os) o.date = some t)
    (inWide : nextFree? weekend (claims weekend wide (early ++ os)) o.date = some t) :
    ∃ c : Date, low ≤ c.number ∧ c ≤ o.date ∧
      Clear (allot weekend wide (early ++ os ++ [o])) c := by
  -- Back through the holidays: as long as days between are taken, the one before has the same day
  -- in both runs too.
  induction os using List.reverseRecOn generalizing o t with
  | nil =>
    have start := above o (by simp)
    have before := (List.pairwise_append.1 sorted).2.2
    rcases clear_or_passed (fun x held => before x held o (by simp)) (weekends o (by simp)) inWide
      with clear | ⟨d, after, less, free, -⟩
    · exact ⟨o.date, start, Int.le_refl _, clear⟩
    · have after' : o.date.number < d.number := after
      have less' : d.number < t.number := less
      have taken : d ∈ narrow := claimed_of_passed inNarrow after less free.1
      exact absurd ((agree d (by omega) (by omega)).1 taken) free.2
  | append_singleton os q ih =>
    have start := above o (by simp)
    have before := (List.pairwise_append.1 sorted).2.2
    rcases clear_or_passed (fun x held => before x held o (by simp)) (weekends o (by simp)) inWide
      with clear | ⟨d, after, less, free, passed⟩
    · exact ⟨o.date, start, Int.le_refl _, clear⟩
    · have after' : o.date.number < d.number := after
      have less' : d.number < t.number := less
      have inSpan {e : Date} (low' : d ≤ e) (high' : e < t) :
          low ≤ e.number ∧ e.number ≤ high ∧ o.date < e := by
        have low' : d.number ≤ e.number := low'
        have high' : e.number < t.number := high'
        exact ⟨by omega, by omega, show o.date.number < e.number by omega⟩
      rw [← List.append_assoc] at sorted inWide passed ⊢
      have sortedNarrow : (os ++ [q] ++ [o]).Pairwise fun x y => x.date ≤ y.date := by
        simp only [List.append_assoc] at sorted ⊢
        exact (List.pairwise_append.1 sorted).2.1
      have notNarrow : d ∉ narrow := fun held =>
        free.2 ((agree d (by omega) (by omega)).1 held)
      obtain ⟨e, given, fromD, toT⟩ := previous_target sortedNarrow inNarrow
        (claimed_of_passed inNarrow after less free.1) notNarrow
      obtain ⟨e', given', fromD', toT'⟩ := previous_target sorted inWide passed free.2
      obtain ⟨aboveE, belowE, later⟩ := inSpan fromD toT
      obtain ⟨above', below', later'⟩ := inSpan fromD' toT'
      have business := (nextFree?_spec given).2.1.mono (subset_claims narrow os)
      have business' := (nextFree?_spec given').2.1.mono (subset_claims wide (early ++ os))
      -- The last holiday passes over either day in the other run, so neither is the later one.
      have notLater : e ≤ e' := by
        obtain ⟨f, found, most, -⟩ := previous_target sorted inWide
          (claimed_of_passed inWide later toT business.1)
          ((agree.free aboveE belowE).1 business).2
        rw [given'] at found
        cases found
        exact most
      have notEarlier : e' ≤ e := by
        obtain ⟨f, found, most, -⟩ := previous_target sortedNarrow inNarrow
          (claimed_of_passed inNarrow later' toT' business'.1)
          ((agree.free above' below').2 business').2
        rw [given] at found
        cases found
        exact most
      obtain rfl : e = e' := Date.ext_number (Int.le_antisymm notLater notEarlier)
      obtain ⟨c, first, last, clear⟩ := ih (List.pairwise_append.1 sorted).1
        (fun x held => weekends x (List.mem_append_left _ held))
        (fun x held => above x (List.mem_append_left _ held)) belowE given given'
      have order : q.date ≤ o.date := (List.pairwise_append.1 sorted).2.2 q (by simp) o (by simp)
      refine ⟨c, first, Int.le_trans last order, ?_⟩
      rintro ⟨x, r⟩ listed earlier
      rw [allot_append] at listed
      rcases List.mem_append.1 listed with old | isLast
      · exact clear _ old earlier
      · obtain rfl := (Prod.mk.inj (List.mem_singleton.1 isLast)).1
        exact absurd (Int.lt_of_lt_of_le earlier (Int.le_trans last order)) (Int.lt_irrefl _)

end

end Holidays.Observance
