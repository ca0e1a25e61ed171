import Holidays.Proofs.Observance.Shifted

namespace Holidays.Observance

def near (low high : Int) (d : Date) : Bool := decide (low ≤ d.number ∧ d.number ≤ high)

theorem sorted_split {os : List Occurrence} (sorted : os.Pairwise fun x y => x.date ≤ y.date)
    (n : Int) : os = os.filter (fun o => decide (o.date.number < n)) ++
      os.filter fun o => decide (n ≤ o.date.number) := by
  induction os with
  | nil => rfl
  | cons o os ih =>
    rw [List.pairwise_cons] at sorted
    by_cases early : o.date.number < n
    · have kept : ¬ n ≤ o.date.number := by omega
      rw [List.filter_cons_of_pos (by simpa using early),
        List.filter_cons_of_neg (by simpa using kept), List.cons_append, ← ih sorted.2]
    · have late : n ≤ o.date.number := by omega
      have notEarly : os.filter (fun o => decide (o.date.number < n)) = [] := by
        rw [List.filter_eq_nil_iff]
        intro x held
        have after : o.date.number ≤ x.date.number := sorted.1 x held
        simp only [decide_eq_true_eq]
        omega
      have all : os.filter (fun o => decide (n ≤ o.date.number)) = os := by
        rw [List.filter_eq_self]
        intro x held
        have after : o.date.number ≤ x.date.number := sorted.1 x held
        simp only [decide_eq_true_eq]
        omega
      rw [List.filter_cons_of_neg (by simpa using early),
        List.filter_cons_of_pos (by simpa using late), notEarly, all, List.nil_append]

theorem split_at {os : List Occurrence} (sorted : os.Pairwise fun x y => x.date ≤ y.date)
    (n : Int) : ∃ early late, os = early ++ late ∧ (∀ o ∈ early, o.date.number < n) ∧
      ∀ o ∈ late, n ≤ o.date.number := by
  refine ⟨_, _, sorted_split sorted n, ?_, ?_⟩
  · intro o held
    exact of_decide_eq_true (List.mem_filter.1 held).2
  · intro o held
    exact of_decide_eq_true (List.mem_filter.1 held).2

theorem near_split {os : List Occurrence} (sorted : os.Pairwise fun x y => x.date ≤ y.date)
    (low high : Int) : ∃ early late,
      os = early ++ (os.filter fun o => near low high o.date) ++ late ∧
      (∀ o ∈ early, o.date.number < low) ∧ ∀ o ∈ late, high < o.date.number := by
  have inner : (os.filter fun o => decide (low ≤ o.date.number)).filter
      (fun o => decide (o.date.number < high + 1)) = os.filter fun o => near low high o.date := by
    rw [List.filter_filter]
    apply List.filter_congr
    intro o _
    rw [near, ← Bool.decide_and, decide_eq_decide]
    omega
  refine ⟨os.filter fun o => decide (o.date.number < low),
    (os.filter fun o => decide (low ≤ o.date.number)).filter
      fun o => decide (high + 1 ≤ o.date.number), ?_, ?_, ?_⟩
  · rw [← inner, List.append_assoc, ← sorted_split (sorted.filter _), ← sorted_split sorted]
  · intro o held
    simpa using (List.mem_filter.1 held).2
  · intro o held
    have after : high + 1 ≤ o.date.number := of_decide_eq_true (List.mem_filter.1 held).2
    omega

section

variable {weekend : Weekend} {claimed : List Date} {os : List Occurrence} {low high : Int}

theorem agreeOn_near : AgreeOn low high (claimed.filter (near low high)) claimed := by
  intro d above below
  simp [near, above, below]

theorem filter_target_of_before {d : Date} (before : ∀ x r, (x, r) ∈ allot weekend claimed os →
    ∃ t, r = some t ∧ t < d) : (allot weekend claimed os).filter (fun x => x.2 = some d) = [] := by
  rw [List.filter_eq_nil_iff]
  rintro ⟨x, r⟩ listed here
  obtain ⟨t, rfl, less⟩ := before x r listed
  obtain rfl : t = d := by simpa using here
  exact Int.lt_irrefl _ less

theorem mem_claims_of_before {c d : Date} (before : ∀ x r, (x, r) ∈ allot weekend claimed os →
    ∃ t, r = some t ∧ t < c) (after : c ≤ d) : d ∈ claims weekend claimed os ↔ d ∈ claimed := by
  rw [mem_claims]
  constructor
  · rintro (held | ⟨x, given⟩)
    · exact held
    · obtain ⟨t, same, less⟩ := before x _ given
      cases same
      exact absurd (Int.lt_of_le_of_lt after less) (Int.lt_irrefl _)
  · exact .inl

/-- From a clear day on, the holidays near the range get the days that they get among all. -/
theorem given_of_clear (sorted : os.Pairwise fun x y => x.date ≤ y.date) {c d : Date}
    (clear : Clear (allot weekend claimed os) c) (above : low ≤ c.number) (after : c ≤ d)
    (below : d.number ≤ high) :
    (allot weekend (claimed.filter (near low high))
        (os.filter fun o => near low high o.date)).filter (fun x => x.2 = some d) =
      (allot weekend claimed os).filter fun x => x.2 = some d := by
  obtain ⟨early, late, whole, toLow, fromHigh⟩ := near_split sorted low high
  obtain ⟨first, rest, middle, toClear, fromClear⟩ := split_at (sorted.filter fun o =>
    near low high o.date) c.number
  have cut : os = early ++ first ++ (rest ++ late) := by
    conv_lhs => rw [whole, middle]
    simp only [List.append_assoc]
  -- In both runs the holidays before the clear day are done with before it.
  have calm : ∀ x r, (x, r) ∈ allot weekend claimed (early ++ first) → ∃ t, r = some t ∧ t < c := by
    intro x r listed
    refine clear (x, r) ?_ ?_
    · rw [cut, allot_append]
      exact List.mem_append_left _ listed
    · show x.date.number < c.number
      rcases List.mem_append.1 (mem_of_mem_allot listed) with old | new
      · have := toLow x old
        omega
      · exact toClear x new
  have calmNear : ∀ x r, (x, r) ∈ allot weekend (claimed.filter (near low high)) first →
      ∃ t, r = some t ∧ t < c := by
    intro x r listed
    have sub : claimed.filter (near low high) ⊆ claims weekend claimed early := fun x held =>
      subset_claims claimed early (List.mem_filter.1 held).1
    obtain ⟨r', listed', bound⟩ := allot_mono sub listed
    have among : (x, r') ∈ allot weekend claimed (early ++ first) := by
      rw [allot_append]
      exact List.mem_append_right _ listed'
    obtain ⟨t, rfl, less⟩ := calm x r' among
    obtain ⟨t', same, notLater⟩ := bound t rfl
    exact ⟨t', same, Int.lt_of_le_of_lt notLater less⟩
  have agree : AgreeOn c.number high (claims weekend (claimed.filter (near low high)) first)
      (claims weekend claimed (early ++ first)) := by
    intro x above' below'
    rw [mem_claims_of_before calmNear above', mem_claims_of_before calm above']
    exact agreeOn_near x (Int.le_trans above above') below'
  have weaken {days : List (Occurrence × Option Date)} (h : ∀ x r, (x, r) ∈ days →
      ∃ t, r = some t ∧ t < c) : ∀ x r, (x, r) ∈ days → ∃ t, r = some t ∧ t < d := by
    intro x r listed
    obtain ⟨t, same, less⟩ := h x r listed
    exact ⟨t, same, Int.lt_of_lt_of_le less after⟩
  -- A holiday after the range cannot be observed in it.
  have beyond : (allot weekend (claims weekend (claims weekend claimed (early ++ first)) rest)
      late).filter (fun x => x.2 = some d) = [] := by
    rw [List.filter_eq_nil_iff]
    rintro ⟨x, r⟩ listed here
    obtain rfl : r = some d := by simpa using here
    have later : x.date.number < d.number := (free_of_mem_allot listed).1
    have := fromHigh x (mem_of_mem_allot listed)
    omega
  rw [middle, allot_append, List.filter_append, filter_target_of_before (weaken calmNear),
    agree.given fromClear below, cut, allot_append _ (early ++ first), allot_append _ rest,
    List.filter_append, List.filter_append, filter_target_of_before (weaken calm), beyond,
    List.append_nil]

/-- A holiday that gets one day among all holidays and among those near the range shows that some
day near the range is clear. -/
theorem exists_clear_of_given (sorted : os.Pairwise fun x y => x.date ≤ y.date)
    (weekends : ∀ o ∈ os, weekend.covers o.date = true) (distinct : os.Nodup)
    {o : Occurrence} {t : Date} (below : t.number ≤ high)
    (inNarrow : (o, some t) ∈ allot weekend (claimed.filter (near low high))
      (os.filter fun o => near low high o.date))
    (inWide : (o, some t) ∈ allot weekend claimed os) :
    ∃ c : Date, low ≤ c.number ∧ c ≤ o.date ∧ Clear (allot weekend claimed os) c := by
  obtain ⟨early, late, whole, toLow, -⟩ := near_split sorted low high
  obtain ⟨pre, post, middle, narrow⟩ := split_of_mem_allot inNarrow
  obtain ⟨before, after, split, wide⟩ := split_of_mem_allot inWide
  have among : ∀ x ∈ pre ++ [o], x ∈ os ∧ low ≤ x.date.number := by
    intro x held
    have listed : x ∈ os.filter fun o => near low high o.date := by
      rw [middle]
      rcases List.mem_append.1 held with old | new
      · simp [old]
      · simp [List.mem_singleton.1 new]
    obtain ⟨inside, bounds⟩ := List.mem_filter.1 listed
    exact ⟨inside, (of_decide_eq_true bounds).1⟩
  have cut : os = early ++ pre ++ [o] ++ (post ++ late) := by
    conv_lhs => rw [whole, middle]
    simp only [List.append_assoc, List.cons_append, List.nil_append]
  have same : before = early ++ pre := by
    have twice : before ++ o :: after = early ++ pre ++ o :: (post ++ late) := by
      rw [← split, cut]
      simp only [List.append_assoc, List.cons_append, List.nil_append]
    rw [split, List.nodup_append] at distinct
    have notBefore : o ∉ before := fun held => distinct.2.2 o held o List.mem_cons_self rfl
    have notAfter : o ∉ after := (List.nodup_cons.1 distinct.2.1).1
    exact ((List.append_cons_inj_of_notMem notBefore notAfter).1 twice).1
  subst same
  rw [cut] at sorted
  obtain ⟨sortedFront, -, order⟩ := List.pairwise_append.1 sorted
  obtain ⟨c, first, last, clear⟩ := exists_clear agreeOn_near sortedFront
    (fun x held => weekends x (among x held).1) (fun x held => (among x held).2) below narrow wide
  refine ⟨c, first, last, ?_⟩
  rw [cut, allot_append]
  intro x listed earlier
  rcases List.mem_append.1 listed with front | back
  · exact clear x front earlier
  · have later : o.date ≤ x.1.date := order o (by simp) x.1 (mem_of_mem_allot back)
    exact absurd (Int.lt_of_lt_of_le earlier (Int.le_trans last later)) (Int.lt_irrefl _)

def onDay (weekend : Weekend) (os : List Occurrence) (d : Date) : List Occurrence :=
  ((observances weekend os).filter fun x => x.2 = some d).map Prod.fst

theorem mem_onDay {d : Date} {o : Occurrence} :
    o ∈ onDay weekend os d ↔ (o, some d) ∈ observances weekend os := by
  simp [onDay]

theorem free_near {d : Date} (free : Free weekend (staying weekend os) d) :
    Free weekend (staying weekend (os.filter fun o => near low high o.date)) d := by
  rw [staying_filter]
  exact free.mono fun x held => (List.mem_filter.1 held).1

theorem onDay_free_near {d : Date} (free : Free weekend (staying weekend os) d) :
    onDay weekend (os.filter fun o => near low high o.date) d =
      ((allot weekend ((staying weekend os).filter (near low high))
        ((waiting weekend os).filter fun o => near low high o.date)).filter
          fun x => x.2 = some d).map Prod.fst := by
  rw [onDay, observed_on_free (free_near free), staying_filter, ← filter_waiting]

/-- On a day of the range the holidays near the range are observed as among all, if no cascade
crosses some day before or if the day is taken anyway. -/
theorem onDay_near {d : Date} (above : low ≤ d.number) (below : d.number ≤ high)
    (clear : Free weekend (staying weekend os) d →
      ∃ c : Date, low ≤ c.number ∧ c ≤ d ∧ Clear (observances weekend os) c) :
    onDay weekend (os.filter fun o => near low high o.date) d = onDay weekend os d := by
  by_cases free : Free weekend (staying weekend os) d
  · obtain ⟨c, start, before, clear⟩ := clear free
    rw [clear_observances_iff (isWhole_eq_false free.1)] at clear
    rw [onDay_free_near free, given_of_clear (waiting_sorted os) clear start before below, onDay,
      observed_on_free free]
  · cases covered : weekend.covers d with
    | true => simp only [onDay, observed_on_weekend covered]
    | false =>
      have stays : d ∈ staying weekend os := by
        by_cases held : d ∈ staying weekend os
        · exact held
        · exact absurd ⟨covered, held⟩ free
      have staysNear : d ∈ staying weekend (os.filter fun o => near low high o.date) := by
        rw [staying_filter]
        exact List.mem_filter.2 ⟨stays, by simp [near, above, below]⟩
      rw [onDay, observed_on_staying staysNear, onDay, observed_on_staying stays,
        List.filter_filter]
      apply List.filter_congr
      intro o _
      by_cases here : o.date = d
      · simp [here, near, above, below]
      · simp [here]

theorem waiting_of_observed_on_free {d : Date} (free : Free weekend (staying weekend os) d)
    {o : Occurrence} (h : o ∈ onDay weekend os d) : weekend.covers o.date = true := by
  rw [mem_onDay] at h
  cases covered : weekend.covers o.date with
  | true => rfl
  | false =>
    cases target_of_staying h covered
    exact absurd (mem_staying.2 ⟨⟨o, mem_of_mem_observances h, rfl⟩, covered⟩) free.2

theorem exists_clear_of_onDay (distinct : os.Nodup) {d : Date} {o : Occurrence}
    (free : Free weekend (staying weekend os) d) (below : d.number ≤ high)
    (inNarrow : o ∈ onDay weekend (os.filter fun o => near low high o.date) d)
    (inWide : o ∈ onDay weekend os d) :
    ∃ c : Date, low ≤ c.number ∧ c ≤ o.date ∧ Clear (observances weekend os) c := by
  rw [onDay_free_near free] at inNarrow
  rw [onDay, observed_on_free free] at inWide
  have given {days : List (Occurrence × Option Date)}
      (h : o ∈ (days.filter fun x => x.2 = some d).map Prod.fst) : (o, some d) ∈ days := by
    simpa using h
  obtain ⟨c, first, last, clear⟩ := exists_clear_of_given (waiting_sorted os)
    (fun x held => (mem_waiting.1 held).2)
    ((List.mergeSort_perm _ _).nodup_iff.2 (distinct.filter _)) below (given inNarrow)
    (given inWide)
  exact ⟨c, first, last, (clear_observances_iff (isWhole_eq_false free.1)).2 clear⟩

theorem first_free_taken {a d : Date} (free : Free weekend (staying weekend os) d) (after : a ≤ d)
    (least : ∀ x, a ≤ x → x < d → ¬ Free weekend (staying weekend os) x)
    (crossed : ¬ Clear (observances weekend os) a) : ∃ o ∈ onDay weekend os d, o.date < a := by
  rw [clear_observances_iff (isWhole_eq_false free.1)] at crossed
  simp only [Clear, not_forall] at crossed
  obtain ⟨⟨x, r⟩, listed, early, late⟩ := crossed
  obtain ⟨pre, post, split, found⟩ := split_of_mem_allot listed
  have inList {o : Occurrence}
      (given : (o, some d) ∈ allot weekend (staying weekend os) (waiting weekend os)) :
      o ∈ onDay weekend os d := by
    rw [onDay, observed_on_free free]
    exact List.mem_map.2 ⟨(o, some d), List.mem_filter.2 ⟨given, by simp⟩, rfl⟩
  by_cases taken : d ∈ claims weekend (staying weekend os) pre
  · rcases mem_claims.1 taken with stays | ⟨o, given⟩
    · exact absurd stays free.2
    · refine ⟨o, inList ?_, ?_⟩
      · rw [split, allot_append]
        exact List.mem_append_left _ given
      · have sorted : (waiting weekend os).Pairwise fun x y => x.date ≤ y.date := waiting_sorted os
        rw [split, List.pairwise_append] at sorted
        have order : o.date ≤ x.date := sorted.2.2 o (mem_of_mem_allot given) x (by simp)
        exact Int.lt_of_le_of_lt order early
  · have early' : x.date.number < a.number := early
    have after' : a.number ≤ d.number := after
    obtain ⟨t, target, notLater⟩ :=
      nextFree?_le ⟨free.1, taken⟩ (show x.date.number < d.number by omega)
    have notLater' : t.number ≤ d.number := notLater
    rw [found] at target
    subst target
    have notEarly : a ≤ t := Int.le_of_not_gt fun before => late ⟨t, rfl, before⟩
    have same : t = d := by
      by_cases same : t.number = d.number
      · exact Date.ext_number same
      · have before : t.number < d.number := by omega
        exact absurd (free_of_mem_allot listed).2 (least t notEarly before)
    subst same
    exact ⟨x, inList listed, early⟩

theorem length_onDay {d : Date} (free : Free weekend (staying weekend os) d) :
    (onDay weekend os d).length ≤ 1 := by
  rw [onDay, observed_on_free free, List.length_map]
  exact length_filter_target _ _ d

end

end Holidays.Observance
