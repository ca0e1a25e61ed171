import Holidays.Width
import Mathlib.Data.List.Forall2
import Mathlib.Data.List.Sort

namespace Holidays

theorem bind_eq_ok_iff {ε α β : Type} {x : Except ε α} {f : α → Except ε β} {b : β} :
    (x >>= f) = .ok b ↔ ∃ a, x = .ok a ∧ f a = .ok b := by
  cases x <;> simp [bind, Except.bind]

theorem bind_eq_error_iff {ε α β : Type} {x : Except ε α} {f : α → Except ε β} {e : ε} :
    (x >>= f) = .error e ↔ x = .error e ∨ ∃ a, x = .ok a ∧ f a = .error e := by
  cases x <;> simp [bind, Except.bind]

theorem pure_eq_ok_iff {ε α : Type} {a b : α} : (pure a : Except ε α) = .ok b ↔ a = b := by
  simp [pure, Except.pure]

theorem mapM_eq_ok_iff {ε α β : Type} {f : α → Except ε β} {as : List α} {bs : List β} :
    as.mapM f = .ok bs ↔ as.map f = bs.map .ok := by
  induction as generalizing bs with
  | nil => cases bs <;> simp [pure_eq_ok_iff]
  | cons a as ih =>
    simp only [List.mapM_cons, bind_eq_ok_iff, pure_eq_ok_iff, ih]
    cases bs with
    | nil => simp
    | cons b bs =>
      constructor
      · rintro ⟨c, head, cs, tail, same⟩
        cases same
        simp [head, tail]
      · intro h
        obtain ⟨head, tail⟩ := List.cons.inj h
        exact ⟨b, head, bs, tail, rfl⟩

theorem exists_of_mem_mapM {ε α β : Type} {f : α → Except ε β} {as : List α} {bs : List β}
    (h : as.mapM f = .ok bs) {b : β} (held : b ∈ bs) : ∃ a ∈ as, f a = .ok b := by
  have image : Except.ok b ∈ bs.map (Except.ok : β → Except ε β) := List.mem_map_of_mem held
  rw [← mapM_eq_ok_iff.mp h] at image
  exact List.mem_map.mp image

theorem exists_ok_of_mapM {ε α β : Type} {f : α → Except ε β} {as : List α} {bs : List β}
    (h : as.mapM f = .ok bs) {a : α} (held : a ∈ as) : ∃ b ∈ bs, f a = .ok b := by
  have image : f a ∈ as.map f := List.mem_map_of_mem held
  rw [mapM_eq_ok_iff.mp h] at image
  obtain ⟨b, listed, same⟩ := List.mem_map.mp image
  exact ⟨b, listed, same.symm⟩

theorem exists_error_of_mapM {ε α β : Type} {f : α → Except ε β} {as : List α} {e : ε}
    (h : as.mapM f = .error e) : ∃ a ∈ as, f a = .error e := by
  induction as with
  | nil => cases h
  | cons a as ih =>
    rw [List.mapM_cons, bind_eq_error_iff] at h
    rcases h with head | ⟨b, -, rest⟩
    · exact ⟨a, List.mem_cons_self, head⟩
    · rw [bind_eq_error_iff] at rest
      rcases rest with tail | ⟨bs, -, done⟩
      · obtain ⟨a', held, failed⟩ := ih tail
        exact ⟨a', List.mem_cons_of_mem a held, failed⟩
      · cases done

theorem forall₂_of_mapM {ε α β : Type} {f : α → Except ε β} {as : List α} {bs : List β}
    (h : as.mapM f = .ok bs) : List.Forall₂ (fun a b => f a = .ok b) as bs := by
  rw [mapM_eq_ok_iff, ← List.forall₂_eq_eq_eq, List.forall₂_map_left_iff,
    List.forall₂_map_right_iff] at h
  exact h

theorem eq_map_of_mapM {ε α β : Type} {f : α → Except ε β} {g : α → β} {as : List α} {bs : List β}
    (h : as.mapM f = .ok bs) (each : ∀ a b, f a = .ok b → b = g a) : bs = as.map g := by
  have results := mapM_eq_ok_iff.mp h
  clear h
  induction as generalizing bs with
  | nil => simpa using results
  | cons a as ih =>
    cases bs with
    | nil => cases results
    | cons b bs =>
      obtain ⟨head, tail⟩ := List.cons.inj results
      rw [List.map_cons, each a b head, ih tail]

theorem filterMap_of_mapM {ε α β : Type} {f : α → Except ε (Option β)} {as : List α}
    {found : List (Option β)} (h : as.mapM f = .ok found) :
    found.filterMap id = as.filterMap fun a => (f a).toOption.join := by
  rw [eq_map_of_mapM h fun a b success => (by simp [success, Except.toOption] :
    b = (f a).toOption.join), List.filterMap_map]
  rfl

theorem eq_map_of_mapM_mapM {ε α β γ : Type} {f : α → Except ε β} {g : α → Except ε γ} {h : γ → β}
    {as : List α} {bs : List β} {cs : List γ} (first : as.mapM f = .ok bs)
    (second : as.mapM g = .ok cs)
    (each : ∀ a ∈ as, ∀ b c, f a = .ok b → g a = .ok c → b = h c) : bs = cs.map h := by
  rw [mapM_eq_ok_iff] at first second
  induction as generalizing bs cs with
  | nil =>
    cases bs <;> cases cs <;> simp_all
  | cons a as ih =>
    cases bs with
    | nil => cases first
    | cons b bs =>
      cases cs with
      | nil => cases second
      | cons c cs =>
        obtain ⟨head, tail⟩ := List.cons.inj first
        obtain ⟨head', tail'⟩ := List.cons.inj second
        have rest := ih tail tail' fun a' member => each a' (List.mem_cons_of_mem a member)
        rw [List.map_cons, each a List.mem_cons_self b c head head', rest]

theorem mapM_error_congr {ε α β : Type} {f g : α → Except ε β} {as : List α}
    (same : ∀ a e, f a = .error e ↔ g a = .error e) (e : ε) :
    as.mapM f = .error e ↔ as.mapM g = .error e := by
  induction as with
  | nil => simp [pure, Except.pure]
  | cons a as ih =>
    simp only [List.mapM_cons]
    cases here : f a with
    | error e' =>
      rw [(same a e').1 here]
      exact Iff.rfl
    | ok b =>
      cases there : g a with
      | error e' =>
        rw [(same a e').2 there] at here
        cases here
      | ok c =>
        cases fs : as.mapM f with
        | error e' =>
          cases gs : as.mapM g <;> simp_all [bind, Except.bind, pure, Except.pure]
        | ok bs =>
          cases gs : as.mapM g <;> simp_all [bind, Except.bind, pure, Except.pure]

theorem exists_mapM_eq_ok {ε α β : Type} {f : α → Except ε β} {as : List α}
    (each : ∀ a ∈ as, ∃ b, f a = .ok b) : ∃ bs, as.mapM f = .ok bs := by
  induction as with
  | nil => exact ⟨[], rfl⟩
  | cons a as ih =>
    obtain ⟨b, head⟩ := each a List.mem_cons_self
    obtain ⟨bs, tail⟩ := ih fun a' member => each a' (List.mem_cons_of_mem a member)
    exact ⟨b :: bs, by simp [List.mapM_cons, head, tail, bind, Except.bind, pure, Except.pure]⟩

theorem append_split_unique {α : Type} (q : α → Bool) {xs ys us vs : List α}
    (same : xs ++ ys = us ++ vs) (hx : ∀ a ∈ xs, q a = false) (hy : ∀ a ∈ ys, q a = true)
    (hu : ∀ a ∈ us, q a = false) (hv : ∀ a ∈ vs, q a = true) : xs = us ∧ ys = vs := by
  have front {as bs : List α} (ha : ∀ a ∈ as, q a = false) (hb : ∀ a ∈ bs, q a = true) :
      (as ++ bs).filter (fun a => !q a) = as := by
    rw [List.filter_append, List.filter_eq_self.mpr (by simpa using ha),
      List.filter_eq_nil_iff.mpr (by simpa using hb), List.append_nil]
  have first : xs = us := by rw [← front hx hy, same, front hu hv]
  subst first
  exact ⟨rfl, List.append_cancel_left same⟩

/-- The head of a list is sorted in behind what is less and before the rest. -/
theorem exists_mergeSort_cons {α : Type} {le : α → α → Bool}
    (trans : ∀ a b c, le a b → le b c → le a c) (total : ∀ a b, le a b || le b a)
    (a : α) (as : List α) : ∃ front back, (a :: as).mergeSort le = front ++ a :: back ∧
      as.mergeSort le = front ++ back ∧ (∀ b ∈ front, le a b = false) ∧
        ∀ b ∈ back, le a b = true := by
  obtain ⟨front, back, whole, rest, before⟩ := List.mergeSort_cons trans total a as
  have sorted := List.pairwise_mergeSort trans total (a :: as)
  rw [whole, List.pairwise_append, List.pairwise_cons] at sorted
  exact ⟨front, back, whole, rest, fun b held => by simpa using before b held, sorted.2.1.1⟩

theorem filter_mergeSort {α : Type} {le : α → α → Bool}
    (trans : ∀ a b c, le a b → le b c → le a c) (total : ∀ a b, le a b || le b a)
    (p : α → Bool) (as : List α) : (as.mergeSort le).filter p = (as.filter p).mergeSort le := by
  induction as with
  | nil => simp
  | cons a as ih =>
    obtain ⟨front, back, whole, rest, before, after⟩ := exists_mergeSort_cons trans total a as
    rw [rest] at ih
    rw [whole]
    by_cases keep : p a = true
    · -- Before `a` stand exactly those that are less, in the whole list as in what is kept.
      obtain ⟨front', back', whole', rest', before', after'⟩ :=
        exists_mergeSort_cons trans total a (as.filter p)
      rw [rest', List.filter_append] at ih
      obtain ⟨fronts, backs⟩ := append_split_unique (le a) ih
        (fun b hb => before b (List.mem_filter.mp hb).1)
        (fun b hb => after b (List.mem_filter.mp hb).1) before' after'
      rw [List.filter_cons_of_pos keep, whole', List.filter_append, List.filter_cons_of_pos keep,
        fronts, backs]
    · rw [List.filter_cons_of_neg keep, ← ih, List.filter_append, List.filter_append,
        List.filter_cons_of_neg keep]

theorem pairwise_mergeSort_stable {α : Type} {le : α → α → Bool} {r : α → α → Prop}
    (trans : ∀ a b c, le a b → le b c → le a c) (total : ∀ a b, le a b || le b a) {as : List α}
    (placed : as.Pairwise r) :
    (as.mergeSort le).Pairwise fun a b => le a b = true ∧ (le b a = true → r a b) := by
  induction as with
  | nil => simp
  | cons a as ih =>
    obtain ⟨first, rest⟩ := List.pairwise_cons.mp placed
    obtain ⟨front, back, whole, sorted, before, after⟩ := exists_mergeSort_cons trans total a as
    have known : ∀ b ∈ front ++ back, b ∈ as := by
      intro b held
      rw [← sorted, List.mem_mergeSort] at held
      exact held
    have ih := ih rest
    rw [sorted, List.pairwise_append] at ih
    rw [whole, List.pairwise_append, List.pairwise_cons]
    refine ⟨ih.1, ⟨?_, ih.2.1⟩, ?_⟩
    · intro b held
      exact ⟨after b held, fun _ => first b (known b (List.mem_append_right _ held))⟩
    · intro b early c late
      rcases List.mem_cons.mp late with rfl | late
      · have strict : le c b = false := before b early
        have either := total b c
        rw [strict, Bool.or_false] at either
        exact ⟨either, fun weak => by simp [strict] at weak⟩
      · exact ih.2.2 b early c late

/-- A stable sort is the insertion of one entry after another, which evaluates. -/
theorem mergeSort_eq_insertionSort {α : Type} {r : α → α → Prop} [DecidableRel r]
    (trans : ∀ a b c, decide (r a b) → decide (r b c) → decide (r a c))
    (total : ∀ a b, decide (r a b) || decide (r b a)) (as : List α) :
    as.mergeSort (fun a b => decide (r a b)) = as.insertionSort r := by
  induction as with
  | nil => simp
  | cons a as ih =>
    obtain ⟨front, back, whole, rest, before, after⟩ := exists_mergeSort_cons trans total a as
    rw [whole, List.insertionSort_cons, ← ih, rest]
    clear whole rest ih
    induction front with
    | nil =>
      cases back with
      | nil => rfl
      | cons b back => simp [of_decide_eq_true (after b List.mem_cons_self)]
    | cons b front ih =>
      obtain ⟨first, others⟩ := List.forall_mem_cons.mp before
      simp [of_decide_eq_false first, ← ih others]

section Parts

variable {α β γ : Type} {r : α → β → Prop}

theorem sublistForall₂_filterMap {f : γ → Option α} {g : γ → β} {cs : List γ}
    (each : ∀ c ∈ cs, ∀ a, f c = some a → r a (g c)) :
    List.SublistForall₂ r (cs.filterMap f) (cs.map g) := by
  induction cs with
  | nil => exact .nil
  | cons c cs ih =>
    have rest := ih fun c' held => each c' (List.mem_cons_of_mem c held)
    cases found : f c with
    | none => simpa [List.filterMap_cons_none found] using .cons_right rest
    | some a =>
      simpa [List.filterMap_cons_some found] using
        .cons (each c List.mem_cons_self a found) rest

theorem sublistForall₂_of_sublist_left {as part : List α} {bs : List β}
    (h : List.SublistForall₂ r as bs) (within : part.Sublist as) :
    List.SublistForall₂ r part bs := by
  induction h generalizing part with
  | nil => exact List.sublist_nil.mp within ▸ .nil
  | cons related _ ih =>
    cases within with
    | cons _ within => exact .cons_right (ih within)
    | cons_cons _ within => exact .cons related (ih within)
  | cons_right _ ih => exact .cons_right (ih within)

theorem sublistForall₂_of_sublist_right {as : List α} {part bs : List β}
    (h : List.SublistForall₂ r as part) (within : part.Sublist bs) :
    List.SublistForall₂ r as bs := by
  rw [List.sublistForall₂_iff] at h ⊢
  obtain ⟨chosen, related, sub⟩ := h
  exact ⟨chosen, related, sub.trans within⟩

theorem exists_of_forall₂_right {as : List α} {bs : List β} (h : List.Forall₂ r as bs) {b : β}
    (held : b ∈ bs) : ∃ a ∈ as, r a b := by
  induction h with
  | nil => cases held
  | cons related _ ih =>
    rcases List.mem_cons.mp held with rfl | later
    · exact ⟨_, List.mem_cons_self, related⟩
    · obtain ⟨a, listed, here⟩ := ih later
      exact ⟨a, List.mem_cons_of_mem _ listed, here⟩

/-- Entries that a filter drops come to nothing, the others to what they become with the entries
that belong to them. -/
theorem exists_forall₂_of_filter {r : α → Option γ → Prop} {q : α → β → Prop} {p : α → Bool}
    {f : α × β → Option γ} {as : List α} {bs : List β} (h : List.Forall₂ q (as.filter p) bs)
    (kept : ∀ a b, p a = true → q a b → r a (f (a, b))) (dropped : ∀ a, p a = false → r a none) :
    ∃ cs, List.Forall₂ r as cs ∧ ((as.filter p).zip bs).filterMap f = cs.filterMap id := by
  induction as generalizing bs with
  | nil =>
    cases h
    exact ⟨[], .nil, rfl⟩
  | cons a as ih =>
    by_cases keep : p a = true
    · rw [List.filter_cons_of_pos keep] at h ⊢
      cases h with
      | cons first rest =>
        obtain ⟨cs, related, same⟩ := ih rest
        refine ⟨f (a, _) :: cs, .cons (kept a _ keep first) related, ?_⟩
        rw [List.zip_cons_cons, List.filterMap_cons, List.filterMap_cons, same]
        rfl
    · rw [List.filter_cons_of_neg keep] at h ⊢
      obtain ⟨cs, related, same⟩ := ih h
      exact ⟨none :: cs, .cons (dropped a (by simpa using keep)) related, same⟩

theorem exists_of_sublistForall₂ {as : List α} {bs : List β} (h : List.SublistForall₂ r as bs)
    {a : α} (held : a ∈ as) : ∃ b ∈ bs, r a b := by
  induction h with
  | nil => cases held
  | cons related _ ih =>
    rcases List.mem_cons.mp held with rfl | later
    · exact ⟨_, List.mem_cons_self, related⟩
    · obtain ⟨b, listed, here⟩ := ih later
      exact ⟨b, List.mem_cons_of_mem _ listed, here⟩
  | cons_right _ ih =>
    obtain ⟨b, listed, here⟩ := ih held
    exact ⟨b, List.mem_cons_of_mem _ listed, here⟩

theorem exists_append_of_sublistForall₂ {as : List α} {bs cs : List β}
    (h : List.SublistForall₂ r as (bs ++ cs)) :
    ∃ front back, as = front ++ back ∧ List.SublistForall₂ r front bs ∧
      List.SublistForall₂ r back cs := by
  induction bs generalizing as with
  | nil => exact ⟨[], as, rfl, .nil, h⟩
  | cons b bs ih =>
    cases h with
    | nil => exact ⟨[], [], rfl, .nil, .nil⟩
    | cons related rest =>
      obtain ⟨front, back, rfl, first, second⟩ := ih rest
      exact ⟨_ :: front, back, rfl, .cons related first, second⟩
    | cons_right rest =>
      obtain ⟨front, back, rfl, first, second⟩ := ih rest
      exact ⟨front, back, rfl, .cons_right first, second⟩

/-- Entries taken in order from groups, with no two of one group, belong to the groups in order. -/
theorem sublistForall₂_of_flatten {κ : Type} {q : α → γ → Prop} (key : α → κ) (keyOf : γ → κ)
    {groups : List (List β)} {cs : List γ}
    (grouped : List.Forall₂ (fun c group => ∀ a, ∀ b ∈ group, r a b → q a c ∧ key a = keyOf c)
      cs groups) {as : List α} (distinct : (as.map key).Nodup)
    (h : List.SublistForall₂ r as groups.flatten) : List.SublistForall₂ q as cs := by
  induction grouped generalizing as with
  | nil =>
    cases h with
    | nil => exact .nil
  | @cons c group cs groups here _ ih =>
    obtain ⟨front, back, rfl, first, second⟩ := exists_append_of_sublistForall₂ h
    rw [List.map_append] at distinct
    have rest := ih distinct.of_append_right second
    have own : ∀ a ∈ front, q a c ∧ key a = keyOf c := by
      intro a held
      obtain ⟨b, listed, related⟩ := exists_of_sublistForall₂ first held
      exact here a b listed related
    match front with
    | [] => exact .cons_right rest
    | [a] => exact .cons (own a List.mem_cons_self).1 rest
    | a :: a' :: _ =>
      have same : key a = key a' := by
        rw [(own a (by simp)).2, (own a' (by simp)).2]
      simp [same] at distinct

end Parts

theorem span_pairwise (first last : Int) : (span first last).Pairwise (· < ·) := by
  rw [span, List.pairwise_map]
  exact List.pairwise_lt_range.imp fun h => by omega

theorem filter_span {first last p q : Int} (low : first ≤ p) (high : q ≤ last) :
    (span first last).filter (fun n => decide (p ≤ n ∧ n ≤ q)) = span p q := by
  apply ((span_pairwise first last).filter _).eq_of_mem_iff (span_pairwise p q)
  intro n
  simp only [List.mem_filter, mem_span, decide_eq_true_eq]
  omega

theorem findSome?_span_eq_some {α : Type} {f : Int → Option α} {first last : Int} {a : α}
    (h : (span first last).findSome? f = some a) :
    ∃ n, first ≤ n ∧ n ≤ last ∧ f n = some a ∧ ∀ m, first ≤ m → m < n → f m = none := by
  obtain ⟨before, n, after, split, found, missed⟩ := List.findSome?_eq_some_iff.mp h
  have ordered := span_pairwise first last
  rw [split, List.pairwise_append, List.pairwise_cons] at ordered
  have bounds : first ≤ n ∧ n ≤ last := mem_span.mp (by simp [split])
  refine ⟨n, bounds.1, bounds.2, found, ?_⟩
  intro m low earlier
  have listed : m ∈ before ++ n :: after := split ▸ mem_span.mpr ⟨low, by omega⟩
  rcases List.mem_append.mp listed with early | late
  · exact missed m early
  · rcases List.mem_cons.mp late with rfl | later
    · omega
    · have := ordered.2.1.1 m later
      omega

/-- What a wider span finds in a part is found in a narrower span, when that span has every place
from which the part is reached. -/
theorem filter_filterMap_span {α : Type} {f : Int → Option α} {inside : α → Bool}
    {first last p q : Int} (low : first ≤ p) (high : q ≤ last)
    (reached : ∀ n, first ≤ n → n ≤ last → ∀ a, f n = some a → inside a = true → p ≤ n ∧ n ≤ q) :
    ((span first last).filterMap f).filter inside = ((span p q).filterMap f).filter inside := by
  rw [← filter_span low high, List.filter_filterMap, List.filter_filterMap,
    List.filterMap_filter]
  apply List.filterMap_congr
  intro n hn
  obtain ⟨above, below⟩ := mem_span.mp hn
  cases found : f n with
  | none => simp
  | some a =>
    by_cases h : inside a = true
    · simp [reached n above below a found h]
    · simp [h]

theorem span_self (n : Int) : span n n = [n] := by
  have one : n + 1 - n = 1 := by omega
  simp [span, one]

theorem span_eq_nil {first last : Int} (h : last < first) : span first last = [] := by
  have zero : (last + 1 - first).toNat = 0 := by omega
  simp [span, zero]

theorem span_append {first mid last : Int} (low : first ≤ mid + 1) (high : mid ≤ last) :
    span first last = span first mid ++ span (mid + 1) last := by
  apply (span_pairwise first last).eq_of_mem_iff
  · rw [List.pairwise_append]
    refine ⟨span_pairwise _ _, span_pairwise _ _, ?_⟩
    intro a ha b hb
    rw [mem_span] at ha hb
    omega
  · intro n
    simp only [List.mem_append, mem_span]
    omega

end Holidays
