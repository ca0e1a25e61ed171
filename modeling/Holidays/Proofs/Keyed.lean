import Holidays.Keyed
import Mathlib.Data.List.Induction
import Mathlib.Data.List.Nodup

namespace Holidays

section FirstOccurrences

variable {κ : Type} [DecidableEq κ]

theorem eraseDups_concat (as : List κ) (b : κ) :
    (as ++ [b]).eraseDups = if b ∈ as then as.eraseDups else as.eraseDups ++ [b] := by
  rw [List.eraseDups_append]
  split <;> rename_i held <;> simp [List.removeAll, held, List.eraseDups_cons]

theorem eraseDups_nodup (as : List κ) : as.eraseDups.Nodup := by
  induction as using List.reverseRecOn with
  | nil => simp
  | append_singleton as b ih =>
    rw [eraseDups_concat]
    split
    · exact ih
    · rename_i new
      have apart : b ∉ as.eraseDups := by simpa using new
      simpa [List.nodup_append] using ⟨ih, fun x held same => new (same ▸ held)⟩

theorem eraseDups_eq_self {as : List κ} (distinct : as.Nodup) : as.eraseDups = as := by
  induction as using List.reverseRecOn with
  | nil => rfl
  | append_singleton as b ih =>
    have new : b ∉ as := fun held => (List.disjoint_of_nodup_append distinct) held (by simp)
    rw [eraseDups_concat, if_neg new, ih distinct.of_append_left]

theorem eraseDups_append_of_subset {as bs : List κ} (known : bs ⊆ as) (cs : List κ) :
    (as ++ (bs ++ cs)).eraseDups = (as ++ cs).eraseDups := by
  have gone : bs.removeAll as = [] := by
    rw [List.removeAll, List.filter_eq_nil_iff]
    intro x held
    simpa using known held
  have rest : (bs ++ cs).removeAll as = cs.removeAll as := by
    rw [List.removeAll, List.filter_append, ← List.removeAll, ← List.removeAll, gone]
    rfl
  rw [List.eraseDups_append, List.eraseDups_append, rest]

theorem eraseDups_append_left (as bs : List κ) :
    (as.eraseDups ++ bs).eraseDups = (as ++ bs).eraseDups := by
  have same : bs.removeAll as.eraseDups = bs.removeAll as := by
    simp [List.removeAll]
  rw [List.eraseDups_append, List.eraseDups_append, same, eraseDups_eq_self (eraseDups_nodup as)]

end FirstOccurrences

namespace Keyed

theorem not_nodup_of_repeated {α κ : Type} {key : α → κ} {before after : List α} {x y : α}
    (held : x ∈ before) (same : key x = key y) : ¬ ((before ++ y :: after).map key).Nodup := by
  intro distinct
  rw [List.map_append] at distinct
  have again : key x ∈ (y :: after).map key := List.mem_map.mpr ⟨y, List.mem_cons_self, same.symm⟩
  exact List.disjoint_of_nodup_append distinct (List.mem_map_of_mem held) again

variable {α κ : Type} [DecidableEq κ]

theorem isSome_find?_iff {key : α → κ} {k : κ} {xs : List α} :
    (find? key k xs).isSome = true ↔ k ∈ xs.map key := by
  simp [find?, List.find?_isSome]

theorem find?_eq_none_iff {key : α → κ} {k : κ} {xs : List α} :
    find? key k xs = none ↔ k ∉ xs.map key := by
  simp [find?]

theorem find?_append (key : α → κ) (k : κ) (xs ys : List α) :
    find? key k (xs ++ ys) = (find? key k xs <|> find? key k ys) := by
  simp [find?, List.find?_append]

theorem find?_erase (key : α → κ) (k l : κ) (xs : List α) :
    find? key k (erase key l xs) = if k = l then none else find? key k xs := by
  induction xs with
  | nil => simp [erase, find?]
  | cons x xs ih =>
    rw [erase] at ih ⊢
    by_cases gone : key x = l
    · rw [List.filter_cons_of_neg (by simpa using gone), ih]
      split
      · rfl
      · next other =>
        have apart : ¬ key x = k := fun same => other (same.symm.trans gone)
        simp [find?, apart]
    · rw [List.filter_cons_of_pos (by simpa using gone)]
      by_cases here : key x = k
      · have other : ¬ k = l := fun same => gone (here.trans same)
        simp [find?, here, other]
      · simpa [find?, here] using ih

theorem find?_of_mem {key : α → κ} {xs : List α} (distinct : (xs.map key).Nodup) {x : α}
    (held : x ∈ xs) : find? key (key x) xs = some x := by
  induction xs with
  | nil => cases held
  | cons y ys ih =>
    rw [List.map_cons, List.nodup_cons] at distinct
    rcases List.mem_cons.mp held with rfl | later
    · simp [find?]
    · have other : ¬ key y = key x := fun same => distinct.1 (same ▸ List.mem_map_of_mem later)
      simpa [find?, other] using ih distinct.2 later

theorem find?_eq_some_iff {key : α → κ} {xs : List α} (distinct : (xs.map key).Nodup) {k : κ}
    {x : α} : find? key k xs = some x ↔ x ∈ xs ∧ key x = k := by
  constructor
  · intro found
    exact ⟨List.mem_of_find?_eq_some found, by simpa using List.find?_some found⟩
  · rintro ⟨held, rfl⟩
    exact find?_of_mem distinct held

theorem find?_perm {key : α → κ} {xs ys : List α} (reordered : xs.Perm ys)
    (distinct : (ys.map key).Nodup) (k : κ) : find? key k xs = find? key k ys := by
  have distinct' : (xs.map key).Nodup := (reordered.map key).nodup_iff.mpr distinct
  ext x
  rw [find?_eq_some_iff distinct', find?_eq_some_iff distinct, reordered.mem_iff]

theorem perm_of_find? {key : α → κ} {xs ys : List α} (distinct : (xs.map key).Nodup)
    (distinct' : (ys.map key).Nodup) (same : ∀ k, find? key k xs = find? key k ys) :
    xs.Perm ys := by
  apply (List.perm_ext_iff_of_nodup distinct.of_map distinct'.of_map).mpr
  intro x
  have held {zs : List α} (apart : (zs.map key).Nodup) :
      x ∈ zs ↔ find? key (key x) zs = some x := by
    simp [find?_eq_some_iff apart]
  rw [held distinct, held distinct', same]

theorem find?_putAll (key : α → κ) (k : κ) (xs ys : List α) :
    find? key k (putAll key xs ys) =
      ((ys.filter fun y => key y = k).getLast? <|> find? key k xs) := by
  induction ys generalizing xs with
  | nil => simp [putAll]
  | cons y ys ih =>
    have step : putAll key xs (y :: ys) = putAll key (put key y xs) ys := rfl
    rw [step, ih]
    by_cases same : key y = k
    · subst same
      rw [find?_put_self, List.filter_cons_of_pos (by simp), List.getLast?_cons]
      cases (ys.filter fun z => key z = key y).getLast? <;> simp
    · rw [find?_put_of_ne key same, List.filter_cons_of_neg (by simpa using same)]

theorem find?_putAll_nil (key : α → κ) (k : κ) (ys : List α) :
    find? key k (putAll key [] ys) = (ys.filter fun y => key y = k).getLast? := by
  rw [find?_putAll]
  cases (ys.filter fun y => key y = k).getLast? <;> rfl

theorem keys_putAll (key : α → κ) {xs : List α} (distinct : (xs.map key).Nodup) (ys : List α) :
    (putAll key xs ys).map key = (xs.map key ++ ys.map key).eraseDups := by
  induction ys generalizing xs with
  | nil => simp [putAll, eraseDups_eq_self distinct]
  | cons y ys ih =>
    have step : putAll key xs (y :: ys) = putAll key (put key y xs) ys := rfl
    have keys := keys_put key y xs
    rw [step, List.map_cons]
    by_cases known : key y ∈ xs.map key
    · rw [if_pos known] at keys
      rw [ih (keys ▸ distinct), keys]
      have inside : [key y] ⊆ xs.map key := List.cons_subset.2 ⟨known, List.nil_subset _⟩
      exact (eraseDups_append_of_subset inside _).symm
    · rw [if_neg known] at keys
      have apart : (xs.map key ++ [key y]).Nodup := by
        have erased := eraseDups_concat (xs.map key) (key y)
        rw [if_neg known, eraseDups_eq_self distinct] at erased
        exact erased ▸ eraseDups_nodup _
      rw [ih (keys ▸ apart), keys, List.append_assoc]
      rfl

theorem put_of_notMem {key : α → κ} {x : α} {xs : List α} (new : key x ∉ xs.map key) :
    put key x xs = xs ++ [x] := by
  induction xs with
  | nil => rfl
  | cons y ys ih =>
    rw [List.map_cons, List.mem_cons, not_or] at new
    have other : ¬ key y = key x := fun same => new.1 same.symm
    rw [put, if_neg other, ih new.2, List.cons_append]

theorem putAll_of_nodup {key : α → κ} {xs ys : List α} (distinct : ((xs ++ ys).map key).Nodup) :
    putAll key xs ys = xs ++ ys := by
  induction ys generalizing xs with
  | nil => simp [putAll]
  | cons y ys ih =>
    have step : putAll key xs (y :: ys) = putAll key (put key y xs) ys := rfl
    have onward : xs ++ y :: ys = (xs ++ [y]) ++ ys := List.append_cons xs y ys
    rw [onward] at distinct ⊢
    have front : ((xs ++ [y]).map key).Nodup := by
      rw [List.map_append] at distinct
      exact distinct.of_append_left
    have new : key y ∉ xs.map key := by
      rw [List.map_append] at front
      exact fun held => List.disjoint_of_nodup_append front held (by simp)
    rw [step, put_of_notMem new, ih distinct]

/-- `out` has one entry for each key of `entries`: in the place of the first, the last. -/
structure LastWins (key : α → κ) (entries out : List α) : Prop where
  keys : out.map key = (entries.map key).eraseDups
  distinct : (out.map key).Nodup
  value : ∀ k, find? key k out = (entries.filter fun x => key x = k).getLast?

theorem lastWins_putAll (key : α → κ) (entries : List α) :
    LastWins key entries (putAll key [] entries) := by
  have start : (([] : List α).map key).Nodup := List.nodup_nil
  have keys := keys_putAll key start entries
  rw [List.map_nil, List.nil_append] at keys
  constructor
  · exact keys
  · rw [keys]
    exact eraseDups_nodup _
  · intro k
    exact find?_putAll_nil key k entries

theorem LastWins.value_of_suffix {key : α → κ} {early late out : List α}
    (h : LastWins key (early ++ late) out) {x : α} (held : x ∈ late) :
    find? key (key x) out = (late.filter fun y => key y = key x).getLast? := by
  rw [h.value, List.filter_append]
  apply List.getLast?_append_of_ne_nil
  exact List.ne_nil_of_mem (List.mem_filter.2 ⟨held, by simp⟩)

end Keyed

end Holidays
