import Holidays.Proofs.Keyed
import Holidays.Proofs.Resolution.Graph
import Mathlib.Data.List.Permutation

namespace Holidays.Resolver

inductive Call where
  | resolve (id : String)
  | clear
  | cachedIds

def after (r : Resolver) : Call → Resolver
  | .resolve id => (r.resolve id).2
  | .clear => r.clear
  | .cachedIds => r

def run (r : Resolver) (calls : List Call) : Resolver := calls.foldl after r

def keys (r : Resolver) : List String := r.cache.map Prod.fst

def Remembers (c : Catalog) (calls : List Call) (id : String) : Prop :=
  ∃ earlier later, calls = earlier ++ .resolve id :: later ∧ Call.clear ∉ later ∧
    ∃ s, (((of c).run earlier).resolve id).1 = .ok s

variable {c : Catalog} {r : Resolver}

theorem run_concat (r : Resolver) (calls : List Call) (call : Call) :
    r.run (calls ++ [call]) = (r.run calls).after call := by
  simp [run]

theorem Reachable.run (h : r.Reachable c) (calls : List Call) : (r.run calls).Reachable c := by
  induction calls generalizing r with
  | nil => exact h
  | cons call calls ih =>
    apply ih
    cases call with
    | resolve id => exact .resolve id h
    | clear => exact .clear h
    | cachedIds => exact h

theorem resolve_cases (r : Resolver) (id : String) :
    (id ∈ r.keys ∧ ∃ s, r.resolve id = (.ok s, r)) ∨
    (∃ e, r.resolve id = (.error e, r)) ∨
    (id ∉ r.keys ∧ ∃ s, r.resolve id = (.ok s, { r with cache := r.cache ++ [(id, s)] })) := by
  unfold resolve
  cases found : Keyed.find? Prod.fst id r.cache with
  | some entry =>
    have known : id ∈ r.keys := by
      rw [keys, ← Keyed.isSome_find?_iff, found]
      rfl
    exact .inl ⟨known, entry.2, rfl⟩
  | none =>
    have new : id ∉ r.keys := Keyed.find?_eq_none_iff.mp found
    cases r.catalog.resolve id with
    | error e => exact .inr (.inl ⟨e, rfl⟩)
    | ok s => exact .inr (.inr ⟨new, s, rfl⟩)

theorem resolve_of_error {id : String} {e : ResolutionError}
    (failed : (r.resolve id).1 = .error e) : (r.resolve id).2 = r := by
  rcases resolve_cases r id with ⟨-, s, ran⟩ | ⟨e', ran⟩ | ⟨-, s, ran⟩
  · rw [ran]
  · rw [ran]
  · rw [ran] at failed
    cases failed

theorem mem_keys_resolve {id k : String} :
    k ∈ (r.resolve id).2.keys ↔ k ∈ r.keys ∨ k = id ∧ ∃ s, (r.resolve id).1 = .ok s := by
  rcases resolve_cases r id with ⟨known, s, ran⟩ | ⟨e, ran⟩ | ⟨-, s, ran⟩
  · rw [ran]
    constructor
    · exact .inl
    · rintro (held | ⟨rfl, -⟩)
      · exact held
      · exact known
  · rw [ran]
    simp
  · rw [ran]
    simp [keys]

theorem nodup_keys_resolve (distinct : r.keys.Nodup) (id : String) :
    (r.resolve id).2.keys.Nodup := by
  rcases resolve_cases r id with ⟨-, s, ran⟩ | ⟨e, ran⟩ | ⟨new, s, ran⟩
  · rwa [ran]
  · rwa [ran]
  · rw [ran]
    have apart : (r.keys ++ [id]).Nodup := List.nodup_append.mpr
      ⟨distinct, by simp, fun k held _ last same =>
        new (List.mem_singleton.mp last ▸ same ▸ held)⟩
    simpa [keys] using apart

theorem Reachable.nodup_keys (h : r.Reachable c) : r.keys.Nodup := by
  induction h with
  | new => exact .nil
  | resolve id _ ih => exact nodup_keys_resolve ih id
  | clear => exact .nil

theorem remembers_concat {calls : List Call} {call : Call} {k : String} :
    Remembers c (calls ++ [call]) k ↔
      (call = .resolve k ∧ ∃ s, (((of c).run calls).resolve k).1 = .ok s) ∨
      (call ≠ .clear ∧ Remembers c calls k) := by
  constructor
  · rintro ⟨earlier, later, split, kept, resolved⟩
    rcases List.eq_nil_or_concat later with rfl | ⟨between, last, rfl⟩
    · obtain ⟨rfl, same⟩ := List.append_inj' split rfl
      exact .inl ⟨by simpa using same, resolved⟩
    · rw [List.concat_eq_append, ← List.cons_append, ← List.append_assoc] at split
      obtain ⟨rfl, same⟩ := List.append_inj' split rfl
      cases same
      rw [List.concat_eq_append, List.mem_append, not_or] at kept
      exact .inr ⟨by simpa using Ne.symm (List.ne_of_not_mem_cons kept.2),
        earlier, between, rfl, kept.1, resolved⟩
  · rintro (⟨rfl, resolved⟩ | ⟨kept, earlier, later, rfl, kept', resolved⟩)
    · exact ⟨calls, [], rfl, List.not_mem_nil, resolved⟩
    · refine ⟨earlier, later ++ [call], by simp, ?_, resolved⟩
      simpa using ⟨kept', Ne.symm kept⟩

/-- By induction on the calls from the last one: each adds what resolved, or forgets all. -/
theorem mem_keys_run (c : Catalog) (calls : List Call) (k : String) :
    k ∈ ((of c).run calls).keys ↔ Remembers c calls k := by
  induction calls using List.reverseRecOn with
  | nil =>
    constructor
    · intro held
      cases held
    · rintro ⟨earlier, later, split, -⟩
      simp at split
  | append_singleton calls call ih =>
    rw [run_concat, remembers_concat]
    cases call with
    | resolve id =>
      rw [after, mem_keys_resolve, ih]
      constructor
      · rintro (old | ⟨rfl, resolved⟩)
        · exact .inr ⟨nofun, old⟩
        · exact .inl ⟨rfl, resolved⟩
      · rintro (⟨same, resolved⟩ | ⟨-, old⟩)
        · cases same
          exact .inr ⟨rfl, resolved⟩
        · exact .inl old
    | clear => simp [after, Resolver.clear, keys]
    | cachedIds => simp [after, ih]

theorem cachedIds_ascending (distinct : r.keys.Nodup) : r.cachedIds.Pairwise (· < ·) := by
  have sorted : r.cachedIds.Pairwise (· ≤ ·) := by
    let le (a b : String) : Bool := decide (a ≤ b)
    have trans (a b d : String) (h : le a b = true) (h' : le b d = true) : le a d = true :=
      decide_eq_true (String.le_trans (of_decide_eq_true h) (of_decide_eq_true h'))
    have total (a b : String) : (le a b || le b a) = true := by
      simpa [le] using String.le_total a b
    have ordered := List.pairwise_mergeSort trans total r.keys
    simpa [cachedIds, keys, le] using ordered
  have apart : r.cachedIds.Pairwise (· ≠ ·) := (List.mergeSort_perm _ _).nodup_iff.mpr distinct
  exact (sorted.and apart).imp fun both => Std.lt_of_le_of_ne both.1 both.2

/-- Whatever was asked before, resolving answers as the catalog does and failing changes nothing;
the identifiers listed are those that resolved since the last clearing, in order and once each. -/
theorem run_resolve_fresh (c : Catalog) (calls : List Call) :
    (∀ id, (((of c).run calls).resolve id).1 = c.resolve id) ∧
    (∀ id e, (((of c).run calls).resolve id).1 = .error e →
      (((of c).run calls).resolve id).2 = (of c).run calls) ∧
    ((of c).run calls).cachedIds.Pairwise (· < ·) ∧
    ∀ id, id ∈ ((of c).run calls).cachedIds ↔ Remembers c calls id := by
  have reached : ((of c).run calls).Reachable c := Reachable.new.run calls
  refine ⟨?_, ?_, ?_, ?_⟩
  · exact reached.resolve_eq
  · intro id e failed
    exact resolve_of_error failed
  · exact cachedIds_ascending reached.nodup_keys
  · intro id
    rw [cachedIds, List.mem_mergeSort]
    exact mem_keys_run c calls id

def someCalls : List Call :=
  [.resolve "desk", .resolve "banks", .clear, .resolve "nowhere", .resolve "federal",
    .resolve "desk", .resolve "western"]

theorem run_resolve_fresh_afterClearing :
    ((of sharedAncestor).run someCalls).cachedIds = ["desk", "federal"] ∧
    Remembers sharedAncestor someCalls "desk" ∧
    (((of sharedAncestor).run someCalls).resolve "western").1 =
      .error (.unknownCalendar "western") ∧
    (((of sharedAncestor).run someCalls).resolve "western").2 =
      (of sharedAncestor).run someCalls := by
  obtain ⟨fresh, unchanged, -, listed⟩ := run_resolve_fresh sharedAncestor someCalls
  have held : ((of sharedAncestor).run someCalls).keys = ["federal", "desk"] := by cbv
  have ids : ((of sharedAncestor).run someCalls).cachedIds = ["desk", "federal"] := by
    rw [cachedIds, ← keys, held]
    simp [List.mergeSort]
  have absent : sharedAncestor.resolve "western" = .error (.unknownCalendar "western") := by cbv
  have failed := (fresh "western").trans absent
  exact ⟨ids, (listed "desk").mp (by simp [ids]), failed, unchanged "western" _ failed⟩

end Holidays.Resolver
