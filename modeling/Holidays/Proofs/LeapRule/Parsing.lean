import Holidays.Proofs.LeapRule.Grammar
import Holidays.Proofs.LeapRule.Readings

namespace Holidays.LeapRule

variable {endColumn column : Nat} {ts rest : List Placed} {x y : Operand}

def outcome {P : List Placed → Prop} :
    Except Fault (Operand × { rest // P rest }) → Option (Operand × List Placed)
  | .error _ => none
  | .ok (x, ⟨rest, _⟩) => some (x, rest)

theorem bound_of_outcome {P : List Placed → Prop}
    {result : Except Fault (Operand × { rest // P rest })} (h : outcome result = some (x, rest)) :
    P rest := by
  obtain fault | ⟨_, _, bound⟩ := result
  · cases h
  · cases h
    exact bound

theorem outcome_eq {P : List Placed → Prop}
    (result : Except Fault (Operand × { rest // P rest })) :
    outcome result = (reading result).toOption := by
  obtain fault | ⟨_, _, _⟩ := result
  · rfl
  · rfl

theorem toOption_bind {α β : Type} (result : Except Fault α) (next : α → Except Fault β) :
    (result.bind next).toOption = result.toOption.bind fun x => (next x).toOption := by
  cases result <;> rfl

theorem outcome_disjunction : outcome (disjunction endColumn ts) =
    (outcome (conjunction endColumn ts)).bind fun (first, mid) =>
      outcome (disjuncts endColumn first mid) := by
  simp only [outcome_eq, reading_disjunction, toOption_bind]

theorem outcome_disjuncts_or : outcome (disjuncts endColumn y (⟨.or, column⟩ :: rest)) =
    (outcome (conjunction endColumn rest)).bind fun (next, mid) =>
      (connect .or y next).bind fun both => outcome (disjuncts endColumn both mid) := by
  rw [outcome_eq, reading_disjuncts_or, toOption_bind, ← outcome_eq]
  congr 1
  funext ⟨next, mid⟩
  cases y <;> cases next <;> first | rfl | exact (outcome_eq _).symm

theorem outcome_disjuncts_end (ends : ∀ placed ∈ ts.head?, placed.token ≠ .or) :
    outcome (disjuncts endColumn y ts) = some (y, ts) := by
  rw [outcome_eq, reading_disjuncts_end ends]
  rfl

theorem outcome_conjunction : outcome (conjunction endColumn ts) =
    (outcome (comparison endColumn ts)).bind fun (first, mid) =>
      outcome (conjuncts endColumn first mid) := by
  simp only [outcome_eq, reading_conjunction, toOption_bind]

theorem outcome_conjuncts_and : outcome (conjuncts endColumn y (⟨.and, column⟩ :: rest)) =
    (outcome (comparison endColumn rest)).bind fun (next, mid) =>
      (connect .and y next).bind fun both => outcome (conjuncts endColumn both mid) := by
  rw [outcome_eq, reading_conjuncts_and, toOption_bind, ← outcome_eq]
  congr 1
  funext ⟨next, mid⟩
  cases y <;> cases next <;> first | rfl | exact (outcome_eq _).symm

theorem outcome_conjuncts_end (ends : ∀ placed ∈ ts.head?, placed.token ≠ .and) :
    outcome (conjuncts endColumn y ts) = some (y, ts) := by
  rw [outcome_eq, reading_conjuncts_end ends]
  rfl

def compareRest (endColumn : Nat) (left : Operand) : List Placed → Option (Operand × List Placed)
  | [] => some (left, [])
  | placed :: rest =>
    match comparisonOf? placed.token with
    | none => some (left, placed :: rest)
    | some op => (outcome (arithmetic endColumn rest)).bind fun (right, after) =>
      (compare op left right).map fun both => (both, after)

theorem outcome_comparison : outcome (comparison endColumn ts) =
    (outcome (arithmetic endColumn ts)).bind fun (left, mid) => compareRest endColumn left mid := by
  rw [comparison]
  obtain fault | ⟨left, _ | ⟨placed, rest⟩, less⟩ := arithmetic endColumn ts
  · rfl
  · rfl
  · simp only [outcome, Option.bind_some, compareRest]
    cases comparisonOf? placed.token with
    | none => rfl
    | some op =>
      simp only
      obtain fault | ⟨right, after, fewer⟩ := arithmetic endColumn rest
      · rfl
      · cases left <;> cases right <;> rfl

theorem outcome_arithmetic : outcome (arithmetic endColumn ts) =
    (outcome (primary endColumn ts)).bind fun (first, mid) =>
      outcome (remainders endColumn first mid) := by
  simp only [outcome_eq, reading_arithmetic, toOption_bind]

def divisor? : List Placed → Option (Nat × List Placed)
  | ⟨.integer divisor, _⟩ :: rest => some (divisor, rest)
  | _ => none

theorem outcome_remainders_percent :
    outcome (remainders endColumn y (⟨.percent, column⟩ :: rest)) =
      (divisor? rest).bind fun (divisor, after) =>
        (reduce divisor y).bind fun both => outcome (remainders endColumn both after) := by
  rw [remainders.eq_def]
  cases y with
  | bool left => exact (Option.bind_fun_none _).symm
  | int dividend =>
    obtain _ | ⟨⟨token, place⟩, after⟩ := rest
    · rfl
    · cases token with
      | integer divisor =>
        cases divisor with
        | zero => rfl
        | succ divisor =>
          simp only [divisor?, reduce, Nat.succ_pos, if_true, Option.bind_some]
          obtain fault | ⟨all, left, le⟩ :=
            remainders endColumn (.int (.remainder dividend (divisor + 1))) after
          · rfl
          · rfl
      | _ => rfl

theorem outcome_remainders_end (ends : ∀ placed ∈ ts.head?, placed.token ≠ .percent) :
    outcome (remainders endColumn y ts) = some (y, ts) := by
  rw [outcome_eq, reading_remainders_end ends]
  rfl

def closed? : List Placed → Option (List Placed)
  | ⟨.closeParen, _⟩ :: rest => some rest
  | _ => none

theorem outcome_primary_parens :
    outcome (primary endColumn (⟨.openParen, column⟩ :: rest)) =
      (outcome (disjunction endColumn rest)).bind fun (inner, mid) =>
        (closed? mid).map fun after => (inner, after) := by
  rw [primary]
  obtain fault | ⟨inner, _ | ⟨⟨token, place⟩, after⟩, less⟩ := disjunction endColumn rest
  · rfl
  · rfl
  · cases token <;> rfl

/-- A phrase lies between the tokens before a reader and those after it. -/
def Derives (s : Symbol) (means : s.Value → Prop) (ts rest : List Placed) : Prop :=
  ∃ p : Phrase s, ts.map Placed.token = p.tokens ++ rest.map Placed.token ∧ means p.value

theorem comparisonOf?_eq_some_iff {token : Token} {op : Comparison} :
    comparisonOf? token = some op ↔ token = op.token := by
  cases op <;> cases token <;> simp [comparisonOf?, Comparison.token]

theorem divisor?_eq_some {divisor : Nat} (h : divisor? ts = some (divisor, rest)) :
    ts.map Placed.token = .integer divisor :: rest.map Placed.token := by
  unfold divisor? at h
  split at h
  · cases h
    rfl
  · cases h

theorem closed?_eq_some (h : closed? ts = some rest) :
    ts.map Placed.token = .closeParen :: rest.map Placed.token := by
  unfold closed? at h
  split at h
  · cases h
    rfl
  · cases h

theorem derives_remainders {ts rest : List Placed} {x y : Operand}
    (h : outcome (remainders endColumn y ts) = some (x, rest)) :
    Derives .remainders (· y = some x) ts rest := by
  rcases ends_or_starts .percent ts with ends | ⟨column, after, starts⟩
  · rw [outcome_remainders_end ends] at h
    cases h
    exact ⟨.noRemainder, rfl, rfl⟩
  · rw [starts, outcome_remainders_percent, Option.bind_eq_some_iff] at h
    obtain ⟨⟨divisor, mid⟩, literal, tail⟩ := h
    obtain ⟨both, reduced, tail⟩ := Option.bind_eq_some_iff.mp tail
    have front := divisor?_eq_some literal
    have shorter : mid.length < ts.length := by
      have counted := congrArg List.length front
      simp only [List.length_map, List.length_cons] at counted
      simp only [starts, List.length_cons]
      omega
    obtain ⟨q, back, meansAll⟩ := derives_remainders tail
    refine ⟨.remainder divisor q, ?_, ?_⟩
    · rw [starts, List.map_cons, front, back, Phrase.tokens, List.cons_append, List.cons_append]
    · simp only [Phrase.value, reduced, Option.bind_some, meansAll]
termination_by ts.length

theorem derives_atom (atom : ∀ placed ∈ ts.head?, placed.token ≠ .openParen)
    (h : outcome (primary endColumn ts) = some (x, rest)) :
    Derives .primary (· = some x) ts rest := by
  obtain _ | ⟨⟨token, column⟩, after⟩ := ts
  · rw [primary] at h
    cases h
  · cases token with
    | year =>
      rw [primary] at h
      cases h
      exact ⟨.year, rfl, rfl⟩
    | integer value =>
      rw [primary] at h
      cases h
      exact ⟨.integer value, rfl, rfl⟩
    | boolean value =>
      rw [primary] at h
      cases h
      exact ⟨.boolean value, rfl, rfl⟩
    | openParen => exact absurd rfl (atom _ rfl)
    | _ =>
      rw [primary.eq_def] at h
      cases h

-- By the parser's own recursion: each reader goes on with fewer tokens or with a tighter symbol.
mutual

theorem derives_disjunction {ts rest : List Placed} {x : Operand}
    (h : outcome (disjunction endColumn ts) = some (x, rest)) :
    Derives .disjunction (· = some x) ts rest := by
  rw [outcome_disjunction, Option.bind_eq_some_iff] at h
  obtain ⟨⟨first, mid⟩, head, tail⟩ := h
  have shorter := bound_of_outcome head
  obtain ⟨p, front, meansFirst⟩ := derives_conjunction head
  obtain ⟨q, back, meansAll⟩ := derives_disjuncts tail
  refine ⟨.disjunction p q, ?_, ?_⟩
  · rw [front, back, Phrase.tokens, List.append_assoc]
  · rw [Phrase.value, meansFirst, Option.bind_some, meansAll]
termination_by (ts.length, 5)

theorem derives_disjuncts {ts rest : List Placed} {x y : Operand}
    (h : outcome (disjuncts endColumn y ts) = some (x, rest)) :
    Derives .disjuncts (· y = some x) ts rest := by
  rcases ends_or_starts .or ts with ends | ⟨column, after, starts⟩
  · rw [outcome_disjuncts_end ends] at h
    cases h
    exact ⟨.noDisjunct, rfl, rfl⟩
  · rw [starts, outcome_disjuncts_or, Option.bind_eq_some_iff] at h
    obtain ⟨⟨next, mid⟩, head, tail⟩ := h
    obtain ⟨both, joined, tail⟩ := Option.bind_eq_some_iff.mp tail
    have fewer : after.length < ts.length := by simp [starts]
    have shorter := bound_of_outcome head
    obtain ⟨p, front, meansNext⟩ := derives_conjunction head
    obtain ⟨q, back, meansAll⟩ := derives_disjuncts tail
    refine ⟨.disjunct p q, ?_, ?_⟩
    · rw [starts, List.map_cons, front, back, Phrase.tokens, List.cons_append, List.append_assoc]
    · simp only [Phrase.value, meansNext, Option.bind_some, joined, meansAll]
termination_by (ts.length, 0)

theorem derives_conjunction {ts rest : List Placed} {x : Operand}
    (h : outcome (conjunction endColumn ts) = some (x, rest)) :
    Derives .conjunction (· = some x) ts rest := by
  rw [outcome_conjunction, Option.bind_eq_some_iff] at h
  obtain ⟨⟨first, mid⟩, head, tail⟩ := h
  have shorter := bound_of_outcome head
  obtain ⟨p, front, meansFirst⟩ := derives_comparison head
  obtain ⟨q, back, meansAll⟩ := derives_conjuncts tail
  refine ⟨.conjunction p q, ?_, ?_⟩
  · rw [front, back, Phrase.tokens, List.append_assoc]
  · rw [Phrase.value, meansFirst, Option.bind_some, meansAll]
termination_by (ts.length, 4)

theorem derives_conjuncts {ts rest : List Placed} {x y : Operand}
    (h : outcome (conjuncts endColumn y ts) = some (x, rest)) :
    Derives .conjuncts (· y = some x) ts rest := by
  rcases ends_or_starts .and ts with ends | ⟨column, after, starts⟩
  · rw [outcome_conjuncts_end ends] at h
    cases h
    exact ⟨.noConjunct, rfl, rfl⟩
  · rw [starts, outcome_conjuncts_and, Option.bind_eq_some_iff] at h
    obtain ⟨⟨next, mid⟩, head, tail⟩ := h
    obtain ⟨both, joined, tail⟩ := Option.bind_eq_some_iff.mp tail
    have fewer : after.length < ts.length := by simp [starts]
    have shorter := bound_of_outcome head
    obtain ⟨p, front, meansNext⟩ := derives_comparison head
    obtain ⟨q, back, meansAll⟩ := derives_conjuncts tail
    refine ⟨.conjunct p q, ?_, ?_⟩
    · rw [starts, List.map_cons, front, back, Phrase.tokens, List.cons_append, List.append_assoc]
    · simp only [Phrase.value, meansNext, Option.bind_some, joined, meansAll]
termination_by (ts.length, 0)

theorem derives_comparison {ts rest : List Placed} {x : Operand}
    (h : outcome (comparison endColumn ts) = some (x, rest)) :
    Derives .comparison (· = some x) ts rest := by
  rw [outcome_comparison, Option.bind_eq_some_iff] at h
  obtain ⟨⟨left, mid⟩, head, tail⟩ := h
  have shorter := bound_of_outcome head
  obtain ⟨p, front, meansLeft⟩ := derives_arithmetic head
  cases mid with
  | nil =>
    cases tail
    exact ⟨.alone p, front, meansLeft⟩
  | cons placed after =>
    simp only [compareRest] at tail
    cases sign : comparisonOf? placed.token with
    | none =>
      rw [sign] at tail
      cases tail
      exact ⟨.alone p, front, meansLeft⟩
    | some op =>
      simp only [sign, Option.bind_eq_some_iff, Option.map_eq_some_iff] at tail
      obtain ⟨⟨right, left⟩, second, both, compared, last⟩ := tail
      cases last
      have fewer : after.length < ts.length := Nat.lt_trans (Nat.lt_succ_self _) shorter
      obtain ⟨q, back, meansRight⟩ := derives_arithmetic second
      refine ⟨.compared p op q, ?_, ?_⟩
      · rw [front, List.map_cons, back, comparisonOf?_eq_some_iff.mp sign, Phrase.tokens,
          List.append_assoc, List.cons_append]
      · simp only [Phrase.value, meansLeft, meansRight, Option.bind_some, compared]
termination_by (ts.length, 3)

theorem derives_arithmetic {ts rest : List Placed} {x : Operand}
    (h : outcome (arithmetic endColumn ts) = some (x, rest)) :
    Derives .arithmetic (· = some x) ts rest := by
  rw [outcome_arithmetic, Option.bind_eq_some_iff] at h
  obtain ⟨⟨first, mid⟩, head, tail⟩ := h
  obtain ⟨p, front, meansFirst⟩ := derives_primary head
  obtain ⟨q, back, meansAll⟩ := derives_remainders tail
  refine ⟨.arithmetic p q, ?_, ?_⟩
  · rw [front, back, Phrase.tokens, List.append_assoc]
  · rw [Phrase.value, meansFirst, Option.bind_some, meansAll]
termination_by (ts.length, 2)

theorem derives_primary {ts rest : List Placed} {x : Operand}
    (h : outcome (primary endColumn ts) = some (x, rest)) :
    Derives .primary (· = some x) ts rest := by
  rcases ends_or_starts .openParen ts with atom | ⟨column, after, starts⟩
  · exact derives_atom atom h
  · rw [starts, outcome_primary_parens, Option.bind_eq_some_iff] at h
    obtain ⟨⟨inner, mid⟩, read, closed⟩ := h
    obtain ⟨left, closing, last⟩ := Option.map_eq_some_iff.mp closed
    cases last
    have fewer : after.length < ts.length := by simp [starts]
    obtain ⟨p, front, means⟩ := derives_disjunction read
    refine ⟨.parens p, ?_, means⟩
    rw [starts, List.map_cons, front, closed?_eq_some closing, Phrase.tokens, List.cons_append,
      List.append_assoc, List.singleton_append]
termination_by (ts.length, 1)

end

/-- A reader hands back the value of a phrase, or faults where types clash in it. -/
def Reads (endColumn : Nat) : (s : Symbol) → s.Value → List Placed → List Placed → Prop
  | .disjunction, value, ts, rest =>
    outcome (disjunction endColumn ts) = value.map fun x => (x, rest)
  | .disjuncts, value, ts, rest =>
    ∀ y, outcome (disjuncts endColumn y ts) = (value y).map fun x => (x, rest)
  | .conjunction, value, ts, rest =>
    outcome (conjunction endColumn ts) = value.map fun x => (x, rest)
  | .conjuncts, value, ts, rest =>
    ∀ y, outcome (conjuncts endColumn y ts) = (value y).map fun x => (x, rest)
  | .comparison, value, ts, rest =>
    outcome (comparison endColumn ts) = value.map fun x => (x, rest)
  | .arithmetic, value, ts, rest =>
    outcome (arithmetic endColumn ts) = value.map fun x => (x, rest)
  | .remainders, value, ts, rest =>
    ∀ y, outcome (remainders endColumn y ts) = (value y).map fun x => (x, rest)
  | .primary, value, ts, rest =>
    outcome (primary endColumn ts) = value.map fun x => (x, rest)

theorem Symbol.EndsAt.ne {s : Symbol} {token : Token} (h : s.EndsAt (ts.map Placed.token))
    (inside : 0 < token.looseness ∧ token.looseness ≤ s.looseness) :
    ∀ placed ∈ ts.head?, placed.token ≠ token := by
  rintro placed held rfl
  have first : placed.token ∈ (ts.map Placed.token).head? := by
    rw [List.head?_map, held]
    rfl
  rcases h placed.token first with other | looser
  · omega
  · omega

theorem compareRest_end (ends : Symbol.comparison.EndsAt (ts.map Placed.token)) :
    compareRest endColumn y ts = some (y, ts) := by
  cases ts with
  | nil => rfl
  | cons placed rest =>
    rw [compareRest]
    cases sign : comparisonOf? placed.token with
    | none => rfl
    | some op =>
      rw [List.map_cons, comparisonOf?_eq_some_iff.mp sign, Symbol.endsAt_cons,
        op.looseness_token] at ends
      exact absurd ends (by decide)

theorem reads_phrase {s : Symbol} (p : Phrase s) {ts : List Placed} {following : List Token}
    (spelled : ts.map Placed.token = p.tokens ++ following) (ends : s.EndsAt following) :
    ∃ rest, rest.map Placed.token = following ∧ Reads endColumn s p.value ts rest := by
  -- Parts of a phrase are read in turn; what follows one of them starts with the next.
  induction p generalizing ts following with
  | disjunction first others ihFirst ihOthers =>
    rw [Phrase.tokens, List.append_assoc] at spelled
    obtain ⟨mid, spelledMid, readFirst⟩ := ihFirst spelled (endsAt_disjuncts others ends)
    obtain ⟨rest, spelledRest, readOthers⟩ := ihOthers spelledMid ends
    refine ⟨rest, spelledRest, ?_⟩
    simp only [Reads] at readFirst readOthers ⊢
    simp only [outcome_disjunction, readFirst, readOthers, Option.bind_map, Phrase.value,
      Option.map_bind, Function.comp_def]
  | noDisjunct =>
    subst spelled
    exact ⟨ts, rfl, fun y => outcome_disjuncts_end (ends.ne (by decide))⟩
  | disjunct next others ihNext ihOthers =>
    rw [Phrase.tokens, List.cons_append, List.append_assoc, List.map_eq_cons_iff] at spelled
    obtain ⟨⟨_, column⟩, ts, rfl, rfl, spelled⟩ := spelled
    obtain ⟨mid, spelledMid, readNext⟩ := ihNext spelled (endsAt_disjuncts others ends)
    obtain ⟨rest, spelledRest, readOthers⟩ := ihOthers spelledMid ends
    refine ⟨rest, spelledRest, ?_⟩
    simp only [Reads] at readNext readOthers ⊢
    intro y
    simp only [outcome_disjuncts_or, readNext, readOthers, Option.bind_map, Phrase.value,
      Option.map_bind, Function.comp_def]
  | conjunction first others ihFirst ihOthers =>
    rw [Phrase.tokens, List.append_assoc] at spelled
    obtain ⟨mid, spelledMid, readFirst⟩ := ihFirst spelled (endsAt_conjuncts others ends)
    obtain ⟨rest, spelledRest, readOthers⟩ := ihOthers spelledMid ends
    refine ⟨rest, spelledRest, ?_⟩
    simp only [Reads] at readFirst readOthers ⊢
    simp only [outcome_conjunction, readFirst, readOthers, Option.bind_map, Phrase.value,
      Option.map_bind, Function.comp_def]
  | noConjunct =>
    subst spelled
    exact ⟨ts, rfl, fun y => outcome_conjuncts_end (ends.ne (by decide))⟩
  | conjunct next others ihNext ihOthers =>
    rw [Phrase.tokens, List.cons_append, List.append_assoc, List.map_eq_cons_iff] at spelled
    obtain ⟨⟨_, column⟩, ts, rfl, rfl, spelled⟩ := spelled
    obtain ⟨mid, spelledMid, readNext⟩ := ihNext spelled (endsAt_conjuncts others ends)
    obtain ⟨rest, spelledRest, readOthers⟩ := ihOthers spelledMid ends
    refine ⟨rest, spelledRest, ?_⟩
    simp only [Reads] at readNext readOthers ⊢
    intro y
    simp only [outcome_conjuncts_and, readNext, readOthers, Option.bind_map, Phrase.value,
      Option.map_bind, Function.comp_def]
  | alone side ih =>
    obtain ⟨rest, rfl, read⟩ := ih spelled (ends.mono (by decide))
    refine ⟨rest, rfl, ?_⟩
    simp only [Reads] at read ⊢
    simp only [outcome_comparison, read, compareRest_end ends, Option.bind_map, Phrase.value,
      Function.comp_def]
    exact Option.map_eq_bind.symm
  | compared left op right ihLeft ihRight =>
    rw [Phrase.tokens, List.append_assoc, List.cons_append] at spelled
    obtain ⟨mid, spelledMid, readLeft⟩ := ihLeft spelled (endsAt_comparison op _)
    obtain ⟨⟨_, column⟩, mid, rfl, rfl, spelledRight⟩ := List.map_eq_cons_iff.mp spelledMid
    obtain ⟨rest, spelledRest, readRight⟩ := ihRight spelledRight (ends.mono (by decide))
    refine ⟨rest, spelledRest, ?_⟩
    simp only [Reads] at readLeft readRight ⊢
    simp only [outcome_comparison, readLeft, compareRest, comparisonOf?_eq_some_iff.mpr rfl,
      readRight, Option.bind_map, Phrase.value, Option.map_bind, Function.comp_def]
  | arithmetic first others ihFirst ihOthers =>
    rw [Phrase.tokens, List.append_assoc] at spelled
    obtain ⟨mid, spelledMid, readFirst⟩ := ihFirst spelled (endsAt_primary _)
    obtain ⟨rest, spelledRest, readOthers⟩ := ihOthers spelledMid ends
    refine ⟨rest, spelledRest, ?_⟩
    simp only [Reads] at readFirst readOthers ⊢
    simp only [outcome_arithmetic, readFirst, readOthers, Option.bind_map, Phrase.value,
      Option.map_bind, Function.comp_def]
  | noRemainder =>
    subst spelled
    exact ⟨ts, rfl, fun y => outcome_remainders_end (ends.ne (by decide))⟩
  | remainder divisor others ih =>
    rw [Phrase.tokens, List.cons_append, List.map_eq_cons_iff] at spelled
    obtain ⟨⟨_, column⟩, ts, rfl, rfl, spelled⟩ := spelled
    rw [List.cons_append, List.map_eq_cons_iff] at spelled
    obtain ⟨⟨_, place⟩, ts, rfl, rfl, spelled⟩ := spelled
    obtain ⟨rest, spelledRest, readOthers⟩ := ih spelled ends
    refine ⟨rest, spelledRest, ?_⟩
    simp only [Reads] at readOthers ⊢
    intro y
    simp only [outcome_remainders_percent, divisor?, readOthers, Option.bind_some, Phrase.value,
      Option.map_bind, Function.comp_def]
  | year =>
    obtain ⟨⟨_, column⟩, rest, rfl, rfl, rfl⟩ := List.map_eq_cons_iff.mp spelled
    exact ⟨rest, rfl, by rw [Reads, primary]; rfl⟩
  | integer value =>
    obtain ⟨⟨_, column⟩, rest, rfl, rfl, rfl⟩ := List.map_eq_cons_iff.mp spelled
    exact ⟨rest, rfl, by rw [Reads, primary]; rfl⟩
  | boolean value =>
    obtain ⟨⟨_, column⟩, rest, rfl, rfl, rfl⟩ := List.map_eq_cons_iff.mp spelled
    exact ⟨rest, rfl, by rw [Reads, primary]; rfl⟩
  | parens inner ih =>
    rw [Phrase.tokens, List.cons_append, List.append_assoc, List.map_eq_cons_iff] at spelled
    obtain ⟨⟨_, column⟩, ts, rfl, rfl, spelled⟩ := spelled
    obtain ⟨mid, spelledMid, read⟩ := ih spelled (endsAt_closeParen _)
    obtain ⟨⟨_, place⟩, rest, rfl, rfl, rfl⟩ := List.map_eq_cons_iff.mp spelledMid
    refine ⟨rest, rfl, ?_⟩
    simp only [Reads] at read ⊢
    simp only [outcome_primary_parens, read, closed?, Option.bind_map, Phrase.value,
      Option.map_some, Function.comp_def]
    exact Option.map_eq_bind.symm

theorem parse_eq_ok_iff {condition : BoolExpr} :
    parse endColumn ts = .ok condition ↔
      outcome (disjunction endColumn ts) = some (.bool condition, []) := by
  cases ts with
  | nil =>
    constructor
    · intro accepted
      cases accepted
    · intro read
      exact absurd (bound_of_outcome read) (Nat.not_lt_zero _)
  | cons first others =>
    rw [parse]
    obtain fault | ⟨x, _ | ⟨placed, rest⟩, less⟩ := disjunction endColumn (first :: others)
    · simp [outcome]
    · cases x <;> simp [outcome]
    · simp [outcome]

/-- The parser accepts exactly the well-typed formulas of the grammar, with the condition that the
only derivation stands for. -/
theorem parse_eq_ok_iff_derives (endColumn : Nat) (ts : List Placed) :
    (∀ condition, parse endColumn ts = .ok condition ↔ ∃ p : Phrase .disjunction,
      p.tokens = ts.map Placed.token ∧ p.value = some (.bool condition)) ∧
    ∀ p q : Phrase .disjunction, p.tokens = ts.map Placed.token →
      q.tokens = ts.map Placed.token → p = q := by
  constructor
  · intro condition
    rw [parse_eq_ok_iff]
    constructor
    · intro read
      obtain ⟨p, spelled, means⟩ := derives_disjunction read
      exact ⟨p, by rw [spelled, List.map_nil, List.append_nil], means⟩
    · rintro ⟨p, spelled, means⟩
      obtain ⟨rest, nothing, read⟩ :=
        reads_phrase p (by rw [spelled, List.append_nil]) Symbol.disjunction.endsAt_nil
      rw [Reads, means] at read
      rw [read, List.map_eq_nil_iff.mp nothing]
      rfl
  · intro p q hp hq
    exact Phrase.tokens_inj (hp.trans hq.symm)

example : parse 8 [⟨.year, 1⟩, ⟨.equal, 2⟩, ⟨.integer 4, 3⟩, ⟨.or, 4⟩, ⟨.boolean true, 5⟩,
    ⟨.and, 6⟩, ⟨.boolean false, 7⟩] =
    .ok (.or (.compareInts .equal .year (.literal 4)) (.and (.literal true) (.literal false))) := by
  cbv

end Holidays.LeapRule
