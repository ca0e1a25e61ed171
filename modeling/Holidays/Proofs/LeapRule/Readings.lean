import Holidays.LeapRule.Parser

namespace Holidays.LeapRule

variable {endColumn column : Nat} {ts rest : List Placed} {x y : Operand} {token : Token}

abbrev Reading := Except Fault (Operand × List Placed)

def reading {P : List Placed → Prop} : Except Fault (Operand × { rest // P rest }) → Reading
  | .error fault => .error fault
  | .ok (x, ⟨rest, _⟩) => .ok (x, rest)

theorem ends_or_starts (token : Token) (ts : List Placed) :
    (∀ placed ∈ ts.head?, placed.token ≠ token) ∨ ∃ column rest, ts = ⟨token, column⟩ :: rest := by
  cases ts with
  | nil => exact .inl (by simp)
  | cons first rest =>
    by_cases same : first.token = token
    · exact .inr ⟨first.column, rest, by rw [← same]⟩
    · exact .inl (by simpa using same)

theorem reading_inTurn (first : Step ts) (chain : Operand → (mid : List Placed) → Tail mid) :
    reading
      (match first with
      | .error fault => .error fault
      | .ok (x, ⟨mid, less⟩) =>
        match chain x mid with
        | .error fault => .error fault
        | .ok (all, ⟨left, le⟩) => .ok (all, ⟨left, Nat.lt_of_le_of_lt le less⟩) : Step ts) =
      (reading first).bind fun (x, mid) => reading (chain x mid) := by
  obtain fault | ⟨x, mid, less⟩ := first
  · rfl
  · simp only [reading, Except.bind]
    obtain fault | ⟨all, left, le⟩ := chain x mid
    · rfl
    · rfl

theorem reading_connected (op : BoolExpr → BoolExpr → BoolExpr) (left : Operand)
    (next : Step ts) (chain : Operand → (mid : List Placed) → Tail mid) (sign : Placed) :
    reading
      (match next with
      | .error fault => .error fault
      | .ok (right, ⟨mid, less⟩) =>
        match bothBool column left right with
        | .error fault => .error fault
        | .ok (l, r) =>
          match chain (.bool (op l r)) mid with
          | .error fault => .error fault
          | .ok (all, ⟨left, le⟩) =>
            .ok (all, ⟨left, Nat.le_succ_of_le (Nat.le_trans le (Nat.le_of_lt less))⟩) :
        Tail (sign :: ts)) =
      (reading next).bind fun (right, mid) =>
        (bothBool column left right).bind fun (l, r) => reading (chain (.bool (op l r)) mid) := by
  obtain fault | ⟨right, mid, less⟩ := next
  · rfl
  · simp only [reading, Except.bind]
    obtain fault | ⟨l, r⟩ := bothBool column left right
    · rfl
    · simp only
      obtain fault | ⟨all, left, le⟩ := chain (.bool (op l r)) mid
      · rfl
      · rfl

theorem reading_disjunction : reading (disjunction endColumn ts) =
    (reading (conjunction endColumn ts)).bind fun (first, mid) =>
      reading (disjuncts endColumn first mid) := by
  rw [disjunction]
  exact reading_inTurn (conjunction endColumn ts) (disjuncts endColumn)

theorem reading_disjuncts_or : reading (disjuncts endColumn y (⟨.or, column⟩ :: rest)) =
    (reading (conjunction endColumn rest)).bind fun (next, mid) =>
      (bothBool column y next).bind fun (l, r) =>
        reading (disjuncts endColumn (.bool (.or l r)) mid) := by
  rw [disjuncts]
  exact reading_connected .or y (conjunction endColumn rest) (disjuncts endColumn) ⟨.or, column⟩

theorem reading_disjuncts_end (ends : ∀ placed ∈ ts.head?, placed.token ≠ .or) :
    reading (disjuncts endColumn y ts) = .ok (y, ts) := by
  rw [disjuncts.eq_def]
  split
  · exact absurd rfl (ends _ rfl)
  · rfl

theorem reading_conjunction : reading (conjunction endColumn ts) =
    (reading (comparison endColumn ts)).bind fun (first, mid) =>
      reading (conjuncts endColumn first mid) := by
  rw [conjunction]
  exact reading_inTurn (comparison endColumn ts) (conjuncts endColumn)

theorem reading_conjuncts_and : reading (conjuncts endColumn y (⟨.and, column⟩ :: rest)) =
    (reading (comparison endColumn rest)).bind fun (next, mid) =>
      (bothBool column y next).bind fun (l, r) =>
        reading (conjuncts endColumn (.bool (.and l r)) mid) := by
  rw [conjuncts]
  exact reading_connected .and y (comparison endColumn rest) (conjuncts endColumn) ⟨.and, column⟩

theorem reading_conjuncts_end (ends : ∀ placed ∈ ts.head?, placed.token ≠ .and) :
    reading (conjuncts endColumn y ts) = .ok (y, ts) := by
  rw [conjuncts.eq_def]
  split
  · exact absurd rfl (ends _ rfl)
  · rfl

def comparedNext (endColumn : Nat) (left : Operand) : List Placed → Reading
  | [] => .ok (left, [])
  | sign :: rest =>
    match comparisonOf? sign.token with
    | none => .ok (left, sign :: rest)
    | some op => (reading (arithmetic endColumn rest)).bind fun (right, after) =>
      (compareOperands op sign.column left right).bind fun both => .ok (both, after)

theorem comparedNext_none {sign : Placed} (h : comparisonOf? sign.token = none) :
    comparedNext endColumn y (sign :: rest) = .ok (y, sign :: rest) := by
  simp only [comparedNext, h]

theorem comparedNext_some {sign : Placed} {op : Comparison}
    (h : comparisonOf? sign.token = some op) :
    comparedNext endColumn y (sign :: rest) =
      (reading (arithmetic endColumn rest)).bind fun (right, after) =>
        (compareOperands op sign.column y right).bind fun both => .ok (both, after) := by
  simp only [comparedNext, h]

theorem reading_comparison : reading (comparison endColumn ts) =
    (reading (arithmetic endColumn ts)).bind fun (left, mid) =>
      comparedNext endColumn left mid := by
  rw [comparison]
  obtain fault | ⟨left, _ | ⟨placed, rest⟩, less⟩ := arithmetic endColumn ts
  · rfl
  · rfl
  · simp only [reading, Except.bind, comparedNext]
    cases comparisonOf? placed.token with
    | none => rfl
    | some op =>
      simp only
      obtain fault | ⟨right, after, fewer⟩ := arithmetic endColumn rest
      · rfl
      · simp only
        cases compareOperands op placed.column left right with
        | error fault => rfl
        | ok both => rfl

theorem reading_arithmetic : reading (arithmetic endColumn ts) =
    (reading (primary endColumn ts)).bind fun (first, mid) =>
      reading (remainders endColumn first mid) := by
  rw [arithmetic]
  exact reading_inTurn (primary endColumn ts) (remainders endColumn)

def divisorNext (endColumn : Nat) : List Placed → Except Fault (Nat × List Placed)
  | [] => .error ⟨.unexpectedEnd, endColumn⟩
  | ⟨.integer (divisor + 1), _⟩ :: rest => .ok (divisor + 1, rest)
  | placed :: _ => .error ⟨.invalidModulus, placed.column⟩

theorem divisorNext_other {place : Nat} (other : ∀ divisor, token ≠ .integer (divisor + 1)) :
    divisorNext endColumn (⟨token, place⟩ :: rest) = .error ⟨.invalidModulus, place⟩ := by
  unfold divisorNext
  split
  · next none => cases none
  · next same =>
    cases same
    exact absurd rfl (other _)
  · next same =>
    cases same
    rfl

theorem reading_remainders_bool {left : BoolExpr} :
    reading (remainders endColumn (.bool left) (⟨.percent, column⟩ :: rest)) =
      .error ⟨.typeMismatch .integer .boolean, column⟩ := by
  rw [remainders.eq_def]
  rfl

theorem reading_remainders_int {dividend : IntExpr} :
    reading (remainders endColumn (.int dividend) (⟨.percent, column⟩ :: rest)) =
      (divisorNext endColumn rest).bind fun (divisor, after) =>
        reading (remainders endColumn (.int (.remainder dividend divisor)) after) := by
  rw [remainders.eq_def]
  obtain _ | ⟨⟨token, place⟩, after⟩ := rest
  · rfl
  · cases token with
    | integer value =>
      cases value with
      | zero => rfl
      | succ divisor =>
        simp only [divisorNext, Except.bind]
        obtain fault | ⟨all, left, le⟩ :=
          remainders endColumn (.int (.remainder dividend (divisor + 1))) after
        · rfl
        · rfl
    | _ => rfl

theorem reading_remainders_end (ends : ∀ placed ∈ ts.head?, placed.token ≠ .percent) :
    reading (remainders endColumn y ts) = .ok (y, ts) := by
  rw [remainders.eq_def]
  split
  · exact absurd rfl (ends _ rfl)
  · rfl

def closedNext (endColumn : Nat) (inner : Operand) : List Placed → Reading
  | [] => .error ⟨.unclosedParenthesis, endColumn⟩
  | placed :: rest =>
    if placed.token = .closeParen then .ok (inner, rest)
    else .error ⟨.unclosedParenthesis, placed.column⟩

theorem reading_primary_parens :
    reading (primary endColumn (⟨.openParen, column⟩ :: rest)) =
      (reading (disjunction endColumn rest)).bind fun (inner, mid) =>
        closedNext endColumn inner mid := by
  rw [primary]
  obtain fault | ⟨inner, _ | ⟨⟨token, place⟩, after⟩, less⟩ := disjunction endColumn rest
  · rfl
  · rfl
  · cases token <;> rfl

def atom? : Token → Option Operand
  | .year => some (.int .year)
  | .integer value => some (.int (.literal value))
  | .boolean value => some (.bool (.literal value))
  | _ => none

theorem reading_primary_nil :
    reading (primary endColumn []) = .error ⟨.unexpectedEnd, endColumn⟩ := by
  rw [primary]
  rfl

theorem reading_primary_atom (h : atom? token = some x) :
    reading (primary endColumn (⟨token, column⟩ :: rest)) = .ok (x, rest) := by
  rw [primary.eq_def]
  cases token <;> cases h <;> rfl

theorem reading_primary_other (other : token ≠ .openParen) (none : atom? token = none) :
    reading (primary endColumn (⟨token, column⟩ :: rest)) =
      .error ⟨.unexpectedToken token, column⟩ := by
  rw [primary.eq_def]
  cases token <;> first | rfl | exact absurd rfl other | cases none

/-- A fault points at the end of the text or at one of the tokens, and no tokens are made up. -/
def Within {α : Type} (endColumn : Nat) (ts : List Placed) : Except Fault (α × List Placed) → Prop
  | .error fault => fault.column = endColumn ∨ ∃ t ∈ ts, t.column = fault.column
  | .ok (_, rest) => rest <:+ ts

section

variable {α β : Type} {us : List Placed}

theorem Within.mono {r : Except Fault (α × List Placed)} (h : Within endColumn us r)
    (part : us <:+ ts) : Within endColumn ts r := by
  obtain fault | ⟨x, rest⟩ := r
  · rcases h with ending | ⟨t, held, here⟩
    · exact .inl ending
    · exact .inr ⟨t, part.subset held, here⟩
  · exact h.trans part

theorem Within.bind {r : Except Fault (α × List Placed)}
    {next : α × List Placed → Except Fault (β × List Placed)} (h : Within endColumn us r)
    (part : us <:+ ts) (more : ∀ x rest, rest <:+ us → Within endColumn ts (next (x, rest))) :
    Within endColumn ts (r.bind next) := by
  obtain fault | ⟨x, rest⟩ := r
  · exact h.mono part
  · exact more x rest h

theorem within_check {check : Except Fault α} {next : α → Except Fault (β × List Placed)}
    (faults : ∀ fault, check = .error fault → ∃ t ∈ ts, t.column = fault.column)
    (more : ∀ x, Within endColumn ts (next x)) : Within endColumn ts (check.bind next) := by
  obtain fault | x := check
  · exact .inr (faults fault rfl)
  · exact more x

end

theorem within_divisorNext : Within endColumn ts (divisorNext endColumn ts) := by
  unfold divisorNext
  split
  · exact .inl rfl
  · exact List.suffix_cons _ _
  · exact .inr ⟨_, List.mem_cons_self, rfl⟩

theorem within_closedNext : Within endColumn ts (closedNext endColumn x ts) := by
  unfold closedNext
  split
  · exact .inl rfl
  · split
    · exact List.suffix_cons _ _
    · exact .inr ⟨_, List.mem_cons_self, rfl⟩

theorem bothBool_column {fault : Fault} (h : bothBool column x y = .error fault) :
    fault.column = column := by
  cases x <;> cases y <;> cases h <;> rfl

theorem compareOperands_column {op : Comparison} {fault : Fault}
    (h : compareOperands op column x y = .error fault) : fault.column = column := by
  cases x <;> cases y <;> cases h <;> rfl

theorem within_remainders {ts : List Placed} {y : Operand} :
    Within endColumn ts (reading (remainders endColumn y ts)) := by
  rcases ends_or_starts .percent ts with ends | ⟨column, rest, starts⟩
  · rw [reading_remainders_end ends]
    exact List.suffix_rfl
  · have fewer : rest.length < ts.length := by simp [starts]
    rw [starts]
    have behind := List.suffix_cons ⟨.percent, column⟩ rest
    cases y with
    | bool left =>
      rw [reading_remainders_bool]
      exact .inr ⟨_, List.mem_cons_self, rfl⟩
    | int dividend =>
      rw [reading_remainders_int]
      refine within_divisorNext.bind behind fun divisor after part => ?_
      have shorter := part.length_le
      exact within_remainders.mono (part.trans behind)
termination_by ts.length

mutual

theorem within_disjunction {ts : List Placed} :
    Within endColumn ts (reading (disjunction endColumn ts)) := by
  rw [reading_disjunction]
  refine within_conjunction.bind List.suffix_rfl fun x rest part => ?_
  have fewer := part.length_le
  exact within_disjuncts.mono part
termination_by 6 * ts.length + 5

theorem within_disjuncts {ts : List Placed} {y : Operand} :
    Within endColumn ts (reading (disjuncts endColumn y ts)) := by
  rcases ends_or_starts .or ts with ends | ⟨column, rest, starts⟩
  · rw [reading_disjuncts_end ends]
    exact List.suffix_rfl
  · have fewer : rest.length < ts.length := by simp [starts]
    rw [starts]
    have behind := List.suffix_cons ⟨.or, column⟩ rest
    rw [reading_disjuncts_or]
    refine within_conjunction.bind behind fun x after part => ?_
    have shorter := part.length_le
    refine within_check (fun fault clash => ⟨_, List.mem_cons_self, ?_⟩) fun both => ?_
    · exact (bothBool_column clash).symm
    · exact within_disjuncts.mono (part.trans behind)
termination_by 6 * ts.length

theorem within_conjunction {ts : List Placed} :
    Within endColumn ts (reading (conjunction endColumn ts)) := by
  rw [reading_conjunction]
  refine within_comparison.bind List.suffix_rfl fun x rest part => ?_
  have fewer := part.length_le
  exact within_conjuncts.mono part
termination_by 6 * ts.length + 4

theorem within_conjuncts {ts : List Placed} {y : Operand} :
    Within endColumn ts (reading (conjuncts endColumn y ts)) := by
  rcases ends_or_starts .and ts with ends | ⟨column, rest, starts⟩
  · rw [reading_conjuncts_end ends]
    exact List.suffix_rfl
  · have fewer : rest.length < ts.length := by simp [starts]
    rw [starts]
    have behind := List.suffix_cons ⟨.and, column⟩ rest
    rw [reading_conjuncts_and]
    refine within_comparison.bind behind fun x after part => ?_
    have shorter := part.length_le
    refine within_check (fun fault clash => ⟨_, List.mem_cons_self, ?_⟩) fun both => ?_
    · exact (bothBool_column clash).symm
    · exact within_conjuncts.mono (part.trans behind)
termination_by 6 * ts.length

theorem within_comparison {ts : List Placed} :
    Within endColumn ts (reading (comparison endColumn ts)) := by
  rw [reading_comparison]
  refine within_arithmetic.bind List.suffix_rfl fun left mid part => ?_
  obtain _ | ⟨sign, rest⟩ := mid
  · exact List.nil_suffix
  · have fewer : rest.length < ts.length := part.length_le
    have behind := (List.suffix_cons sign rest).trans part
    cases compares : comparisonOf? sign.token with
    | none =>
      simp only [comparedNext_none compares]
      exact part
    | some op =>
      simp only [comparedNext_some compares]
      refine within_arithmetic.bind behind fun right after later => ?_
      have held := part.subset List.mem_cons_self
      refine within_check (fun fault clash => ⟨sign, held, ?_⟩) fun _ => ?_
      · exact (compareOperands_column clash).symm
      · exact later.trans behind
termination_by 6 * ts.length + 3

theorem within_arithmetic {ts : List Placed} :
    Within endColumn ts (reading (arithmetic endColumn ts)) := by
  rw [reading_arithmetic]
  refine within_primary.bind List.suffix_rfl fun x rest part => ?_
  exact within_remainders.mono part
termination_by 6 * ts.length + 2

theorem within_primary {ts : List Placed} :
    Within endColumn ts (reading (primary endColumn ts)) := by
  rcases ends_or_starts .openParen ts with atom | ⟨column, rest, starts⟩
  · obtain _ | ⟨⟨token, column⟩, rest⟩ := ts
    · rw [reading_primary_nil]
      exact .inl rfl
    · cases known : atom? token with
      | some x =>
        rw [reading_primary_atom known]
        exact List.suffix_cons _ rest
      | none =>
        rw [reading_primary_other (atom _ rfl) known]
        exact .inr ⟨_, List.mem_cons_self, rfl⟩
  · have fewer : rest.length < ts.length := by simp [starts]
    rw [starts]
    have behind := List.suffix_cons ⟨.openParen, column⟩ rest
    rw [reading_primary_parens]
    refine within_disjunction.bind behind fun inner mid part => ?_
    exact within_closedNext.mono (part.trans behind)
termination_by 6 * ts.length + 1

end

def formulaNext (first : Placed) : Operand → List Placed → Except Fault BoolExpr
  | _, next :: _ => .error ⟨.unexpectedToken next.token, next.column⟩
  | .bool condition, [] => .ok condition
  | .int _, [] => .error ⟨.notBoolean, first.column⟩

theorem parse_cons {first : Placed} : parse endColumn (first :: rest) =
    (reading (disjunction endColumn (first :: rest))).bind fun (x, left) =>
      formulaNext first x left := by
  rw [parse]
  obtain fault | ⟨x, _ | ⟨next, left⟩, less⟩ := disjunction endColumn (first :: rest)
  · rfl
  · cases x <;> rfl
  · rfl

theorem parse_error_column {fault : Fault} (h : parse endColumn ts = .error fault) :
    fault.column = endColumn ∨ (ts = [] ∧ fault.column = 1) ∨
      ∃ t ∈ ts, t.column = fault.column := by
  obtain _ | ⟨first, others⟩ := ts
  · cases h
    exact .inr (.inl ⟨rfl, rfl⟩)
  · have located : Within endColumn (first :: others)
        (reading (disjunction endColumn (first :: others))) := within_disjunction
    rw [parse_cons] at h
    generalize reading (disjunction endColumn (first :: others)) = read at h located
    obtain fault' | ⟨x, _ | ⟨next, left⟩⟩ := read
    · cases h
      exact located.imp_right .inr
    · cases x with
      | bool condition => cases h
      | int expr =>
        cases h
        exact .inr (.inr ⟨first, List.mem_cons_self, rfl⟩)
    · cases h
      exact .inr (.inr ⟨next, List.IsSuffix.subset located List.mem_cons_self, rfl⟩)

end Holidays.LeapRule
