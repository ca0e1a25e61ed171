import Holidays.LeapRule.Expr
import Holidays.LeapRule.Token

/-!
The grammar of leap-year formulas, loosest binding first:

    disjunction := conjunction ("||" conjunction)*
    conjunction := comparison ("&&" comparison)*
    comparison  := arithmetic (("==" | "!=") arithmetic)?
    arithmetic  := primary ("%" integer)*
    primary     := integer | "year" | "true" | "false" | "(" disjunction ")"

Derivations are data, with the tokens that they spell and the operand that they stand for. Tokens
have at most one derivation, typed or not.
-/
namespace Holidays.LeapRule

inductive Symbol where
  | disjunction
  | disjuncts
  | conjunction
  | conjuncts
  | comparison
  | arithmetic
  | remainders
  | primary

inductive Phrase : Symbol → Type where
  | disjunction (first : Phrase .conjunction) (rest : Phrase .disjuncts) : Phrase .disjunction
  | noDisjunct : Phrase .disjuncts
  | disjunct (next : Phrase .conjunction) (rest : Phrase .disjuncts) : Phrase .disjuncts
  | conjunction (first : Phrase .comparison) (rest : Phrase .conjuncts) : Phrase .conjunction
  | noConjunct : Phrase .conjuncts
  | conjunct (next : Phrase .comparison) (rest : Phrase .conjuncts) : Phrase .conjuncts
  | alone (side : Phrase .arithmetic) : Phrase .comparison
  | compared (left : Phrase .arithmetic) (op : Comparison) (right : Phrase .arithmetic) :
      Phrase .comparison
  | arithmetic (first : Phrase .primary) (rest : Phrase .remainders) : Phrase .arithmetic
  | noRemainder : Phrase .remainders
  | remainder (divisor : Nat) (rest : Phrase .remainders) : Phrase .remainders
  | year : Phrase .primary
  | integer (value : Nat) : Phrase .primary
  | boolean (value : Bool) : Phrase .primary
  | parens (inner : Phrase .disjunction) : Phrase .primary

def Comparison.token : Comparison → Token
  | .equal => .equal
  | .notEqual => .notEqual

def Phrase.tokens : {s : Symbol} → Phrase s → List Token
  | _, .disjunction first rest => first.tokens ++ rest.tokens
  | _, .noDisjunct => []
  | _, .disjunct next rest => .or :: (next.tokens ++ rest.tokens)
  | _, .conjunction first rest => first.tokens ++ rest.tokens
  | _, .noConjunct => []
  | _, .conjunct next rest => .and :: (next.tokens ++ rest.tokens)
  | _, .alone side => side.tokens
  | _, .compared left op right => left.tokens ++ op.token :: right.tokens
  | _, .arithmetic first rest => first.tokens ++ rest.tokens
  | _, .noRemainder => []
  | _, .remainder divisor rest => .percent :: .integer divisor :: rest.tokens
  | _, .year => [.year]
  | _, .integer value => [.integer value]
  | _, .boolean value => [.boolean value]
  | _, .parens inner => .openParen :: (inner.tokens ++ [.closeParen])

def connect (op : BoolExpr → BoolExpr → BoolExpr) : Operand → Operand → Option Operand
  | .bool left, .bool right => some (.bool (op left right))
  | _, _ => none

def compare (op : Comparison) : Operand → Operand → Option Operand
  | .int left, .int right => some (.bool (.compareInts op left right))
  | .bool left, .bool right => some (.bool (.compareBools op left right))
  | _, _ => none

def reduce (divisor : Nat) : Operand → Option Operand
  | .int dividend => if 0 < divisor then some (.int (.remainder dividend divisor)) else none
  | .bool _ => none

/-- What a phrase stands for: an operand, unless types clash. The part under a star goes on from the
operand before it, so that chains lean to the left. -/
abbrev Symbol.Value : Symbol → Type
  | .disjuncts => Operand → Option Operand
  | .conjuncts => Operand → Option Operand
  | .remainders => Operand → Option Operand
  | _ => Option Operand

def Phrase.value : {s : Symbol} → Phrase s → s.Value
  | _, .disjunction first rest => Option.bind first.value rest.value
  | _, .noDisjunct => some
  | _, .disjunct next rest => fun left =>
    Option.bind next.value fun right => (connect .or left right).bind rest.value
  | _, .conjunction first rest => Option.bind first.value rest.value
  | _, .noConjunct => some
  | _, .conjunct next rest => fun left =>
    Option.bind next.value fun right => (connect .and left right).bind rest.value
  | _, .alone side => side.value
  | _, .compared left op right =>
    Option.bind left.value fun l => Option.bind right.value fun r => compare op l r
  | _, .arithmetic first rest => Option.bind first.value rest.value
  | _, .noRemainder => some
  | _, .remainder divisor rest => fun left => (reduce divisor left).bind rest.value
  | _, .year => some (.int .year)
  | _, .integer value => some (.int (.literal value))
  | _, .boolean value => some (.bool (.literal value))
  | _, .parens inner => inner.value

def Token.looseness : Token → Nat
  | .percent => 1
  | .equal => 2
  | .notEqual => 2
  | .and => 3
  | .or => 4
  | _ => 0

def Symbol.looseness : Symbol → Nat
  | .disjunction => 4
  | .disjuncts => 4
  | .conjunction => 3
  | .conjuncts => 3
  | .comparison => 2
  | .arithmetic => 1
  | .remainders => 1
  | .primary => 0

/-- No operator follows that belongs to a phrase of the symbol. -/
def Symbol.EndsAt (s : Symbol) (following : List Token) : Prop :=
  ∀ token ∈ following.head?, token.looseness = 0 ∨ s.looseness < token.looseness

theorem Symbol.endsAt_nil (s : Symbol) : s.EndsAt [] := by
  intro token held
  cases held

theorem Symbol.endsAt_cons {s : Symbol} {token : Token} {following : List Token} :
    s.EndsAt (token :: following) ↔ token.looseness = 0 ∨ s.looseness < token.looseness := by
  simp [EndsAt]

theorem Symbol.EndsAt.mono {s s' : Symbol} {following : List Token} (h : s.EndsAt following)
    (tighter : s'.looseness ≤ s.looseness) : s'.EndsAt following := by
  intro token held
  rcases h token held with other | looser
  · exact .inl other
  · exact .inr (Nat.lt_of_le_of_lt tighter looser)

theorem Comparison.looseness_token (op : Comparison) : op.token.looseness = 2 := by
  cases op <;> rfl

theorem Comparison.token_inj {op op' : Comparison} (h : op.token = op'.token) : op = op' := by
  cases op <;> cases op' <;> first | rfl | cases h

theorem endsAt_disjuncts (rest : Phrase .disjuncts) {following : List Token}
    (h : Symbol.disjuncts.EndsAt following) :
    Symbol.conjunction.EndsAt (rest.tokens ++ following) := by
  cases rest with
  | noDisjunct => exact h.mono (by decide)
  | disjunct next rest => exact Symbol.endsAt_cons.mpr (.inr (by decide))

theorem endsAt_conjuncts (rest : Phrase .conjuncts) {following : List Token}
    (h : Symbol.conjuncts.EndsAt following) :
    Symbol.comparison.EndsAt (rest.tokens ++ following) := by
  cases rest with
  | noConjunct => exact h.mono (by decide)
  | conjunct next rest => exact Symbol.endsAt_cons.mpr (.inr (by decide))

theorem endsAt_comparison (op : Comparison) (following : List Token) :
    Symbol.arithmetic.EndsAt (op.token :: following) := by
  rw [Symbol.endsAt_cons, op.looseness_token]
  exact .inr (by decide)

theorem endsAt_primary (following : List Token) : Symbol.primary.EndsAt following := by
  intro token _
  exact Nat.eq_zero_or_pos token.looseness

theorem endsAt_closeParen (following : List Token) :
    Symbol.disjunction.EndsAt (.closeParen :: following) :=
  Symbol.endsAt_cons.mpr (.inl rfl)

/-- The front of some tokens can be this phrase only, where no more of it follows. -/
def Phrase.Determined {s : Symbol} (p : Phrase s) : Prop :=
  ∀ (q : Phrase s) {following following' : List Token},
    p.tokens ++ following = q.tokens ++ following' → s.EndsAt following → s.EndsAt following' →
    p = q ∧ following = following'

theorem Phrase.Determined.pair {s s' : Symbol} {p : Phrase s} {q : Phrase s'} (hp : p.Determined)
    (hq : q.Determined) (between : ∀ (rest : Phrase s') {following : List Token},
      s'.EndsAt following → s.EndsAt (rest.tokens ++ following))
    {p' : Phrase s} {q' : Phrase s'} {following following' : List Token}
    (same : p.tokens ++ (q.tokens ++ following) = p'.tokens ++ (q'.tokens ++ following'))
    (ends : s'.EndsAt following) (ends' : s'.EndsAt following') :
    (p = p' ∧ q = q') ∧ following = following' := by
  obtain ⟨first, rest⟩ := hp p' same (between q ends) (between q' ends')
  obtain ⟨second, after⟩ := hq q' rest ends ends'
  exact ⟨⟨first, second⟩, after⟩

theorem Phrase.determined {s : Symbol} (p : Phrase s) : p.Determined := by
  induction p with
  | disjunction first rest ihFirst ihRest =>
    rintro ⟨first', rest'⟩ following following' same ends ends'
    simp only [tokens, List.append_assoc] at same
    obtain ⟨⟨rfl, rfl⟩, after⟩ := ihFirst.pair ihRest endsAt_disjuncts same ends ends'
    exact ⟨rfl, after⟩
  | noDisjunct =>
    rintro (_ | ⟨next', rest'⟩) following following' same ends ends'
    · exact ⟨rfl, same⟩
    · rw [show following = _ from same] at ends
      exact absurd (Symbol.endsAt_cons.mp ends) (by decide)
  | disjunct next rest ihNext ihRest =>
    rintro (_ | ⟨next', rest'⟩) following following' same ends ends'
    · rw [show following' = _ from same.symm] at ends'
      exact absurd (Symbol.endsAt_cons.mp ends') (by decide)
    · simp only [tokens, List.cons_append, List.append_assoc, List.cons.injEq, true_and] at same
      obtain ⟨⟨rfl, rfl⟩, after⟩ := ihNext.pair ihRest endsAt_disjuncts same ends ends'
      exact ⟨rfl, after⟩
  | conjunction first rest ihFirst ihRest =>
    rintro ⟨first', rest'⟩ following following' same ends ends'
    simp only [tokens, List.append_assoc] at same
    obtain ⟨⟨rfl, rfl⟩, after⟩ := ihFirst.pair ihRest endsAt_conjuncts same ends ends'
    exact ⟨rfl, after⟩
  | noConjunct =>
    rintro (_ | ⟨next', rest'⟩) following following' same ends ends'
    · exact ⟨rfl, same⟩
    · rw [show following = _ from same] at ends
      exact absurd (Symbol.endsAt_cons.mp ends) (by decide)
  | conjunct next rest ihNext ihRest =>
    rintro (_ | ⟨next', rest'⟩) following following' same ends ends'
    · rw [show following' = _ from same.symm] at ends'
      exact absurd (Symbol.endsAt_cons.mp ends') (by decide)
    · simp only [tokens, List.cons_append, List.append_assoc, List.cons.injEq, true_and] at same
      obtain ⟨⟨rfl, rfl⟩, after⟩ := ihNext.pair ihRest endsAt_conjuncts same ends ends'
      exact ⟨rfl, after⟩
  | alone side ih =>
    intro q following following' same ends ends'
    cases q with
    | alone side' =>
      obtain ⟨rfl, after⟩ := ih side' same (ends.mono (by decide)) (ends'.mono (by decide))
      exact ⟨rfl, after⟩
    | compared left' op' right' =>
      simp only [tokens, List.append_assoc, List.cons_append] at same
      obtain ⟨-, rfl⟩ := ih left' same (ends.mono (by decide)) (endsAt_comparison op' _)
      rw [Symbol.endsAt_cons, op'.looseness_token] at ends
      exact absurd ends (by decide)
  | compared left op right ihLeft ihRight =>
    intro q following following' same ends ends'
    cases q with
    | alone side' =>
      simp only [tokens, List.append_assoc, List.cons_append] at same
      obtain ⟨-, rfl⟩ := ihLeft side' same (endsAt_comparison op _) (ends'.mono (by decide))
      rw [Symbol.endsAt_cons, op.looseness_token] at ends'
      exact absurd ends' (by decide)
    | compared left' op' right' =>
      simp only [tokens, List.append_assoc, List.cons_append] at same
      obtain ⟨rfl, behind⟩ := ihLeft left' same (endsAt_comparison op _) (endsAt_comparison op' _)
      obtain ⟨sign, second⟩ := List.cons.inj behind
      obtain rfl := Comparison.token_inj sign
      obtain ⟨rfl, after⟩ := ihRight right' second (ends.mono (by decide)) (ends'.mono (by decide))
      exact ⟨rfl, after⟩
  | arithmetic first rest ihFirst ihRest =>
    rintro ⟨first', rest'⟩ following following' same ends ends'
    simp only [tokens, List.append_assoc] at same
    obtain ⟨⟨rfl, rfl⟩, after⟩ :=
      ihFirst.pair ihRest (fun _ _ _ => endsAt_primary _) same ends ends'
    exact ⟨rfl, after⟩
  | noRemainder =>
    intro q following following' same ends ends'
    cases q with
    | noRemainder => exact ⟨rfl, same⟩
    | remainder divisor' rest' =>
      rw [show following = _ from same] at ends
      exact absurd (Symbol.endsAt_cons.mp ends) (by decide)
  | remainder divisor rest ih =>
    intro q following following' same ends ends'
    cases q with
    | noRemainder =>
      rw [show following' = _ from same.symm] at ends'
      exact absurd (Symbol.endsAt_cons.mp ends') (by decide)
    | remainder divisor' rest' =>
      simp only [tokens, List.cons_append, List.cons.injEq, true_and, Token.integer.injEq] at same
      obtain ⟨rfl, behind⟩ := same
      obtain ⟨rfl, after⟩ := ih rest' behind ends ends'
      exact ⟨rfl, after⟩
  | year =>
    intro q following following' same _ _
    cases q <;> simp_all [tokens]
  | integer value =>
    intro q following following' same _ _
    cases q <;> simp_all [tokens]
  | boolean value =>
    intro q following following' same _ _
    cases q <;> simp_all [tokens]
  | parens inner ih =>
    intro q following following' same _ _
    cases q with
    | parens inner' =>
      simp only [tokens, List.cons_append, List.append_assoc, List.nil_append, List.cons.injEq,
        true_and] at same
      obtain ⟨rfl, after⟩ := ih inner' same (endsAt_closeParen _) (endsAt_closeParen _)
      exact ⟨rfl, (List.cons.inj after).2⟩
    | year => simp [tokens] at same
    | integer value => simp [tokens] at same
    | boolean value => simp [tokens] at same

theorem Phrase.tokens_inj {s : Symbol} {p q : Phrase s} (same : p.tokens = q.tokens) : p = q :=
  (p.determined q (congrArg (· ++ []) same) s.endsAt_nil s.endsAt_nil).1

end Holidays.LeapRule
