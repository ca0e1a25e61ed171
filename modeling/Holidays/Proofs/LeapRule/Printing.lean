import Holidays.Proofs.LeapRule.Parsing
import Holidays.Proofs.LeapRule.Tokens
import Mathlib.Data.List.Chain

namespace Holidays.LeapRule

def IntExpr.InBounds : IntExpr → Prop
  | .year => True
  | .literal value => value ≤ maxLiteral
  | .remainder dividend divisor => dividend.InBounds ∧ 1 ≤ divisor ∧ divisor ≤ maxLiteral

def BoolExpr.InBounds : BoolExpr → Prop
  | .literal _ => True
  | .compareInts _ left right => left.InBounds ∧ right.InBounds
  | .compareBools _ left right => left.InBounds ∧ right.InBounds
  | .and left right => left.InBounds ∧ right.InBounds
  | .or left right => left.InBounds ∧ right.InBounds

def Operand.InBounds : Operand → Prop
  | .int expr => expr.InBounds
  | .bool expr => expr.InBounds

def IntExpr.eval? (year : Int) : IntExpr → Option Int
  | .year => some year
  | .literal value => some value
  | .remainder dividend divisor =>
    if 0 < divisor then (dividend.eval? year).map fun n => n % divisor else none

/-- All parts are evaluated, also those that do not decide the value. -/
def BoolExpr.eval? (year : Int) : BoolExpr → Option Bool
  | .literal value => some value
  | .compareInts op left right => do return op.holds (← left.eval? year) (← right.eval? year)
  | .compareBools op left right => do return op.holds (← left.eval? year) (← right.eval? year)
  | .and left right => do return (← left.eval? year) && (← right.eval? year)
  | .or left right => do return (← left.eval? year) || (← right.eval? year)

theorem IntExpr.InBounds.eval? {e : IntExpr} (h : e.InBounds) (year : Int) :
    e.eval? year = some (e.eval year) := by
  induction e with
  | year => rfl
  | literal value => rfl
  | remainder dividend divisor ih =>
    obtain ⟨inner, positive, -⟩ := h
    simp only [IntExpr.eval?, if_pos (Nat.lt_of_succ_le positive), ih inner, Option.map_some, eval]

theorem BoolExpr.InBounds.eval? {e : BoolExpr} (h : e.InBounds) (year : Int) :
    e.eval? year = some (e.eval year) := by
  induction e with
  | literal value => rfl
  | compareInts op left right =>
    simp [BoolExpr.eval?, h.1.eval? year, h.2.eval? year, eval]
  | compareBools op left right ihLeft ihRight =>
    simp [BoolExpr.eval?, ihLeft h.1, ihRight h.2, eval]
  | and left right ihLeft ihRight | or left right ihLeft ihRight =>
    simp [BoolExpr.eval?, ihLeft h.1, ihRight h.2, eval]

def Symbol.Bounded : (s : Symbol) → s.Value → Prop
  | .disjunction, value | .conjunction, value | .comparison, value | .arithmetic, value
  | .primary, value => ∀ x, value = some x → x.InBounds
  | .disjuncts, value | .conjuncts, value | .remainders, value =>
    ∀ y x, y.InBounds → value y = some x → x.InBounds

theorem connect_inBounds {op : BoolExpr → BoolExpr → BoolExpr}
    (both : ∀ l r, l.InBounds → r.InBounds → (op l r).InBounds) {x y z : Operand}
    (hx : x.InBounds) (hy : y.InBounds) (h : connect op x y = some z) : z.InBounds := by
  cases x with
  | int => cases h
  | bool l =>
    cases y with
    | int => cases h
    | bool r =>
      cases h
      exact both l r hx hy

theorem compare_inBounds {op : Comparison} {x y z : Operand} (hx : x.InBounds) (hy : y.InBounds)
    (h : compare op x y = some z) : z.InBounds := by
  cases x <;> cases y <;> cases h <;> exact ⟨hx, hy⟩

theorem reduce_inBounds {divisor : Nat} (small : divisor ≤ maxLiteral) {x z : Operand}
    (hx : x.InBounds) (h : reduce divisor x = some z) : z.InBounds := by
  cases x with
  | bool => cases h
  | int dividend =>
    simp only [reduce] at h
    split at h
    · next positive =>
      cases h
      exact ⟨hx, positive, small⟩
    · cases h

theorem Phrase.bounded {s : Symbol} (p : Phrase s)
    (small : ∀ value, .integer value ∈ p.tokens → value ≤ maxLiteral) : s.Bounded p.value := by
  -- Signs and words drop out of the tokens, so the integers of each part are small too.
  induction p with
  | disjunction first rest ihFirst ihRest | conjunction first rest ihFirst ihRest
  | arithmetic first rest ihFirst ihRest =>
    simp only [tokens, List.mem_append] at small
    intro x means
    obtain ⟨left, front, back⟩ := Option.bind_eq_some_iff.mp means
    have inner := ihFirst (fun value held => small value (.inl held)) left front
    exact ihRest (fun value held => small value (.inr held)) left x inner back
  | noDisjunct | noConjunct | noRemainder =>
    intro y x inner means
    cases means
    exact inner
  | disjunct next rest ihNext ihRest | conjunct next rest ihNext ihRest =>
    simp only [tokens, List.mem_cons, List.mem_append, reduceCtorEq, false_or] at small
    intro y x inner means
    obtain ⟨right, second, means⟩ := Option.bind_eq_some_iff.mp means
    obtain ⟨both, joined, means⟩ := Option.bind_eq_some_iff.mp means
    have other := ihNext (fun value held => small value (.inl held)) right second
    have together : both.InBounds := connect_inBounds (fun _ _ => And.intro) inner other joined
    exact ihRest (fun value held => small value (.inr held)) both x together means
  | alone side ih => exact ih small
  | compared left op right ihLeft ihRight =>
    simp only [tokens, List.mem_append, List.mem_cons] at small
    intro x means
    obtain ⟨l, first, means⟩ := Option.bind_eq_some_iff.mp means
    obtain ⟨r, second, means⟩ := Option.bind_eq_some_iff.mp means
    exact compare_inBounds (ihLeft (fun value held => small value (.inl held)) l first)
      (ihRight (fun value held => small value (.inr (.inr held))) r second) means
  | remainder divisor rest ih =>
    simp only [tokens, List.mem_cons, reduceCtorEq, false_or, Token.integer.injEq] at small
    intro y x inner means
    obtain ⟨reduced, step, means⟩ := Option.bind_eq_some_iff.mp means
    have next := reduce_inBounds (small divisor (.inl rfl)) inner step
    exact ih (fun value held => small value (.inr held)) reduced x next means
  | year =>
    intro x means
    cases means
    trivial
  | integer value =>
    intro x means
    cases means
    exact small value List.mem_cons_self
  | boolean value =>
    intro x means
    cases means
    trivial
  | parens inner ih =>
    simp only [tokens, List.mem_cons, List.mem_append, reduceCtorEq, false_or] at small
    exact ih fun value held => small value (.inl held)

theorem Laid.small {column : Nat} {ts : List Placed} {cs : List Char} (h : Laid column ts cs) :
    ∀ value, .integer value ∈ ts.map Placed.token → value ≤ maxLiteral := by
  induction h with
  | done => simp
  | token _ spelled _ _ ih =>
    intro value held
    rcases List.mem_cons.mp held with rfl | later
    · exact spelled.2.2.2
    · exact ih value later

def enclose (atom : Bool) (ts : List Token) : List Token :=
  if atom then ts else .openParen :: (ts ++ [.closeParen])

namespace IntExpr

def isAtom : IntExpr → Bool
  | .year => true
  | .literal _ => true
  | .remainder _ _ => false

def tokens : IntExpr → List Token
  | .year => [.year]
  | .literal value => [.integer value]
  | .remainder dividend divisor =>
    enclose dividend.isAtom dividend.tokens ++ .percent :: [.integer divisor]

end IntExpr

namespace BoolExpr

def isAtom : BoolExpr → Bool
  | .literal _ => true
  | _ => false

def tokens : BoolExpr → List Token
  | .literal value => [.boolean value]
  | .compareInts op left right =>
    enclose left.isAtom left.tokens ++ op.token :: enclose right.isAtom right.tokens
  | .compareBools op left right =>
    enclose left.isAtom left.tokens ++ op.token :: enclose right.isAtom right.tokens
  | .and left right =>
    enclose left.isAtom left.tokens ++ .and :: enclose right.isAtom right.tokens
  | .or left right =>
    enclose left.isAtom left.tokens ++ .or :: enclose right.isAtom right.tokens

end BoolExpr

/-- The tokens are a formula that stands for an expression, or below a single operand of one. -/
def IsFormula (ts : List Token) (x : Operand) : Prop :=
  ∃ p : Phrase .disjunction, p.tokens = ts ∧ p.value = some x

def IsOperand (ts : List Token) (x : Operand) : Prop :=
  ∃ p : Phrase .primary, p.tokens = ts ∧ p.value = some x

def Phrase.whole (p : Phrase .comparison) : Phrase .disjunction :=
  .disjunction (.conjunction p .noConjunct) .noDisjunct

def Phrase.side (p : Phrase .primary) : Phrase .arithmetic := .arithmetic p .noRemainder

section

variable {ts us : List Token} {x y z : Operand}

theorem IsOperand.isFormula (h : IsOperand ts x) : IsFormula ts x := by
  obtain ⟨p, rfl, means⟩ := h
  refine ⟨Phrase.whole (.alone p.side), ?_, ?_⟩
  · simp [Phrase.whole, Phrase.side, Phrase.tokens]
  · simp [Phrase.whole, Phrase.side, Phrase.value, means]

theorem IsFormula.enclose {atom : Bool} (h : IsFormula ts x)
    (single : atom = true → IsOperand ts x) :
    IsOperand (enclose atom ts) x := by
  cases atom with
  | true => exact single rfl
  | false =>
    obtain ⟨p, rfl, means⟩ := h
    exact ⟨.parens p, rfl, means⟩

theorem IsOperand.remainder {dividend : IntExpr} {divisor : Nat} (h : IsOperand ts (.int dividend))
    (positive : 1 ≤ divisor) :
    IsFormula (ts ++ .percent :: [.integer divisor]) (.int (.remainder dividend divisor)) := by
  obtain ⟨p, rfl, means⟩ := h
  refine ⟨Phrase.whole (.alone (.arithmetic p (.remainder divisor .noRemainder))), ?_, ?_⟩
  · simp [Phrase.whole, Phrase.tokens]
  · simp [Phrase.whole, Phrase.value, means, reduce, Nat.lt_of_succ_le positive]

theorem IsOperand.compared {op : Comparison} (hx : IsOperand ts x) (hy : IsOperand us y)
    (typed : compare op x y = some z) : IsFormula (ts ++ op.token :: us) z := by
  obtain ⟨p, rfl, meansLeft⟩ := hx
  obtain ⟨q, rfl, meansRight⟩ := hy
  refine ⟨Phrase.whole (.compared p.side op q.side), ?_, ?_⟩
  · simp [Phrase.whole, Phrase.side, Phrase.tokens]
  · simp [Phrase.whole, Phrase.side, Phrase.value, meansLeft, meansRight, typed]

theorem IsOperand.and {left right : BoolExpr} (hl : IsOperand ts (.bool left))
    (hr : IsOperand us (.bool right)) : IsFormula (ts ++ .and :: us) (.bool (.and left right)) := by
  obtain ⟨p, rfl, meansLeft⟩ := hl
  obtain ⟨q, rfl, meansRight⟩ := hr
  refine ⟨.disjunction (.conjunction (.alone p.side) (.conjunct (.alone q.side) .noConjunct))
    .noDisjunct, ?_, ?_⟩
  · simp [Phrase.side, Phrase.tokens]
  · simp [Phrase.side, Phrase.value, meansLeft, meansRight, connect]

theorem IsOperand.or {left right : BoolExpr} (hl : IsOperand ts (.bool left))
    (hr : IsOperand us (.bool right)) : IsFormula (ts ++ .or :: us) (.bool (.or left right)) := by
  obtain ⟨p, rfl, meansLeft⟩ := hl
  obtain ⟨q, rfl, meansRight⟩ := hr
  refine ⟨.disjunction (.conjunction (.alone p.side) .noConjunct)
    (.disjunct (.conjunction (.alone q.side) .noConjunct) .noDisjunct), ?_, ?_⟩
  · simp [Phrase.side, Phrase.tokens]
  · simp [Phrase.side, Phrase.value, meansLeft, meansRight, connect]

end

theorem IntExpr.isOperand_of_isAtom {e : IntExpr} (atom : e.isAtom = true) :
    IsOperand e.tokens (.int e) := by
  cases e with
  | year => exact ⟨.year, rfl, rfl⟩
  | literal value => exact ⟨.integer value, rfl, rfl⟩
  | remainder => cases atom

theorem BoolExpr.isOperand_of_isAtom {e : BoolExpr} (atom : e.isAtom = true) :
    IsOperand e.tokens (.bool e) := by
  cases e with
  | literal value => exact ⟨.boolean value, rfl, rfl⟩
  | _ => cases atom

theorem IntExpr.InBounds.isFormula {e : IntExpr} (h : e.InBounds) :
    IsFormula e.tokens (.int e) := by
  induction e with
  | year => exact (isOperand_of_isAtom rfl).isFormula
  | literal value => exact (isOperand_of_isAtom rfl).isFormula
  | remainder dividend divisor ih =>
    obtain ⟨inner, positive, -⟩ := h
    exact ((ih inner).enclose isOperand_of_isAtom).remainder positive

theorem IntExpr.InBounds.isOperand {e : IntExpr} (h : e.InBounds) :
    IsOperand (enclose e.isAtom e.tokens) (.int e) := h.isFormula.enclose isOperand_of_isAtom

theorem BoolExpr.InBounds.isFormula {e : BoolExpr} (h : e.InBounds) :
    IsFormula e.tokens (.bool e) := by
  have operand {e : BoolExpr} (formula : IsFormula e.tokens (.bool e)) :
      IsOperand (enclose e.isAtom e.tokens) (.bool e) := formula.enclose isOperand_of_isAtom
  induction e with
  | literal value => exact (isOperand_of_isAtom rfl).isFormula
  | compareInts op left right => exact h.1.isOperand.compared h.2.isOperand rfl
  | compareBools op left right ihLeft ihRight =>
    exact (operand (ihLeft h.1)).compared (operand (ihRight h.2)) rfl
  | and left right ihLeft ihRight => exact (operand (ihLeft h.1)).and (operand (ihRight h.2))
  | or left right ihLeft ihRight => exact (operand (ihLeft h.1)).or (operand (ihRight h.2))

theorem IsFormula.parse {placed : List Placed} {e : BoolExpr}
    (h : IsFormula (placed.map Placed.token) (.bool e)) (endColumn : Nat) :
    parse endColumn placed = .ok e := by
  obtain ⟨p, spelled, means⟩ := h
  have reading : ∃ rest, rest.map Placed.token = [] ∧
      Reads endColumn .disjunction p.value placed rest :=
    reads_phrase p (by rw [spelled, List.append_nil]) Symbol.disjunction.endsAt_nil
  obtain ⟨rest, nothing, read⟩ := reading
  rw [Reads, means, List.map_eq_nil_iff.mp nothing] at read
  exact parse_eq_ok_iff.mpr read

namespace Token

def isRun : Token → Bool
  | .year => true
  | .integer _ => true
  | .boolean _ => true
  | _ => false

theorem isWordChar_of_takes {token : Token} {c : Char} (h : token.takes c = true) :
    isWordChar c = true ∧ token.isRun = true := by
  cases token with
  | integer value => exact ⟨isWordChar_of_isDigit h, rfl⟩
  | year => exact ⟨h, rfl⟩
  | boolean value => exact ⟨h, rfl⟩
  | _ => cases h

theorem not_isWordChar_of_sign {token : Token} {c : Char} {cs : List Char}
    (spelled : token.SpelledBy (c :: cs)) (sign : token.isRun = false) : isWordChar c = false := by
  cases token with
  | year | integer | boolean => cases sign
  | _ =>
    obtain ⟨rfl, -⟩ := List.cons.inj spelled
    decide

end Token

/-- No two runs stand side by side, where they could read as one. -/
def Apart (ts : List Token) : Prop :=
  ts.IsChain fun t u => t.isRun = false ∨ u.isRun = false

theorem Apart.join {ts us : List Token} {sign : Token} (ht : Apart ts) (hu : Apart us)
    (apart : sign.isRun = false) : Apart (ts ++ sign :: us) := by
  rw [Apart, List.isChain_append, List.isChain_cons]
  refine ⟨ht, ⟨fun _ _ => .inl apart, hu⟩, ?_⟩
  intro t _ u first
  cases first
  exact .inr apart

theorem Apart.enclose {ts : List Token} (h : Apart ts) (atom : Bool) : Apart (enclose atom ts) := by
  cases atom with
  | true => exact h
  | false =>
    have nothing : Apart [] := List.IsChain.nil
    exact nothing.join (h.join nothing rfl) rfl

theorem Apart.single (token : Token) : Apart [token] := List.IsChain.singleton token

theorem IntExpr.apart_tokens (e : IntExpr) : Apart e.tokens := by
  induction e with
  | year => exact .single _
  | literal value => exact .single _
  | remainder dividend divisor ih => exact (ih.enclose _).join (.single _) rfl

theorem BoolExpr.apart_tokens (e : BoolExpr) : Apart e.tokens := by
  have sign (op : Comparison) : op.token.isRun = false := by cases op <;> rfl
  induction e with
  | literal value => exact .single _
  | compareInts op left right =>
    exact (left.apart_tokens.enclose _).join (right.apart_tokens.enclose _) (sign op)
  | compareBools op left right ihLeft ihRight =>
    exact (ihLeft.enclose _).join (ihRight.enclose _) (sign op)
  | and left right ihLeft ihRight => exact (ihLeft.enclose _).join (ihRight.enclose _) rfl
  | or left right ihLeft ihRight => exact (ihLeft.enclose _).join (ihRight.enclose _) rfl

/-- The tokens written in order, with any blanks around them or none. -/
inductive Spaced : List Token → List Char → Prop where
  | done {blanks : List Char} (spaces : ∀ c ∈ blanks, Text.isSpace c = true) : Spaced [] blanks
  | token {token : Token} {ts : List Token} {blanks cs rest : List Char}
      (spaces : ∀ c ∈ blanks, Text.isSpace c = true) (spelled : token.SpelledBy cs)
      (more : Spaced ts rest) : Spaced (token :: ts) (blanks ++ (cs ++ rest))

theorem Spaced.starts {ts : List Token} {cs : List Char} (h : Spaced ts cs) :
    ∀ c ∈ cs.head?, Text.isSpace c = true ∨
      ∃ token ∈ ts.head?, ∃ more, token.SpelledBy (c :: more) := by
  intro c first
  cases h with
  | done spaces => exact .inl (spaces c (List.mem_of_mem_head? first))
  | @token token _ blanks _ _ spaces spelled more =>
    cases blanks with
    | cons d blanks =>
      cases first
      exact .inl (spaces c List.mem_cons_self)
    | nil =>
      obtain ⟨d, rest, rfl, -⟩ := spelled.exists_cons
      cases first
      exact .inr ⟨token, rfl, rest, spelled⟩

/-- Where no two runs stand side by side every token ends where its spelling does. -/
theorem Spaced.laid {ts : List Token} {cs : List Char} (h : Spaced ts cs) (apart : Apart ts)
    (column : Nat) : ∃ placed, placed.map Placed.token = ts ∧ Laid column placed cs := by
  induction h generalizing column with
  | done spaces => exact ⟨[], rfl, .done spaces⟩
  | @token token ts blanks cs rest spaces spelled more ih =>
    obtain ⟨next, others⟩ := List.isChain_cons.mp apart
    -- A character that would lengthen the token is no blank, and no next token starts with it.
    have ends : ∀ c ∈ rest.head?, token.takes c = false := by
      intro c first
      cases taken : token.takes c with
      | false => rfl
      | true =>
        obtain ⟨word, run⟩ := Token.isWordChar_of_takes taken
        rcases more.starts c first with space | ⟨token', held, tail, spelled'⟩
        · rw [not_isSpace_of_isWordChar word] at space
          cases space
        · have sign : token'.isRun = false := by
            rcases next token' held with noRun | sign
            · rw [run] at noRun
              cases noRun
            · exact sign
          rw [Token.not_isWordChar_of_sign spelled' sign] at word
          cases word
    obtain ⟨placed, rfl, laid⟩ := ih others (column + blanks.length + cs.length)
    exact ⟨⟨token, column + blanks.length⟩ :: placed, rfl, .token spaces spelled ends laid⟩

theorem mem_enclose {value : Nat} {atom : Bool} {ts : List Token} :
    .integer value ∈ enclose atom ts ↔ .integer value ∈ ts := by
  cases atom <;> simp [enclose]

theorem IntExpr.InBounds.small {e : IntExpr} (h : e.InBounds) :
    ∀ value, .integer value ∈ e.tokens → value ≤ maxLiteral := by
  induction e with
  | year => simp [tokens]
  | literal value =>
    intro value' held
    cases List.mem_singleton.mp held
    exact h
  | remainder dividend divisor ih =>
    obtain ⟨inner, -, fits⟩ := h
    intro value held
    rcases List.mem_append.mp held with before | behind
    · exact ih inner value (mem_enclose.mp before)
    · rcases List.mem_pair.mp behind with sign | last
      · cases sign
      · cases last
        exact fits

theorem BoolExpr.InBounds.small {e : BoolExpr} (h : e.InBounds) :
    ∀ value, .integer value ∈ e.tokens → value ≤ maxLiteral := by
  have sign (op : Comparison) (value : Nat) : Token.integer value ≠ op.token := by
    cases op <;> simp [Comparison.token]
  induction e with
  | literal value => simp [tokens]
  | compareInts op left right =>
    intro value
    simp only [tokens, List.mem_append, List.mem_cons, mem_enclose, sign, false_or]
    exact fun held => held.elim (h.1.small value) (h.2.small value)
  | compareBools op left right ihLeft ihRight =>
    intro value
    simp only [tokens, List.mem_append, List.mem_cons, mem_enclose, sign, false_or]
    exact fun held => held.elim (ihLeft h.1 value) (ihRight h.2 value)
  | and left right ihLeft ihRight | or left right ihLeft ihRight =>
    intro value
    simp only [tokens, List.mem_append, List.mem_cons, mem_enclose, reduceCtorEq, false_or]
    exact fun held => held.elim (ihLeft h.1 value) (ihRight h.2 value)

theorem Token.spelledBy_spelling {token : Token}
    (small : ∀ value, token = .integer value → value ≤ maxLiteral) :
    token.SpelledBy token.spelling := by
  cases token with
  | integer value =>
    refine ⟨?_, ?_, Nat.ofDigitChars_ten_toDigits, small value rfl⟩
    · exact List.ne_nil_of_length_pos Nat.length_toDigits_pos
    · intro c held
      exact Nat.isDigit_of_mem_toDigits (by omega) (by omega) held
  | boolean value => cases value <;> rfl
  | _ => rfl

theorem spaced_spellings {ts : List Token}
    (small : ∀ value, .integer value ∈ ts → value ≤ maxLiteral) :
    Spaced ts (ts.flatMap Token.spelling) := by
  have noBlanks : ∀ c ∈ ([] : List Char), Text.isSpace c = true := by simp
  induction ts with
  | nil => exact .done noBlanks
  | cons token ts ih =>
    have first : token.SpelledBy token.spelling := by
      apply Token.spelledBy_spelling
      rintro value rfl
      exact small value List.mem_cons_self
    have others := ih fun value held => small value (List.mem_cons_of_mem token held)
    exact .token noBlanks first others

def BoolExpr.print (e : BoolExpr) : String := String.ofList (e.tokens.flatMap Token.spelling)

/-- What is compiled is within bounds, so that it has a value in every year without a remainder by
zero. A condition within bounds is printed, and whatever blanks stand between its tokens the text
is compiled to the condition. -/
theorem compile_printed :
    (∀ source rule, LeapRule.compile source = .ok rule → rule.condition.InBounds ∧
      ∀ year, rule.condition.eval? year = some (rule.isLeap year)) ∧
    ∀ e : BoolExpr, e.InBounds → Spaced e.tokens e.print.toList ∧
      ∀ source : String, Spaced e.tokens source.toList →
        LeapRule.compile source = .ok ⟨source, e⟩ := by
  constructor
  · intro source rule accepted
    unfold LeapRule.compile at accepted
    split at accepted
    · cases accepted
    · next ts tokenized =>
      cases parsed : parse (source.length + 1) ts with
      | error fault =>
        rw [parsed] at accepted
        cases accepted
      | ok condition =>
        rw [parsed] at accepted
        cases accepted
        obtain ⟨p, spelled, means⟩ := derives_disjunction (parse_eq_ok_iff.mp parsed)
        have small : ∀ value, .integer value ∈ p.tokens → value ≤ maxLiteral := by
          intro value held
          apply (tokensFrom_eq_ok_iff.mp tokenized).small
          rw [spelled]
          exact List.mem_append_left _ held
        have bounded : condition.InBounds := p.bounded small _ means
        exact ⟨bounded, bounded.eval?⟩
  · intro e bounded
    constructor
    · rw [BoolExpr.print, String.toList_ofList]
      exact spaced_spellings bounded.small
    · intro source spaced
      obtain ⟨ts, named, laid⟩ := spaced.laid e.apart_tokens 1
      have formula : IsFormula (ts.map Placed.token) (.bool e) := named ▸ bounded.isFormula
      rw [LeapRule.compile, tokenize, tokensFrom_eq_ok_iff.mpr laid]
      simp only [formula.parse]
      rfl

def nested : BoolExpr :=
  .and (.compareInts .equal (.remainder (.remainder .year 400) 4) (.literal 0)) (.literal true)

/-- Parentheses around the operands leave no trace. -/
theorem compile_printed_nested :
    nested.print = "(((year%400)%4)==0)&&true" ∧
    LeapRule.compile "(((year%400)%4)==0)&&true" =
      .ok ⟨"(((year%400)%4)==0)&&true", nested⟩ ∧
    nested.eval? 2000 = some true := by
  have bounded : nested.InBounds := by
    simp [nested, BoolExpr.InBounds, IntExpr.InBounds, maxLiteral]
  obtain ⟨image, printed⟩ := compile_printed
  obtain ⟨spaced, compiled⟩ := printed nested bounded
  have text : nested.print = "(((year%400)%4)==0)&&true" := by decide
  have accepted := compiled _ spaced
  rw [text] at accepted
  obtain ⟨-, valued⟩ := image _ _ accepted
  exact ⟨text, accepted, valued 2000⟩

end Holidays.LeapRule
