import Holidays.Proofs.LeapRule.Printing
import Holidays.Proofs.LeapRule.Readings

/-!
What becomes of a reader on some tokens, whichever others may follow them: it fails for good, it
stops, or the tokens begin a phrase. Where they do neither, types clash in them at a place that the
parser passes over: it looks at the left operand of a sign only when it has read the right one.
-/
namespace Holidays.LeapRule

/-- Some phrase of the tokens stands for the operand, by what the phrases of its symbol mean. -/
def Means {s : Symbol} (value : Phrase s → Option Operand) (ts : List Token) (x : Operand) : Prop :=
  ∃ p : Phrase s, p.tokens = ts ∧ value p = some x

def Spellable (ts : List Token) : Prop := ∀ value, .integer value ∈ ts → value ≤ maxLiteral

/-- The tokens go on to a phrase of the type. -/
def Begins (means : List Token → Operand → Prop) (ts : List Token) (type : ValueType) : Prop :=
  ∃ more x, Spellable more ∧ means (ts ++ more) x ∧ x.type = type

/-- Tokens in which a sign has got an operand that it cannot take. -/
inductive Clash : List Token → Prop where
  | connective {before left part : List Token} {expr : IntExpr} {sign : Token}
      (opens : ∀ token ∈ before.getLast?, token = .openParen ∨ token = .and ∨ token = .or)
      (integer : Means (@Phrase.value .arithmetic) left (.int expr))
      (connects : sign = .and ∨ sign = .or) : Clash (before ++ (left ++ sign :: part))
  /-- What stands behind `==` or `!=` has begun as an operand of one type, and can be none of the
  type before the sign. -/
  | comparison {before left part : List Token} {x : Operand} {op : Comparison} {type : ValueType}
      (known : Means (@Phrase.value .arithmetic) left x)
      (begun : Begins (Means (@Phrase.value .arithmetic)) part type)
      (never : ¬ Begins (Means (@Phrase.value .arithmetic)) part x.type) :
      Clash (before ++ (left ++ op.token :: part))

theorem Clash.behind {ts : List Token} {sign : Token} (h : Clash ts)
    (opens : sign = .openParen ∨ sign = .and ∨ sign = .or) (before : List Token) :
    Clash (before ++ sign :: ts) := by
  cases h with
  | @connective inner left part expr op innerOpens integer connects =>
    have longer : before ++ sign :: (inner ++ (left ++ op :: part)) =
        (before ++ sign :: inner) ++ (left ++ op :: part) := by simp
    rw [longer]
    refine .connective ?_ integer connects
    intro token last
    cases inner with
    | nil =>
      rw [List.getLast?_concat] at last
      cases last
      exact opens
    | cons first inner =>
      rw [List.getLast?_append_of_ne_nil _ (List.cons_ne_nil _ _), List.getLast?_cons_cons] at last
      exact innerOpens token last
  | @comparison inner left part x op type known begun never =>
    have longer : before ++ sign :: (inner ++ (left ++ op.token :: part)) =
        (before ++ sign :: inner) ++ (left ++ op.token :: part) := by simp
    rw [longer]
    exact .comparison known begun never

def EnclosedClash (ts : List Token) : Prop := ∃ inner, ts = .openParen :: inner ∧ Clash inner

def ClashAfter (sign : Token) (y : Operand) (ts : List Token) : Prop :=
  (y.type = .integer ∧ ∃ part, ts = sign :: part) ∨
    ∃ before after, ts = before ++ sign :: after ∧ Clash after

theorem EnclosedClash.clash {ts : List Token} (h : EnclosedClash ts) (before : List Token) :
    Clash (before ++ ts) := by
  obtain ⟨inner, rfl, clash⟩ := h
  exact clash.behind (.inl rfl) before

theorem ClashAfter.clash {sign : Token} {ts us : List Token} {x : Operand}
    (connects : sign = .and ∨ sign = .or) (h : ClashAfter sign x us)
    (arithmetic : ∀ expr, x = .int expr → Means (@Phrase.value .arithmetic) ts x) :
    Clash (ts ++ us) := by
  rcases h with ⟨integer, part, rfl⟩ | ⟨before, after, rfl, clash⟩
  · cases x with
    | bool => cases integer
    | int expr => exact @Clash.connective [] _ _ _ _ (by simp) (arithmetic expr rfl) connects
  · rw [← List.append_assoc]
    exact clash.behind (.inr connects) _

abbrev Reader := Nat → List Placed → Reading

/-- What becomes of a reader on some tokens, whichever others may follow. -/
inductive Outlook (read : Reader) (means : List Token → Operand → Prop)
    (clash : List Token → Prop) (ts : List Placed) : Prop where
  | fails (fault : Fault) (inside : ∃ t ∈ ts, t.column = fault.column)
      (always : ∀ endColumn more, read endColumn (ts ++ more) = .error fault)
  | stops (front rest : List Placed) (x : Operand) (split : ts = front ++ rest)
      (meant : means (front.map Placed.token) x)
      (always : ∀ endColumn more, read endColumn (ts ++ more) = .ok (x, rest ++ more))
  | begins (type : ValueType) (begun : Begins means (ts.map Placed.token) type)
  | clashes (found : clash (ts.map Placed.token))

section

variable {read first item after : Reader} {chain : Operand → Reader}
  {means meansFirst meansItem meansAfter : List Token → Operand → Prop}
  {meansChain : Operand → List Token → Operand → Prop}
  {clash clashFirst clashAfter : List Token → Prop} {clashChain : Operand → List Token → Prop}
  {front rest ts : List Placed}

theorem begins_self {us : List Token} {x : Operand} (h : means us x) : Begins means us x.type :=
  ⟨[], x, by simp [Spellable], by rwa [List.append_nil], rfl⟩

theorem Spellable.append {us vs : List Token} (hu : Spellable us) (hv : Spellable vs) :
    Spellable (us ++ vs) := fun value held =>
  (List.mem_append.mp held).elim (hu value) (hv value)

theorem Outlook.behind
    (goes : ∀ endColumn more,
      read endColumn (front ++ rest ++ more) = after endColumn (rest ++ more))
    (lift : ∀ us x, meansAfter us x → means (front.map Placed.token ++ us) x)
    (late : ∀ us, clashAfter us → clash (front.map Placed.token ++ us))
    (h : Outlook after meansAfter clashAfter rest) : Outlook read means clash (front ++ rest) := by
  cases h with
  | fails fault inside always =>
    obtain ⟨t, held, here⟩ := inside
    exact .fails fault ⟨t, List.mem_append_right front held, here⟩ fun endColumn more =>
      (goes endColumn more).trans (always endColumn more)
  | stops front' rest' x split meant always =>
    subst split
    refine .stops (front ++ front') rest' x (List.append_assoc ..).symm ?_ fun endColumn more =>
      (goes endColumn more).trans (always endColumn more)
    rw [List.map_append]
    exact lift _ x meant
  | begins type begun =>
    obtain ⟨more, x, small, meant, typed⟩ := begun
    refine .begins type ⟨more, x, small, ?_, typed⟩
    rw [List.map_append, List.append_assoc]
    exact lift _ x meant
  | clashes found =>
    apply Outlook.clashes
    rw [List.map_append]
    exact late _ found

theorem Outlook.inTurn
    (reads : ∀ endColumn ts, read endColumn ts =
      (first endColumn ts).bind fun (x, mid) => chain x endColumn mid)
    (pairs : ∀ us vs x y, meansFirst us x → meansChain x vs y → means (us ++ vs) y)
    (opens : ∀ x, Begins (meansChain x) [] x.type)
    (early : ∀ us, clashFirst us → clash us)
    (late : ∀ us vs x, meansFirst us x → clashChain x vs → clash (us ++ vs))
    (h : Outlook first meansFirst clashFirst ts)
    (goesOn : ∀ x rest, rest.length ≤ ts.length →
      Outlook (chain x) (meansChain x) (clashChain x) rest) :
    Outlook read means clash ts := by
  cases h with
  | fails fault inside always =>
    refine .fails fault inside fun endColumn more => ?_
    rw [reads, always]
    rfl
  | begins type begun =>
    obtain ⟨more, x, small, meant, typed⟩ := begun
    obtain ⟨more', y, small', meant', same⟩ := opens x
    refine .begins type ⟨more ++ more', y, small.append small', ?_, same.trans typed⟩
    rw [← List.append_assoc]
    exact pairs _ _ x y meant meant'
  | clashes found => exact .clashes (early _ found)
  | stops front rest x split meant always =>
    subst split
    refine .behind ?_ (fun us y => pairs _ us x y meant) (fun us => late _ us x meant)
      (goesOn x rest (by simp))
    intro endColumn more
    rw [reads, always]
    rfl

theorem Outlook.connected {sign : Token} {op : BoolExpr → BoolExpr → BoolExpr} {y : Operand}
    (ended : ∀ endColumn x ts, (∀ placed ∈ ts.head?, placed.token ≠ sign) →
      chain x endColumn ts = .ok (x, ts))
    (reads : ∀ endColumn x column rest, chain x endColumn (⟨sign, column⟩ :: rest) =
      (item endColumn rest).bind fun (next, mid) =>
        (bothBool column x next).bind fun (l, r) => chain (.bool (op l r)) endColumn mid)
    (none : ∀ x, meansChain x [] x)
    (link : ∀ us vs l r x, meansItem us (.bool r) → meansChain (.bool (op l r)) vs x →
      meansChain (.bool l) (sign :: (us ++ vs)) x)
    (boolean : ∀ us type, Begins meansItem us type → Begins meansItem us .boolean)
    (items : ∀ rest, rest.length < ts.length → Outlook item meansItem Clash rest)
    (goesOn : ∀ x rest, rest.length < ts.length →
      Outlook (chain x) (meansChain x) (ClashAfter sign x) rest) :
    Outlook (chain y) (meansChain y) (ClashAfter sign y) ts := by
  obtain _ | ⟨⟨token, column⟩, rest⟩ := ts
  · exact .begins y.type (begins_self (none y))
  by_cases same : token = sign
  case neg =>
    refine .stops [] _ y rfl (none y) fun endColumn more => ?_
    exact ended endColumn y _ (by simpa using same)
  subst same
  have goes (endColumn : Nat) (more : List Placed) : chain y endColumn
      (⟨token, column⟩ :: rest ++ more) = (item endColumn (rest ++ more)).bind fun (next, mid) =>
        (bothBool column y next).bind fun (l, r) => chain (.bool (op l r)) endColumn mid :=
    reads endColumn y column (rest ++ more)
  cases items rest (Nat.lt_succ_self _) with
  | fails fault inside always =>
    obtain ⟨t, held, here⟩ := inside
    refine .fails fault ⟨t, List.mem_cons_of_mem _ held, here⟩ fun endColumn more => ?_
    rw [goes, always]
    rfl
  | clashes found => exact .clashes (.inr ⟨[], _, rfl, found⟩)
  | begins type begun =>
    cases y with
    | int expr => exact .clashes (.inl ⟨rfl, _, rfl⟩)
    | bool l =>
      obtain ⟨more, next, small, meant, typed⟩ := boolean _ type begun
      cases next with
      | int => cases typed
      | bool r =>
        refine .begins .boolean ⟨more, .bool (op l r), small, ?_, rfl⟩
        have linked := link _ [] l r _ meant (none _)
        rwa [List.append_nil] at linked
  | stops front mid next split meant always =>
    subst split
    -- The parser looks at the types now that it has read both operands.
    by_cases typed : y.type = .boolean ∧ next.type = .boolean
    case neg =>
      refine .fails ⟨.typeMismatch .boolean .integer, column⟩ ⟨_, List.mem_cons_self, rfl⟩
        fun endColumn more => ?_
      rw [goes, always]
      cases y <;> cases next <;> first | rfl | exact absurd ⟨rfl, rfl⟩ typed
    case pos =>
      obtain ⟨typedLeft, typedRight⟩ := typed
      cases y with
      | int => cases typedLeft
      | bool l =>
        cases next with
        | int => cases typedRight
        | bool r =>
          have shorter : mid.length < (⟨token, column⟩ :: (front ++ mid) : List Placed).length := by
            rw [List.length_cons, List.length_append]
            omega
          rw [← List.cons_append]
          refine Outlook.behind ?_ (fun us x => link _ us l r x meant) ?_
            (goesOn (.bool (op l r)) mid shorter)
          · intro endColumn more
            rw [List.cons_append, goes, always]
            rfl
          · rintro us (⟨integer, -⟩ | ⟨before, after, rfl, clash⟩)
            · cases integer
            · exact .inr ⟨token :: (front.map Placed.token ++ before), after, by simp, clash⟩

end

theorem connect_eq_some {op : BoolExpr → BoolExpr → BoolExpr} {x y z : Operand}
    (h : connect op x y = some z) : ∃ l r, x = .bool l ∧ y = .bool r ∧ z = .bool (op l r) := by
  cases x with
  | int => cases h
  | bool l =>
    cases y with
    | int => cases h
    | bool r =>
      cases h
      exact ⟨l, r, rfl, rfl, rfl⟩

theorem compare_eq_some_iff {op : Comparison} {x y : Operand} :
    (∃ z, compare op x y = some z) ↔ x.type = y.type := by
  cases x <;> cases y <;> simp [compare, Operand.type]

theorem type_of_compare {op : Comparison} {x y z : Operand} (h : compare op x y = some z) :
    z.type = .boolean := by
  cases x <;> cases y <;> cases h <;> rfl

/-- A chain of connectives that stands for an integer has none. -/
theorem conjuncts_integer : ∀ (rest : Phrase .conjuncts) {y : Operand} {expr : IntExpr},
    rest.value y = some (.int expr) → rest = .noConjunct ∧ y = .int expr
  | .noConjunct, _, _, h => ⟨rfl, Option.some.inj h⟩
  | .conjunct next rest, y, expr, h => by
    obtain ⟨right, -, h⟩ := Option.bind_eq_some_iff.mp h
    obtain ⟨both, joined, h⟩ := Option.bind_eq_some_iff.mp h
    obtain ⟨l, r, -, -, rfl⟩ := connect_eq_some joined
    cases (conjuncts_integer rest h).2

theorem disjuncts_integer : ∀ (rest : Phrase .disjuncts) {y : Operand} {expr : IntExpr},
    rest.value y = some (.int expr) → rest = .noDisjunct ∧ y = .int expr
  | .noDisjunct, _, _, h => ⟨rfl, Option.some.inj h⟩
  | .disjunct next rest, y, expr, h => by
    obtain ⟨right, -, h⟩ := Option.bind_eq_some_iff.mp h
    obtain ⟨both, joined, h⟩ := Option.bind_eq_some_iff.mp h
    obtain ⟨l, r, -, -, rfl⟩ := connect_eq_some joined
    cases (disjuncts_integer rest h).2

section

variable {us : List Token} {expr : IntExpr}

theorem arithmetic_of_comparison (h : Means (@Phrase.value .comparison) us (.int expr)) :
    Means (@Phrase.value .arithmetic) us (.int expr) := by
  obtain ⟨p, spelled, value⟩ := h
  cases p with
  | alone side => exact ⟨side, spelled, value⟩
  | compared left op right =>
    obtain ⟨x, -, h⟩ := Option.bind_eq_some_iff.mp value
    obtain ⟨y, -, h⟩ := Option.bind_eq_some_iff.mp h
    cases type_of_compare h

theorem arithmetic_of_conjunction (h : Means (@Phrase.value .conjunction) us (.int expr)) :
    Means (@Phrase.value .arithmetic) us (.int expr) := by
  obtain ⟨p, rfl, value⟩ := h
  cases p with
  | conjunction first rest =>
    obtain ⟨x, known, h⟩ := Option.bind_eq_some_iff.mp value
    obtain ⟨rfl, rfl⟩ := conjuncts_integer rest h
    exact arithmetic_of_comparison ⟨first, (List.append_nil _).symm, known⟩

theorem arithmetic_of_disjunction (h : Means (@Phrase.value .disjunction) us (.int expr)) :
    Means (@Phrase.value .arithmetic) us (.int expr) := by
  obtain ⟨p, rfl, value⟩ := h
  cases p with
  | disjunction first rest =>
    obtain ⟨x, known, h⟩ := Option.bind_eq_some_iff.mp value
    obtain ⟨rfl, rfl⟩ := disjuncts_integer rest h
    exact arithmetic_of_conjunction ⟨first, (List.append_nil _).symm, known⟩

end

theorem conjunction_of_comparison {us : List Token} {x : Operand}
    (h : Means (@Phrase.value .comparison) us x) : Means (@Phrase.value .conjunction) us x := by
  obtain ⟨p, rfl, value⟩ := h
  refine ⟨.conjunction p .noConjunct, List.append_nil _, ?_⟩
  simp [Phrase.value, value]

theorem disjunction_of_conjunction {us : List Token} {x : Operand}
    (h : Means (@Phrase.value .conjunction) us x) : Means (@Phrase.value .disjunction) us x := by
  obtain ⟨p, rfl, value⟩ := h
  refine ⟨.disjunction p .noDisjunct, List.append_nil _, ?_⟩
  simp [Phrase.value, value]

theorem spellable_one : Spellable [.equal, .integer 1] := by
  simp [Spellable, maxLiteral]

/-- An integer that has begun can still be compared, where a comparison can stand. -/
theorem Begins.boolean {means : List Token → Operand → Prop} {us : List Token} {type : ValueType}
    (arithmetic : ∀ us expr, means us (.int expr) →
      Means (@Phrase.value .arithmetic) us (.int expr))
    (compared : ∀ us x, Means (@Phrase.value .comparison) us x → means us x)
    (h : Begins means us type) : Begins means us .boolean := by
  obtain ⟨more, x, small, meant, rfl⟩ := h
  cases x with
  | bool condition => exact ⟨more, _, small, meant, rfl⟩
  | int expr =>
    obtain ⟨p, spelled, value⟩ := arithmetic _ _ meant
    refine ⟨more ++ [.equal, .integer 1], .bool (.compareInts .equal expr (.literal 1)),
      small.append spellable_one, compared _ _ ?_, rfl⟩
    refine ⟨.compared p .equal (Phrase.side (.integer 1)), ?_, ?_⟩
    · simp [Phrase.tokens, Phrase.side, spelled, Comparison.token]
    · simp [Phrase.value, Phrase.side, value, compare]

theorem outlook_remainders (y : Operand) (ts : List Placed) :
    Outlook (fun endColumn ts => reading (remainders endColumn y ts))
      (Means fun p : Phrase .remainders => p.value y) (fun _ => False) ts := by
  obtain _ | ⟨⟨token, column⟩, rest⟩ := ts
  · exact .begins y.type (begins_self ⟨.noRemainder, rfl, rfl⟩)
  by_cases same : token = .percent
  case neg =>
    exact .stops [] _ y rfl ⟨.noRemainder, rfl, rfl⟩ fun _ _ =>
      reading_remainders_end (by simpa using same)
  subst same
  cases y with
  | bool left =>
    exact .fails ⟨.typeMismatch .integer .boolean, column⟩ ⟨_, List.mem_cons_self, rfl⟩
      fun _ _ => reading_remainders_bool
  | int dividend =>
    obtain _ | ⟨⟨token, place⟩, after⟩ := rest
    · refine .begins .integer ⟨[.integer 1], .int (.remainder dividend 1), ?_, ?_, rfl⟩
      · simp [Spellable, maxLiteral]
      · exact ⟨.remainder 1 .noRemainder, rfl, rfl⟩
    · by_cases literal : ∃ divisor, token = .integer (divisor + 1)
      case neg =>
        refine .fails ⟨.invalidModulus, place⟩
          ⟨_, List.mem_cons_of_mem _ List.mem_cons_self, rfl⟩ fun endColumn more => ?_
        have refused := @divisorNext_other endColumn (after ++ more) token place
          fun divisor same => literal ⟨divisor, same⟩
        simp only [List.cons_append, reading_remainders_int, refused]
        rfl
      case pos =>
        obtain ⟨divisor, rfl⟩ := literal
        change Outlook _ _ _ ([⟨.percent, column⟩, ⟨.integer (divisor + 1), place⟩] ++ after)
        refine .behind ?_ ?_ ?_
          (outlook_remainders (.int (.remainder dividend (divisor + 1))) after)
        · intro endColumn more
          exact reading_remainders_int
        · rintro us x ⟨p, rfl, value⟩
          exact ⟨.remainder (divisor + 1) p, rfl, by simp [Phrase.value, reduce, value]⟩
        · exact fun _ h => h
termination_by ts.length

theorem outlook_closed (x : Operand) (ts : List Placed) :
    Outlook (fun endColumn ts => closedNext endColumn x ts)
      (fun us y => us = [.closeParen] ∧ y = x) (fun _ => False) ts := by
  obtain _ | ⟨⟨token, column⟩, rest⟩ := ts
  · exact .begins x.type ⟨[.closeParen], x, by simp [Spellable], ⟨rfl, rfl⟩, rfl⟩
  by_cases same : token = .closeParen
  · subst same
    exact .stops [_] rest x rfl ⟨rfl, rfl⟩ fun _ _ => rfl
  · exact .fails ⟨.unclosedParenthesis, column⟩ ⟨_, List.mem_cons_self, rfl⟩
      fun _ _ => if_neg same

def MeansCompared (x : Operand) (us : List Token) (y : Operand) : Prop :=
  (us = [] ∧ y = x) ∨ ∃ (op : Comparison) (vs : List Token) (z : Operand),
    us = op.token :: vs ∧ Means (@Phrase.value .arithmetic) vs z ∧ compare op x z = some y

def ClashCompared (x : Operand) (us : List Token) : Prop :=
  ∃ (op : Comparison) (part : List Token), us = op.token :: part ∧
    (EnclosedClash part ∨ ∃ type, Begins (Means (@Phrase.value .arithmetic)) part type ∧
      ¬ Begins (Means (@Phrase.value .arithmetic)) part x.type)

theorem ClashCompared.clash {us vs : List Token} {x : Operand} (h : ClashCompared x vs)
    (known : Means (@Phrase.value .arithmetic) us x) : Clash (us ++ vs) := by
  obtain ⟨op, part, rfl, enclosed | ⟨type, begun, never⟩⟩ := h
  · have clash := enclosed.clash (us ++ [op.token])
    rwa [List.append_assoc] at clash
  · exact @Clash.comparison [] _ _ _ op _ known begun never

theorem outlook_compared (x : Operand) (ts : List Placed)
    (sides : ∀ rest, rest.length < ts.length →
      Outlook (fun endColumn ts => reading (arithmetic endColumn ts))
        (Means (@Phrase.value .arithmetic)) EnclosedClash rest) :
    Outlook (fun endColumn ts => comparedNext endColumn x ts) (MeansCompared x) (ClashCompared x)
      ts := by
  obtain _ | ⟨⟨token, column⟩, rest⟩ := ts
  · exact .begins x.type (begins_self (.inl ⟨rfl, rfl⟩))
  cases compares : comparisonOf? token with
  | none =>
    exact .stops [] _ x rfl (.inl ⟨rfl, rfl⟩) fun _ _ => comparedNext_none compares
  | some op =>
    obtain rfl := comparisonOf?_eq_some_iff.mp compares
    have goes (endColumn : Nat) (more : List Placed) :
        comparedNext endColumn x (⟨op.token, column⟩ :: rest ++ more) =
          (reading (arithmetic endColumn (rest ++ more))).bind fun (right, after) =>
            (compareOperands op column x right).bind fun both => .ok (both, after) :=
      comparedNext_some compares
    cases sides rest (Nat.lt_succ_self _) with
    | fails fault inside always =>
      obtain ⟨t, held, here⟩ := inside
      refine .fails fault ⟨t, List.mem_cons_of_mem _ held, here⟩ fun endColumn more => ?_
      rw [goes, always]
      rfl
    | clashes found => exact .clashes ⟨op, _, rfl, .inl found⟩
    | begins type begun =>
      by_cases typed : Begins (Means (@Phrase.value .arithmetic)) (rest.map Placed.token) x.type
      case neg => exact .clashes ⟨op, _, rfl, .inr ⟨type, begun, typed⟩⟩
      case pos =>
        obtain ⟨more, z, small, meant, same⟩ := typed
        obtain ⟨both, compared⟩ := compare_eq_some_iff.mpr same.symm
        exact .begins both.type ⟨more, both, small, .inr ⟨op, _, z, rfl, meant, compared⟩, rfl⟩
    | stops front mid z split meant always =>
      subst split
      cases compared : compare op x z with
      | none =>
        refine .fails ⟨.typeMismatch x.type z.type, column⟩ ⟨_, List.mem_cons_self, rfl⟩
          fun endColumn more => ?_
        rw [goes, always]
        cases x <;> cases z <;> first | rfl | cases compared
      | some both =>
        refine .stops (⟨op.token, column⟩ :: front) mid both rfl
          (.inr ⟨op, _, z, rfl, meant, compared⟩) fun endColumn more => ?_
        rw [goes, always]
        cases x <;> cases z <;> cases compared <;> rfl

theorem outlook_atom {ts : List Placed} (atom : ∀ placed ∈ ts.head?, placed.token ≠ .openParen) :
    Outlook (fun endColumn ts => reading (primary endColumn ts)) (Means (@Phrase.value .primary))
      EnclosedClash ts := by
  obtain _ | ⟨⟨token, column⟩, rest⟩ := ts
  · exact .begins .boolean ⟨[.boolean true], _, by simp [Spellable], ⟨.boolean true, rfl, rfl⟩, rfl⟩
  cases known : atom? token with
  | none =>
    exact .fails ⟨.unexpectedToken token, column⟩ ⟨_, List.mem_cons_self, rfl⟩
      fun _ _ => reading_primary_other (atom _ rfl) known
  | some x =>
    refine .stops [_] rest x rfl ?_ fun _ _ => reading_primary_atom known
    cases token with
    | year =>
      cases known
      exact ⟨.year, rfl, rfl⟩
    | integer value =>
      cases known
      exact ⟨.integer value, rfl, rfl⟩
    | boolean value =>
      cases known
      exact ⟨.boolean value, rfl, rfl⟩
    | _ => cases known

-- By the parser's own recursion, as the parser is shown to read phrases.
mutual

theorem outlook_disjunction (ts : List Placed) :
    Outlook (fun endColumn ts => reading (disjunction endColumn ts))
      (Means (@Phrase.value .disjunction)) Clash ts := by
  refine .inTurn (fun _ _ => reading_disjunction) ?pairs ?opens (fun _ found => found) ?late
    (outlook_conjunction ts) fun x rest _ => outlook_disjuncts x rest
  case pairs =>
    rintro _ _ x y ⟨p, rfl, first⟩ ⟨q, rfl, others⟩
    exact ⟨.disjunction p q, rfl, Option.bind_eq_some_iff.mpr ⟨x, first, others⟩⟩
  case opens => exact fun x => begins_self ⟨.noDisjunct, rfl, rfl⟩
  case late =>
    rintro us vs x known found
    refine found.clash (.inr rfl) ?_
    rintro expr rfl
    exact arithmetic_of_conjunction known
termination_by 6 * ts.length + 5

theorem outlook_disjuncts (y : Operand) (ts : List Placed) :
    Outlook (fun endColumn ts => reading (disjuncts endColumn y ts))
      (Means fun p : Phrase .disjuncts => p.value y) (ClashAfter .or y) ts := by
  refine .connected (fun _ _ _ => reading_disjuncts_end) (fun _ _ _ _ => reading_disjuncts_or)
    (fun x => ⟨.noDisjunct, rfl, rfl⟩) ?link ?boolean (fun rest _ => outlook_conjunction rest)
    fun x rest _ => outlook_disjuncts x rest
  case link =>
    rintro _ _ l r x ⟨p, rfl, next⟩ ⟨q, rfl, others⟩
    exact ⟨.disjunct p q, rfl, by simp [Phrase.value, next, connect, others]⟩
  case boolean =>
    exact fun us type => .boolean (fun _ _ => arithmetic_of_conjunction)
      fun _ _ => conjunction_of_comparison
termination_by 6 * ts.length

theorem outlook_conjunction (ts : List Placed) :
    Outlook (fun endColumn ts => reading (conjunction endColumn ts))
      (Means (@Phrase.value .conjunction)) Clash ts := by
  refine .inTurn (fun _ _ => reading_conjunction) ?pairs ?opens (fun _ found => found) ?late
    (outlook_comparison ts) fun x rest _ => outlook_conjuncts x rest
  case pairs =>
    rintro _ _ x y ⟨p, rfl, first⟩ ⟨q, rfl, others⟩
    exact ⟨.conjunction p q, rfl, Option.bind_eq_some_iff.mpr ⟨x, first, others⟩⟩
  case opens => exact fun x => begins_self ⟨.noConjunct, rfl, rfl⟩
  case late =>
    rintro us vs x known found
    refine found.clash (.inl rfl) ?_
    rintro expr rfl
    exact arithmetic_of_comparison known
termination_by 6 * ts.length + 4

theorem outlook_conjuncts (y : Operand) (ts : List Placed) :
    Outlook (fun endColumn ts => reading (conjuncts endColumn y ts))
      (Means fun p : Phrase .conjuncts => p.value y) (ClashAfter .and y) ts := by
  refine .connected (fun _ _ _ => reading_conjuncts_end) (fun _ _ _ _ => reading_conjuncts_and)
    (fun x => ⟨.noConjunct, rfl, rfl⟩) ?link ?boolean (fun rest _ => outlook_comparison rest)
    fun x rest _ => outlook_conjuncts x rest
  case link =>
    rintro _ _ l r x ⟨p, rfl, next⟩ ⟨q, rfl, others⟩
    exact ⟨.conjunct p q, rfl, by simp [Phrase.value, next, connect, others]⟩
  case boolean =>
    exact fun us type => .boolean (fun _ _ => arithmetic_of_comparison) fun _ _ => id
termination_by 6 * ts.length

theorem outlook_comparison (ts : List Placed) :
    Outlook (fun endColumn ts => reading (comparison endColumn ts))
      (Means (@Phrase.value .comparison)) Clash ts := by
  refine .inTurn (fun _ _ => reading_comparison) ?pairs ?opens ?early ?late
    (outlook_arithmetic ts) fun x rest _ =>
      outlook_compared x rest fun side _ => outlook_arithmetic side
  case pairs =>
    rintro _ _ x y ⟨p, rfl, left⟩ (⟨rfl, rfl⟩ | ⟨op, _, z, rfl, ⟨q, rfl, right⟩, compared⟩)
    · exact ⟨.alone p, (List.append_nil _).symm, left⟩
    · exact ⟨.compared p op q, rfl, by simp [Phrase.value, left, right, compared]⟩
  case opens => exact fun x => begins_self (.inl ⟨rfl, rfl⟩)
  case early => exact fun us found => found.clash []
  case late => exact fun us vs x known found => found.clash known
termination_by 6 * ts.length + 3

theorem outlook_arithmetic (ts : List Placed) :
    Outlook (fun endColumn ts => reading (arithmetic endColumn ts))
      (Means (@Phrase.value .arithmetic)) EnclosedClash ts := by
  refine .inTurn (fun _ _ => reading_arithmetic) ?pairs ?opens (fun _ found => found)
    (fun _ _ _ _ => False.elim) (outlook_primary ts) fun x rest _ => outlook_remainders x rest
  case pairs =>
    rintro _ _ x y ⟨p, rfl, first⟩ ⟨q, rfl, others⟩
    exact ⟨.arithmetic p q, rfl, Option.bind_eq_some_iff.mpr ⟨x, first, others⟩⟩
  case opens => exact fun x => begins_self ⟨.noRemainder, rfl, rfl⟩
termination_by 6 * ts.length + 2

theorem outlook_primary (ts : List Placed) :
    Outlook (fun endColumn ts => reading (primary endColumn ts)) (Means (@Phrase.value .primary))
      EnclosedClash ts := by
  rcases ends_or_starts .openParen ts with atom | ⟨column, rest, starts⟩
  · exact outlook_atom atom
  · have fewer : rest.length < ts.length := by simp [starts]
    have inner : Outlook (fun endColumn ts => (reading (disjunction endColumn ts)).bind
          fun (x, mid) => closedNext endColumn x mid)
        (fun us x => ∃ p : Phrase .disjunction, us = p.tokens ++ [.closeParen] ∧ p.value = some x)
        Clash rest := by
      refine .inTurn (fun _ _ => rfl) ?pairs ?opens (fun _ found => found)
        (fun _ _ _ _ => False.elim) (outlook_disjunction rest) fun x rest _ => outlook_closed x rest
      case pairs =>
        rintro _ _ x y ⟨p, rfl, value⟩ ⟨rfl, rfl⟩
        exact ⟨p, rfl, value⟩
      case opens => exact fun x => ⟨[.closeParen], x, by simp [Spellable], ⟨rfl, rfl⟩, rfl⟩
    rw [starts]
    change Outlook _ _ _ ([⟨.openParen, column⟩] ++ rest)
    refine inner.behind (fun _ _ => reading_primary_parens) ?_ fun us found => ⟨us, rfl, found⟩
    rintro _ x ⟨p, rfl, value⟩
    exact ⟨.parens p, rfl, value⟩
termination_by 6 * ts.length + 1

end

/-- Tokens begin a formula, or types clash in them, or one of them is refused whatever follows. -/
theorem formula_begun (ts : List Placed) :
    Begins IsFormula (ts.map Placed.token) .boolean ∨ Clash (ts.map Placed.token) ∨
      ∃ fault, (∃ t ∈ ts, t.column = fault.column) ∧
        ∀ endColumn more, parse endColumn (ts ++ more) = .error fault := by
  have typed {type : ValueType} (begun : Begins IsFormula (ts.map Placed.token) type) :
      Begins IsFormula (ts.map Placed.token) .boolean :=
    .boolean (fun _ _ => arithmetic_of_disjunction)
      (fun _ _ p => disjunction_of_conjunction (conjunction_of_comparison p)) begun
  cases outlook_disjunction ts with
  | begins type begun => exact .inl (typed begun)
  | clashes found => exact .inr (.inl found)
  | fails fault inside always =>
    refine .inr (.inr ⟨fault, inside, fun endColumn more => ?_⟩)
    obtain ⟨t, held, -⟩ := inside
    obtain ⟨first, others, rfl⟩ := List.exists_cons_of_ne_nil (List.ne_nil_of_mem held)
    have failed := always endColumn more
    rw [List.cons_append] at failed ⊢
    rw [parse_cons, failed]
    rfl
  | stops front rest x split meant always =>
    obtain _ | ⟨next, after⟩ := rest
    · rw [List.append_nil] at split
      subst split
      exact .inl (typed (begins_self meant))
    · have held : next ∈ ts := by simp [split]
      refine .inr (.inr ⟨⟨.unexpectedToken next.token, next.column⟩, ⟨next, held, rfl⟩,
        fun endColumn more => ?_⟩)
      obtain ⟨first, others, rfl⟩ := List.exists_cons_of_ne_nil (List.ne_nil_of_mem held)
      have stopped := always endColumn more
      rw [List.cons_append] at stopped ⊢
      rw [parse_cons, stopped]
      rfl

end Holidays.LeapRule
