import Holidays.Proofs.LeapRule.Columns
import Holidays.Proofs.LeapRule.Prefixes

/-!
Where the fault of a formula points. Some formula starts with the text before its column, except in
two cases: types can clash in that text without being looked at, and a character further on is
refused before any token is looked at.
-/
namespace Holidays.LeapRule

def textBefore (source : String) (column : Nat) : String :=
  String.ofList (source.toList.take (column - 1))

def Completable (text : String) : Prop := ∃ more rule, compile (text ++ more) = .ok rule

/-- Where a fault points in a formula. -/
structure Located (source : String) (fault : Fault) : Prop where
  positive : 1 ≤ fault.column
  within : fault.column ≤ source.length + 1
  /-- Tokens before the column that nothing completes have a clash of types, or a fault of their own
  that is not found since the whole text has no tokens. -/
  before : Completable (textBefore source fault.column) ∨
    ∃ ts, tokenize (textBefore source fault.column) = .ok ts ∧
      ¬ Begins IsFormula (ts.map Placed.token) .boolean ∧
      (Clash (ts.map Placed.token) ∨ tokenize source = .error fault ∧
        ∃ earlier : Fault, earlier.column < fault.column ∧
          ∀ endColumn more, parse endColumn (ts ++ more) = .error earlier)

section

variable {column : Nat} {ts us : List Placed} {cs ds rest : List Char}

theorem mem_head?_of_take {c : Char} {n : Nat} (h : c ∈ (rest.take n).head?) : c ∈ rest.head? := by
  rw [List.head?_take] at h
  split at h
  · cases h
  · exact h

theorem Laid.cut {front back : List Placed} {t : Placed} (h : Laid column (front ++ t :: back) cs) :
    column ≤ t.column ∧ t.column ≤ column + cs.length ∧
      Laid column front (cs.take (t.column - column)) := by
  generalize whole : front ++ t :: back = ts at h
  induction h generalizing front with
  | done => simp at whole
  | @token column token ts blanks cs rest spaces spelled ends more ih =>
    cases front with
    | nil =>
      obtain ⟨rfl, -⟩ := List.cons.inj whole
      refine ⟨Nat.le_add_right _ _, by simp, ?_⟩
      simp only [Nat.add_sub_cancel_left, List.take_left]
      exact .done spaces
    | cons first front =>
      obtain ⟨rfl, others⟩ := List.cons.inj whole
      obtain ⟨later, inside, laid⟩ := ih others
      have far : t.column - column =
          blanks.length + (cs.length + (t.column - (column + blanks.length + cs.length))) := by
        omega
      refine ⟨by omega, by simp only [List.length_append]; omega, ?_⟩
      rw [far, List.take_length_add_append, List.take_length_add_append]
      exact .token spaces spelled (fun c held => ends c (mem_head?_of_take held)) laid

theorem laid_before_fault {fault : Fault} (h : tokensFrom column cs = .error fault) :
    column ≤ fault.column ∧ fault.column < column + cs.length ∧
      ∃ ts, Laid column ts (cs.take (fault.column - column)) := by
  have noBlanks : ∀ c ∈ ([] : List Char), Text.isSpace c = true := by simp
  fun_induction tokensFrom column cs with
  | case1 column => cases h
  | case2 column c rest space ih =>
    obtain ⟨later, inside, ts, laid⟩ := ih h
    have far : fault.column - column = fault.column - (column + 1) + 1 := by omega
    refine ⟨by omega, by simp only [List.length_cons]; omega, ts, ?_⟩
    rw [far, List.take_succ_cons]
    exact laid.space space
  | case3 column c rest space cause read =>
    cases h
    refine ⟨Nat.le_refl _, by simp, [], ?_⟩
    rw [Nat.sub_self]
    exact .done noBlanks
  | case4 column c rest space token more read ih =>
    obtain ⟨cs, after, rfl, rfl, spelled, ends⟩ := tokenAt_sound read
    rw [List.drop_left] at h ih
    cases others : tokensFrom (column + 1 + cs.length) after with
    | ok ts =>
      rw [others] at h
      cases h
    | error fault' =>
      rw [others] at h
      cases h
      obtain ⟨later, inside, ts, laid⟩ := ih others
      have far : fault.column - column =
          (c :: cs).length + (fault.column - (column + 1 + cs.length)) := by
        simp only [List.length_cons]
        omega
      have along : column + 1 + cs.length = column + (c :: cs).length := by
        simp only [List.length_cons]
        omega
      refine ⟨by omega, by simp only [List.length_cons, List.length_append]; omega,
        ⟨token, column⟩ :: ts, ?_⟩
      rw [far, ← List.cons_append, List.take_length_add_append]
      exact .token noBlanks spelled (fun d held => ends d (mem_head?_of_take held)) (along ▸ laid)

theorem Laid.append (h : Laid column ts cs) (h' : Laid (column + cs.length) us ds)
    (blank : ∀ c ∈ ds.head?, Text.isSpace c = true) : Laid column (ts ++ us) (cs ++ ds) := by
  induction h with
  | @done column blanks spaces =>
    rw [← tokensFrom_eq_ok_iff, tokensFrom_blanks spaces]
    exact h'.tokensFrom_eq
  | @token column token ts blanks cs rest spaces spelled ends more ih =>
    have along : column + (blanks ++ (cs ++ rest)).length =
        column + blanks.length + cs.length + rest.length := by
      simp only [List.length_append]
      omega
    have goesOn := ih (along ▸ h')
    rw [List.cons_append, List.append_assoc, List.append_assoc]
    refine .token spaces spelled ?_ goesOn
    intro c first
    cases rest with
    | nil => exact Token.not_takes_of_isSpace (blank c first)
    | cons d rest => exact ends c first

theorem exists_laid {us : List Token} (small : Spellable us) (column : Nat) :
    ∃ placed cs, placed.map Placed.token = us ∧ Laid column placed cs ∧
      ∀ c ∈ cs.head?, Text.isSpace c = true := by
  have spelled : List.Forall₂ Token.SpelledBy us (us.map Token.spelling) := by
    refine List.forall₂_map_right_iff.mpr (List.forall₂_same.mpr fun token held => ?_)
    exact Token.spelledBy_spelling fun value same => small value (same ▸ held)
  have enough : us.length ≤ (List.replicate us.length [' ']).length + 1 := by simp
  have blank : ∀ c ∈ [' '], Text.isSpace c = true := List.all_eq_true.mp (by decide)
  have apart : ∀ gap ∈ List.replicate us.length [' '], IsGap gap := by
    intro gap held
    obtain rfl := List.eq_of_mem_replicate held
    exact ⟨List.cons_ne_nil _ _, blank⟩
  obtain ⟨placed, named, laid⟩ := laid_of_gaps spelled enough apart [' '] blank column
  refine ⟨placed, _, named, laid, ?_⟩
  intro c first
  cases us with
  | nil => cases first
  | cons token us =>
    cases first
    decide

theorem completable_of_begins {text : String} (laid : Laid 1 ts text.toList)
    (begun : Begins IsFormula (ts.map Placed.token) .boolean) : Completable text := by
  obtain ⟨more, x, small, formula, typed⟩ := begun
  cases x with
  | int => cases typed
  | bool condition =>
    obtain ⟨placed, written, rfl, after, blank⟩ := exists_laid small (1 + text.toList.length)
    have whole := laid.append after blank
    rw [← List.map_append] at formula
    have compiled : compile (text ++ String.ofList written) =
        .ok ⟨text ++ String.ofList written, condition⟩ := by
      rw [compile, tokenize, String.toList_append, String.toList_ofList,
        tokensFrom_eq_ok_iff.mpr whole]
      simp only [formula.parse]
      rfl
    exact ⟨_, _, compiled⟩

end

/-- What has to be shown of the tokens before a fault: that none of them is at fault already, or
that the tokenizer has spoken first. -/
theorem Located.of_laid {source : String} {fault : Fault} {ts : List Placed}
    (positive : 1 ≤ fault.column) (within : fault.column ≤ source.length + 1)
    (laid : Laid 1 ts (source.toList.take (fault.column - 1)))
    (early : ∀ earlier : Fault, earlier.column < fault.column →
      (∀ endColumn more, parse endColumn (ts ++ more) = .error earlier) →
        tokenize source = .error fault) : Located source fault := by
  have laid' : Laid 1 ts (textBefore source fault.column).toList := by
    rwa [textBefore, String.toList_ofList]
  refine ⟨positive, within, ?_⟩
  by_cases begun : Begins IsFormula (ts.map Placed.token) .boolean
  · exact .inl (completable_of_begins laid' begun)
  · refine .inr ⟨ts, tokensFrom_eq_ok_iff.mpr laid', begun, ?_⟩
    rcases formula_begun ts with begun' | clash | ⟨earlier, ⟨t, held, here⟩, always⟩
    · exact absurd begun' begun
    · exact .inl clash
    · -- The earlier fault is one of the tokens, and these stand in the text.
      have inside := ((laid.faithful [] rfl (by simp)).within t held).2
      simp only [List.nil_append, List.length_take] at inside
      have sooner : earlier.column < fault.column := by omega
      exact .inr ⟨early earlier sooner always, earlier, sooner, always⟩

/-- A fault points at a character of the formula or just behind the last one. Some formula starts
with the text before it, unless types clash in that text or, for a fault of the tokenizer, the
tokens in it are refused whatever follows them. -/
theorem compile_error_located {source : String} {fault : Fault}
    (h : compile source = .error fault) : Located source fault := by
  unfold compile at h
  split at h
  · next refused =>
    cases h
    obtain ⟨positive, inside, ts, laid⟩ := laid_before_fault refused
    have length : source.toList.length = source.length := String.length_toList
    exact .of_laid positive (by omega) laid fun _ _ _ => refused
  · next ts tokenized =>
    have laid := tokensFrom_eq_ok_iff.mp tokenized
    cases parsed : parse (source.length + 1) ts with
    | ok condition =>
      rw [parsed] at h
      cases h
    | error fault' =>
      rw [parsed] at h
      cases h
      -- No fault is there already without the tokens behind: it would be that of all of them.
      have none {front back : List Placed} (split : ts = front ++ back) (earlier : Fault)
          (sooner : earlier.column < fault.column)
          (always : ∀ endColumn more, parse endColumn (front ++ more) = .error earlier) :
          tokenize source = .error fault := by
        have again := always (source.length + 1) back
        rw [← split, parsed] at again
        cases again
        exact absurd sooner (Nat.lt_irrefl _)
      rcases parse_error_column parsed with ending | ⟨rfl, start⟩ | ⟨t, held, here⟩
      · have whole : Laid 1 ts (source.toList.take (fault.column - 1)) := by
          rwa [ending, Nat.add_sub_cancel, ← String.length_toList, List.take_length]
        exact .of_laid (by omega) (by omega) whole (none (List.append_nil ts).symm)
      · have empty : Laid 1 [] (source.toList.take (fault.column - 1)) := by
          rw [start]
          exact .done (by simp)
        exact .of_laid (by omega) (by omega) empty (none (List.nil_append []).symm)
      · obtain ⟨front, back, split⟩ := List.append_of_mem held
        rw [split] at laid
        obtain ⟨positive, within, laid⟩ := laid.cut
        have length : source.toList.length = source.length := String.length_toList
        rw [here] at positive within laid
        exact .of_laid positive (by omega) laid (none split)

/-- The right operand is read before the left one is found to be an integer. -/
theorem compile_error_located_integer :
    compile "1 && )" = .error ⟨.unexpectedToken .closeParen, 6⟩ ∧
    Located "1 && )" ⟨.unexpectedToken .closeParen, 6⟩ := by
  have read : tokenize "1 && )" = .ok [⟨.integer 1, 1⟩, ⟨.and, 3⟩, ⟨.closeParen, 6⟩] := by
    decide +kernel
  have refused : compile "1 && )" = .error ⟨.unexpectedToken .closeParen, 6⟩ := by
    rw [compile, read]
    cbv
  exact ⟨refused, compile_error_located refused⟩

theorem parse_closeParen {endColumn column : Nat} {rest : List Placed} :
    parse endColumn (⟨.closeParen, column⟩ :: rest) =
      .error ⟨.unexpectedToken .closeParen, column⟩ := by
  rw [parse_cons, reading_disjunction, reading_conjunction, reading_comparison, reading_arithmetic,
    reading_primary_other (by decide) rfl]
  rfl

/-- A character that no token starts with is refused, and the parenthesis before it is not seen. -/
theorem compile_error_not_first : ¬ ∀ source fault, compile source = .error fault →
    1 ≤ fault.column ∧ fault.column ≤ source.length + 1 ∧
      Completable (textBefore source fault.column) := by
  intro claimed
  have refused : compile ") @" = .error ⟨.unexpectedCharacter '@', 3⟩ := by decide +kernel
  obtain ⟨-, -, more, rule, accepted⟩ := claimed _ _ refused
  have text : (textBefore ") @" 3 ++ more).toList = ')' :: ' ' :: more.toList := by
    simp [textBefore]
  have first (rest : List Char) :
      tokensFrom 1 (')' :: rest) = (tokensFrom 2 rest).map (⟨.closeParen, 1⟩ :: ·) := by
    rw [tokensFrom, if_neg (by decide)]
    rfl
  unfold compile tokenize at accepted
  rw [text, first] at accepted
  cases others : tokensFrom 2 (' ' :: more.toList) with
  | error fault =>
    rw [others] at accepted
    cases accepted
  | ok ts =>
    rw [others] at accepted
    simp only [Except.map, parse_closeParen] at accepted
    cases accepted

end Holidays.LeapRule
