import Holidays.LeapRule.Parser
import Mathlib.Data.List.TakeWhile

/-!
The tokenizer against the layout of a text: blanks, then the spelling of a token, and so on to the
end. A run of digits or of word characters has to end where it is taken to end; the other tokens
may stand against anything. The tokens read are those laid out, with their columns.
-/
namespace Holidays.LeapRule

theorem takeWhile_run {p : Char → Bool} {run rest : List Char} (inside : ∀ c ∈ run, p c = true)
    (ends : ∀ c ∈ rest.head?, p c = false) : (run ++ rest).takeWhile p = run := by
  have stops : rest.takeWhile p = [] := by
    cases rest with
    | nil => rfl
    | cons c rest => simp [ends c rfl]
  rw [List.takeWhile_append_of_pos inside, stops, List.append_nil]

theorem exists_run (p : Char → Bool) (cs : List Char) : ∃ run rest, cs = run ++ rest ∧
    cs.takeWhile p = run ∧ (∀ c ∈ run, p c = true) ∧ ∀ c ∈ rest.head?, p c = false := by
  refine ⟨cs.takeWhile p, cs.dropWhile p, List.takeWhile_append_dropWhile.symm, rfl, ?_, ?_⟩
  · intro c held
    exact List.mem_takeWhile_imp held
  · intro c first
    have stop := List.head?_dropWhile_not p cs
    rw [Option.mem_def.mp first] at stop
    simpa using stop

theorem isAlpha_iff {c : Char} : c.isAlpha = true ↔
    65 ≤ c.toNat ∧ c.toNat ≤ 90 ∨ 97 ≤ c.toNat ∧ c.toNat ≤ 122 := by
  change (decide (65 ≤ c.val ∧ c.val ≤ 90) ||
    (decide (97 ≤ c.val) && decide (c.val ≤ 122))) = true ↔ _
  simp only [Bool.or_eq_true, Bool.and_eq_true, decide_eq_true_eq, UInt32.le_iff_toNat_le]
  exact Iff.rfl

theorem isDigit_iff {c : Char} : c.isDigit = true ↔ 48 ≤ c.toNat ∧ c.toNat ≤ 57 := by
  change (decide (48 ≤ c.val) && decide (c.val ≤ 57)) = true ↔ _
  simp only [Bool.and_eq_true, decide_eq_true_eq, UInt32.le_iff_toNat_le]
  exact Iff.rfl

theorem not_isSpace_of_isWordChar {c : Char} (h : isWordChar c = true) :
    Text.isSpace c = false := by
  simp only [isWordChar, Char.isAlphanum, Bool.or_eq_true, isAlpha_iff, isDigit_iff,
    beq_iff_eq] at h
  have visible : 48 ≤ c.toNat ∧ c.toNat ≤ 122 := by
    rcases h with ((upper | lower) | digit) | rfl
    · omega
    · omega
    · omega
    · decide
  simp only [Text.isSpace, Bool.or_eq_false_iff, Bool.and_eq_false_iff, decide_eq_false_iff_not,
    beq_eq_false_iff_ne]
  omega

theorem isWordChar_of_isDigit {c : Char} (h : c.isDigit = true) : isWordChar c = true := by
  simp [isWordChar, Char.isAlphanum, h]

namespace Token

def spelling : Token → List Char
  | .year => ['y', 'e', 'a', 'r']
  | .integer value => Text.naturalChars value
  | .boolean true => ['t', 'r', 'u', 'e']
  | .boolean false => ['f', 'a', 'l', 's', 'e']
  | .percent => ['%']
  | .equal => ['=', '=']
  | .notEqual => ['!', '=']
  | .and => ['&', '&']
  | .or => ['|', '|']
  | .openParen => ['(']
  | .closeParen => [')']

def SpelledBy : Token → List Char → Prop
  | .integer value, cs => cs ≠ [] ∧ (∀ c ∈ cs, c.isDigit = true) ∧
    Nat.ofDigitChars 10 cs 0 = value ∧ value ≤ maxLiteral
  | token, cs => cs = token.spelling

/-- Whether a character right after the token would be taken for a part of it. -/
def takes : Token → Char → Bool
  | .integer _, c => c.isDigit
  | .year, c => isWordChar c
  | .boolean _, c => isWordChar c
  | _, _ => false

theorem spelledBy_word {token : Token} {c : Char} {cs : List Char}
    (word : token = .year ∨ ∃ value, token = .boolean value) (spelled : token.SpelledBy (c :: cs)) :
    c.isDigit = false ∧ isWordStart c = true ∧ (∀ d ∈ cs, isWordChar d = true) ∧
      token.takes = isWordChar ∧ wordToken (c :: cs) = .ok token := by
  rcases word with rfl | ⟨value, rfl⟩
  · obtain ⟨rfl, rfl⟩ := List.cons.inj spelled
    exact ⟨by decide, by decide, List.all_eq_true.mp (by decide), rfl, rfl⟩
  · cases value <;> obtain ⟨rfl, rfl⟩ := List.cons.inj spelled <;>
      exact ⟨by decide, by decide, List.all_eq_true.mp (by decide), rfl, rfl⟩

end Token

theorem wordToken_eq_ok {word : List Char} {token : Token} (h : wordToken word = .ok token) :
    token.SpelledBy word ∧ token.takes = isWordChar := by
  unfold wordToken at h
  split at h
  · next spelled =>
    cases h
    exact ⟨spelled, rfl⟩
  · split at h
    · next spelled =>
      cases h
      exact ⟨spelled, rfl⟩
    · split at h
      · next spelled =>
        cases h
        exact ⟨spelled, rfl⟩
      · cases h

theorem operatorToken_eq_ok {c : Char} {rest : List Char} {token : Token} {length : Nat}
    (h : operatorToken c rest.head? = .ok (token, length)) :
    ∃ cs after, rest = cs ++ after ∧ length - 1 = cs.length ∧ token.SpelledBy (c :: cs) ∧
      ∀ d, token.takes d = false := by
  unfold operatorToken at h
  split at h
  · cases h
    exact ⟨[], rest, rfl, rfl, rfl, fun _ => rfl⟩
  · cases h
    exact ⟨[], rest, rfl, rfl, rfl, fun _ => rfl⟩
  · cases h
    exact ⟨[], rest, rfl, rfl, rfl, fun _ => rfl⟩
  · next following =>
    cases h
    obtain ⟨after, rfl⟩ := List.head?_eq_some_iff.mp following
    exact ⟨['='], after, rfl, rfl, rfl, fun _ => rfl⟩
  · next following =>
    cases h
    obtain ⟨after, rfl⟩ := List.head?_eq_some_iff.mp following
    exact ⟨['='], after, rfl, rfl, rfl, fun _ => rfl⟩
  · next following =>
    cases h
    obtain ⟨after, rfl⟩ := List.head?_eq_some_iff.mp following
    exact ⟨['&'], after, rfl, rfl, rfl, fun _ => rfl⟩
  · next following =>
    cases h
    obtain ⟨after, rfl⟩ := List.head?_eq_some_iff.mp following
    exact ⟨['|'], after, rfl, rfl, rfl, fun _ => rfl⟩
  · cases h

theorem tokenAt_sound {c : Char} {rest : List Char} {token : Token} {more : Nat}
    (h : tokenAt c rest = .ok (token, more)) :
    ∃ cs after, rest = cs ++ after ∧ more = cs.length ∧ token.SpelledBy (c :: cs) ∧
      ∀ d ∈ after.head?, token.takes d = false := by
  unfold tokenAt at h
  split at h
  · next digit =>
    obtain ⟨run, after, rfl, taken, inside, ends⟩ := exists_run Char.isDigit rest
    simp only [taken, integerToken] at h
    split at h
    · next small =>
      cases h
      refine ⟨run, after, rfl, rfl, ⟨by simp, ?_, rfl, small⟩, ends⟩
      intro d held
      rcases List.mem_cons.mp held with rfl | later
      · exact digit
      · exact inside d later
    · cases h
  · split at h
    · obtain ⟨run, after, rfl, taken, inside, ends⟩ := exists_run isWordChar rest
      simp only [taken] at h
      cases known : wordToken (c :: run) with
      | error cause =>
        rw [known] at h
        cases h
      | ok word =>
        rw [known] at h
        cases h
        obtain ⟨spelled, takes⟩ := wordToken_eq_ok known
        exact ⟨run, after, rfl, rfl, spelled, takes ▸ ends⟩
    · cases known : operatorToken c rest.head? with
      | error cause =>
        rw [known] at h
        cases h
      | ok sign =>
        rw [known] at h
        cases h
        obtain ⟨cs, after, split, length, spelled, takes⟩ := operatorToken_eq_ok known
        exact ⟨cs, after, split, length, spelled, fun d _ => takes d⟩

theorem tokenAt_complete {token : Token} {c : Char} {cs after : List Char}
    (spelled : token.SpelledBy (c :: cs)) (ends : ∀ d ∈ after.head?, token.takes d = false) :
    tokenAt c (cs ++ after) = .ok (token, cs.length) := by
  have word (named : token = .year ∨ ∃ value, token = .boolean value) :
      tokenAt c (cs ++ after) = .ok (token, cs.length) := by
    obtain ⟨noDigit, start, inside, takes, known⟩ := Token.spelledBy_word named spelled
    have taken : (cs ++ after).takeWhile isWordChar = cs := takeWhile_run inside (takes ▸ ends)
    simp [tokenAt, noDigit, start, taken, known, Except.map]
  cases token with
  | integer value =>
    obtain ⟨-, digits, number, small⟩ := spelled
    have taken : (cs ++ after).takeWhile Char.isDigit = cs :=
      takeWhile_run (fun d held => digits d (List.mem_cons_of_mem c held)) ends
    simp [tokenAt, digits c List.mem_cons_self, taken, integerToken, number, small, Except.map]
  | year => exact word (.inl rfl)
  | boolean value => exact word (.inr ⟨value, rfl⟩)
  | percent | openParen | closeParen =>
    obtain ⟨rfl, rfl⟩ := List.cons.inj spelled
    rfl
  | equal | notEqual | and | or =>
    obtain ⟨rfl, rfl⟩ := List.cons.inj spelled
    rfl

/-- A text with its tokens: each one spelled after some blanks, and blanks at the end. -/
inductive Laid : Nat → List Placed → List Char → Prop where
  | done {column : Nat} {blanks : List Char} (spaces : ∀ c ∈ blanks, Text.isSpace c = true) :
      Laid column [] blanks
  | token {column : Nat} {token : Token} {ts : List Placed} {blanks cs rest : List Char}
      (spaces : ∀ c ∈ blanks, Text.isSpace c = true) (spelled : token.SpelledBy cs)
      (ends : ∀ c ∈ rest.head?, token.takes c = false)
      (more : Laid (column + blanks.length + cs.length) ts rest) :
      Laid column (⟨token, column + blanks.length⟩ :: ts) (blanks ++ (cs ++ rest))

theorem Laid.space {column : Nat} {ts : List Placed} {c : Char} {cs : List Char}
    (space : Text.isSpace c = true) (h : Laid (column + 1) ts cs) : Laid column ts (c :: cs) := by
  have spaced {blanks : List Char} (spaces : ∀ d ∈ blanks, Text.isSpace d = true) :
      ∀ d ∈ c :: blanks, Text.isSpace d = true := by
    intro d held
    rcases List.mem_cons.mp held with rfl | later
    · exact space
    · exact spaces d later
  cases h with
  | done spaces => exact .done (spaced spaces)
  | @token _ _ _ blanks _ _ spaces spelled ends more =>
    have along : column + 1 + blanks.length = column + (c :: blanks).length := by
      simp only [List.length_cons]
      omega
    rw [along] at more ⊢
    exact .token (spaced spaces) spelled ends more

theorem Token.SpelledBy.exists_cons {token : Token} {cs : List Char} (h : token.SpelledBy cs) :
    ∃ c rest, cs = c :: rest ∧ Text.isSpace c = false := by
  cases token with
  | integer value =>
    obtain ⟨some, digits, -, -⟩ := h
    obtain ⟨c, rest, rfl⟩ := List.exists_cons_of_ne_nil some
    have word := isWordChar_of_isDigit (digits c List.mem_cons_self)
    exact ⟨c, rest, rfl, not_isSpace_of_isWordChar word⟩
  | boolean value => cases value <;> exact ⟨_, _, h, by decide⟩
  | _ => exact ⟨_, _, h, by decide⟩

theorem tokensFrom_blanks {column : Nat} {blanks : List Char}
    (spaces : ∀ c ∈ blanks, Text.isSpace c = true) (cs : List Char) :
    tokensFrom column (blanks ++ cs) = tokensFrom (column + blanks.length) cs := by
  induction blanks generalizing column with
  | nil => rfl
  | cons c blanks ih =>
    have next : column + 1 + blanks.length = column + (c :: blanks).length := by
      rw [List.length_cons]
      omega
    rw [List.cons_append, tokensFrom, if_pos (spaces c List.mem_cons_self),
      ih fun d held => spaces d (List.mem_cons_of_mem c held), next]

theorem laid_of_tokensFrom {column : Nat} {ts : List Placed} {cs : List Char}
    (h : tokensFrom column cs = .ok ts) : Laid column ts cs := by
  have noBlanks : ∀ c ∈ ([] : List Char), Text.isSpace c = true := by simp
  fun_induction tokensFrom column cs generalizing ts with
  | case1 column =>
    cases h
    exact .done noBlanks
  | case2 column c rest space ih => exact (ih h).space space
  | case3 => cases h
  | case4 column c rest space token more read ih =>
    obtain ⟨cs, after, rfl, rfl, spelled, ends⟩ := tokenAt_sound read
    rw [List.drop_left] at h ih
    cases others : tokensFrom (column + 1 + cs.length) after with
    | error fault =>
      rw [others] at h
      cases h
    | ok ts =>
      rw [others] at h
      cases h
      have along : column + 1 + cs.length = column + (c :: cs).length := by
        simp only [List.length_cons]
        omega
      exact .token noBlanks spelled ends (along ▸ ih others)

theorem Laid.tokensFrom_eq {column : Nat} {ts : List Placed} {cs : List Char}
    (h : Laid column ts cs) : tokensFrom column cs = .ok ts := by
  induction h with
  | @done column blanks spaces =>
    have ended : tokensFrom column (blanks ++ []) = tokensFrom (column + blanks.length) [] :=
      tokensFrom_blanks spaces []
    rw [List.append_nil, tokensFrom] at ended
    exact ended
  | token spaces spelled ends _ ih =>
    obtain ⟨c, cs, rfl, noSpace⟩ := spelled.exists_cons
    rw [tokensFrom_blanks spaces, List.cons_append, tokensFrom, if_neg (by simp [noSpace]),
      tokenAt_complete spelled ends]
    simp only [List.drop_left]
    rw [List.length_cons, Nat.add_comm cs.length 1, ← Nat.add_assoc] at ih
    rw [ih]
    rfl

theorem tokensFrom_eq_ok_iff {column : Nat} {ts : List Placed} {cs : List Char} :
    tokensFrom column cs = .ok ts ↔ Laid column ts cs :=
  ⟨laid_of_tokensFrom, Laid.tokensFrom_eq⟩

/-- The rule of the Julian calendar. -/
theorem compile_everyFourth : compile "year % 4 == 0" =
    .ok ⟨"year % 4 == 0", .compareInts .equal (.remainder .year 4) (.literal 0)⟩ := by
  have read : tokenize "year % 4 == 0" =
      .ok [⟨.year, 1⟩, ⟨.percent, 6⟩, ⟨.integer 4, 8⟩, ⟨.equal, 10⟩, ⟨.integer 0, 13⟩] := by
    decide +kernel
  rw [compile, read]
  cbv

end Holidays.LeapRule
