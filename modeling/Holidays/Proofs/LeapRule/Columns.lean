import Holidays.Proofs.LeapRule.Printing

namespace Holidays.LeapRule

/-- The characters of a text that a token takes up: from its column on, all of a run. -/
def Placed.stretch (cs : List Char) (t : Placed) : List Char :=
  match t.token with
  | .integer _ => (cs.drop (t.column - 1)).takeWhile Char.isDigit
  | .year => (cs.drop (t.column - 1)).takeWhile isWordChar
  | .boolean _ => (cs.drop (t.column - 1)).takeWhile isWordChar
  | sign => (cs.drop (t.column - 1)).take sign.spelling.length

namespace Token

/-- Whether the run of a token would have started with a character that stands right before it. -/
def reachesBack : Token → Char → Bool
  | .integer _, c => c.isDigit
  | .year, c => isWordStart c
  | .boolean _, c => isWordStart c
  | _, _ => false

end Token

structure Faithful (start : Nat) (ts : List Placed) (cs : List Char) : Prop where
  within : ∀ t ∈ ts, start ≤ t.column ∧ t.column ≤ cs.length
  ascending : ts.Pairwise fun t u => t.column < u.column
  spelled : ∀ t ∈ ts, t.token.SpelledBy (t.stretch cs)
  begun : ∀ t ∈ ts, ∀ c ∈ (cs.take (t.column - 1)).getLast?, t.token.reachesBack c = false
  apart : ts.Pairwise fun t u => t.column + (t.stretch cs).length ≤ u.column
  blank : ∀ i c, start ≤ i + 1 → cs[i]? = some c →
    (∀ t ∈ ts, i + 1 < t.column ∨ t.column + (t.stretch cs).length ≤ i + 1) →
    Text.isSpace c = true

theorem isWordChar_of_isWordStart {c : Char} (h : isWordStart c = true) : isWordChar c = true := by
  simp only [isWordStart, Bool.or_eq_true] at h
  simp only [isWordChar, Char.isAlphanum, Bool.or_eq_true]
  exact h.imp_left .inl

theorem not_isDigit_of_isWordStart {c : Char} (h : isWordStart c = true) : c.isDigit = false := by
  simp only [isWordStart, Bool.or_eq_true, isAlpha_iff, beq_iff_eq] at h
  rw [← Bool.not_eq_true, isDigit_iff]
  intro digit
  rcases h with (upper | lower) | rfl
  · omega
  · omega
  · exact absurd digit (by decide)

namespace Token

theorem isWordChar_of_reachesBack {token : Token} {c : Char} (h : token.reachesBack c = true) :
    isWordChar c = true := by
  cases token with
  | integer value => exact isWordChar_of_isDigit h
  | year => exact isWordChar_of_isWordStart h
  | boolean value => exact isWordChar_of_isWordStart h
  | _ => cases h

theorem isWordChar_of_run {token : Token} {c : Char} {cs : List Char}
    (spelled : token.SpelledBy (c :: cs)) (run : token.isRun = true) : isWordChar c = true := by
  cases token with
  | integer value => exact isWordChar_of_isDigit (spelled.2.1 c List.mem_cons_self)
  | year =>
    obtain ⟨rfl, -⟩ := List.cons.inj spelled
    decide
  | boolean value =>
    cases value <;> obtain ⟨rfl, -⟩ := List.cons.inj spelled <;> decide
  | _ => cases run

theorem not_isWordChar_of_mem_sign {token : Token} {cs : List Char} (spelled : token.SpelledBy cs)
    (sign : token.isRun = false) : ∀ c ∈ cs, ¬ isWordChar c = true := by
  cases token with
  | year | integer | boolean => cases sign
  | _ =>
    cases spelled
    exact List.any_eq_false.mp (by decide)

/-- A token does not reach back into one that ends before it: that one would have gone on. -/
theorem not_reachesBack_of_ends {token next : Token} {c e : Char} {cs rest : List Char}
    (spelled : token.SpelledBy cs) (last : e ∈ cs) (spelled' : next.SpelledBy (c :: rest))
    (ends : token.takes c = false) : next.reachesBack e = false := by
  rw [← Bool.not_eq_true]
  intro reaches
  have word := isWordChar_of_reachesBack reaches
  have run : next.isRun = true := by
    cases next with
    | integer | year | boolean => rfl
    | _ => cases reaches
  have first := isWordChar_of_run spelled' run
  cases token with
  | integer value =>
    have digit := spelled.2.1 e last
    cases next with
    | integer value' =>
      have goesOn : c.isDigit = true := spelled'.2.1 c List.mem_cons_self
      exact absurd goesOn (by simpa [takes] using ends)
    | year => simp [not_isDigit_of_isWordStart reaches] at digit
    | boolean value' => simp [not_isDigit_of_isWordStart reaches] at digit
    | _ => cases reaches
  | year | boolean => exact absurd first (by simpa [takes] using ends)
  | _ => exact absurd word (not_isWordChar_of_mem_sign spelled rfl e last)

end Token

theorem stretch_eq {token : Token} {front cs rest : List Char} (spelled : token.SpelledBy cs)
    (ends : ∀ c ∈ rest.head?, token.takes c = false) :
    Placed.stretch (front ++ (cs ++ rest)) ⟨token, front.length + 1⟩ = cs := by
  have ahead : (front ++ (cs ++ rest)).drop (front.length + 1 - 1) = cs ++ rest := by
    simp
  cases token with
  | integer value =>
    simp only [Placed.stretch, ahead]
    exact takeWhile_run spelled.2.1 ends
  | year =>
    simp only [Placed.stretch, ahead]
    cases spelled
    exact takeWhile_run (List.all_eq_true.mp (by decide)) ends
  | boolean value =>
    simp only [Placed.stretch, ahead]
    cases value <;> cases spelled <;> exact takeWhile_run (List.all_eq_true.mp (by decide)) ends
  | _ =>
    simp only [Placed.stretch, ahead]
    cases spelled
    exact List.take_left

/-- What comes before a part of a text: a blank, or a token that does not go on there. -/
def Ended (cs : List Char) (e : Char) : Prop :=
  Text.isSpace e = true ∨ ∃ (token : Token) (s : List Char), token.SpelledBy s ∧ e ∈ s ∧
    ∀ c ∈ cs.head?, token.takes c = false

theorem not_reachesBack_of_ended {next : Token} {cs rest : List Char} {e : Char}
    (ended : Ended (cs ++ rest) e) (spelled : next.SpelledBy cs) :
    next.reachesBack e = false := by
  obtain ⟨c, more, rfl, -⟩ := spelled.exists_cons
  rcases ended with space | ⟨token, s, spelled', last, ends⟩
  · rw [← Bool.not_eq_true]
    intro reaches
    simp [not_isSpace_of_isWordChar (Token.isWordChar_of_reachesBack reaches)] at space
  · exact Token.not_reachesBack_of_ends spelled' last spelled (ends c rfl)

theorem Faithful.cons {start : Nat} {t : Placed} {ts : List Placed} {cs : List Char}
    (more : Faithful (t.column + (t.stretch cs).length) ts cs) (late : start ≤ t.column)
    (fits : t.column + (t.stretch cs).length ≤ cs.length + 1)
    (spelled : t.token.SpelledBy (t.stretch cs))
    (begun : ∀ c ∈ (cs.take (t.column - 1)).getLast?, t.token.reachesBack c = false)
    (blank : ∀ i c, start ≤ i + 1 → i + 1 < t.column → cs[i]? = some c → Text.isSpace c = true) :
    Faithful start (t :: ts) cs := by
  have some : 1 ≤ (t.stretch cs).length := by
    obtain ⟨c, rest, same, -⟩ := spelled.exists_cons
    simp [same]
  have after : ∀ u ∈ ts, t.column + (t.stretch cs).length ≤ u.column :=
    fun u held => (more.within u held).1
  constructor
  case within =>
    intro u held
    rcases List.mem_cons.mp held with rfl | later
    · exact ⟨late, by omega⟩
    · have := after u later
      exact ⟨by omega, (more.within u later).2⟩
  case ascending =>
    refine List.pairwise_cons.mpr ⟨?_, more.ascending⟩
    intro u later
    have := after u later
    omega
  case spelled => exact List.forall_mem_cons.mpr ⟨spelled, more.spelled⟩
  case begun => exact List.forall_mem_cons.mpr ⟨begun, more.begun⟩
  case apart => exact List.pairwise_cons.mpr ⟨after, more.apart⟩
  case blank =>
    intro i c reached found outside
    rcases outside t List.mem_cons_self with before | passed
    · exact blank i c reached before found
    · exact more.blank i c passed found fun u later => outside u (List.mem_cons_of_mem t later)

/-- The induction is on the layout; `front` is the text before it, which ends where it should. -/
theorem Laid.faithful {column : Nat} {ts : List Placed} {cs : List Char} (h : Laid column ts cs)
    (front : List Char) (placed : column = front.length + 1)
    (ended : ∀ e ∈ front.getLast?, Ended cs e) : Faithful column ts (front ++ cs) := by
  induction h generalizing front with
  | @done column blanks spaces =>
    refine ⟨by simp, .nil, by simp, by simp, .nil, ?_⟩
    intro i c after found _
    rw [List.getElem?_append_right (by omega)] at found
    exact spaces c (List.mem_of_getElem? found)
  | @token column token ts blanks cs rest spaces spelled ends more ih =>
    subst placed
    have whole : front ++ (blanks ++ (cs ++ rest)) = (front ++ blanks) ++ (cs ++ rest) := by simp
    have further : front ++ (blanks ++ (cs ++ rest)) = (front ++ blanks ++ cs) ++ rest := by simp
    have here : front.length + 1 + blanks.length = (front ++ blanks).length + 1 := by
      rw [List.length_append]
      omega
    have taken : Placed.stretch (front ++ (blanks ++ (cs ++ rest)))
        ⟨token, front.length + 1 + blanks.length⟩ = cs := by
      rw [whole, here]
      exact stretch_eq spelled ends
    have before : ∀ e ∈ (front ++ blanks).getLast?, Ended (cs ++ rest) e := by
      intro e last
      cases blanks with
      | nil => exact ended e (by simpa using last)
      | cons c blanks =>
        rw [List.getLast?_append_of_ne_nil _ (List.cons_ne_nil c blanks)] at last
        exact .inl (spaces e (List.mem_of_getLast? last))
    have behind : ∀ e ∈ (front ++ blanks ++ cs).getLast?, Ended rest e := by
      intro e last
      obtain ⟨first, others, rfl, -⟩ := spelled.exists_cons
      rw [List.getLast?_append_of_ne_nil _ (List.cons_ne_nil first others)] at last
      exact .inr ⟨token, _, spelled, List.mem_of_getLast? last, ends⟩
    have passed : front.length + 1 + blanks.length + cs.length =
        (front ++ blanks ++ cs).length + 1 := by
      simp only [List.length_append]
      omega
    have later := ih (front ++ blanks ++ cs) passed behind
    rw [← further] at later
    apply Faithful.cons
    case more => rwa [taken]
    case late => exact Nat.le_add_right _ _
    case fits =>
      rw [taken]
      simp only [List.length_append]
      omega
    case spelled => rwa [taken]
    case begun =>
      intro e last
      rw [whole, here, Nat.add_sub_cancel, List.take_left] at last
      exact not_reachesBack_of_ended (before e last) spelled
    case blank =>
      intro i c reached notYet found
      change i + 1 < front.length + 1 + blanks.length at notYet
      rw [List.getElem?_append_right (by omega), List.getElem?_append_left (by omega)] at found
      exact spaces c (List.mem_of_getElem? found)

def joined (spellings gaps : List (List Char)) : List Char :=
  (List.zipWith (· ++ ·) ([] :: gaps) spellings).flatten

def IsGap (cs : List Char) : Prop := cs ≠ [] ∧ ∀ c ∈ cs, Text.isSpace c = true

theorem Token.not_takes_of_isSpace {token : Token} {c : Char} (h : Text.isSpace c = true) :
    token.takes c = false := by
  rw [← Bool.not_eq_true]
  intro goesOn
  simp [not_isSpace_of_isWordChar (isWordChar_of_takes goesOn).1] at h

theorem laid_of_gaps {ts : List Token} {spellings gaps : List (List Char)}
    (spelled : List.Forall₂ Token.SpelledBy ts spellings) (enough : ts.length ≤ gaps.length + 1)
    (apart : ∀ gap ∈ gaps, IsGap gap) (lead : List Char) (blank : ∀ c ∈ lead, Text.isSpace c = true)
    (column : Nat) :
    ∃ placed, placed.map Placed.token = ts ∧
      Laid column placed (List.zipWith (· ++ ·) (lead :: gaps) spellings).flatten := by
  induction spelled generalizing lead gaps column with
  | nil => exact ⟨[], rfl, .done (by simp)⟩
  | @cons token cs ts spellings here spelled ih =>
    cases gaps with
    | nil =>
      obtain rfl : ts = [] := List.eq_nil_of_length_eq_zero (by simpa using enough)
      cases spelled
      refine ⟨[⟨token, column + lead.length⟩], rfl, ?_⟩
      have ended : Laid (column + lead.length + cs.length) [] [] := .done (by simp)
      simpa using Laid.token blank here (by simp) ended
    | cons gap gaps =>
      obtain ⟨someGap, spaces⟩ := apart gap List.mem_cons_self
      obtain ⟨placed, rfl, laid⟩ := ih (Nat.le_of_succ_le_succ enough)
        (fun gap' held => apart gap' (List.mem_cons_of_mem gap held)) gap spaces
        (column + lead.length + cs.length)
      refine ⟨⟨token, column + lead.length⟩ :: placed, rfl, ?_⟩
      have ends : ∀ c ∈ (List.zipWith (· ++ ·) (gap :: gaps) spellings).flatten.head?,
          token.takes c = false := by
        intro c first
        cases spellings with
        | nil => cases first
        | cons next spellings =>
          obtain ⟨d, gap, rfl⟩ := List.exists_cons_of_ne_nil someGap
          cases first
          exact Token.not_takes_of_isSpace (spaces c List.mem_cons_self)
      simpa using Laid.token blank here ends laid

/-- The tokens that are read say what the text is; and tokens written with gaps between them are
read as they are, whichever of their spellings are used. -/
theorem tokenize_faithful :
    (∀ source ts, tokenize source = .ok ts → Faithful 1 ts source.toList) ∧
    (∀ token : Token, (∀ value, token = .integer value → value ≤ maxLiteral) →
      token.SpelledBy token.spelling) ∧
    ∀ (ts : List Token) (spellings gaps : List (List Char)),
      List.Forall₂ Token.SpelledBy ts spellings → ts.length ≤ gaps.length + 1 →
      (∀ gap ∈ gaps, IsGap gap) → ∃ placed,
        tokenize (String.ofList (joined spellings gaps)) = .ok placed ∧
        placed.map Placed.token = ts := by
  refine ⟨?_, fun token small => Token.spelledBy_spelling small, ?_⟩
  · intro source ts read
    exact (tokensFrom_eq_ok_iff.mp read).faithful [] rfl (by simp)
  · intro ts spellings gaps spelled enough apart
    obtain ⟨placed, named, laid⟩ := laid_of_gaps spelled enough apart [] (by simp) 1
    refine ⟨placed, ?_, named⟩
    rw [tokenize, String.toList_ofList, joined]
    exact tokensFrom_eq_ok_iff.mpr laid

def crowdedTokens : List Placed :=
  [⟨.year, 1⟩, ⟨.percent, 5⟩, ⟨.integer 400, 7⟩, ⟨.equal, 11⟩, ⟨.integer 2, 13⟩,
    ⟨.boolean true, 14⟩]

/-- A word may begin where a number ends, and a number with zeros. -/
theorem tokenize_faithful_crowded :
    tokenize "year%\u30000400==2true" = .ok crowdedTokens ∧
    Faithful 1 crowdedTokens "year%\u30000400==2true".toList ∧
    ∃ placed, tokenize (String.ofList (joined [['0', '7'], ['y', 'e', 'a', 'r']] [['\t', ' ']])) =
      .ok placed ∧ placed.map Placed.token = [.integer 7, .year] := by
  obtain ⟨image, -, readBack⟩ := tokenize_faithful
  have read : tokenize "year%\u30000400==2true" = .ok crowdedTokens := by decide +kernel
  have spelled : List.Forall₂ Token.SpelledBy [.integer 7, .year]
      [['0', '7'], ['y', 'e', 'a', 'r']] :=
    .cons ⟨by decide, List.all_eq_true.mp (by decide), by decide, by decide⟩ (.cons rfl .nil)
  have gaps : ∀ gap ∈ [['\t', ' ']], IsGap gap := by
    intro gap held
    obtain rfl := List.mem_singleton.mp held
    exact ⟨by decide, List.all_eq_true.mp (by decide)⟩
  exact ⟨read, image _ _ read, readBack _ _ _ spelled (by decide) gaps⟩

end Holidays.LeapRule
