import Holidays.Json.Reader
import Holidays.Json.Writer

/-!
JSON text that was written is read back. Strings are read back whatever characters they hold, since
each character is written so that it is read as itself. The layouts differ only in blanks, which the
reader passes over, so a value without numbers is what both of its texts are read as.
-/
namespace Holidays.Json

open Text (Rest Reader)

def found {α : Type} {cs : List Char} (result : Option (α × Rest cs)) : Option (α × List Char) :=
  result.map fun (a, rest) => (a, rest.val)

section Strings

theorem hexNumber?_hexDigit : ∀ n < 32,
    Text.hexNumber? ['0', '0', hexDigit (n / 16), hexDigit (n % 16)] = some n := by decide

theorem stringChars_escape (taken : List Char) (c : Char) (cs : List Char) :
    stringChars taken (escape c ++ cs) = stringChars (c :: taken) cs := by
  unfold escape
  split
  case h_1 | h_2 | h_3 | h_4 | h_5 | h_6 | h_7 =>
    simp only [List.cons_append, List.nil_append]
    rw [stringChars]
    · rfl
    · simp
  case h_8 =>
    split
    · next low =>
      have small : ¬ (0xD800 ≤ c.toNat ∧ c.toNat < 0xDC00) ∧
          ¬ (0xDC00 ≤ c.toNat ∧ c.toNat < 0xE000) := by omega
      simp only [List.cons_append, List.nil_append]
      rw [stringChars, hexNumber?_hexDigit c.toNat low]
      simp only [if_neg small.1, if_neg small.2, Char.ofNat_toNat]
    · next high =>
      simp only [List.cons_append, List.nil_append]
      rw [stringChars, if_neg high]
      all_goals simp_all

theorem stringChars_quoted (taken : List Char) (s rest : List Char) :
    stringChars taken (s.flatMap escape ++ '"' :: rest) = some (taken.reverse ++ s, rest) := by
  induction s generalizing taken with
  | nil => simp [stringChars]
  | cons c s ih =>
    rw [List.flatMap_cons, List.append_assoc, stringChars_escape, ih, List.reverse_cons,
      List.append_assoc, List.singleton_append]

theorem found_string (s : String) (rest : List Char) :
    found (string (s.toList.flatMap escape ++ '"' :: rest)) = some (s, rest) := by
  have read := stringChars_quoted [] s.toList rest
  unfold string
  split
  · next none => simp [none] at read
  · next chars left some =>
    rw [some] at read
    cases read
    simp [found]

end Strings

section Blanks

def IsBlanks (cs : List Char) : Prop := ∀ c ∈ cs, isBlank c = true

theorem dropBlanks_append {blanks : List Char} (blank : IsBlanks blanks) (cs : List Char) :
    dropBlanks (blanks ++ cs) = dropBlanks cs := by
  rw [dropBlanks, List.dropWhile_append_of_pos blank, dropBlanks]

theorem dropBlanks_cons {c : Char} (visible : isBlank c = false) (cs : List Char) :
    dropBlanks (c :: cs) = c :: cs := by
  simp [dropBlanks, visible]

theorem dropBlanks_to {blanks : List Char} (blank : IsBlanks blanks) {c : Char}
    (visible : isBlank c = false) (cs : List Char) : dropBlanks (blanks ++ c :: cs) = c :: cs := by
  rw [dropBlanks_append blank, dropBlanks_cons visible]

structure Layout.Blank (layout : Layout) : Prop where
  newline (depth : Nat) : IsBlanks (layout.newline depth)
  colon : ∃ blanks, IsBlanks blanks ∧ layout.colon = ':' :: blanks

theorem Layout.blank_compact : Layout.compact.Blank where
  newline _ := by simp [IsBlanks, compact]
  colon := ⟨[], by simp [IsBlanks], rfl⟩

theorem Layout.blank_pretty : Layout.pretty.Blank where
  newline depth := by
    intro c held
    rcases List.mem_cons.mp held with rfl | indented
    · rfl
    · rw [List.eq_of_mem_replicate indented]
      rfl
  colon := ⟨[' '], by simp [IsBlanks, isBlank], rfl⟩

end Blanks

section Readers

variable {item : Reader Json} {cs body rest after left : List Char} {j : Json} {js : List Json}
  {name : String} {ms : List (String × Json)}

theorem quoted_append (s : String) (rest : List Char) :
    quoted s ++ rest = '"' :: (s.toList.flatMap escape ++ '"' :: rest) := by
  simp [quoted]

theorem found_items_last (read : found (item cs) = some (j, rest))
    (closed : dropBlanks rest = ']' :: after) : found (items item cs) = some ([j], after) := by
  obtain ⟨⟨_, _, less⟩, here, same⟩ := Option.map_eq_some_iff.mp read
  cases same
  rw [items, here]
  simp only
  split
  · next close =>
    rw [closed] at close
    cases close
    rfl
  · next comma =>
    rw [closed] at comma
    cases comma
  · next other _ => exact absurd closed (other _)

theorem found_items_next (read : found (item cs) = some (j, rest))
    (goesOn : dropBlanks rest = ',' :: after)
    (others : found (items item after) = some (js, left)) :
    found (items item cs) = some (j :: js, left) := by
  obtain ⟨⟨_, _, less⟩, here, same⟩ := Option.map_eq_some_iff.mp read
  cases same
  obtain ⟨⟨_, _, fewer⟩, next, same⟩ := Option.map_eq_some_iff.mp others
  cases same
  rw [items, here]
  simp only
  split
  · next close =>
    rw [goesOn] at close
    cases close
  · next comma =>
    rw [goesOn] at comma
    cases comma
    rw [next]
    rfl
  · next other => exact absurd goesOn (other _)

theorem found_memberName (opened : dropBlanks cs = '"' :: body)
    (read : found (string body) = some (name, rest)) (colon : dropBlanks rest = ':' :: left) :
    found (memberName cs) = some (name, left) := by
  obtain ⟨⟨_, _, less⟩, here, same⟩ := Option.map_eq_some_iff.mp read
  cases same
  unfold memberName
  split
  · next quote =>
    rw [opened] at quote
    cases quote
    rw [here]
    simp only
    split
    · next mark =>
      rw [colon] at mark
      cases mark
      rfl
    · next other => exact absurd colon (other _)
  · next other => exact absurd opened (other _)

theorem found_members_last (named : found (memberName cs) = some (name, body))
    (read : found (item body) = some (j, rest)) (closed : dropBlanks rest = '\x7d' :: after) :
    found (members item cs) = some ([(name, j)], after) := by
  obtain ⟨⟨_, _, less⟩, front, same⟩ := Option.map_eq_some_iff.mp named
  cases same
  obtain ⟨⟨_, _, less⟩, here, same⟩ := Option.map_eq_some_iff.mp read
  cases same
  rw [members, front]
  simp only [here]
  split
  · next close =>
    rw [closed] at close
    cases close
    rfl
  · next comma =>
    rw [closed] at comma
    cases comma
  · next other _ => exact absurd closed (other _)

theorem found_members_next (named : found (memberName cs) = some (name, body))
    (read : found (item body) = some (j, rest)) (goesOn : dropBlanks rest = ',' :: after)
    (others : found (members item after) = some (ms, left)) :
    found (members item cs) = some ((name, j) :: ms, left) := by
  obtain ⟨⟨_, _, less⟩, front, same⟩ := Option.map_eq_some_iff.mp named
  cases same
  obtain ⟨⟨_, _, less⟩, here, same⟩ := Option.map_eq_some_iff.mp read
  cases same
  obtain ⟨⟨_, _, fewer⟩, next, same⟩ := Option.map_eq_some_iff.mp others
  cases same
  rw [members, front]
  simp only [here]
  split
  · next close =>
    rw [goesOn] at close
    cases close
  · next comma =>
    rw [goesOn] at comma
    cases comma
    rw [next]
    rfl
  · next other => exact absurd goesOn (other _)

theorem found_spaced {inner : Option (Reader Json)} {c : Char}
    (begins : dropBlanks cs = c :: rest) :
    found (spaced inner cs) = found (Json.body inner c rest) := by
  unfold spaced
  split
  · next none =>
    rw [begins] at none
    cases none
  · next same =>
    rw [begins] at same
    cases same
    cases Json.body inner c rest <;> rfl

theorem found_body_str (inner : Option (Reader Json))
    (read : found (string cs) = some (name, rest)) :
    found (Json.body inner '"' cs) = some (.str name, rest) := by
  obtain ⟨⟨_, _, less⟩, here, same⟩ := Option.map_eq_some_iff.mp read
  cases same
  simp [Json.body, here, found]

theorem found_body_noItems (closed : dropBlanks rest = ']' :: left) :
    found (Json.body (some item) '[' rest) = some (.arr [], left) := by
  simp only [Json.body]
  split
  · next close =>
    rw [closed] at close
    cases close
    rfl
  · next other => exact absurd closed (other _)

theorem found_body_items (opened : ∀ left, dropBlanks rest ≠ ']' :: left)
    (read : found (items item rest) = some (js, left)) :
    found (Json.body (some item) '[' rest) = some (.arr js, left) := by
  obtain ⟨⟨_, _, less⟩, here, same⟩ := Option.map_eq_some_iff.mp read
  cases same
  simp only [Json.body]
  rw [here]
  rfl

theorem found_body_noMembers (closed : dropBlanks rest = '\x7d' :: left) :
    found (Json.body (some item) '\x7b' rest) = some (.obj [], left) := by
  simp only [Json.body]
  split
  · next close =>
    rw [closed] at close
    cases close
    rfl
  · next other => exact absurd closed (other _)

theorem found_body_members (opened : ∀ left, dropBlanks rest ≠ '\x7d' :: left)
    (read : found (members item rest) = some (ms, left)) :
    found (Json.body (some item) '\x7b' rest) = some (.obj ms, left) := by
  obtain ⟨⟨_, _, less⟩, here, same⟩ := Option.map_eq_some_iff.mp read
  cases same
  simp only [Json.body]
  rw [here]
  rfl

end Readers

/-- Values without numbers, whose containers nest at most so many deep. -/
inductive Plain : Nat → Json → Prop where
  | null {depth : Nat} : Plain depth .null
  | bool {depth : Nat} (value : Bool) : Plain depth (.bool value)
  | str {depth : Nat} (value : String) : Plain depth (.str value)
  | arr {depth : Nat} {items : List Json} (plain : ∀ j ∈ items, Plain depth j) :
      Plain (depth + 1) (.arr items)
  | obj {depth : Nat} {members : List (String × Json)} (plain : ∀ m ∈ members, Plain depth m.2) :
      Plain (depth + 1) (.obj members)

section Layouts

variable {layout : Layout} {depth level : Nat} {blanks : List Char} {item : Reader Json} {j : Json}

theorem Plain.starts (h : Plain depth j) (layout : Layout) (level : Nat) :
    ∃ c cs, chars layout level j = c :: cs ∧ isBlank c = false ∧ c ≠ ']' := by
  cases h with
  | null => exact ⟨_, _, by rw [chars], by decide, by decide⟩
  | bool value => cases value <;> exact ⟨_, _, by rw [chars], by decide, by decide⟩
  | str value => exact ⟨_, _, by rw [chars, quoted], by decide, by decide⟩
  | @arr _ items _ => cases items <;> exact ⟨_, _, by rw [chars], by decide, by decide⟩
  | @obj _ members _ => cases members <;> exact ⟨_, _, by rw [chars], by decide, by decide⟩

theorem arr_append (layout : Layout) (level : Nat) (j : Json) (items : List Json)
    (rest : List Char) : chars layout level (.arr (j :: items)) ++ rest =
      '[' :: (layout.newline (level + 1) ++ (chars layout (level + 1) j ++
        (itemChars layout (level + 1) items ++ (layout.newline level ++ ']' :: rest)))) := by
  simp [chars]

theorem obj_append (layout : Layout) (level : Nat) (name : String) (j : Json)
    (members : List (String × Json)) (rest : List Char) :
    chars layout level (.obj ((name, j) :: members)) ++ rest =
      '\x7b' :: (layout.newline (level + 1) ++ (quoted name ++ (layout.colon ++
        (chars layout (level + 1) j ++ (memberChars layout (level + 1) members ++
          (layout.newline level ++ '\x7d' :: rest)))))) := by
  simp [chars]

/-- The reader takes the text of a value from the front, with blanks before it. -/
def TakesBack (item : Reader Json) (layout : Layout) (level : Nat) (j : Json) : Prop :=
  ∀ blanks rest, IsBlanks blanks →
    found (item (blanks ++ (chars layout level j ++ rest))) = some (j, rest)

theorem found_items (blank : layout.Blank) (outer : Nat) (rest : List Char) (others : List Json)
    (read : ∀ k ∈ j :: others, TakesBack item layout level k) :
    found (items item (layout.newline level ++ (chars layout level j ++
      (itemChars layout level others ++ (layout.newline outer ++ ']' :: rest))))) =
        some (j :: others, rest) := by
  induction others generalizing j with
  | nil =>
    apply found_items_last (read j List.mem_cons_self _ _ (blank.newline level))
    rw [itemChars, List.nil_append, dropBlanks_to (blank.newline outer) (by decide)]
  | cons k others ih =>
    have next := ih (j := k) fun k' held => read k' (List.mem_cons_of_mem j held)
    refine found_items_next (read j List.mem_cons_self _ _ (blank.newline level)) ?_ next
    rw [itemChars, List.cons_append, dropBlanks_cons (by decide)]
    simp only [List.append_assoc]

theorem found_memberName_quoted (blank : layout.Blank) (level : Nat) (name : String)
    (rest : List Char) :
    ∃ blanks, IsBlanks blanks ∧ found (memberName (layout.newline level ++ (quoted name ++
      (layout.colon ++ rest)))) = some (name, blanks ++ rest) := by
  obtain ⟨blanks, spaces, colon⟩ := blank.colon
  refine ⟨blanks, spaces, ?_⟩
  rw [quoted_append]
  refine found_memberName (dropBlanks_to (blank.newline level) (by decide) _)
    (found_string name _) ?_
  rw [colon, List.cons_append, dropBlanks_cons (by decide)]

theorem found_members (blank : layout.Blank) (outer : Nat) (rest : List Char) (name : String)
    (others : List (String × Json))
    (read : ∀ m ∈ (name, j) :: others, TakesBack item layout level m.2) :
    found (members item (layout.newline level ++ (quoted name ++ (layout.colon ++
      (chars layout level j ++
        (memberChars layout level others ++ (layout.newline outer ++ '\x7d' :: rest))))))) =
          some ((name, j) :: others, rest) := by
  induction others generalizing name j with
  | nil =>
    obtain ⟨blanks, spaces, named⟩ := found_memberName_quoted blank level name
      (chars layout level j ++ (layout.newline outer ++ '\x7d' :: rest))
    rw [memberChars, List.nil_append]
    refine found_members_last named (read _ List.mem_cons_self _ _ spaces) ?_
    rw [dropBlanks_to (blank.newline outer) (by decide)]
  | cons m others ih =>
    obtain ⟨name', k⟩ := m
    have next := ih name' (j := k) fun m held => read m (List.mem_cons_of_mem _ held)
    obtain ⟨blanks, spaces, named⟩ := found_memberName_quoted blank level name
      (chars layout level j ++ (memberChars layout level ((name', k) :: others) ++
        (layout.newline outer ++ '\x7d' :: rest)))
    refine found_members_next named (read _ List.mem_cons_self _ _ spaces) ?_ next
    rw [memberChars, List.cons_append, dropBlanks_cons (by decide)]
    simp only [List.append_assoc]

/-- What is inside a container is read first; the reader for it stands one level further in. -/
theorem Plain.takesBack (h : Plain depth j) (blank : layout.Blank) (level : Nat) :
    TakesBack (value depth) layout level j := by
  have outer (depth : Nat) : ∃ inner, value depth = spaced inner := by
    cases depth <;> exact ⟨_, rfl⟩
  induction h generalizing level with
  | @null depth =>
    intro blanks rest spaces
    obtain ⟨inner, same⟩ := outer depth
    rw [same, chars, List.cons_append, found_spaced (dropBlanks_to spaces (by decide) _)]
    simp [body, word, found]
  | @bool depth value =>
    intro blanks rest spaces
    obtain ⟨inner, same⟩ := outer depth
    cases value <;>
      rw [same, chars, List.cons_append, found_spaced (dropBlanks_to spaces (by decide) _)] <;>
      simp [body, word, found]
  | @str depth s =>
    intro blanks rest spaces
    obtain ⟨inner, same⟩ := outer depth
    rw [same, chars, quoted_append, found_spaced (dropBlanks_to spaces (by decide) _)]
    exact found_body_str inner (found_string s rest)
  | @arr depth items plain ih =>
    intro blanks rest spaces
    cases items with
    | nil =>
      rw [chars, List.cons_append, value, found_spaced (dropBlanks_to spaces (by decide) _)]
      exact found_body_noItems (dropBlanks_cons (by decide) rest)
    | cons j items =>
      rw [arr_append, value, found_spaced (dropBlanks_to spaces (by decide) _)]
      apply found_body_items _
        (found_items blank level rest items fun k held => ih k held (level + 1))
      intro left
      obtain ⟨c, cs, begins, visible, other⟩ :=
        (plain j List.mem_cons_self).starts layout (level + 1)
      rw [begins, List.cons_append, dropBlanks_to (blank.newline _) visible]
      exact fun same => other (List.cons.inj same).1
  | @obj depth members plain ih =>
    intro blanks rest spaces
    cases members with
    | nil =>
      rw [chars, List.cons_append, value, found_spaced (dropBlanks_to spaces (by decide) _)]
      exact found_body_noMembers (dropBlanks_cons (by decide) rest)
    | cons m members =>
      obtain ⟨name, j⟩ := m
      rw [obj_append, value, found_spaced (dropBlanks_to spaces (by decide) _)]
      apply found_body_members _
        (found_members blank level rest name members fun m held => ih m held (level + 1))
      intro left
      rw [quoted_append, dropBlanks_to (blank.newline _) (by decide)]
      exact fun same => absurd (List.cons.inj same).1 (by decide)

end Layouts

theorem read?_of_found {text : String} {j : Json}
    (h : found (value maxDepth text.toList) = some (j, [])) : read? text = some j := by
  obtain ⟨⟨_, _, less⟩, here, same⟩ := Option.map_eq_some_iff.mp h
  cases same
  unfold read?
  split
  · next none =>
    rw [here] at none
    cases none
  · next some =>
    rw [here] at some
    cases some
    rfl

theorem Plain.read?_chars {layout : Layout} {j : Json} (h : Plain maxDepth j)
    (blank : layout.Blank) : read? (String.ofList (chars layout 0 j)) = some j := by
  apply read?_of_found
  have taken := h.takesBack blank 0 [] [] (by simp [IsBlanks])
  rwa [List.nil_append, List.append_nil, ← String.toList_ofList (l := chars layout 0 j)] at taken

end Holidays.Json
