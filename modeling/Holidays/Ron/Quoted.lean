import Holidays.Text.Reader

namespace Holidays.Ron

open Text (Rest Reader)

def byteOf? (a b : Char) : Option UInt8 := (Text.hexNumber? [a, b]).map UInt8.ofNat

def charOfBytes? (bytes : List UInt8) : Option Char :=
  match (String.fromUTF8? ⟨bytes.toArray⟩).map String.toList with
  | some [c] => some c
  | _ => none

/-- A character written as the bytes `\xHH` of its UTF-8, of which the last one has been read;
`more` bytes may follow. -/
def escapedBytes? (more : Nat) (bytes : List UInt8) (cs : List Char) : Option (Char × List Char) :=
  match charOfBytes? bytes.reverse with
  | some c => some (c, cs)
  | none =>
    match more, cs with
    | more + 1, '\\' :: 'x' :: a :: b :: rest =>
      (byteOf? a b).bind fun byte => escapedBytes? more (byte :: bytes) rest
    | _, _ => none

def escapedPoint? (cs : List Char) : Option (Char × List Char) :=
  match cs with
  | '\x7b' :: rest =>
    let digits := rest.takeWhile (· ≠ '\x7d')
    if digits = [] ∨ 6 < digits.length ∨ digits.length = rest.length then none
    else (Text.hexChar? digits).map fun c => (c, rest.drop (digits.length + 1))
  | _ => none

def shortEscape? (c : Char) : Option Char :=
  match c with
  | '\'' => some '\''
  | '"' => some '"'
  | '\\' => some '\\'
  | 'n' => some '\n'
  | 'r' => some '\r'
  | 't' => some '\t'
  | '0' => some '\x00'
  | _ => none

/-- The character that an escape stands for, its backslash read already. Up to `more` bytes may
follow a first one. -/
def escape? (more : Nat) (cs : List Char) : Option (Char × List Char) :=
  match cs with
  | 'x' :: a :: b :: rest => (byteOf? a b).bind fun byte => escapedBytes? more [byte] rest
  | 'u' :: rest => escapedPoint? rest
  | c :: rest => (shortEscape? c).map fun found => (found, rest)
  | [] => none

def byteEscape? (cs : List Char) : Option (UInt8 × List Char) :=
  match cs with
  | 'x' :: a :: b :: rest => (byteOf? a b).map fun byte => (byte, rest)
  | c :: rest => (shortEscape? c).map fun found => (UInt8.ofNat found.toNat, rest)
  | [] => none

theorem length_le_of_escapedBytes {more : Nat} {bytes : List UInt8} {cs rest : List Char} {c : Char}
    (h : escapedBytes? more bytes cs = some (c, rest)) : rest.length ≤ cs.length := by
  fun_induction escapedBytes? more bytes cs with
  | case1 => simp_all
  | case2 bytes _ more a b left ih =>
    obtain ⟨byte, _, hb⟩ := Option.bind_eq_some_iff.1 h
    have := ih byte hb
    simp only [List.length_cons]
    omega
  | case3 => simp at h

theorem length_lt_of_escapedPoint {cs rest : List Char} {c : Char}
    (h : escapedPoint? cs = some (c, rest)) : rest.length < cs.length := by
  unfold escapedPoint? at h
  split at h
  · dsimp only at h
    split at h
    · simp at h
    · obtain ⟨_, _, e⟩ := Option.map_eq_some_iff.1 h
      obtain ⟨-, rfl⟩ := Prod.mk.inj e
      rw [List.length_drop, List.length_cons]
      omega
  · simp at h

theorem length_lt_of_escape {more : Nat} {cs rest : List Char} {c : Char}
    (h : escape? more cs = some (c, rest)) : rest.length < cs.length := by
  unfold escape? at h
  split at h
  · obtain ⟨byte, _, hb⟩ := Option.bind_eq_some_iff.1 h
    have := length_le_of_escapedBytes hb
    simp only [List.length_cons]
    omega
  · exact Nat.lt_succ_of_lt (length_lt_of_escapedPoint h)
  · grind [Option.map_eq_some_iff]
  · simp at h

theorem length_lt_of_byteEscape {cs rest : List Char} {byte : UInt8}
    (h : byteEscape? cs = some (byte, rest)) : rest.length < cs.length := by
  unfold byteEscape? at h
  split at h <;> grind [Option.map_eq_some_iff]

def stringChars (taken cs : List Char) : Option (List Char × List Char) :=
  match cs with
  | [] => none
  | c :: rest =>
    if c = '"' then some (taken.reverse, rest)
    else if c = '\\' then
      match h : escape? 3 rest with
      | none => none
      | some (found, left) =>
        have := length_lt_of_escape h
        stringChars (found :: taken) left
    else stringChars (c :: taken) rest
termination_by cs.length

theorem length_lt_of_stringChars {taken cs found rest : List Char}
    (h : stringChars taken cs = some (found, rest)) : rest.length < cs.length := by
  fun_induction stringChars taken cs <;> grind

def stringBytes (taken : ByteArray) (cs : List Char) : Option (ByteArray × List Char) :=
  match cs with
  | [] => none
  | c :: rest =>
    if c = '"' then some (taken, rest)
    else if c = '\\' then
      match h : byteEscape? rest with
      | none => none
      | some (found, left) =>
        have := length_lt_of_byteEscape h
        stringBytes (taken.push found) left
    else stringBytes (taken ++ (String.singleton c).toUTF8) rest
termination_by cs.length

theorem length_lt_of_stringBytes {taken found : ByteArray} {cs rest : List Char}
    (h : stringBytes taken cs = some (found, rest)) : rest.length < cs.length := by
  fun_induction stringBytes taken cs <;> grind

def rawChars (hashes : List Char) (taken : List Char) : List Char → Option (List Char × List Char)
  | [] => none
  | c :: rest =>
    if c = '"' ∧ hashes.isPrefixOf rest then some (taken.reverse, rest.drop hashes.length)
    else rawChars hashes (c :: taken) rest

theorem length_lt_of_rawChars {hashes taken cs found rest : List Char}
    (h : rawChars hashes taken cs = some (found, rest)) : rest.length < cs.length := by
  fun_induction rawChars hashes taken cs <;> grind

def raw : Reader String := fun cs =>
  let hashes := cs.takeWhile (· = '#')
  match before : cs.drop hashes.length with
  | '"' :: rest =>
    match h : rawChars hashes [] rest with
    | none => none
    | some (found, left) => some (String.ofList found, ⟨left, by
        have less := length_lt_of_rawChars h
        have whole := congrArg List.length before
        rw [List.length_drop, List.length_cons] at whole
        omega⟩)
  | _ => none

def string : Reader String
  | '"' :: rest =>
    match h : stringChars [] rest with
    | none => none
    | some (found, left) => some (String.ofList found, ⟨left, by
        have := length_lt_of_stringChars h; rw [List.length_cons]; omega⟩)
  | 'r' :: rest => (raw rest).map fun (s, ⟨left, less⟩) => (s, ⟨left, Nat.lt_succ_of_lt less⟩)
  | _ => none

def bytes : Reader String
  | 'b' :: '"' :: rest =>
    match h : stringBytes .empty rest with
    | none => none
    | some (found, left) => (String.fromUTF8? found).map fun s => (s, ⟨left, by
        have := length_lt_of_stringBytes h; simp only [List.length_cons]; omega⟩)
  | 'b' :: 'r' :: rest => (raw rest).map fun (s, ⟨left, less⟩) =>
      (s, ⟨left, Nat.lt_succ_of_lt (Nat.lt_succ_of_lt less)⟩)
  | _ => none

def character : Reader String
  | '\'' :: '\\' :: rest =>
    match h : escape? 0 rest with
    | none => none
    | some (c, left) =>
      have less := length_lt_of_escape h
      match left with
      | '\'' :: left => some (String.singleton c, ⟨left, by
          simp only [List.length_cons] at *; omega⟩)
      | _ => none
  | '\'' :: c :: '\'' :: rest => some (String.singleton c, ⟨rest, by
      simp only [List.length_cons]; omega⟩)
  | _ => none

def quoted : Reader String := fun cs => string cs <|> (bytes cs <|> character cs)

end Holidays.Ron
