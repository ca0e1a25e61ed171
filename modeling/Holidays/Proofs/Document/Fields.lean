import Holidays.Document.RuleJson
import Holidays.Proofs.Civil.DateText

namespace Holidays.Json

section Scalars

@[simp] theorem asString_str (s : String) : asString (.str s) = some s := rfl

@[simp] theorem asBool_bool (b : Bool) : asBool (.bool b) = some b := rfl

@[simp] theorem asMembers_obj (ms : Members) : asMembers (.obj ms) = some ms := rfl

@[simp] theorem asUInt32_ofUInt32 (n : UInt32) : asUInt32 (ofUInt32 n) = some n := by
  have small := n.toNat_lt
  have fits : (0 : Int) ≤ n.toNat ∧ (n.toNat : Int) < 4294967296 := by omega
  simp [asUInt32, ofUInt32, fits.2]

@[simp] theorem asInt32_ofInt32 (n : Int32) : asInt32 (ofInt32 n) = some n := by
  have low := n.le_toInt
  have high := n.toInt_lt
  have fits : Fits32 n.toInt := ⟨low, by omega⟩
  simp [asInt32, ofInt32, fits]

@[simp] theorem asInt64_ofInt64 (n : Int64) : asInt64 (ofInt64 n) = some n := by
  have low := n.le_toInt
  have high := n.toInt_lt
  have fits : Fits64 n.toInt := ⟨low, by omega⟩
  simp [asInt64, ofInt64, fits]

@[simp] theorem asDate_ofDate (d : Date) : asDate (ofDate d) = some d := d.ofText?_text

@[simp] theorem asWeekday_ofWeekday (d : Weekday) : asWeekday (ofWeekday d) = some d :=
  d.ofText?_shortName

theorem asOneOf_text {α : Type} {values : List α} {text : α → String} {a : α}
    (listed : a ∈ values) (distinct : (values.map text).Nodup) (spelling : Spelling) :
    asOneOf values text spelling (.str (text a)) = some a := by
  have here : (values.find? (text · == text a)).isSome = true :=
    List.find?_isSome.mpr ⟨a, listed, beq_self_eq_true _⟩
  obtain ⟨b, found⟩ := Option.isSome_iff_exists.mp here
  have same : text b = text a := by simpa using List.find?_some found
  have only_one : b = a :=
    List.inj_on_of_nodup_map distinct (List.mem_of_find?_eq_some found) listed same
  rw [asOneOf, found, only_one]

@[simp] theorem asTag_str {names : List String} {name : String} (listed : name ∈ names)
    (spelling : Spelling) : asTag spelling names (.str name) = some name := by
  simp [asTag, listed]

end Scalars

/-- `read` takes back whatever `write` made, and that is never null. -/
structure Inverse {α : Type} (write : α → Json) (read : Json → Option α) : Prop where
  back (a : α) : read (write a) = some a
  ne_null (a : α) : write a ≠ .null

theorem inverse_str : Inverse Json.str asString := ⟨asString_str, nofun⟩

theorem inverse_bool : Inverse Json.bool asBool := ⟨asBool_bool, nofun⟩

theorem inverse_uint32 : Inverse ofUInt32 asUInt32 := ⟨asUInt32_ofUInt32, nofun⟩

theorem inverse_int32 : Inverse ofInt32 asInt32 := ⟨asInt32_ofInt32, nofun⟩

theorem inverse_int64 : Inverse ofInt64 asInt64 := ⟨asInt64_ofInt64, nofun⟩

theorem inverse_weekday : Inverse ofWeekday asWeekday := ⟨asWeekday_ofWeekday, nofun⟩

section Lists

variable {α β : Type} {write : α → Json} {read : Json → Option α}

theorem mapM_map_of_back {f : α → β} {g : β → Option α} (back : ∀ a, g (f a) = some a)
    (as : List α) : (as.map f).mapM g = some as := by
  induction as with
  | nil => rfl
  | cons a as ih => simp [back a, ih]

@[simp] theorem asList_ofList (inverse : Inverse write read) (as : List α) :
    asList read (ofList write as) = some as :=
  mapM_map_of_back inverse.back as

end Lists

section OneValue

variable {α : Type} {names : List String} {name : String} {ms : Members} {write : α → Json}

-- A rewriting proof and not `rfl`, for simp is to use it under the conditions of the laws below.
@[simp] theorem only_nil : only names [] = some none := by
  simp only [only, List.filter_nil]

@[simp] theorem only_cons_of_notMem {j : Json} (other : name ∉ names) :
    only names ((name, j) :: ms) = only names ms := by
  simp [only, other]

@[simp] theorem only_cons_of_mem {j : Json} (asked : name ∈ names)
    (once : only names ms = some none) : only names ((name, j) :: ms) = some (some j) := by
  have rest : ms.filter (fun m => names.contains m.1) = [] := by
    unfold only at once
    split at once
    · assumption
    · cases once
    · cases once
  have here : ((name, j) :: ms).filter (fun m => names.contains m.1) = [(name, j)] := by
    rw [List.filter_cons, rest]
    simp [asked]
  rw [only, here]

@[simp] theorem only_ofOption_append_of_notMem {a : Option α} (other : name ∉ names) :
    only names (ofOption name write a ++ ms) = only names ms := by
  cases a with
  | none => rfl
  | some a => exact only_cons_of_notMem other

@[simp] theorem only_ofOption_append_of_mem {a : Option α} (asked : name ∈ names)
    (once : only names ms = some none) :
    only names (ofOption name write a ++ ms) = some (a.map write) := by
  cases a with
  | none => exact once
  | some a => exact only_cons_of_mem asked once

@[simp] theorem only_ofOption_of_notMem {a : Option α} (other : name ∉ names) :
    only names (ofOption name write a) = some none := by
  rw [← List.append_nil (ofOption name write a), only_ofOption_append_of_notMem other, only_nil]

@[simp] theorem only_ofOption_of_mem {a : Option α} (asked : name ∈ names) :
    only names (ofOption name write a) = some (a.map write) := by
  rw [← List.append_nil (ofOption name write a), only_ofOption_append_of_mem asked only_nil]

end OneValue

section Fields

variable {α : Type} {names : List String} {ms : Members} {write : α → Json}
  {read : Json → Option α}

@[simp] theorem required_eq_bind :
    required names read ms = (only names ms).bind fun given => given.bind read := by
  simp only [required, Option.bind_eq_bind]

@[simp] theorem withDefault_eq_bind {other : α} : withDefault names other read ms =
    (only names ms).bind fun given => given.elim (some other) read := by
  cases given : only names ms with
  | none => simp [withDefault, given]
  | some j => cases j <;> simp [withDefault, given]

def orAbsent (read : Json → Option α) : Option Json → Option (Option α)
  | none => some none
  | some .null => some none
  | some j => (read j).map some

@[simp] theorem optional_eq_bind :
    optional names read ms = (only names ms).bind (orAbsent read) := by
  simp only [optional, Option.bind_eq_bind]
  rfl

@[simp] theorem orAbsent_map (inverse : Inverse write read) (a : Option α) :
    orAbsent read (a.map write) = some a := by
  cases a with
  | none => rfl
  | some a =>
    have value : write a ≠ .null := inverse.ne_null a
    have plain : orAbsent read (some (write a)) = (read (write a)).map some := by
      unfold orAbsent
      grind
    rw [Option.map_some, plain, inverse.back]
    rfl

@[simp] theorem orAbsent_orNull (inverse : Inverse write read) (a : Option α) :
    orAbsent read (some (orNull write a)) = some a := by
  cases a with
  | none => rfl
  | some a => exact orAbsent_map inverse (some a)

end Fields

end Holidays.Json
