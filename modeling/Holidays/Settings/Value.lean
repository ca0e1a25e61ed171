import Holidays.Civil.DateText
import Holidays.Keyed
import Holidays.Settings.Path
import Holidays.Width

namespace Holidays

inductive Setting where
  /-- Stands where a list was made longer and nothing put. -/
  | absent
  | flag (value : Bool)
  | integer (value : Int)
  | number (value : Number)
  | text (value : String)
  | list (items : List Setting)
  | table (entries : List (String × Setting))

namespace Setting

def empty : Setting := .table []

/-- The last value of a repeated name counts. -/
def tableOf (entries : List (String × Setting)) : Setting :=
  .table (Keyed.putAll Prod.fst [] entries)

def entries : Setting → List (String × Setting)
  | .table entries => entries
  | _ => []

def items : Setting → List Setting
  | .list items => items
  | _ => []

def entry? (name : String) (s : Setting) : Option Setting :=
  (Keyed.find? Prod.fst name s.entries).map Prod.snd

def withEntry (s : Setting) (name : String) (value : Setting) : Setting :=
  .table (Keyed.put Prod.fst (name, value) s.entries)

mutual

/-- One setting put over another: a table adds its entries to those of a table, and any other value
takes the place of what was there. -/
def merge (s : Setting) : Setting → Setting
  | .table entries => mergeAll (.table s.entries) entries
  | value => value

def mergeAll (s : Setting) : List (String × Setting) → Setting
  | [] => s
  | (name, value) :: rest =>
    mergeAll (s.withEntry name (merge ((s.entry? name).getD .absent) value)) rest

end

def room (items : List Setting) (index : Int) : List Setting × Nat :=
  if 0 ≤ index then
    (items ++ List.replicate (index.toNat + 1 - items.length) .absent, index.toNat)
  else
    (List.replicate ((-index).toNat - items.length) .absent ++ items,
      items.length - (-index).toNat)

def changeAt (change : Setting → Setting) : SettingPath → Setting → Setting
  | [], s => change s
  | .name name :: path, s =>
    s.withEntry name (changeAt change path ((s.entry? name).getD .absent))
  | .place index :: path, s =>
    .list ((room s.items index).1.modify (room s.items index).2 (changeAt change path))

def overlay (s : Setting) (source : List (String × Setting)) : Setting :=
  source.foldl (fun s (name, value) => changeAt (merge · value) (SettingPath.ofText name) s) s

/-- A word that looks like a flag or a number is taken for one. -/
def ofWord (word : String) : Setting :=
  match word.toList.map Char.toLower with
  | ['t', 'r', 'u', 'e'] => .flag true
  | ['f', 'a', 'l', 's', 'e'] => .flag false
  | cs =>
    match Number.integer? 10 cs with
    | some n => .integer n
    | none => ((Number.ofChars? cs).map .number).getD (.text word)

def asText? : Setting → Option String
  | .flag value => some (if value then "true" else "false")
  | .integer value => some (Text.integer value)
  | .number value => some value.text
  | .text value => some value
  | .absent | .list _ | .table _ => none

def asFlag? : Setting → Option Bool
  | .flag value => some value
  | .integer value => some (value ≠ 0)
  | .number value => some (!value.isZero)
  | .text value =>
    let word := value.toLower
    if word ∈ ["1", "true", "on", "yes"] then some true
    else if word ∈ ["0", "false", "off", "no"] then some false
    else none
  | .absent | .list _ | .table _ => none

def asDate? (s : Setting) : Option Date := s.asText?.bind Date.ofText?

/-- A field of a section by its name; a section may also be the list of its fields in order. -/
def field? (position : Nat) (name : String) : Setting → Option Setting
  | .table entries => (Keyed.find? Prod.fst name entries).map Prod.snd
  | .list items => items[position]?
  | _ => none

end Setting

end Holidays
