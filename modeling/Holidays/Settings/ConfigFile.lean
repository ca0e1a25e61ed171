import Holidays.Ini.Reader
import Holidays.Json.Reader
import Holidays.Json5.Reader
import Holidays.Ron.Reader
import Holidays.Toml.Reader
import Holidays.Yaml.Reader

namespace Holidays

namespace Setting

mutual

/-- A value as a setting; an integer that 64 bits with a sign do not hold is a number. -/
def ofJson : Json → Setting
  | .null => .absent
  | .bool value => .flag value
  | .int n =>
    if Fits64 n then .integer n else .number (.finite (n < 0) (Decimal.nearest ⟨n.natAbs, 0⟩))
  | .float negative size => .number (.finite negative size)
  | .str value => .text value
  | .arr items => .list (ofItems items)
  | .obj members => .table (ofMembers [] members)

def ofItems : List Json → List Setting
  | [] => []
  | item :: items => ofJson item :: ofItems items

/-- The last value of a repeated name counts. -/
def ofMembers (entries : List (String × Setting)) : List (String × Json) → List (String × Setting)
  | [] => entries
  | (name, value) :: members => ofMembers (Keyed.put Prod.fst (name, ofJson value) entries) members

end

end Setting

inductive ConfigFormat where
  | toml
  | json
  | yaml
  | ini
  | ron
  | json5
deriving DecidableEq

structure ConfigFile where
  format : ConfigFormat
  text : String

namespace ConfigFile

/-- The names that a configuration file may have; the first that is there counts. -/
def names : List (String × ConfigFormat) :=
  [("config.toml", .toml), ("config.toml.toml", .toml), ("config.toml.json", .json),
    ("config.toml.yaml", .yaml), ("config.toml.yml", .yaml), ("config.toml.ini", .ini),
    ("config.toml.ron", .ron), ("config.toml.json5", .json5)]

def find? (text? : String → Option String) : Option ConfigFile :=
  names.findSome? fun (name, format) => (text? name).map fun text => { format, text }

def unmarked (text : String) : String :=
  match text.toList with
  | '\ufeff' :: cs => String.ofList cs
  | _ => text

def entries? (f : ConfigFile) : Option (List (String × Setting)) :=
  match f.format with
  | .toml => Toml.read? (unmarked f.text)
  | .yaml => Yaml.read? (unmarked f.text)
  | .ini => Ini.read? (unmarked f.text)
  | .ron => Ron.read? (unmarked f.text)
  | .json5 => Json5.read? (unmarked f.text)
  | .json =>
    match (Json.read? (unmarked f.text)).map Setting.ofJson with
    | some (.table entries) => some entries
    | _ => none

end ConfigFile

end Holidays
