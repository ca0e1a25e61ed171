import Holidays.Generation.EventJson
import Holidays.Generation.Generate
import Holidays.Library
import Holidays.Settings

namespace Holidays

inductive CommandError where
  | settings (error : SettingsError)
  | load (error : LoadError)
  | chronology (error : ChronologyError)
  | calendar (error : CalendarError)
deriving DecidableEq

def CommandError.message : CommandError → String
  | .settings error => error.message
  | .load error => error.message
  | .chronology error => error.message
  | .calendar error => error.message

namespace Settings

def run (s : Settings) (files : Option (List (String × ByteArray))) : Except CommandError String :=
  match files with
  | none => .error (.load (.unreadable s.catalogPath))
  | some files =>
    match Library.ofFiles files with
    | .error e => .error (.load e)
    | .ok library =>
      match library.register .defaults with
      | (_, some e) => .error (.chronology e)
      | (registry, none) =>
        match (Resolver.of library.catalog).generate registry s.calendar s.first s.last with
        | (.error e, _) => .error (.calendar e)
        | (.ok events, _) => .ok (Event.render events s.pretty)

end Settings

end Holidays
