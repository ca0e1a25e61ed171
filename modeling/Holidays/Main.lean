import Holidays.Command

namespace Holidays

def readText? (path : String) : IO (Option String) := do
  try
    return some (← IO.FS.readFile path)
  catch _ => return none

def environment : IO EnvFile.Variables := do
  let bytes ← try IO.FS.readBinFile "/proc/self/environ" catch _ => pure ByteArray.empty
  let entries := ((String.fromUTF8? bytes).getD "").splitOn "\x00"
  return entries.filterMap fun entry =>
    match entry.splitOn "=" with
    | name :: value :: more => some (name, "=".intercalate (value :: more))
    | _ => none

def ancestors (directory : String) : List String :=
  let parts := directory.splitOn "/"
  (List.range parts.length).reverse.map fun n => "/".intercalate (parts.take (n + 1))

def envFile? : IO (Option String) := do
  for directory in ancestors (← IO.currentDir).toString do
    match ← readText? (directory ++ "/.env") with
    | some text => return some text
    | none => pure ()
  return none

def files? (directory : String) : IO (Option (List (String × ByteArray))) := do
  try
    let entries ← (IO.FS.DirEntry.mk directory "").root.readDir
    let kept ← entries.toList.filterM fun entry =>
      return Library.isDocumentFile entry.fileName && (← entry.path.metadata).type matches .file
    return some (← kept.mapM fun entry => return (entry.fileName, ← IO.FS.readBinFile entry.path))
  catch _ => return none

def configFile? : IO (Option ConfigFile) := do
  let texts ← ConfigFile.names.mapM fun (name, _) => return (name, ← readText? name)
  return ConfigFile.find? fun name => (texts.lookup name).join

def command : IO (Except CommandError String) := do
  match Settings.load (← environment) (← envFile?) (← configFile?) with
  | .error e => return .error (.settings e)
  | .ok settings => return settings.run (← files? settings.catalogPath)

end Holidays

def main : IO UInt32 := do
  match ← Holidays.command with
  | .ok text =>
    IO.println text
    return 0
  | .error e =>
    IO.eprintln ("Error: " ++ e.message)
    return 1
