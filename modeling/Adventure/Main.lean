import Adventure.Command.Response

/-!
# The program

Reads the files below a resource directory, answers the command line, prints and saves.
-/

namespace Adventure.Command

/-- The text of a file; one that holds no text reads as empty. -/
def readText (path : String) : IO String := do
  let bytes ← IO.FS.readBinFile path
  return (String.fromUTF8? bytes).getD ""

/-- The files below a directory, with the names on the way to them in front. -/
partial def filesBelow (way : List String) (dir : String) : IO (List File) := do
  let entries ← ((← IO.currentDir) / dir).readDir
  let files ← entries.toList.mapM fun entry => do
    let path := entry.path.toString
    let way := way ++ [entry.fileName]
    if ← entry.path.isDir then filesBelow way path
    else return [⟨way, ← readText path⟩]
  return files.flatten

def listDirectory (dir : String) : IO (Option (List File)) := do
  if ← ((← IO.currentDir) / dir).isDir then return some (← filesBelow [] dir) else return none

def helpText : String :=
  Text.unlines [
    "Headless host that loads a module and drives script functions",
    "",
    "Options:",
    "  --resources <DIR>          directory of JSON resources",
    "  --module <NAME>            module to load from the resource directory",
    "  --pc <NAME>                creature blueprint to load as the player character",
    "  --seed <N>                 seed of the random source (0)",
    "  --ticks <N>                ticks to simulate after the calls (0)",
    "  --tick-ms <N>              milliseconds of game time per tick (100)",
    "  --call <NAME[:ARG,...]>    call a script function by name",
    "  --caller <OBJECT>          object the calls run as: a tag, pc or module",
    "  --list-functions           print the function table as JSON and exit",
    "  --report <FILE>            write the run report as JSON",
    "  --verbose                  log more",
    "  -h, --help                 print this text",
    "  -V, --version              print the version"]

def UsageError.text : UsageError → String
  | .unknownArgument => "unexpected argument"
  | .badValue => "invalid value"
  | .missingValue => "a value is required"
  | .conflict => "argument given more than once"
  | .unexpectedValue => "unexpected value"
  | .helpRequested => helpText
  | .versionRequested => "adventure 0.1.0"

def sayUsage (e : UsageError) : IO UInt32 := do
  if e.exitCode = 0 then IO.println e.text
  else
    IO.eprintln ("error: " ++ e.text)
    IO.eprintln "For more information, try '--help'."
  return e.exitCode

def sayRefused (headline : String) : IO UInt32 := do
  IO.eprint (errorText headline)
  return refusedCode

def save (path report : String) : IO UInt32 := do
  try
    IO.FS.writeFile path report
    IO.print (savedLine path)
    return 0
  catch _ => sayRefused (unsavedHeadline path)

def carryOut : Response → IO UInt32
  | .usage e => sayUsage e
  | .refused headline => sayRefused headline
  | .broken p => do
    IO.eprintln p.message
    return brokenCode
  | .printed text => do
    IO.print text
    return 0
  | .saving text path report => do
    IO.print text
    save path report

/-- The directory that a command line names, with the files below it. -/
def listingFor (line : List String) : IO (String → Option (List File)) := do
  match Arguments.read line with
  | .error _ => return fun _ => none
  | .ok a =>
    match a.resources with
    | none => return fun _ => none
    | some dir =>
      let files ← listDirectory dir
      return fun _ => files

end Adventure.Command

def main (line : List String) : IO UInt32 := do
  let listing ← Adventure.Command.listingFor line
  Adventure.Command.carryOut (Adventure.Command.respond line listing)
