import WireShapes.Command.Run

/-!
The command line.

* `fileStorage`: the files of the machine
* `main`: does what the arguments ask for; standard output has the result, standard error the rest
-/

namespace WireShapes.Command

/-- How deep directories are searched for files that match a pattern. -/
def searchDepth : Nat := 64

/-- The places of the files at and below an entry of a directory; their texts are left out. -/
def filesBelow : Nat → List String → IO.FS.DirEntry → IO (List (List String × String))
  | 0, _, _ => return []
  | depth + 1, above, entry => do
    let place := above ++ [entry.fileName]
    if ← entry.path.isDir then
      let entries ← entry.path.readDir
      let files ← entries.toList.mapM (filesBelow depth place)
      return files.flatten
    else return [(place, "")]

/-- The places of all files below the working directory. -/
def workingTree : IO Tree := do
  let entries ← (← IO.currentDir).readDir
  let files ← entries.toList.mapM (filesBelow searchDepth [])
  return ⟨files.flatten⟩

/-- The names of the directories on the way to a file. -/
def directoryOf (path : String) : String :=
  "/".intercalate (((Text.splitOn '/' path.toList).dropLast).map String.ofList)

/-- Writes a file, and makes the directories on the way. -/
def writeText (path text : String) : IO Unit := do
  let dir := directoryOf path
  if dir != "" then IO.FS.createDirAll dir
  IO.FS.writeFile path text

def fileStorage : Storage IO where
  read path := do
    try return some (← IO.FS.readFile path)
    catch _ => return none
  write path text := do
    try
      writeText path text
      return true
    catch _ => return false
  glob pattern := do return (← workingTree).glob? pattern

def Failure.report (f : Failure) : String :=
  match f with
  | model .other error => error.message
  | model _ error => f.message ++ ": " ++ error.message
  | _ => f.message

def usage : String :=
  "Usage: shapegen <COMMAND>\n\nCommands:\n  generate  generate code for a model\n" ++
    "  shapes    print every shape with the type it maps to\n"

def UsageError.message : UsageError → String
  | help => usage
  | helpOnMissing => usage
  | version => "shapegen"
  | unknownArgument => "error: unexpected argument found"
  | invalidSubcommand => "error: unrecognized subcommand"
  | invalidValue => "error: invalid value for an argument"
  | conflict => "error: an argument cannot be used with another"
  | missing => "error: a required argument was not provided"
  | tooManyValues => "error: unexpected value for an argument"

/-- Help and version are no failures. -/
def UsageError.exitCode : UsageError → UInt32
  | help => 0
  | version => 0
  | _ => 2

/-- Runs the command line and gives its exit code. -/
def execute (args : List String) : IO UInt32 := do
  match parseArguments args with
  | .error e =>
    if e.exitCode = 0 then IO.println e.message else IO.eprintln e.message
    return e.exitCode
  | .ok request =>
    let result ← run fileStorage request
    IO.print result.printed
    match result.failed with
    | none => return 0
    | some f =>
      IO.eprintln ("error: " ++ f.report)
      return 1

end WireShapes.Command

/-- Generates code from models, or lists their shapes. -/
def main (args : List String) : IO UInt32 := WireShapes.Command.execute args
