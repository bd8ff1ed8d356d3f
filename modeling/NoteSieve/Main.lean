import NoteSieve.Command.Run

/-!
# The program

The outer layer: it looks at the environment and at the files that a run may ask for, hands both to
`NoteSieve.respond`, and carries out what comes back. Nothing is decided here.

The disk of a run is a value, so the places on the way to the paths that the arguments can name are
looked at beforehand: what is there, and what is refused. Only whether something may be put into a
directory cannot be seen without doing it.
-/

namespace NoteSieve

/-- The places on the way along a path, by its names alone. -/
def Place.along (p : Place) : List Text → List Place
  | [] => [p]
  | name :: rest =>
    p :: match p.next name with
      | .ok q => along q rest
      | .error _ => []

/-- The places on the way along a path. -/
def Place.onPath (path : Text) : List Place :=
  match Text.fragments (· == '/') path with
  | [] :: rest => Place.along Place.root rest
  | names => Place.along [] names

/-- A place as a path. -/
def Place.toPath (p : Place) : String :=
  match p with
  | ['/'] :: rest => String.ofList ('/' :: Text.joinWith ['/'] rest)
  | _ => String.ofList (Text.joinWith ['/'] p)

/-- The paths that a run with these arguments may look at. -/
def pathsOf (env : Environment) (arguments : List Text) : List Text :=
  match CommandLine.ofArguments env.configFile arguments with
  | .error _ => []
  | .ok line =>
    (match env.configPath line.configFile with
      | .ok path => [path]
      | .error _ => [])
      ++ match line.command with
        | some (.notes file _ _ _) => [file]
        | some (.tags file _ _) => [file]
        | _ => []

/-- The refusal that an attempt meets, if it meets one. -/
def refusalOf {α : Type} (attempt : IO α) : IO (Option Refusal) := do
  try
    let _ ← attempt
    return none
  catch
    | .permissionDenied _ 30 _ => return some .readOnly
    | .permissionDenied .. => return some .permissionDenied
    | _ => return none

/-- What is at a place, and what is refused there. -/
def look (p : Place) : IO (Option (Entry × (Access → Option Refusal))) := do
  let path := (← IO.currentDir) / p.toPath
  try
    if (← path.metadata).type == .dir then
      let search ← refusalOf (path / ".").metadata
      let read ← refusalOf path.readDir
      return some (.directory, fun | .search => search | .read => read | .write => none)
    else
      let content ← try some <$> IO.FS.readBinFile path catch _ => pure none
      let read ← if content.isSome then pure none else refusalOf (IO.FS.readBinFile path)
      let write ← refusalOf (IO.FS.Handle.mk path .append)
      return some (.file ((content.map .ofBytes).getD (.bytes [])),
        fun | .search => none | .read => read | .write => write)
  catch _ => return none

/-- The disk, as far as some places go. -/
def survey (places : List Place) : IO Disk := do
  let seen ← places.mapM fun p => return (p, ← look p)
  let found (p : Place) := (seen.find? fun e => e.1 == p).bind Prod.snd
  return { get? := fun p => (found p).map Prod.fst
           refusal? := fun p access => (found p).bind fun e => e.2 access }

/-- Carries out a change. -/
def carryOut (c : Disk.Change) : IO Unit :=
  match c.entry with
  | .directory => IO.FS.createDir c.place.toPath
  | .file (.text s) => IO.FS.writeFile c.place.toPath (String.ofList s)
  | .file (.bytes raw) => IO.FS.writeBinFile c.place.toPath ⟨raw.toArray⟩

/-- What a run sees of its environment. -/
def lookAround : IO Environment := do
  let named (name : String) : IO (Option Text) := return (← IO.getEnv name).map String.toList
  return {
    configFile := ← named "NS_CONFIG"
    configHome := ← named "XDG_CONFIG_HOME"
    home := ← named "HOME"
    accountHome := none
    noColor := (← named "NO_COLOR").isSome
    complaints := .plain }

end NoteSieve

open NoteSieve in
/-- Runs the program. -/
def main (arguments : List String) : IO UInt32 := do
  let arguments := arguments.map String.toList
  let env ← lookAround
  let disk ← survey ((pathsOf env arguments).flatMap Place.onPath)
  let outcome := respond env disk arguments
  outcome.changes.forM carryOut
  IO.print (String.ofList outcome.stdout)
  IO.eprint (String.ofList outcome.stderr)
  return outcome.exitCode.toUInt32
