import NoteSieve.CommandLine.Usage

/-!
# Reading command lines

The arguments are read one by one, from the first to the last (`CommandLine.read`). At each level
the reader keeps what has been given so far; the name of a next level hands the rest over to it, and
what was wrong there counts before what is still open here.

A value is not looked at when it is read but when the argument after it is, or the level ends: until
then it is *pending*, and an argument that has no place at all is reported before it. A switch that
takes a value and has none yet takes the next argument, unless that begins with a dash. After the
argument `--` there are no switches and no names any more, only operands.

The switches that every level has may stand at any level. Of those with a value the innermost one
counts, and before any of them the others are set by the environment.
-/

namespace NoteSieve

/-- What has been read and not been looked at yet. -/
inductive Pending where
  /-- Nothing. -/
  | none
  /-- A switch whose value may be the next argument. -/
  | awaiting (switch : Switch)
  /-- A switch with its value. -/
  | valued (switch : Switch) (value : Text)
  /-- An operand. -/
  | operand (value : Text)
  deriving DecidableEq, Repr

/-- What has been given at a level. -/
structure Given where
  /-- The switches with their values, in order; a switch that takes none has an empty one. -/
  switches : List (Switch × Text)
  /-- The operands, in order. -/
  operands : List Text
  /-- What has not been looked at yet. -/
  pending : Pending
  /-- Whether only operands may follow. -/
  operandsOnly : Bool
  deriving DecidableEq, Repr

/-- What the switches that every level has ask for. -/
structure Common where
  /-- How many times more output is asked for, if at all. -/
  verbosity : Option Nat
  /-- Whether errors only are asked for. -/
  quiet : Bool
  /-- Whether documents are asked for. -/
  json : Bool
  /-- Whether no color is asked for. -/
  noColor : Bool
  /-- The file of the configuration. -/
  configFile : Option Text
  /-- The primary tag operator. -/
  primaryOperator : Option Text
  /-- The localized tag operator. -/
  localizedOperator : Option Text
  deriving DecidableEq, Repr

/-- What two levels ask for together, where the inner one counts first. -/
def Common.within (outer inner : Common) : Common where
  verbosity := inner.verbosity <|> outer.verbosity
  quiet := inner.quiet || outer.quiet
  json := inner.json || outer.json
  noColor := inner.noColor || outer.noColor
  configFile := inner.configFile <|> outer.configFile
  primaryOperator := inner.primaryOperator <|> outer.primaryOperator
  localizedOperator := inner.localizedOperator <|> outer.localizedOperator

/-- Checks a value. -/
def ValueKind.check (kind : ValueKind) (value : Text) : Except Halt Unit :=
  match kind with
  | .text => .ok ()
  | .path => if value.isEmpty then .error (.error (.badValue value)) else .ok ()
  | .number => if (number? value).isSome then .ok () else .error (.error (.badNumber value))
  | .shell => if (Shell.ofName? value).isSome then .ok () else .error (.error (.badValue value))

namespace Given

/-- What is given at a level before its first argument. -/
def start : Given := ⟨[], [], .none, false⟩

/-- Whether a switch is given. -/
def has (g : Given) (s : Switch) : Bool := g.switches.any fun entry => entry.1 == s

/-- How many times a switch is given. -/
def count (g : Given) (s : Switch) : Nat := g.switches.countP fun entry => entry.1 == s

/-- The value of a switch. -/
def value? (g : Given) (s : Switch) : Option Text :=
  (g.switches.find? fun entry => entry.1 == s).map Prod.snd

/-! ### What is pending -/

/-- Adds a switch, which may not be there yet. Only more output can be asked for many times. -/
def addSwitch (g : Given) (s : Switch) (value : Text) : Except Halt Given :=
  if s ≠ .verbose ∧ g.has s then .error (.error (.repeated s))
  else do
    match s.kind? with
    | some kind => kind.check value
    | none => pure ()
    return { g with switches := g.switches ++ [(s, value)], pending := .none }

/-- Adds an operand, which has a place at the level. -/
def addOperand (level : Level) (g : Given) (value : Text) : Except Halt Given := do
  match level.operands[g.operands.length]? with
  | some operand => operand.kind.check value
  | none => pure ()
  return { g with operands := g.operands ++ [value], pending := .none }

/-- Looks at what is pending. -/
def settle (level : Level) (g : Given) : Except Halt Given :=
  match g.pending with
  | .none => .ok g
  | .awaiting s => .error (.error (.missingValue s))
  | .valued s value => g.addSwitch s value
  | .operand value => g.addOperand level value

/-! ### One argument -/

/-- A switch that takes no value. Help and the version are answered at once. -/
def takeFlag (level : Level) (g : Given) (s : Switch) : Except Halt Given := do
  let g ← g.settle level
  match s with
  | .help => .error (.help level)
  | .version => .error (.version level)
  | _ => g.addSwitch s []

/-- The name and the value in what follows two dashes. -/
def splitLong (s : Text) : Text × Option Text :=
  (s.takeWhile (· != '='),
    match s.dropWhile (· != '=') with
    | [] => none
    | _ :: value => some value)

/-- An argument that begins with two dashes, where `s` is what follows them. -/
def takeLong (level : Level) (g : Given) (s : Text) : Except Halt Given :=
  let (name, value?) := splitLong s
  match level.longSwitch? name with
  | none => .error (.error (.unknownArgument (['-', '-'] ++ name)))
  | some switch =>
    match switch.kind?, value? with
    | none, some _ => .error (.error (.unwantedValue switch))
    | none, none => g.takeFlag level switch
    | some _, some value => do (← g.settle level).addSwitch switch value
    | some _, none => do return { ← g.settle level with pending := .awaiting switch }

/-- An argument that begins with one dash, where the letters are what follows it. No switch with a
letter takes a value. -/
def takeShort (level : Level) : Given → Text → Except Halt Given
  | g, [] => .ok g
  | g, letter :: letters =>
    match level.shortSwitch? letter with
    | some switch => do takeShort level (← g.takeFlag level switch) letters
    | none => .error (.error (.unknownArgument ['-', letter]))

/-- How many operands are there, a pending one included. -/
def operandCount (g : Given) : Nat :=
  match g.pending with
  | .operand _ => g.operands.length + 1
  | _ => g.operands.length

/-- An argument that is no switch: an operand, if the level has a place for it. -/
def takeOperand (level : Level) (g : Given) (argument : Text) : Except Halt Given :=
  if g.operandCount < level.operands.length then do
    return { ← g.settle level with pending := .operand argument }
  else if level.next.isEmpty ∨ (g.operandsOnly ∧ (level.next? argument).isSome) then
    .error (.error (.unknownArgument argument))
  else .error (.error (.unknownCommand argument))

/-- An argument that does not begin with a dash: the value that a switch awaits, or an operand. -/
def takePlain (level : Level) (g : Given) (argument : Text) : Except Halt Given :=
  match g.pending with
  | .awaiting switch => .ok { g with pending := .valued switch argument }
  | _ => g.takeOperand level argument

/-- **One argument** that is not the name of a next level. -/
def take (level : Level) (g : Given) (argument : Text) : Except Halt Given :=
  if g.operandsOnly then g.takeOperand level argument
  else
    match argument with
    | ['-', '-'] => .ok { g with operandsOnly := true }
    | '-' :: '-' :: s => g.takeLong level s
    | '-' :: letter :: letters => takeShort level g (letter :: letters)
    | _ => g.takePlain level argument

/-- The level that an argument leads to, where one may follow. -/
def next? (level : Level) (g : Given) (argument : Text) : Option Level :=
  match g.operandsOnly, g.pending with
  | true, _ | _, .awaiting _ => none
  | false, _ => level.next? argument

/-! ### The end of a level -/

/-- What the switches that every level has ask for at this one. Asking for more output is counted up
to the largest byte. -/
def common (g : Given) : Common where
  verbosity := if g.has .verbose then some (min (g.count .verbose) 255) else none
  quiet := g.has .quiet
  json := g.has .json
  noColor := g.has .noColor
  configFile := g.value? .config
  primaryOperator := g.value? .primaryOperator
  localizedOperator := g.value? .localizedOperator

/-- An operand that may be left out. -/
def operand? (g : Given) (i : Nat) : Option Text := g.operands[i]?

/-- An operand that may not be left out. -/
def operand (g : Given) (i : Nat) (o : Operand) : Except Halt Text :=
  match g.operand? i with
  | some value => .ok value
  | none => .error (.error (.missingOperand o))

/-- The most records to be printed. -/
def limit (g : Given) : Option Nat := (g.value? .limit).bind number?

/-- The options of a search for notes. -/
def noteOptions (g : Given) : NoteOptions where
  deleted := g.has .deleted
  untagged := g.has .untagged
  tag := g.value? .tag
  systemTag := g.value? .systemTag
  title := g.value? .title
  exact := g.value? .exact

/-- The command that a level ends with, if it is one. -/
def command (level : Level) (g : Given) : Except Halt (Option Command) :=
  match level with
  | .program | .help => return none
  | .notes => do
    let file ← g.operand 0 .file
    return some (.notes file ((g.operand? 1).getD []) g.noteOptions g.limit)
  | .tags => do
    let file ← g.operand 0 .file
    return some (.tags file ((g.operand? 1).getD []) g.limit)
  | .parse => do return some (.parse (← g.operand 0 .query))
  | .complete => do
    return some (.complete (← g.operand 0 .query) (← g.operand 1 .word) (g.has .asTag))
  | .config => return some (.config none)
  | .configView => return some (.config (some .view))
  | .configSet => do
    return some (.config (some (.set (← g.operand 0 .key) (← g.operand 1 .value))))
  | .configPath => return some (.config (some .path))
  | .completions => do
    let name ← g.operand 0 .shell
    match Shell.ofName? name with
    | some shell => return some (.completions shell)
    | none => .error (.error (.badValue name))

/-- **Ends a level.** The command is the one of the inner level, if there is one. The environment
names the configuration file wherever the level does not, so it may not name an empty one. -/
def finish (fromEnvironment : Option Text) (level : Level)
    (inner : Option (Common × Option Command)) (g : Given) :
    Except Halt (Common × Option Command) := do
  let g ← g.settle level
  if !g.has .config then
    match fromEnvironment with
    | some value => ValueKind.path.check value
    | none => pure ()
  if g.has .quiet && g.has .verbose then .error (.error .quietAndVerbose)
  else
    match inner with
    | some (common, command) => return (g.common.within common, command)
    | none => return (g.common, ← g.command level)

end Given

/-! ### All arguments -/

namespace CommandLine

/-- What is answered to a question for help: the help of the level that the names lead to. -/
def askForHelp (level : Level) : List Text → Halt
  | [] => .help level
  | name :: rest =>
    match level.next? name with
    | some next => askForHelp next rest
    | none => .error (.unknownCommand name)

/-- Reads the arguments from a level on. -/
def read (fromEnvironment : Option Text) (level : Level) (g : Given) :
    List Text → Except Halt (Common × Option Command)
  | [] => g.finish fromEnvironment level none
  | argument :: rest =>
    match g.next? level argument with
    | some .help => .error (askForHelp level rest)
    | some next =>
      match read fromEnvironment next .start rest with
      | .ok inner => g.finish fromEnvironment level (some inner)
      | .error halt => .error halt
    | none =>
      match g.take level argument with
      | .ok g => read fromEnvironment level g rest
      | .error halt => .error halt

/-- **Reads a command line**, where the environment may name the configuration file too. -/
def ofArguments (fromEnvironment : Option Text) (arguments : List Text) :
    Except Halt CommandLine := do
  let (common, command) ← read fromEnvironment .program .start arguments
  return {
    verbosity := common.verbosity.getD 0
    quiet := common.quiet
    json := common.json
    noColor := common.noColor
    configFile := common.configFile <|> fromEnvironment
    primaryOperator := common.primaryOperator
    localizedOperator := common.localizedOperator
    command }

end CommandLine

end NoteSieve
