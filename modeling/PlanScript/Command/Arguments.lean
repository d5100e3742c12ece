/-
PlanScript.Command.Arguments — reading the command line.

The arguments are read in order, and the first one that does not fit decides
the refusal. An option may be given once in a scope, except a category;
letters may be joined; a value stands after an equals sign, or in the
argument that follows, or, after a letter, in the same argument. After a
double dash every argument is a path.

When the first argument that is no option is no command, the command
`parse` is understood before it.
-/
import PlanScript.Command.Request

namespace PlanScript.Command

/-! ## 1. The implied command -/

/-- The commands by name. -/
def commandNames : List Text := ["parse".toList, "test".toList, "help".toList]

/-- Whether an argument is a path or a command, and no option. -/
def isPlain (argument : Text) : Bool :=
  argument = ['-'] || !Text.startsWith ['-'] argument

/-- The arguments with the command that is understood. -/
def withCommand : List Text → List Text
  | [] => []
  | a :: rest =>
    if isPlain a then
      if commandNames.contains a then a :: rest else "parse".toList :: a :: rest
    else a :: withCommand rest

/-! ## 2. What a scope has been given -/

/-- The arguments of a scope that have been read. -/
structure Given where
  flags : List Flag := []
  categories : List Text := []
  path : Option Text := none
  /-- The option whose value comes next. -/
  pending : Option Flag := none
deriving DecidableEq, Repr

namespace Given

/-- Fails when an option still waits for its value. -/
def settle (g : Given) : Except Refusal Given :=
  match g.pending with
  | some f => .error (.valueMissing f)
  | none => .ok g

/-- Takes an option without a value. -/
def setFlag (scope : Scope) (f : Flag) (g : Given) : Except Refusal Given := do
  let g ← g.settle
  match f with
  | .help => throw (.help scope)
  | .version => throw .version
  | f =>
    if g.flags.contains f then throw (.repeated f)
    return { g with flags := f :: g.flags }

/-- Takes an option with the value that is attached to it, if any. -/
def setValue (f : Flag) (value : Option Text) (g : Given) : Except Refusal Given := do
  let g ← g.settle
  match value with
  | some v => return { g with categories := g.categories ++ [v] }
  | none => return { g with pending := some f }

/-- Takes the value that an option waits for. -/
def setPending (value : Text) (g : Given) : Given :=
  { g with categories := g.categories ++ [value], pending := none }

/-- Takes a path. -/
def setPath (path : Text) (g : Given) : Except Refusal Given :=
  match g.path with
  | some _ => .error (.unexpected path)
  | none => do return { (← g.settle) with path := some path }

/-- Takes an option by its long name, with what follows an equals sign. -/
def readLong (scope : Scope) (t : Text) (g : Given) : Except Refusal Given :=
  let (name, value) : Text × Option Text := match Text.breakAt (· = '=') t with
    | some (before, found) => (before, some (found.drop 1))
    | none => (t, none)
  match (Flag.allAt scope).find? fun f => f.long.toList = name with
  | none => .error (.unexpected ('-' :: '-' :: name))
  | some f =>
    if f.takesValue then g.setValue f value
    else match value with
      | some v => .error (.valueUnneeded f v)
      | none => g.setFlag scope f

/-- Takes options by their letters. -/
def readShort (scope : Scope) : Text → Given → Except Refusal Given
  | [], g => .ok g
  | c :: rest, g =>
    match (Flag.allAt scope).find? fun f => f.short? = some c with
    | none => .error (.unexpected ['-', c])
    | some f =>
      if f.takesValue then
        match rest with
        | [] => g.setValue f none
        | '=' :: value => g.setValue f (some value)
        | value => g.setValue f (some value)
      else do readShort scope rest (← g.setFlag scope f)

end Given

/-! ## 3. Scopes -/

/-- Reads the arguments after a double dash. -/
def readPaths : List Text → Given → Except Refusal Given
  | [], g => .ok g
  | a :: rest, g => do readPaths rest (← g.setPath a)

/-- Reads the arguments of a command. -/
def readCommand (scope : Scope) : List Text → Given → Except Refusal Given
  | [], g => g.settle
  | ['-', '-'] :: rest, g => do (← readPaths rest g).settle
  | ('-' :: '-' :: name) :: rest, g => do readCommand scope rest (← g.readLong scope name)
  | ('-' :: c :: letters) :: rest, g => do
    readCommand scope rest (← g.readShort scope (c :: letters))
  | a :: rest, g =>
    if g.pending.isSome then readCommand scope rest (g.setPending a)
    else do readCommand scope rest (← g.setPath a)

/-- The refusal of a request for help on some commands. -/
def readHelp : List Text → Refusal
  | [] => .help .root
  | [a] =>
    if a = "parse".toList then .help .parse
    else if a = "test".toList then .help .test
    else if a = "help".toList then .help .root
    else .unknownCommand a
  | a :: b :: _ => if commandNames.contains a then .unknownCommand b else .unknownCommand a

/-- The request of a command with its arguments. -/
def request (root : Given) (command : Text) (arguments : List Text) :
    Except Refusal Request := do
  let scope ←
    if command = "parse".toList then pure .parse
    else if command = "test".toList then pure .test
    else if command = "help".toList then throw (readHelp arguments)
    else throw (.unknownCommand command)
  let g ← readCommand scope arguments {}
  let path ← match g.path with
    | some path => pure path
    | none => throw .missingPath
  let isSet (f : Flag) : Bool := g.flags.contains f
  return {
    noColor := isSet .noColor || root.flags.contains .noColor
    verbose := isSet .verbose || root.flags.contains .verbose
    job := match scope with
      | .test => .test ⟨path, g.categories, isSet .listCategories⟩
      | _ => .parse ⟨path, isSet .json, isSet .check, isSet .lenientDicts⟩ }

/-- Reads the arguments before the command and then the command. -/
def readRoot : List Text → Given → Except Refusal Request
  | [], g => .error (if g.flags.isEmpty then .empty else .missingCommand)
  | ['-', '-'] :: rest, g =>
    .error <| match rest with
      | [] => if g.flags.isEmpty then .empty else .missingCommand
      | a :: _ => if commandNames.contains a then .unexpected a else .unknownCommand a
  | ('-' :: '-' :: name) :: rest, g => do readRoot rest (← g.readLong .root name)
  | ('-' :: c :: letters) :: rest, g => do
    readRoot rest (← g.readShort .root (c :: letters))
  | a :: rest, g => request g a rest

/-- The request of a command line. -/
def readArguments (arguments : List Text) : Except Refusal Request :=
  readRoot (withCommand arguments) {}

end PlanScript.Command
