/-!
# The arguments of the command line

The arguments name one of two commands, with options in front of it and behind it. Options of one
letter may be written together, and the last of them may have its value directly behind it. A value
may also follow behind an equals sign or as the next argument, which then must not look like an
option. No option with a value may be given twice.
-/

namespace BuilderGen.CommandLine

/-! ## 1. Requests -/

/-- What is to be done. -/
inductive Command where
  | generate (manifest : String) (output package : Option String)
  | check (manifest : String)
deriving DecidableEq, Repr

/-- What the arguments ask for. -/
inductive Request where
  | version
  | help
  | run (verbosity : Nat) (command : Command)
  /-- The arguments make no sense. -/
  | misuse
deriving DecidableEq, Repr

/-! ## 2. Options -/

/-- An option with a value. -/
structure ValueOption where
  letter : Char
  word : String
  /-- Whether the value may be empty. -/
  mayBeEmpty : Bool
deriving DecidableEq, Repr

/-- The options that may stand at a place. -/
structure Options where
  values : List ValueOption
  /-- Whether the version may be asked for. -/
  version : Bool

/-- What was read so far. -/
structure Given where
  verbosity : Nat
  /-- Letters of options, with their values. -/
  values : List (Char × String)
deriving DecidableEq, Repr

/-- What one argument does. -/
inductive Step where
  | go (g : Given)
  /-- The value of an option is to follow. -/
  | needs (g : Given) (o : ValueOption)
  | stop (r : Request)

/-- Takes the value of an option. -/
def Given.take (g : Given) (o : ValueOption) (value : String) : Step :=
  if (g.values.lookup o.letter).isSome || value.isEmpty && !o.mayBeEmpty then .stop .misuse
  else .go { g with values := g.values ++ [(o.letter, value)] }

/-- Reads letters that are written together. -/
def readLetters (os : Options) (g : Given) : List Char → Step
  | [] => .go g
  | c :: rest =>
    match os.values.find? fun o => o.letter == c with
    | some o =>
      match rest with
      | [] => .needs g o
      | '=' :: value => g.take o (String.ofList value)
      | value => g.take o (String.ofList value)
    | none =>
      if c == 'v' then readLetters os { g with verbosity := g.verbosity + 1 } rest
      else if c == 'V' && os.version then .stop .version
      else if c == 'h' then .stop .help
      else .stop .misuse

/-- Reads a word, with the value behind its equals sign if it has one. -/
def readWord (os : Options) (g : Given) (s : List Char) : Step :=
  let word := String.ofList (s.takeWhile (· != '='))
  let value := match s.dropWhile (· != '=') with
    | [] => none
    | _ :: v => some (String.ofList v)
  match os.values.find? fun o => o.word == word, value with
  | some o, some v => g.take o v
  | some o, none => .needs g o
  | none, some _ => .stop .misuse
  | none, none =>
    if word = "verbose" then .go { g with verbosity := g.verbosity + 1 }
    else if word = "version" && os.version then .stop .version
    else if word = "help" then .stop .help
    else .stop .misuse

/-- The parts of a command line that are told apart by their first characters. -/
inductive Shape where
  /-- Two dashes alone: no options follow. -/
  | separator
  | word (s : List Char)
  | letters (s : List Char)
  | plain (s : String)

/-- The shape of an argument. -/
def Shape.of (argument : String) : Shape :=
  match argument.toList with
  | ['-', '-'] => .separator
  | '-' :: '-' :: s => .word s
  | ['-'] => .plain argument
  | '-' :: s => .letters s
  | _ => .plain argument

/-- What one argument that may be an option does; a plain one does nothing here. -/
def readOption (os : Options) (g : Given) (argument : String) : Option Step :=
  match Shape.of argument with
  | .word s => some (readWord os g s)
  | .letters s => some (readLetters os g s)
  | _ => none

/-- Reads options up to the first argument that is none, and returns that one with those behind
it. -/
def readOptions (os : Options) (g : Given) : List String → Except Request (Given × List String)
  | [] => .ok (g, [])
  | a :: rest =>
    match readOption os g a with
    | none => .ok (g, a :: rest)
    | some (.stop r) => .error r
    | some (.go g) => readOptions os g rest
    | some (.needs g o) =>
      match rest with
      | [] => .error .misuse
      | v :: rest =>
        match Shape.of v with
        | .plain _ =>
          match g.take o v with
          | .go g => readOptions os g rest
          | _ => .error .misuse
        | _ => .error .misuse

/-! ## 3. Commands -/

/-- The option for the path of the schema. -/
def manifestOption : ValueOption := ⟨'m', "manifest", false⟩

/-- The option for the directory of the generated sources. -/
def outputOption : ValueOption := ⟨'o', "output", false⟩

/-- The option for the package of the generated sources. -/
def packageOption : ValueOption := ⟨'p', "package", true⟩

/-- The path of the schema if none is given. -/
def defaultManifest : String := "proxydsl.toml"

/-- The options in front of the command. -/
def topOptions : Options := ⟨[], true⟩

/-- The command of a name, with its options. -/
def commandOptions? (name : String) : Option Options :=
  if name = "generate" then some ⟨[manifestOption, outputOption, packageOption], false⟩
  else if name = "check" then some ⟨[manifestOption], false⟩
  else none

/-- The command of a name with the given values. -/
def commandOf (name : String) (g : Given) : Command :=
  let manifest := (g.values.lookup 'm').getD defaultManifest
  if name = "generate" then .generate manifest (g.values.lookup 'o') (g.values.lookup 'p')
  else .check manifest

/-- Reads what follows the name of a command. Requests for more output behind the name replace those
in front of it. -/
def readCommand (name : String) (verbosity : Nat) (os : Options) (arguments : List String) :
    Request :=
  match readOptions os ⟨0, []⟩ arguments with
  | .error r => r
  | .ok (g, []) | .ok (g, ["--"]) =>
    .run (if g.verbosity = 0 then verbosity else g.verbosity) (commandOf name g)
  | .ok _ => .misuse

/-- The command that asks for help. -/
def helpName : String := "help"

/-- Reads what follows the command that asks for help: the name of a command, itself included, or
nothing. -/
def readHelp : List String → Request
  | [] => .help
  | [name] => if (commandOptions? name).isSome || name == helpName then .help else .misuse
  | _ => .misuse

/-- What the arguments ask for. -/
def readArguments (arguments : List String) : Request :=
  match readOptions topOptions ⟨0, []⟩ arguments with
  | .error r => r
  | .ok (_, []) => .misuse
  | .ok (g, name :: rest) =>
    match commandOptions? name with
    | some os => readCommand name g.verbosity os rest
    | none => if name = helpName then readHelp rest else .misuse

end BuilderGen.CommandLine
