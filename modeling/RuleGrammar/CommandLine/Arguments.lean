import RuleGrammar.Decimal.Reader

/-!
Owns the arguments of the command line: what a list of them asks for.

Options have a long form, with the value behind an equals sign or in the next argument, and most have a
letter; letters may share a hyphen, and a letter's value may follow it at once. Two hyphens end the
options. An option may be given once at each level, before and after the name of the command; the two
general switches are allowed at both.
-/

namespace RuleGrammar.CommandLine

inductive OptionName where
  | verbose
  | json
  | version
  | rule
  | start
  | text
  | file
deriving DecidableEq, Repr

structure OptionSpec where
  name : OptionName
  long : String
  letter : Option Char
  takesValue : Bool
deriving DecidableEq, Repr

def generalOptions : List OptionSpec :=
  [⟨.verbose, "verbose", some 'v', false⟩, ⟨.json, "json", none, false⟩]

def topOptions : List OptionSpec :=
  generalOptions ++ [⟨.version, "version", some 'V', false⟩]

def readingOptions : List OptionSpec :=
  generalOptions ++
    [⟨.rule, "rule", some 'r', true⟩, ⟨.start, "start", some 's', true⟩,
      ⟨.text, "text", some 't', true⟩, ⟨.file, "file", some 'f', true⟩]

/-- One argument, taken by itself. -/
inductive Argument where
  | stop
  | long (name : String) (value : Option String)
  | letters (letters : List Char)
  | plain (value : String)
deriving DecidableEq, Repr

/-- A hyphen alone is a plain argument. -/
def Argument.ofString (argument : String) : Argument :=
  match argument.toList with
  | ['-', '-'] => .stop
  | '-' :: '-' :: rest =>
      let name := String.ofList (rest.takeWhile (· != '='))
      match rest.dropWhile (· != '=') with
      | [] => .long name none
      | _ :: value => .long name (some (String.ofList value))
  | '-' :: c :: rest => .letters (c :: rest)
  | _ => .plain argument

/-- What has been given at one level. -/
structure Given where
  options : List (OptionName × String)
  positionals : List String
deriving DecidableEq, Repr

def Given.has (given : Given) (name : OptionName) : Bool :=
  (given.options.lookup name).isSome

def Given.value? (given : Given) (name : OptionName) : Option String :=
  given.options.lookup name

/-- Adds an option, unless it is there already. -/
def Given.add? (given : Given) (name : OptionName) (value : String) : Option Given :=
  if given.has name then none else some { given with options := (name, value) :: given.options }

def Given.addPositional (given : Given) (value : String) : Given :=
  { given with positionals := given.positionals ++ [value] }

/-- What one option makes of the level and of the arguments behind it. -/
inductive Taken where
  | misuse
  | version
  | more (given : Given) (rest : List String)
deriving DecidableEq, Repr

def Taken.ofGiven (given : Option Given) (rest : List String) : Taken :=
  match given with
  | some given => .more given rest
  | none => .misuse

/-- Takes the value of an option from the next argument, which must not look like an option. -/
def takeNext (given : Given) (name : OptionName) : List String → Taken
  | [] => .misuse
  | value :: rest =>
      match Argument.ofString value with
      | .plain value => Taken.ofGiven (given.add? name value) rest
      | _ => .misuse

def takeLong (options : List OptionSpec) (given : Given) (name : String) (value : Option String)
    (rest : List String) : Taken :=
  match options.find? (·.long == name) with
  | none => .misuse
  | some option =>
      match option.takesValue, value with
      | true, some value => Taken.ofGiven (given.add? option.name value) rest
      | true, none => takeNext given option.name rest
      | false, some _ => .misuse
      | false, none =>
          if option.name = .version then .version else Taken.ofGiven (given.add? option.name "") rest

def takeLetters (options : List OptionSpec) (given : Given) (rest : List String) :
    List Char → Taken
  | [] => .more given rest
  | c :: letters =>
      match options.find? (·.letter == some c) with
      | none => .misuse
      | some option =>
          if option.takesValue then
            match letters with
            | [] => takeNext given option.name rest
            | '=' :: value => Taken.ofGiven (given.add? option.name (String.ofList value)) rest
            | value => Taken.ofGiven (given.add? option.name (String.ofList value)) rest
          else if option.name = .version then
            .version
          else
            match given.add? option.name "" with
            | some given => takeLetters options given rest letters
            | none => .misuse

/-! ## Commands -/

inductive InputSource where
  | text (text : String)
  | file (path : String)
deriving DecidableEq, Repr

inductive Command where
  | parse (grammar : String) (rule : Option String) (start : Nat) (input : InputSource)
  | rules (grammar : String)
deriving DecidableEq, Repr

/-- What the arguments ask for. -/
inductive Request where
  | misuse
  | version
  | run (json : Bool) (command : Command)
deriving DecidableEq, Repr

/-- A path must not be empty. -/
def path? (path : String) : Option String :=
  if path.isEmpty then none else some path

/-- An unsigned number of 64 bits; a plus sign may stand before it. -/
def offset? (text : String) : Option Nat :=
  let digits :=
    match text.toList with
    | '+' :: digits => digits
    | digits => digits
  let n := Decimal.extendNat 0 digits
  if digits ≠ [] ∧ digits.all Decimal.isDigit ∧ n < UInt64.size then some n else none

/-- Exactly one of text and file. -/
def inputSource? (given : Given) : Option InputSource :=
  match given.value? .text, given.value? .file with
  | some text, none => some (.text text)
  | none, some path => (path? path).map .file
  | _, _ => none

def grammarPath? (given : Given) : Option String :=
  match given.positionals with
  | [path] => path? path
  | _ => none

def parseCommand? (given : Given) : Option Command := do
  let start ←
    match given.value? .start with
    | none => some 0
    | some text => offset? text
  some (.parse (← grammarPath? given) (given.value? .rule) start (← inputSource? given))

def rulesCommand? (given : Given) : Option Command :=
  (grammarPath? given).map .rules

/-- The arguments behind the name of a command. -/
def readCommand (options : List OptionSpec) (command? : Given → Option Command) (json : Bool) :
    (fuel : Nat) → Given → List String → Request
  | 0, _, _ => .misuse
  | fuel + 1, given, arguments =>
      let finish := fun (given : Given) =>
        match command? given with
        | some command => .run (json || given.has .json) command
        | none => .misuse
      let go := fun
        | .misuse => .misuse
        | .version => .version
        | .more given rest => readCommand options command? json fuel given rest
      match arguments with
      | [] => finish given
      | argument :: rest =>
          match Argument.ofString argument with
          | .stop => finish (rest.foldl Given.addPositional given)
          | .long name value => go (takeLong options given name value rest)
          | .letters letters => go (takeLetters options given rest letters)
          | .plain value => go (.more (given.addPositional value) rest)

/-- The arguments up to the name of a command. -/
def readTop : (fuel : Nat) → Given → List String → Request
  | 0, _, _ => .misuse
  | fuel + 1, given, arguments =>
      let go := fun
        | .misuse => .misuse
        | .version => .version
        | .more given rest => readTop fuel given rest
      match arguments with
      | [] => .misuse
      | argument :: rest =>
          match Argument.ofString argument with
          | .stop => .misuse
          | .long name value => go (takeLong topOptions given name value rest)
          | .letters letters => go (takeLetters topOptions given rest letters)
          | .plain "parse" =>
              readCommand readingOptions parseCommand? (given.has .json) (rest.length + 1) ⟨[], []⟩ rest
          | .plain "rules" =>
              readCommand generalOptions rulesCommand? (given.has .json) (rest.length + 1) ⟨[], []⟩ rest
          | .plain _ => .misuse

def Request.ofArguments (arguments : List String) : Request :=
  readTop (arguments.length + 1) ⟨[], []⟩ arguments

/-- The files that a command reads, in the order in which it needs them. -/
def Command.paths : Command → List String
  | .parse grammar _ _ (.file path) => [grammar, path]
  | .parse grammar _ _ (.text _) => [grammar]
  | .rules grammar => [grammar]

end RuleGrammar.CommandLine
