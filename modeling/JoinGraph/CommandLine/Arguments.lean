import JoinGraph.Request
import JoinGraph.Render

/-!
# Arguments

What can be asked for on the command line, and how a list of words asks for it. An option that
takes a value may have it attached or as the next word; such a value is checked only when the next
option or the end is reached, so an unknown option behind a wrong value is what is complained
about.
-/

namespace JoinGraph.CommandLine

/-- What can be given. -/
inductive Parameter where
  | file | dialect | parsers | format | output
  | compact | noInferJoins | noAliasJoins | example | quiet | verbose | help | version
  deriving DecidableEq, Repr

namespace Parameter

/-- The parameters that are given by name. -/
def options : List Parameter :=
  [dialect, parsers, format, output, compact, noInferJoins, noAliasJoins, .example, quiet,
    verbose, help, version]

/-- The name of a parameter behind two hyphens. -/
def long : Parameter → String
  | file => ""
  | dialect => "dialect"
  | parsers => "parser"
  | format => "format"
  | output => "output"
  | compact => "compact"
  | noInferJoins => "no-infer-joins"
  | noAliasJoins => "no-alias-joins"
  | .example => "example"
  | quiet => "quiet"
  | verbose => "verbose"
  | help => "help"
  | version => "version"

/-- The letter of a parameter behind one hyphen. -/
def short? : Parameter → Option Char
  | dialect => some 'd'
  | parsers => some 'p'
  | format => some 'f'
  | output => some 'o'
  | compact => some 'c'
  | quiet => some 'q'
  | verbose => some 'v'
  | help => some 'h'
  | version => some 'V'
  | _ => none

/-- What stands for the value of a parameter in a message, if it takes one. -/
def placeholder? : Parameter → Option String
  | file => some "FILE"
  | dialect => some "DIALECT"
  | parsers => some "PARSER"
  | format => some "FORMAT"
  | output => some "FILE"
  | _ => none

/-- How a parameter is shown in a message. -/
def title (p : Parameter) : String :=
  match p, p.placeholder? with
  | file, some value => "[" ++ value ++ "]"
  | _, some value => "--" ++ p.long ++ " <" ++ value ++ ">"
  | verbose, none => "--" ++ p.long ++ "..."
  | _, none => "--" ++ p.long

/-- Whether a parameter may be given more than once. -/
def repeats (p : Parameter) : Bool := p == verbose

/-- The parameters that cannot be given together. -/
def excludes : Parameter → Parameter → Bool
  | file, .example | .example, file | quiet, verbose | verbose, quiet => true
  | _, _ => false

end Parameter

/-- The forms of a result by name; the second part tells whether JSON is one line. -/
def formatNames : List (String × (Bool → Format)) :=
  [("table", fun _ => .listing), ("json", .json), ("mermaid", fun _ => .flowchart)]

/-- Whether a parameter takes a value. -/
def Parameter.accepts (p : Parameter) (value : String) : Bool :=
  match p with
  | .dialect => Sql.Dialect.names.any (·.1 == value)
  | .parsers => ParserChoice.names.any (·.1 == value)
  | .format => formatNames.any (·.1 == value)
  | _ => !value.isEmpty

/-! ## Faults -/

/-- What is wrong with the arguments. -/
inductive UsageFault where
  | unknown (argument : String)
  | noValue (parameter : Parameter)
  | wrongValue (parameter : Parameter) (value : String)
  | needlessValue (parameter : Parameter) (value : String)
  | repeated (parameter : Parameter)
  | excluded (parameter other : Parameter)
  deriving DecidableEq, Repr

/-- The wording of a fault. -/
def UsageFault.message : UsageFault → String
  | unknown argument => "unexpected argument '" ++ argument ++ "' found"
  | noValue p => "a value is required for '" ++ p.title ++ "' but none was supplied"
  | wrongValue p value => "invalid value '" ++ value ++ "' for '" ++ p.title ++ "'"
  | needlessValue p value =>
    "unexpected value '" ++ value ++ "' for '" ++ p.title ++ "' found; no more were expected"
  | repeated p => "the argument '" ++ p.title ++ "' cannot be used multiple times"
  | excluded p other =>
      "the argument '" ++ p.title ++ "' cannot be used with '" ++ other.title ++ "'"

/-- Why the arguments ask for no graph. -/
inductive Halt where
  | fault (fault : UsageFault)
  | help
  | version
  deriving DecidableEq, Repr

/-! ## Reading -/

/-- What has been given, in order, and the parameter that may still get its value. -/
structure Given where
  taken : List (Parameter × String)
  pending : Option (Parameter × Option String)

namespace Given

/-- Nothing. -/
def nothing : Given := ⟨[], none⟩

/-- Whether a parameter has been given. -/
def has (g : Given) (p : Parameter) : Bool := g.taken.any (·.1 == p)

/-- Adds a parameter that nothing is pending before. -/
def add (g : Given) (p : Parameter) (value : String) : Except Halt Given :=
  if g.has p && !p.repeats then .error (.fault (.repeated p))
  else if p.placeholder?.isNone || p.accepts value then
    .ok { g with
      taken := (if p.repeats then g.taken.filter (·.1 != p) else g.taken) ++ [(p, value)] }
  else if value.isEmpty then .error (.fault (.noValue p))
  else .error (.fault (.wrongValue p value))

/-- Adds the pending parameter. -/
def settle (g : Given) : Except Halt Given :=
  match g.pending with
  | none => .ok g
  | some (p, none) => .error (.fault (.noValue p))
  | some (p, some value) => { g with pending := none }.add p value

/-- Adds a parameter behind the pending one. -/
def give (g : Given) (p : Parameter) (value : String) : Except Halt Given := do
  let g ← g.settle
  match p with
  | .help => .error .help
  | .version => .error .version
  | p => g.add p value

/-- Reads an option by its name, with the value that is attached to it. -/
def long (g : Given) (name : String) (value? : Option String) : Except Halt Given :=
  match Parameter.options.find? (·.long == name), value? with
  | none, _ => .error (.fault (.unknown ("--" ++ name)))
  | some p, some value =>
    if p.placeholder?.isSome then g.give p value else .error (.fault (.needlessValue p value))
  | some p, none =>
    if p.placeholder?.isSome then do
      let g ← g.settle
      return { g with pending := some (p, none) }
    else g.give p ""

/-- Reads options by their letters; the rest behind one that takes a value is its value. -/
def short (g : Given) : List Char → Except Halt Given
  | [] => .ok g
  | c :: rest =>
    match Parameter.options.find? (·.short? == some c) with
    | none => .error (.fault (.unknown ("-" ++ String.ofList [c])))
    | some p =>
      if p.placeholder?.isSome then
        match rest with
        | [] => do
          let g ← g.settle
          return { g with pending := some (p, none) }
        | '=' :: value => g.give p (String.ofList value)
        | value => g.give p (String.ofList value)
      else do
        let g ← g.give p ""
        g.short rest

/-- Reads a word that can only be the file. A second one is complained about before the value that
is pending. -/
def file (g : Given) (text : String) : Except Halt Given :=
  if g.has .file || g.pending.any (·.1 == .file) then .error (.fault (.unknown text))
  else do
    let g ← g.settle
    return { g with pending := some (.file, some text) }

/-- Reads a word that is no option: the value of the pending one, or the file. -/
def word (g : Given) (text : String) : Except Halt Given :=
  match g.pending with
  | some (p, none) => .ok { g with pending := some (p, some text) }
  | _ => g.file text

/-- The name and the attached value of an option. -/
def splitValue (text : List Char) : String × Option String :=
  match Text.splitOnce? '=' text with
  | some (name, value) => (String.ofList name, some (String.ofList value))
  | none => (String.ofList text, none)

/-- Reads the arguments one by one. -/
def read (g : Given) : List String → Except Halt Given
  | [] => g.settle
  | argument :: rest =>
    match argument.toList with
    | ['-', '-'] => do
      let g ← rest.foldlM file g
      g.settle
    | '-' :: '-' :: option => do
      let (name, value?) := splitValue option
      (← g.long name value?).read rest
    | '-' :: c :: letters => do (← g.short (c :: letters)).read rest
    | _ => do (← g.word argument).read rest

/-- The first of the given parameters that excludes another one, and that one. -/
def clash? (g : Given) : Option (Parameter × Parameter) :=
  g.taken.findSome? fun p =>
    (g.taken.find? fun q => p.1.excludes q.1).map fun q => (p.1, q.1)

/-- The value of a parameter. -/
def value? (g : Given) (p : Parameter) : Option String := (g.taken.find? (·.1 == p)).map (·.2)

/-- The value of a parameter among named ones. -/
def choice {α : Type} (g : Given) (p : Parameter) (names : List (String × α)) (default : α) : α :=
  (((g.value? p).bind fun name => names.find? (·.1 == name)).map (·.2)).getD default

end Given

/-! ## The arguments -/

/-- Where the statement comes from. -/
inductive Origin where
  | builtIn
  | standardInput
  | file (path : String)
  deriving DecidableEq, Repr

/-- What is asked for. -/
structure Arguments where
  origin : Origin
  dialect : Sql.Dialect
  parsers : ParserChoice
  format : Format
  output? : Option String
  options : Options
  isQuiet : Bool
  deriving DecidableEq

/-- What the given parameters ask for. -/
def Given.arguments (g : Given) : Arguments :=
  let unlessGiven (p : Parameter) : Option Bool := if g.has p then some false else none
  { origin := if g.has .example then .builtIn
      else match g.value? .file with
        | some path => .file path
        | none => .standardInput
    dialect := g.choice .dialect Sql.Dialect.names .generic
    parsers := g.choice .parsers ParserChoice.names .auto
    format := g.choice .format formatNames (fun _ => .listing) (g.has .compact)
    output? := g.value? .output
    options := ⟨unlessGiven .noInferJoins, unlessGiven .noAliasJoins⟩
    isQuiet := g.has .quiet }

/-- Reads a list of arguments. -/
def Arguments.read (arguments : List String) : Except Halt Arguments := do
  let given ← Given.nothing.read arguments
  match given.clash? with
  | some (p, q) => .error (.fault (.excluded p q))
  | none => return given.arguments

end JoinGraph.CommandLine
