import CrossBrowser.Command.Basic

/-! The arguments of the program.

Arguments come in two levels: those up to the name of a command, and those after it. An argument
that begins with a dash gives options: a long one by name, or short ones by their letters, run
together. An option that takes a value takes what follows in the same argument, or else the next
argument, which must not look like an option. Two dashes end the options of a level. An option may
be given once on each level, and the inner level counts. -/
namespace CrossBrowser

/-- Why no command is run. -/
inductive Stop where
  /-- The arguments make no sense. -/
  | refused
  /-- The version was asked for. -/
  | version
  /-- Help was asked for. -/
  | help
  deriving DecidableEq

/-- The name and version of the program. -/
def versionText : String := "browsercase 0.1.0"

/-- How the program is used. -/
def usageText : String :=
  "Usage: browsercase [OPTIONS] <COMMAND>\n\n" ++
  "Commands:\n" ++
  "  generate <PATH> [-o <DIR>] [--namespace <NAME>]\n" ++
  "  check <PATH> [-o <DIR>] [--namespace <NAME>]\n" ++
  "  print <FILE> [--namespace <NAME>]\n" ++
  "  classify <CATEGORIES>... [--json]\n" ++
  "  plan <FILE> [--json]\n" ++
  "  verify <PATH> [--supported <FILE>]\n\n" ++
  "Options: -v, -q, --config <FILE>, -V, -h"

/-- What is printed when no command is run. -/
def Stop.text : Stop → String
  | .refused => ""
  | .version => versionText ++ "\n"
  | .help => usageText ++ "\n"

namespace Arguments

/-! ### Options -/

/-- The options of all levels. -/
inductive OptionName where
  | verbose
  | quiet
  | config
  | version
  | help
  | output
  | namespaceName
  | json
  | supported
  deriving DecidableEq

/-- What an option takes, and how often it may be given. -/
inductive OptionKind where
  /-- Nothing; it may be given again. -/
  | repeatable
  /-- Nothing. -/
  | single
  /-- A path, which must not be empty. -/
  | path
  /-- Any text. -/
  | text
  deriving DecidableEq

namespace OptionName

/-- What the option takes. -/
def kind : OptionName → OptionKind
  | verbose => .repeatable
  | quiet | version | help | json => .single
  | config | output | supported => .path
  | namespaceName => .text

/-- The name of the option after two dashes. -/
def long : OptionName → String
  | verbose => "verbose"
  | quiet => "quiet"
  | config => "config"
  | version => "version"
  | help => "help"
  | output => "output"
  | namespaceName => "namespace"
  | json => "json"
  | supported => "supported"

/-- The letter of the option after one dash, if it has one. -/
def letter? : OptionName → Option Char
  | verbose => some 'v'
  | quiet => some 'q'
  | version => some 'V'
  | help => some 'h'
  | output => some 'o'
  | config | namespaceName | json | supported => none

/-- Whether the option takes a value. -/
def takesValue (name : OptionName) : Bool := name.kind = .path || name.kind = .text

end OptionName

/-! ### Arguments by their looks -/

/-- What an argument looks like. -/
inductive Token where
  /-- Two dashes. -/
  | endOfOptions
  /-- A long option, with what follows the first equality sign. -/
  | long (name : String) (value : Option String)
  /-- Short options. -/
  | short (letters : List Char)
  /-- Anything else, a single dash too. -/
  | word (text : String)

/-- What an argument looks like. -/
def Token.of (argument : String) : Token :=
  match argument.toList with
  | ['-', '-'] => .endOfOptions
  | '-' :: '-' :: rest =>
    let (name, value) := rest.span (· ≠ '=')
    .long (String.ofList name) (value.tail?.map String.ofList)
  | '-' :: letter :: rest => .short (letter :: rest)
  | _ => .word argument

/-! ### One level -/

/-- What the words of a level are. -/
inductive Words where
  /-- The name of a command. It ends the level. -/
  | commandName
  /-- One path, which must not be empty. -/
  | onePath
  /-- Any texts, but at least one. -/
  | texts
  deriving DecidableEq

/-- What a level admits. -/
structure Level where
  options : List OptionName
  words : Words

/-- What has been given on a level. -/
structure Given where
  /-- The options with their values; the value of an option that takes none is empty. -/
  options : List (OptionName × String)
  words : List String

namespace Given

/-- Nothing. -/
def nothing : Given := ⟨[], []⟩

/-- Whether an option has been given. -/
def has (g : Given) (name : OptionName) : Bool := (g.options.lookup name).isSome

/-- The value of an option that has been given. -/
def value? (g : Given) (name : OptionName) : Option String := g.options.lookup name

/-- The path that is the value of an option. -/
def path? (g : Given) (name : OptionName) : Option Path := (g.value? name).map Path.mk

/-- Adds an option. -/
def add (g : Given) (name : OptionName) (value : String) : Except Stop Given :=
  if name = .version then .error .version
  else if name = .help then .error .help
  else if name.kind ≠ .repeatable ∧ g.has name then .error .refused
  else if name.kind = .path ∧ value = "" then .error .refused
  else .ok { g with options := g.options ++ [(name, value)] }

/-- Adds a word. -/
def addWord (words : Words) (g : Given) (text : String) : Except Stop Given :=
  if words = .texts ∨ (g.words = [] ∧ text ≠ "") then .ok { g with words := g.words ++ [text] }
  else .error .refused

end Given

/-- Reads short options. Also gives the option whose value is the next argument. -/
def readShort (options : List OptionName) (g : Given) :
    List Char → Except Stop (Given × Option OptionName)
  | [] => .ok (g, none)
  | letter :: rest =>
    match options.find? (·.letter? = some letter) with
    | none => .error .refused
    | some name =>
      if !name.takesValue then do readShort options (← g.add name "") rest
      else
        match rest with
        | [] => .ok (g, some name)
        | '=' :: value => do return (← g.add name (String.ofList value), none)
        | value => do return (← g.add name (String.ofList value), none)

/-- Reads a long option. Also gives the option if its value is the next argument. -/
def readLong (options : List OptionName) (g : Given) (name : String) (value : Option String) :
    Except Stop (Given × Option OptionName) :=
  match options.find? (·.long = name), value with
  | none, _ => .error .refused
  | some name, none => if name.takesValue then .ok (g, some name) else do return (← g.add name "", none)
  | some name, some value =>
    if name.takesValue then do return (← g.add name value, none) else .error .refused

/-- Reads a level. `waiting` is the option whose value comes next. Also gives the arguments that
are left from the name of a command on. -/
def readLevel (level : Level) (waiting : Option OptionName) (g : Given) :
    List String → Except Stop (Given × List String)
  | [] => if waiting.isSome then .error .refused else .ok (g, [])
  | argument :: rest =>
    match waiting, Token.of argument with
    | some name, .word value => do readLevel level none (← g.add name value) rest
    | some _, _ => .error .refused
    | none, .word text =>
      if level.words = .commandName then .ok (g, argument :: rest)
      else do readLevel level none (← g.addWord level.words text) rest
    | none, .endOfOptions =>
      if level.words = .commandName then .error .refused
      else do return (← rest.foldlM (Given.addWord level.words) g, [])
    | none, .long name value => do
      let (g, waiting) ← readLong level.options g name value
      readLevel level waiting g rest
    | none, .short letters => do
      let (g, waiting) ← readShort level.options g letters
      readLevel level waiting g rest

/-! ### Commands -/

/-- The names of the commands. -/
inductive CommandName where
  | generate
  | check
  | print
  | classify
  | plan
  | verify
  deriving DecidableEq

namespace CommandName

/-- The name of the command in arguments. -/
def text : CommandName → String
  | generate => "generate"
  | check => "check"
  | print => "print"
  | classify => "classify"
  | plan => "plan"
  | verify => "verify"

/-- All commands. -/
def all : List CommandName := [generate, check, print, classify, plan, verify]

/-- The command with a name. -/
def ofText? (text : String) : Option CommandName := all.find? (·.text = text)

/-- The options that only this command has. -/
def ownOptions : CommandName → List OptionName
  | generate | check => [.output, .namespaceName]
  | print => [.namespaceName]
  | classify | plan => [.json]
  | verify => [.supported]

/-- What the level of the command admits. -/
def level (name : CommandName) : Level where
  options := [.verbose, .quiet, .config, .help] ++ name.ownOptions
  words := if name = .classify then .texts else .onePath

/-- The command with what has been given to it, of which `first` is the first word. -/
def command (name : CommandName) (g : Given) (first : String) : Command :=
  let options : OutputOptions := ⟨g.path? .output, g.value? .namespaceName⟩
  match name with
  | generate => .generate ⟨first⟩ options
  | check => .check ⟨first⟩ options
  | print => .print ⟨first⟩ options.namespaceName
  | classify => .classify g.words (g.has .json)
  | plan => .plan ⟨first⟩ (g.has .json)
  | verify => .verify ⟨first⟩ (g.path? .supported)

end CommandName

/-- What the level up to the name of a command admits. -/
def outerLevel : Level := ⟨[.verbose, .quiet, .config, .version, .help], .commandName⟩

/-- The name in place of a command by which help is asked for. -/
def helpName : String := "help"

/-- What is called for when help is asked for by name: help about the program or one command. -/
def helpWith : List String → Stop
  | [] => .help
  | [name] => if name = helpName ∨ (CommandName.ofText? name).isSome then .help else .refused
  | _ => .refused

/-- Reads the arguments of the program. -/
def parse (arguments : List String) : Except Stop Invocation := do
  let (outer, rest) ← readLevel outerLevel none .nothing arguments
  match rest with
  | [] => throw .refused
  | name :: rest =>
    if name = helpName then throw (helpWith rest)
    match CommandName.ofText? name with
    | none => throw .refused
    | some name =>
      let (inner, _) ← readLevel name.level none .nothing rest
      match inner.words with
      | [] => throw .refused
      | first :: _ =>
        return { verbose := outer.has .verbose || inner.has .verbose
                 config := inner.path? .config <|> outer.path? .config
                 command := name.command inner first }

end Arguments
end CrossBrowser
