import SqlDialect.CommandLine.Command

/-! What the arguments of the program ask for.

The first argument names a command. Options may stand anywhere after it, up to an argument `--`;
after that one, no argument is an option.
-/

set_option autoImplicit false

namespace SqlDialect

inductive Invocation where
  | importSchema (database : Text) (isQuiet : Bool) (files : List Text)
  | translate (params : Option Text) (query : Text)
  | query (config params : Option Text) (query : Text)
  | help (command : Option Command)
  | version

inductive UsageError where
  | noArguments
  | unknownCommand (word : Text)
  | unexpected (argument : Text)
  | missing (shown : List Text)
  | missingValue (shown : Text)
  | unexpectedValue (value shown : Text)
  | repeated (shown : Text)

namespace UsageError

def message : UsageError → Text
  | noArguments => []
  | unknownCommand word => "unrecognized subcommand '" ++ word ++ "'"
  | unexpected argument => "unexpected argument '" ++ argument ++ "' found"
  | missing shown =>
    "the following required arguments were not provided:" ++ shown.flatMap ('\n' :: ' ' :: ' ' :: ·)
  | missingValue shown => "a value is required for '" ++ shown ++ "' but none was supplied"
  | unexpectedValue value shown =>
    "unexpected value '" ++ value ++ "' for '" ++ shown ++ "' found; no more were expected"
  | repeated shown => "the argument '" ++ shown ++ "' cannot be used multiple times"

def text (command : Option Command) : UsageError → Text
  | noArguments => programHelp
  | e =>
    "error: " ++ e.message ++ "\n\n" ++ (command.elim programUsage Command.usage) ++
      "\n\nFor more information, try '--help'.\n"

end UsageError

structure Given where
  /-- Options with their values; those without one have an empty value. -/
  options : List (Text × Text)
  positionals : List Text

inductive Reading where
  | given (g : Given)
  | help

namespace Given

def option? (g : Given) (name : Text) : Option Text := g.options.lookup name

def addOption (g : Given) (o : CommandOption) (value : Text) : Except UsageError Given :=
  if (g.option? o.name).isSome then .error (.repeated o.shown)
  else if o.isPath ∧ value = [] then .error (.missingValue o.shown)
  else .ok { g with options := g.options ++ [(o.name, value)] }

def addPositional (g : Given) (p : Positional) (argument : Text) : Except UsageError Given :=
  if g.positionals ≠ [] ∧ !p.isMany then .error (.unexpected argument)
  else if p.isPath ∧ argument = [] then .error (.missingValue p.shown)
  else .ok { g with positionals := g.positionals ++ [argument] }

end Given

namespace Command

-- The first characters of an argument that is an option. A lone dash is none.
def isOption : Text → Bool
  | '-' :: _ :: _ => true
  | _ => false

-- Short options that stand together after one dash; nothing if help is among them.
def readShorts (c : Command) (g : Given) : Text → Except UsageError (Option Given)
  | [] => .ok (some g)
  | letter :: rest =>
    match c.options.find? (·.short == some letter) with
    | some o => do c.readShorts (← g.addOption o []) rest
    | none =>
      if letter = 'h' then .ok none else .error (.unexpected ['-', letter])

def readRest (c : Command) (g : Given) : List Text → Except UsageError Reading
  | [] => .ok (.given g)
  | argument :: rest => do c.readRest (← g.addPositional c.positional argument) rest

/-- An argument after an option that still needs its value: another option known here leaves it
without one. -/
def valueFor (c : Command) (o : CommandOption) (argument : Text) : Except UsageError Text :=
  if isOption argument then
    match argument with
    | '-' :: '-' :: name =>
      let known (name : Text) : Bool :=
        name == [] || name == "help" || c.options.any (·.name == name)
      let name := name.takeWhile (· ≠ '=')
      if known name then .error (.missingValue o.shown) else .error (.unexpected ("--" ++ name))
    | '-' :: letter :: _ =>
      if letter = 'h' ∨ c.options.any (·.short == some letter) then .error (.missingValue o.shown)
      else .error (.unexpected ['-', letter])
    | _ => .error (.missingValue o.shown)
  else .ok argument

def splitLong (s : Text) : Text × Option Text :=
  let name := s.takeWhile (· ≠ '=')
  match s.drop name.length with
  | _ :: value => (name, some value)
  | [] => (name, none)

def read (c : Command) (g : Given) : List Text → Except UsageError Reading
  | [] => .ok (.given g)
  | argument :: rest =>
    if argument = "--" then c.readRest g rest
    else if isOption argument then
      match argument with
      | '-' :: '-' :: long =>
        let (name, value?) := splitLong long
        match c.options.find? (·.name == name) with
        | none =>
          if name = "help" ∧ value? = none then .ok .help
          else .error (.unexpected ("--" ++ name))
        | some o =>
          match o.value, value?, rest with
          | none, none, rest => do c.read (← g.addOption o []) rest
          | none, some value, _ => .error (.unexpectedValue value ("--" ++ name))
          | some _, some value, rest => do c.read (← g.addOption o value) rest
          | some _, none, [] => .error (.missingValue o.shown)
          | some _, none, next :: rest => do
            let value ← c.valueFor o next
            c.read (← g.addOption o value) rest
      | shorts => do
        match ← c.readShorts g (shorts.drop 1) with
        | some g => c.read g rest
        | none => return .help
    else do c.read (← g.addPositional c.positional argument) rest

def missing (c : Command) (g : Given) : List Text :=
  (c.options.filter fun o => o.isRequired && (g.option? o.name).isNone).map CommandOption.shown ++
    if g.positionals = [] then [c.positional.shown] else []

def invocation (c : Command) (g : Given) : Invocation :=
  let query := (g.positionals.head?).getD []
  match c with
  | .schemaImport =>
    .importSchema ((g.option? "database").getD []) (g.option? "quiet").isSome g.positionals
  | .translate => .translate (g.option? "params") query
  | .query => .query (g.option? "config") (g.option? "params") query

def ofArguments (c : Command) (arguments : List Text) : Except UsageError Invocation := do
  match ← c.read ⟨[], []⟩ arguments with
  | .help => return .help (some c)
  | .given g =>
    match c.missing g with
    | [] => return c.invocation g
    | shown => throw (.missing shown)

end Command

namespace Invocation

def ofArguments : List Text → Except (Option Command × UsageError) Invocation
  | [] => .error (none, .noArguments)
  | first :: rest =>
    match Command.ofName? first with
    | some c => (c.ofArguments rest).mapError (some c, ·)
    | none =>
      if first = "help" then
        match rest with
        | [] => .ok (.help none)
        | word :: _ =>
          match Command.ofName? word with
          | some c => .ok (.help (some c))
          | none => .error (none, .unknownCommand word)
      else if first = "--help" ∨ first = "-h" then .ok (.help none)
      else if first = "--version" ∨ first = "-V" then .ok .version
      else if first = "--" then
        match rest with
        | [] => .error (none, .noArguments)
        | word :: _ =>
          .error (none, if (Command.ofName? word).isSome then .unexpected word
            else .unknownCommand word)
      else if Command.isOption first then .error (none, .unexpected (optionName first))
      else .error (none, .unknownCommand first)
where
  optionName (s : Text) : Text :=
    if "--".toList.isPrefixOf s then s.takeWhile (· ≠ '=') else s.take 2

end Invocation

end SqlDialect
