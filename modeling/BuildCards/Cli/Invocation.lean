import BuildCards.Kind

/-!
# Calls of the program

What a call of the program can ask for: a run with options, a help text, a completion script, or
nothing sensible, which is a `Misuse`.  The options are two *settings*, which have a value, and
three *flags*, which have none; each may be given once (`Options.set`, `Options.raise`).
-/

namespace BuildCards

namespace Cli

/-! ### What can be asked for -/

/-- A shell that completion scripts are made for. -/
inductive Shell
  | bash
  | zsh
  | fish
  deriving DecidableEq

/-- A help text. -/
inductive HelpTopic
  /-- The options, a line each. -/
  | summary
  /-- The options at length. -/
  | full
  /-- The command for completion scripts. -/
  | completion
  /-- The command for help. -/
  | help
  deriving DecidableEq

/-- The options of a run. -/
structure Options where
  /-- The file to read from. -/
  file : Option Text := none
  /-- Standard input is asked for by name. -/
  stdin : Bool := false
  /-- The kind of the single card that the input is. -/
  kind : Option Kind := none
  /-- The cards are written in JSON. -/
  json : Bool := false
  /-- More is reported. -/
  verbose : Bool := false
  deriving DecidableEq

/-- What is wrong with the arguments. -/
inductive Misuse
  | unknown (argument : Text)
  | repeated (option : Text)
  | missingValue (option : Text)
  | invalidValue (option value : Text)
  | unexpectedValue (option : Text)
  deriving DecidableEq

/-- What a list of arguments asks for. -/
inductive Invocation
  | process (options : Options)
  | help (topic : HelpTopic)
  | completion (shell : Shell)
  | misuse (misuse : Misuse)
  deriving DecidableEq

/-! ### Options -/

/-- An option with a value. -/
inductive Setting
  | file
  | kind
  deriving DecidableEq

/-- An option without a value. -/
inductive Flag
  | stdin
  | json
  | verbose
  deriving DecidableEq

/-- What an option is. -/
inductive Switch
  | setting (setting : Setting)
  | flag (flag : Flag)
  | help
  deriving DecidableEq

/-- The long name of a setting. -/
def Setting.name : Setting → Text
  | file => "--file".toList
  | kind => "--kind".toList

/-- The long name of a flag. -/
def Flag.name : Flag → Text
  | stdin => "--stdin".toList
  | json => "--json".toList
  | verbose => "--verbose".toList

/-- The option with this long name, the dashes left out. -/
def Switch.ofName? (name : Text) : Option Switch :=
  if name = "file".toList then some (.setting .file)
  else if name = "kind".toList then some (.setting .kind)
  else if name = "stdin".toList then some (.flag .stdin)
  else if name = "json".toList then some (.flag .json)
  else if name = "verbose".toList then some (.flag .verbose)
  else if name = "help".toList then some .help
  else none

/-- The option with this letter. -/
def Switch.ofLetter? : Char → Option Switch
  | 'f' => some (.setting .file)
  | 'k' => some (.setting .kind)
  | 'v' => some (.flag .verbose)
  | 'h' => some .help
  | _ => none

/-- The word for a kind on the command line. -/
def kindWord : Kind → Text
  | .recipe .file => "file".toList
  | .recipe .repository => "repository".toList
  | .recipe .mainRepository => "main-repository".toList
  | .packages => "packages".toList
  | .recipe .sshKey => "ssh-key".toList

/-- The word for a shell on the command line. -/
def Shell.word : Shell → Text
  | bash => "bash".toList
  | zsh => "zsh".toList
  | fish => "fish".toList

/-- The shell with this word. -/
def Shell.ofWord? (word : Text) : Option Shell := [bash, zsh, fish].find? fun s => s.word == word

namespace Options

variable (o : Options)

/-- The options with a setting made. -/
def set (setting : Setting) (value : Text) : Except Misuse Options :=
  match setting with
  | .file =>
    if o.file.isSome then .error (.repeated setting.name)
    else .ok { o with file := some value }
  | .kind =>
    if o.kind.isSome then .error (.repeated setting.name)
    else
      match Kind.all.find? fun k => kindWord k == value with
      | some kind => .ok { o with kind := some kind }
      | none => .error (.invalidValue setting.name value)

/-- The options with a flag raised. -/
def raise (flag : Flag) : Except Misuse Options :=
  match flag with
  | .stdin => if o.stdin then .error (.repeated flag.name) else .ok { o with stdin := true }
  | .json => if o.json then .error (.repeated flag.name) else .ok { o with json := true }
  | .verbose => if o.verbose then .error (.repeated flag.name) else .ok { o with verbose := true }

end Options

end Cli

end BuildCards
