import BuildCards.Cli.Invocation
import BuildCards.Text.Search

/-!
# Arguments of the command line

`Invocation.ofArguments` says what a list of arguments asks for.  The arguments are taken from left
to right.  An option whose value is an argument of its own is *pending*, and its value is checked
only when the next option is met or the arguments end (`Progress.settle`).  A request for help is
answered as soon as it is met, so the first of a request for help and a misuse counts.
-/

namespace BuildCards

namespace Cli

/-! ### Single arguments -/

/-- What an argument is by its form. -/
inductive Argument
  /-- Two dashes alone, after which nothing is an option. -/
  | separator
  /-- A long name, perhaps with a value after an equals sign. -/
  | long (name : Text) (value : Option Text)
  /-- Letters after one dash. -/
  | letters (letters : Text)
  /-- Anything else. -/
  | word (word : Text)
  deriving DecidableEq

/-- The form of an argument. -/
def Argument.ofText : Text → Argument
  | '-' :: '-' :: [] => separator
  | '-' :: '-' :: t =>
    match t.dropWhile (· != '=') with
    | _ :: value => long (t.takeWhile (· != '=')) (some value)
    | [] => long t none
  | '-' :: c :: t => letters (c :: t)
  | t => word t

/-! ### Reading the arguments -/

/-- What the arguments so far have said. -/
structure Progress where
  /-- The options that are settled. -/
  options : Options
  /-- A setting that is not, with its value if it has been met. -/
  pending : Option (Setting × Option Text)

namespace Progress

variable (p : Progress)

/-- The options once the pending setting is made. -/
def settle : Except Misuse Options :=
  match p.pending with
  | none => .ok p.options
  | some (setting, none) => .error (.missingValue setting.name)
  | some (setting, some value) => p.options.set setting value

/-- The setting that waits for its value. -/
def awaiting : Option Setting :=
  match p.pending with
  | some (setting, none) => some setting
  | _ => none

/-- What follows when the pending setting has been made, unless that is a misuse. -/
def settled (f : Options → Except Misuse Progress) : Except Invocation Progress :=
  match p.settle with
  | .error m => .error (.misuse m)
  | .ok o =>
    match f o with
    | .error m => .error (.misuse m)
    | .ok p => .ok p

/-- The request for help, unless the pending setting is a misuse. -/
def helpOn (topic : HelpTopic) : Invocation :=
  match p.settle with
  | .error m => .misuse m
  | .ok _ => .help topic

/-- Takes a long option. -/
def long (name : Text) (value : Option Text) : Except Invocation Progress :=
  match Switch.ofName? name, value with
  | none, _ => .error (.misuse (.unknown ("--".toList ++ name)))
  | some (.setting setting), none => p.settled fun o => .ok ⟨o, some (setting, none)⟩
  | some (.setting setting), some value =>
    p.settled fun o => (o.set setting value).map (⟨·, none⟩)
  | some (.flag flag), none => p.settled fun o => (o.raise flag).map (⟨·, none⟩)
  | some .help, none => .error (p.helpOn .full)
  | some _, some _ => .error (.misuse (.unexpectedValue ("--".toList ++ name)))

/-- Takes letters, of which one that is a setting takes the rest as its value. -/
def letters (p : Progress) : Text → Except Invocation Progress
  | [] => .ok p
  | c :: rest =>
    match Switch.ofLetter? c with
    | none => .error (.misuse (.unknown ['-', c]))
    | some (.setting setting) =>
      p.settled fun o =>
        if rest.isEmpty then .ok ⟨o, some (setting, none)⟩
        else (o.set setting (Text.dropStart ['='] rest)).map (⟨·, none⟩)
    | some (.flag flag) =>
      match p.settled fun o => (o.raise flag).map (⟨·, none⟩) with
      | .error i => .error i
      | .ok p => letters p rest
    | some .help => .error (p.helpOn .summary)

end Progress

namespace Invocation

/-- The name of the command for completion scripts. -/
def completionWord : Text := "completion".toList

/-- The name of the command for help. -/
def helpWord : Text := "help".toList

/-- The completion script for the shell that was named. -/
def ofShell : Option Text → Invocation
  | none => misuse (.missingValue "<SHELL>".toList)
  | some word =>
    match Shell.ofWord? word with
    | some shell => completion shell
    | none => misuse (.invalidValue "<SHELL>".toList word)

/-- What the arguments of the command for completion scripts ask for, `shell` being named before
them. -/
def ofCompletion (shell : Option Text) : List Text → Invocation
  | [] => ofShell shell
  | argument :: rest =>
    match Argument.ofText argument with
    | .separator =>
      match shell, rest with
      | shell, [] => ofShell shell
      | none, [word] => ofShell (some word)
      | none, _ :: extra :: _ => misuse (.unknown extra)
      | some _, extra :: _ => misuse (.unknown extra)
    | .long name value =>
      if name = helpWord ∧ value = none then helpUnlessMisuse else misuse (.unknown argument)
    | .letters t => if t.head? = some 'h' then helpUnlessMisuse else misuse (.unknown argument)
    | .word word =>
      match shell with
      | none => ofCompletion (some word) rest
      | some _ => misuse (.unknown word)
where
  /-- The help for the command, unless the shell is none. -/
  helpUnlessMisuse : Invocation :=
    match shell.map fun word => ofShell (some word) with
    | some (misuse m) => misuse m
    | _ => help .completion

/-- The help text for a command. -/
def ofHelp : List Text → Invocation
  | [] => help .full
  | [word] =>
    if word = completionWord then help .completion
    else if word = helpWord then help .help
    else misuse (.unknown word)
  | _ :: word :: _ => misuse (.unknown word)

/-- What the options ask for when no arguments are left. -/
def ofProgress (p : Progress) : Invocation :=
  match p.settle with
  | .error m => misuse m
  | .ok o => process o

/-- A completion script, unless an option before the command is a misuse. -/
def afterProgress (p : Progress) : Invocation → Invocation
  | completion shell =>
    match p.settle with
    | .error m => misuse m
    | .ok _ => completion shell
  | other => other

/-- What the arguments ask for after those that led to `p`. -/
def ofArgumentsFrom (p : Progress) : List Text → Invocation
  | [] => ofProgress p
  | argument :: rest =>
    match Argument.ofText argument with
    | .separator =>
      match rest with
      | [] => ofProgress p
      | extra :: _ => misuse (.unknown extra)
    | .long name value =>
      match p.long name value with
      | .error i => i
      | .ok p => ofArgumentsFrom p rest
    | .letters t =>
      match p.letters t with
      | .error i => i
      | .ok p => ofArgumentsFrom p rest
    | .word word =>
      match p.awaiting with
      | some setting => ofArgumentsFrom { p with pending := some (setting, some word) } rest
      | none =>
        if word = completionWord then afterProgress p (ofCompletion none rest)
        else if word = helpWord then ofHelp rest
        else misuse (.unknown word)

/-- What the arguments ask for. -/
def ofArguments (arguments : List Text) : Invocation := ofArgumentsFrom ⟨{}, none⟩ arguments

end Invocation

end Cli

end BuildCards
