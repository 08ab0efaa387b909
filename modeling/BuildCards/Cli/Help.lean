import BuildCards.Cli.Invocation

/-!
# Texts of the command line

The help texts, the wording of a misuse, and the completion scripts.

The help texts are the program's.  The parser of arguments and the generator of completion scripts
are no part of this library, so the wording of a misuse and the scripts are its own, in place of
theirs.  What is fixed of them is when they are shown, where, and with which exit code.
-/

namespace BuildCards

namespace Cli

/-- Lines of a text that is printed. -/
def printed (ls : List String) : Text := ls.flatMap fun l => l.toList ++ ['\n']

/-! ### Help -/

/-- The examples at the end of the help. -/
def examples : List String :=
  ["Examples:",
    "  cardinfo --file cards.txt",
    "  cardinfo --kind file < step.txt",
    "  cardinfo --json --stdin < cards.txt",
    "  cardinfo completion bash"]

/-- How the program is called, and its commands. -/
def usage : List String :=
  ["Usage: cardinfo [OPTIONS] [COMMAND]",
    "",
    "Commands:",
    "  completion  Generate shell completion scripts",
    "  help        Print this message or the help of the given subcommand(s)",
    ""]

/-- The help text on a topic. -/
def HelpTopic.text : HelpTopic → Text
  | summary =>
    printed <|
      ["Normalize container build-step cards", ""] ++ usage ++
      ["Options:",
        "  -f, --file <PATH>  Read input from a file path",
        "      --stdin        Read input from stdin",
        "  -k, --kind <KIND>  Treat input as one unwrapped item [possible values: file, repository, main-repository, packages, ssh-key]",
        "      --json         Emit parsed items as JSON",
        "  -v, --verbose      Print debug details to stderr",
        "  -h, --help         Print help (see more with '--help')",
        ""] ++ examples
  | full =>
    printed <|
      ["Parse container build-step cards and print their canonical Dockerfile rendering.",
        "",
        "Input is a document of `#Start: <type>` ... `#End` blocks, or a single raw item body when --kind is given. Legacy ADD syntax is accepted and rewritten to array syntax.",
        ""] ++ usage ++
      ["Options:",
        "  -f, --file <PATH>",
        "          Read input from PATH. If omitted, input is read from stdin.",
        "",
        "      --stdin",
        "          Read input from stdin. This conflicts with --file.",
        "",
        "  -k, --kind <KIND>",
        "          Treat the whole input as the body of a single item of KIND instead of a document of #Start/#End blocks.",
        "          ",
        "          [possible values: file, repository, main-repository, packages, ssh-key]",
        "",
        "      --json",
        "          Emit a JSON array with one object per item (type, id, name, path, commands, flags) instead of the rendered text.",
        "",
        "  -v, --verbose",
        "          Print parser debug events to stderr while keeping stdout clean for result output. RUST_LOG takes precedence when set.",
        "",
        "  -h, --help",
        "          Print help (see a summary with '-h')",
        ""] ++ examples
  | completion =>
    printed
      ["Generate shell completion scripts",
        "",
        "Usage: cardinfo completion <SHELL>",
        "",
        "Arguments:",
        "  <SHELL>  [possible values: bash, zsh, fish]",
        "",
        "Options:",
        "  -h, --help  Print help"]
  | help =>
    printed
      ["Print this message or the help of the given subcommand(s)",
        "",
        "Usage: cardinfo help [COMMAND]...",
        "",
        "Arguments:",
        "  [COMMAND]...  Print help for the subcommand(s)"]

/-! ### Misuse -/

/-- What is wrong with the arguments, in words of this library, which stand for those of a parser of
arguments. -/
def Misuse.message : Misuse → Text
  | unknown argument => "error: unexpected argument '".toList ++ argument ++ "' found".toList
  | repeated option =>
    "error: the argument '".toList ++ option ++ "' cannot be used multiple times".toList
  | missingValue option =>
    "error: a value is required for '".toList ++ option ++ "' but none was supplied".toList
  | invalidValue option value =>
    "error: invalid value '".toList ++ value ++ "' for '".toList ++ option ++ "'".toList
  | unexpectedValue option =>
    "error: no value is allowed for '".toList ++ option ++ "'".toList

/-! ### Completion -/

/-- A completion script for a shell.  It is written here, offers the commands and the options, and
stands for the script of a generator. -/
def Shell.script : Shell → Text
  | bash =>
    printed ["complete -W 'completion help --file --stdin --kind --json --verbose --help' cardinfo"]
  | zsh =>
    printed
      ["#compdef cardinfo",
        "compadd completion help --file --stdin --kind --json --verbose --help"]
  | fish =>
    printed
      ["complete -c cardinfo -s f -l file -r",
        "complete -c cardinfo -l stdin",
        "complete -c cardinfo -s k -l kind -x -a 'file repository main-repository packages ssh-key'",
        "complete -c cardinfo -l json",
        "complete -c cardinfo -s v -l verbose",
        "complete -c cardinfo -s h -l help",
        "complete -c cardinfo -n '__fish_use_subcommand' -a 'completion help'"]

end Cli

end BuildCards
