import BuildCards.AddHeader
import BuildCards.Block
import BuildCards.Bootstrap
import BuildCards.Event
import BuildCards.Text.Line

/-!
# Recipes

A recipe adds something to an image and runs commands on it.  Its text has an `ADD` header, a line
that is not looked at (it names the working directory, which follows from the header), and a line
for each command, possibly with the bootstrap script before them.

`Recipe.parse` reads such a text, `Recipe.log` says what is reported meanwhile, and `Recipe.render`
writes a recipe as a block of a document, between two markers.
-/

namespace BuildCards

/-- Something to add, and commands to run on it. -/
structure Recipe where
  /-- The identifier. -/
  id : Text
  /-- What is added. -/
  name : Text
  /-- Where it goes. -/
  path : Text
  /-- The commands of its own. -/
  commands : List Command
  /-- The bootstrap script runs before the commands. -/
  hasBootstrap : Bool
  /-- The text had a header in the legacy form. -/
  legacyAdd : Bool
  /-- The recipe was read from a text. -/
  fromText : Bool
  /-- The text that the recipe was read from. -/
  source : Option Text
  deriving DecidableEq

namespace Recipe

/-! ### Reading -/

/-- The recipe of no text.  SSH keys go to their place even so. -/
def blank (kind : RecipeKind) (id : Text) : Recipe where
  id := id
  name := []
  path := if kind = .sshKey then Kind.sshKeyPath else []
  commands := []
  hasBootstrap := false
  legacyAdd := false
  fromText := false
  source := none

/-- The first line of a text. -/
def headerLine (text : Text) : Text := (Text.lines text).headD []

/-- The lines of a text after the first two. -/
def bodyLines (text : Text) : List Text := (Text.lines text).drop 2

/-- The lines of a text after the first two, with the script by its present name. -/
def migratedLines (text : Text) : List Text := (bodyLines text).map Bootstrap.migrate

/-- The lines that hold commands of its own, of migrated lines after the first two: those of the
bootstrap script do not, nor do blank lines. -/
def ownLines (ls : List Text) : List Text :=
  (if Bootstrap.opens ls then ls.drop 2 else ls).filter fun line => ¬ Text.IsBlank line

/-- The lines of a text that hold commands of its own. -/
def commandLines (text : Text) : List Text := ownLines (migratedLines text)

/-- The recipe in a text that is not empty. -/
def parseText (kind : RecipeKind) (id text : Text) : Except Fault Recipe := do
  let header ← AddHeader.parse (headerLine text)
  let commands ← (commandLines text).mapM Command.parse
  return {
    id := id
    name := header.name
    path := if kind = .sshKey then Kind.sshKeyPath else header.path
    commands := commands
    hasBootstrap := Bootstrap.opens (migratedLines text)
    legacyAdd := header.legacy
    fromText := true
    source := some text }

/-- The recipe in a text.  No text and an empty one give a blank recipe. -/
def parse (kind : RecipeKind) (id : Text) : Option Text → Except Fault Recipe
  | none => .ok (blank kind id)
  | some [] => .ok (blank kind id)
  | some (c :: text) => parseText kind id (c :: text)

/-- The identifier has no part in how a text is read. -/
theorem parse_withId (kind : RecipeKind) (id id' : Text) (source : Option Text) :
    parse kind id' source = (parse kind id source).map fun r => { r with id := id' } := by
  match source with
  | none => rfl
  | some [] => rfl
  | some (c :: text) =>
    simp only [parse, parseText]
    cases AddHeader.parse (headerLine (c :: text)) with
    | error fault => rfl
    | ok header =>
      cases (commandLines (c :: text)).mapM Command.parse with
      | error fault => rfl
      | ok commands => rfl

/-- What is reported of a text with this header. -/
def logText (kind : RecipeKind) (header : AddHeader) (text : Text) : List Event :=
  (if header.legacy then [.legacyAdd kind (headerLine text)] else []) ++
    ((bodyLines text).filter fun line => Bootstrap.migrate line ≠ line).map .migratedScript ++
    if Bootstrap.opens (migratedLines text) then [.foundBootstrap kind] else []

/-- What is reported while a text is read, also when a command turns out to be none. -/
def log (kind : RecipeKind) : Option Text → List Event
  | none => []
  | some [] => []
  | some (c :: text) =>
    match AddHeader.parse (headerLine (c :: text)) with
    | .error _ => []
    | .ok header => logText kind header (c :: text)

/-! ### Writing -/

variable (r : Recipe)

/-- The command that sets up an SSH key. -/
def sshKeyCommand (name : Text) : Command :=
  let key := Text.trim name
  ⟨some .run,
    "chmod 0400 ".toList ++ key ++ " && echo \"IdentityFile /".toList ++ Kind.sshKeyPath ++ key ++
      "\" >> /etc/ssh/ssh_config && ssh-keyscan -H github.com > /etc/ssh/ssh_known_hosts".toList,
    false⟩

/-- The commands that run when the recipe is taken as one of the given kind.  The commands of an SSH
key follow from its name. -/
def effectiveCommands (kind : Kind) : List Command :=
  (if r.hasBootstrap then Bootstrap.commands else []) ++
    if kind = .recipe .sshKey then [sshKeyCommand r.name] else r.commands.map Command.clone

/-- The name as it is written. -/
def renderedName : Text := Text.trim r.name

/-- The path as it is written. -/
def renderedPath (kind : Kind) : Text := Text.trim (kind.defaultPath r.renderedName r.path)

/-- The lines of the commands that say something. -/
def renderedLines (kind : Kind) : List Text :=
  ((r.effectiveCommands kind).map Command.text).filter (!·.isEmpty)

/-- The text of a recipe: the header and, if there are commands, the working directory and a line
for each. -/
def content (kind : Kind) : Text :=
  let path := r.renderedPath kind
  let lines := r.renderedLines kind
  AddHeader.text r.renderedName path ++
    if lines.isEmpty then []
    else "\nWORKDIR /".toList ++ path ++ '\n' :: Text.joinLines lines

/-- The block of a recipe that is taken as one of the given kind. -/
def render (kind : Kind) : Text := Block.wrap kind (r.content kind)

/-! ### Copying -/

/-- A copy, with copies of the commands. -/
def clone : Recipe := { r with commands := r.commands.map Command.clone }

end Recipe

end BuildCards
