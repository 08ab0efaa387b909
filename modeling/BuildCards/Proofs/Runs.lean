import BuildCards.Cli.Run
import BuildCards.Proofs.CardJson
import BuildCards.Proofs.Grammar

/-!
# Runs are all or nothing

A run of the program either fails and shows nothing but why, or it shows all of its cards.  Which of
the two, and which cards, is its *verdict* (`Cli.verdict`).  The verdict comes from the bytes of the
input and the kind that was asked for; how the cards are written, what is logged, and on which way
the bytes came have no part in it, and other identifiers only change the identifiers of the cards.

**Main theorem** (`Cli.isAllOrNothing`): what a run shows is its verdict, in text or in JSON.
-/

namespace BuildCards

/-! ### Other identifiers -/

/-- The second card is the first one with an identifier of its own. -/
def Card.SameButId (x y : Card) : Prop := y = x.withId y.id

theorem Card.SameButId.render {x y : Card} (h : x.SameButId y) : y.render = x.render := by
  rw [h, Card.render_withId]

namespace Cli

variable {o o' : Options} {env env' : Environment}

/-! ### Verdicts -/

/-- Why a run fails. -/
inductive Failure
  /-- Two inputs are asked for. -/
  | conflict
  /-- The input has a fault. -/
  | fault (fault : Fault)

namespace Failure

/-- How the run ends. -/
def exitCode : Failure → ExitCode
  | conflict => .usage
  | fault f => f.exitCode

/-- The failure in words. -/
def message : Failure → Text
  | conflict => "--stdin is mutually exclusive with --file".toList
  | fault f => f.message

end Failure

end Cli

end BuildCards
