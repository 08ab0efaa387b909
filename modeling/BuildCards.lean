import BuildCards.AddHeader
import BuildCards.Cli.Run
import BuildCards.Document
import BuildCards.IdSupply.Uuid
import BuildCards.Main
import BuildCards.Proofs.Grammar
import BuildCards.Proofs.CommandText
import BuildCards.Proofs.FormerName
import BuildCards.Proofs.RecipeLines
import BuildCards.Proofs.Rendering
import BuildCards.Proofs.RoundTrip
import BuildCards.Proofs.Stability
import BuildCards.Proofs.Spill
import BuildCards.Proofs.Copies
import BuildCards.Proofs.KeptCommands
import BuildCards.Proofs.Concatenation
import BuildCards.Proofs.LineEndings
import BuildCards.Proofs.Unwrapped
import BuildCards.Proofs.Construction
import BuildCards.Proofs.Reports
import BuildCards.Proofs.Draws
import BuildCards.Proofs.Identifiers
import BuildCards.Proofs.JsonText
import BuildCards.Proofs.CardJson
import BuildCards.Proofs.Runs
import BuildCards.Proofs.CommandGrammar
import BuildCards.Proofs.BlankLines
import BuildCards.Proofs.HeaderText
import BuildCards.Proofs.HeaderForms
import BuildCards.Proofs.LegacyHeaders
import BuildCards.Proofs.PackageLists
import BuildCards.Proofs.Migration
import BuildCards.Proofs.QuotedLines
import BuildCards.Proofs.LineBreaks
