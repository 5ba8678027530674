import Bulletin.Main
import Bulletin.Proofs.Expr.Derivation
import Bulletin.Proofs.Expr.Reading
import Bulletin.Proofs.Expr.Outcome
import Bulletin.Proofs.Expr.ViablePrefix
import Bulletin.Proofs.Expr.Printing
import Bulletin.Proofs.Template.Substitution
import Bulletin.Proofs.Inputs
import Bulletin.Proofs.Expr.LexicalRules
import Bulletin.Proofs.Expr.LongestMatch
import Bulletin.Proofs.Expr.Tokenization
import Bulletin.Proofs.Number.Nearest
import Bulletin.Proofs.Number.Written
import Bulletin.Proofs.Number.ReadBack
import Bulletin.Proofs.Json.Scalars
import Bulletin.Proofs.Json.ReadBack
import Bulletin.Proofs.Value.Document
import Bulletin.Proofs.Number.Exact
import Bulletin.Proofs.Value.StrictEquality
import Bulletin.Proofs.Value.LooseEquality
import Bulletin.Proofs.Context.Routes
import Bulletin.Proofs.Expr.OpenCalls
import Bulletin.Proofs.Template.Structure
import Bulletin.Proofs.Context.Operations
import Bulletin.Proofs.Settings.Layers
import Bulletin.Proofs.Command.Answers
import Bulletin.Proofs.Expr.TokenBoundaries
import Bulletin.Proofs.Number.Plain
import Bulletin.Proofs.Number.PlainText
import Bulletin.Proofs.Template.EmptyBraces
import Bulletin.Proofs.Value.NumeralEquality
import Bulletin.Proofs.Template.Concatenation
import Bulletin.Proofs.Template.Quotation
import Bulletin.Proofs.Expr.Composition
import Bulletin.Proofs.Context.KeyOrder
import Bulletin.Proofs.Context.Normalization
import Bulletin.Proofs.Number.NearestDouble
import Bulletin.Proofs.Value.TextEquality
import Bulletin.Proofs.Number.Division
import Bulletin.Proofs.Expr.NaturalSpellings
import Bulletin.Proofs.Value.Places
import Bulletin.Proofs.Number.WrittenNumbers
import Bulletin.Proofs.Value.NumberTexts
import Bulletin.Proofs.Members
import Bulletin.Proofs.Text.AsciiCase
import Bulletin.Proofs.Text.Lines
import Bulletin.Proofs.Value.NormalForm
import Bulletin.Proofs.Context.Descent
import Bulletin.Proofs.Context.PlatformMetadata
import Bulletin.Proofs.Expr.Caret
