import TextQuery.Main
import TextQuery.Proofs.Query.Agreement
import TextQuery.Proofs.Query.Canonical
import TextQuery.Proofs.Query.Composition
import TextQuery.Proofs.Query.Faults
import TextQuery.Proofs.Matching.Accents
import TextQuery.Proofs.Matching.LetterCase
import TextQuery.Proofs.Matching.LineByLine
import TextQuery.Proofs.Settings.GlobalFile
import TextQuery.Proofs.Settings.Isolation
import TextQuery.Proofs.Command.Init
import TextQuery.Proofs.Command.Views
import TextQuery.Proofs.Command.Overwriting
import TextQuery.Proofs.Command.Config
import TextQuery.Proofs.Query.Concise
import TextQuery.Proofs.Query.Caret
import TextQuery.Proofs.Matching.KeptAccents
import TextQuery.Proofs.Text.Symbols
import TextQuery.Proofs.Matching.WordBoundaries
import TextQuery.Proofs.Matching.Shortcuts
import TextQuery.Proofs.Query.Tree
import TextQuery.Proofs.Query.Depth
import TextQuery.Proofs.Command.Explain
import TextQuery.Proofs.Query.Operands
