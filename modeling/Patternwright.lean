import Patternwright.Main
import Patternwright.Proofs.Regex.Reading
import Patternwright.Proofs.Session
import Patternwright.Proofs.Regex.Counts
import Patternwright.Proofs.Pipeline.CharacterClass
import Patternwright.Proofs.Pipeline.Draft
import Patternwright.Proofs.Pipeline.Outline
import Patternwright.Proofs.Pipeline.Parts
import Patternwright.Proofs.Pipeline.Compile
import Patternwright.Proofs.Regex.Laws
import Patternwright.Proofs.Regex.LawOrder
import Patternwright.Proofs.Pipeline.Law
import Patternwright.Proofs.Pipeline.Language
import Patternwright.Proofs.Regex.Closing
import Patternwright.Proofs.Regex.Anchoring
import Patternwright.Proofs.Pipeline.Custom
import Patternwright.Proofs.Pipeline.Containment
import Patternwright.Proofs.Pipeline.Override
import Patternwright.Proofs.Pipeline.Repetition
import Patternwright.Proofs.Pipeline.WordList
import Patternwright.Proofs.Pipeline.AllowedWords
import Patternwright.Proofs.Pipeline.Length
import Patternwright.Proofs.Shape.Card
import Patternwright.Proofs.Shape.Fragment
import Patternwright.Proofs.Shape.Address
import Patternwright.Proofs.Unicode.LetterCase
import Patternwright.Proofs.Regex.Growth
import Patternwright.Proofs.Regex.Switches
import Patternwright.Proofs.Regex.Captures
import Patternwright.Proofs.Regex.Bare
import Patternwright.Proofs.Shape.CardPattern
import Patternwright.Proofs.Pipeline.Widening
import Patternwright.Proofs.Result
import Patternwright.Proofs.Text.Line
import Patternwright.Proofs.Text.Replace
import Patternwright.Proofs.Shape.Written
import Patternwright.Proofs.Shape.Format
import Patternwright.Proofs.Shape.Translation
import Patternwright.Proofs.Shape.CardFilter
import Patternwright.Proofs.Shape.Coordinate
import Patternwright.Proofs.Json.Parts
import Patternwright.Proofs.Json.Document
import Patternwright.Proofs.Config.Document
import Patternwright.Proofs.Directory
import Patternwright.Proofs.CommandLine.SavedDocument
import Patternwright.Proofs.CommandLine.Action
import Patternwright.Proofs.Value.Same
import Patternwright.Proofs.CommandLine.Failure
import Patternwright.Proofs.CommandLine.Reporting
import Patternwright.Proofs.Shape.DottedAddress
import Patternwright.Proofs.Shape.Email
import Patternwright.Proofs.Json.Reading
import Patternwright.Proofs.Config.Keys
import Patternwright.Proofs.CommandLine.LoadedDocument
import Patternwright.Proofs.Text.Encoding
import Patternwright.Proofs.Text.SampleFile
import Patternwright.Proofs.CommandLine.Settings
import Patternwright.Proofs.CommandLine.FieldOption
import Patternwright.Proofs.CommandLine.Writing
import Patternwright.Proofs.CommandLine.Overlay
import Patternwright.Proofs.Number.Numeral
import Patternwright.Proofs.CommandLine.Description
import Patternwright.Proofs.CommandLine.Testing
