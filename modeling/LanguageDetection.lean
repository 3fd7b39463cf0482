import LanguageDetection.Files.Tree
import LanguageDetection.Main
import LanguageDetection.Proofs.Detection.Confidence
import LanguageDetection.Proofs.Signature.Rejection
import LanguageDetection.Proofs.Text.Neighbours
import LanguageDetection.Proofs.Spelling
import LanguageDetection.Proofs.Filename
import LanguageDetection.Proofs.Detection.Filename
import LanguageDetection.Proofs.Detection.Unknown
import LanguageDetection.Proofs.Settings.Reading
import LanguageDetection.Proofs.Signature.Layering
import LanguageDetection.Proofs.Signature.Mapping
import LanguageDetection.Proofs.Signature.Acceptance
import LanguageDetection.Proofs.Signature.Growth
import LanguageDetection.Proofs.Detection.Growth
import LanguageDetection.Proofs.Files.Order
import LanguageDetection.Proofs.Command.Staging
import LanguageDetection.Proofs.Command.Collecting
import LanguageDetection.Proofs.Command.Detecting
import LanguageDetection.Proofs.Command.Running
import LanguageDetection.Proofs.Decimal.Shortest
import LanguageDetection.Proofs.Decimal.Numeral
import LanguageDetection.Proofs.Document.Json
import LanguageDetection.Proofs.Document.Writing
import LanguageDetection.Proofs.Command.Showing
import LanguageDetection.Proofs.Command.Accounting
import LanguageDetection.Proofs.Decimal.Fixed
import LanguageDetection.Proofs.Detection.Positive
import LanguageDetection.Proofs.Command.Reporting
import LanguageDetection.Proofs.Settings.Choosing
import LanguageDetection.Proofs.Command.Asking
import LanguageDetection.Proofs.Command.Failing
import LanguageDetection.Proofs.Settings.Overlay
import LanguageDetection.Proofs.Text.Take
import LanguageDetection.Proofs.Settings.Variables
import LanguageDetection.Proofs.Settings.Fields
import LanguageDetection.Proofs.Toml.Plain
import LanguageDetection.Proofs.Settings.Layered
import LanguageDetection.Proofs.Command.Parsing
import LanguageDetection.Proofs.Command.Configuring
import LanguageDetection.Proofs.Settings.Mappings
import LanguageDetection.Proofs.Settings.Together
import LanguageDetection.Proofs.Pattern.Matching
import LanguageDetection.Proofs.Pattern.Searching
import LanguageDetection.Proofs.Pattern.Ascii
import LanguageDetection.Proofs.Signature.Patterns
import LanguageDetection.Proofs.Detection.Ascii
import LanguageDetection.Proofs.Detection.Case
import LanguageDetection.Proofs.Detection.Lines
import LanguageDetection.Proofs.Detection.Encoded
import LanguageDetection.Proofs.Settings.Stable
import LanguageDetection.Proofs.Command.Explaining
import LanguageDetection.Proofs.Command.Respelling
import LanguageDetection.Proofs.Settings.Listing
import LanguageDetection.Proofs.NormalForm
import LanguageDetection.Proofs.Text.ByteOrder
import LanguageDetection.Proofs.Settings.Colliding
import LanguageDetection.Proofs.Signature.Interleaving
import LanguageDetection.Proofs.Detection.Reordering
import LanguageDetection.Proofs.Decimal.Grouped
