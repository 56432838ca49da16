import TableAtlas.Main
import TableAtlas.Page.Loose
import TableAtlas.Proofs.Folding
import TableAtlas.Proofs.Heading
import TableAtlas.Proofs.Isolation
import TableAtlas.Proofs.HighlightIndex
import TableAtlas.Proofs.Ownership
import TableAtlas.Proofs.Phrase
import TableAtlas.Proofs.SessionHistory
import TableAtlas.Proofs.Declaration
import TableAtlas.Proofs.DeclaredColumn
import TableAtlas.Proofs.DeclaredKey
import TableAtlas.Proofs.KeyOpening
import TableAtlas.Proofs.Nesting
import TableAtlas.Proofs.LineSeam
import TableAtlas.Proofs.DeclaredBody
import TableAtlas.Proofs.DeclaredTable
import TableAtlas.Proofs.RoundTrip
import TableAtlas.Proofs.HighlightHistory
import TableAtlas.Proofs.GridLayout
import TableAtlas.Proofs.SessionDocument
import TableAtlas.Json.Reader
import TableAtlas.Proofs.JsonReading
import TableAtlas.Proofs.DocumentReading
import TableAtlas.Proofs.PageData
import TableAtlas.Proofs.CommentBlindness
import TableAtlas.Proofs.SchemaForm
import TableAtlas.Proofs.PageMarkup
import TableAtlas.Proofs.LineEnds
import TableAtlas.Proofs.DumpLineEnds
import TableAtlas.Proofs.CommandOutcome
import TableAtlas.Proofs.CommandAgreement
import TableAtlas.Proofs.CommandReport
import TableAtlas.Toml.Writer
import TableAtlas.Proofs.ByteReading
import TableAtlas.Proofs.TomlReading
import TableAtlas.Proofs.PolicyReading
import TableAtlas.Proofs.TomlExtent
import TableAtlas.Proofs.LongNumber
import TableAtlas.Proofs.PolicyFault
import TableAtlas.Proofs.BlockReading
import TableAtlas.Proofs.Division
import TableAtlas.Proofs.LineReading
import TableAtlas.Proofs.KeyReading
import TableAtlas.Proofs.KeyParts
import TableAtlas.Proofs.OwnerStability
import TableAtlas.Proofs.QuotedName
import TableAtlas.Proofs.KeyHeader
import TableAtlas.Proofs.ExcludedColumns
import TableAtlas.Proofs.EdgeIdentity
import TableAtlas.Proofs.ClosingParenthesis
import TableAtlas.Proofs.CommentReading
