import TroffTable.Text.Ranges
import TroffTable.Text.Blank
import TroffTable.Text.Digit
import TroffTable.Text.Word
import TroffTable.Text.Printable
import TroffTable.Text.Case
import TroffTable.Markup.Tag
import TroffTable.Markup.Outline
import TroffTable.Note
import TroffTable.Markup.Element
import TroffTable.Markup.Strip
import TroffTable.Text.Numeral
import TroffTable.Text.Quoted
import TroffTable.Text.Split
import TroffTable.Text.Base64
import TroffTable.CharRef
import TroffTable.Markup.Attribute
import TroffTable.Node
import TroffTable.Node.Parse
import TroffTable.Binary64
import TroffTable.Moment
import TroffTable.Value
import TroffTable.Config.Conversion
import TroffTable.Config.Read
import TroffTable.Config.Json
import TroffTable.Config.Toml.Moment
import TroffTable.Config.Toml
import TroffTable.Config.Yaml.Text
import TroffTable.Config.Yaml.Tag
import TroffTable.Config.Yaml.Token
import TroffTable.Config.Yaml.Moment
import TroffTable.Config.Yaml.Scalar
import TroffTable.Config.Yaml.Node
import TroffTable.Config.Yaml.Object
import TroffTable.Config.Yaml.Unfold
import TroffTable.Config.Yaml
import TroffTable.Options
import TroffTable.Config.Path
import TroffTable.Config.FileTree
import TroffTable.Config.Settings
import TroffTable.Config.History
import TroffTable.Config.Load
import TroffTable.Config.Discover
import TroffTable.Layout.Ledger
import TroffTable.Layout.LedgerStep
import TroffTable.Layout.Span
import TroffTable.Layout.Piece
import TroffTable.Layout.Walk
import TroffTable.Layout.Padding
import TroffTable.Layout.Format
import TroffTable.Layout.Content
import TroffTable.Layout.Render
import TroffTable.Document
import TroffTable.Node.Show
import TroffTable.Node.Edit
import TroffTable.ErrorReport
import TroffTable.Version
import TroffTable.Proofs.Ledger
import TroffTable.Proofs.Visits
import TroffTable.Proofs.Slots
import TroffTable.Proofs.Rows
import TroffTable.Proofs.RowRun
import TroffTable.Proofs.RowText
import TroffTable.Proofs.TableTree
import TroffTable.Proofs.OwnRows
import TroffTable.Proofs.PaddedLines
import TroffTable.Proofs.Nesting
import TroffTable.Proofs.Agreement
import TroffTable.Proofs.Grid
import TroffTable.Proofs.Coverage
import TroffTable.Proofs.Placement
import TroffTable.Proofs.Tokens
import TroffTable.Proofs.Tiling
import TroffTable.Proofs.AlignedRows
import TroffTable.Proofs.KeptGrid
import TroffTable.Proofs.Traversals
import TroffTable.Proofs.Subtrees
import TroffTable.Proofs.NamedTrees
import TroffTable.Proofs.PaddedTrees
import TroffTable.Proofs.CellTexts
import TroffTable.Proofs.SpansInPlace
import TroffTable.Proofs.ReachedCells
import TroffTable.Proofs.LeadingRows
import TroffTable.Proofs.RepeatedWalks
import TroffTable.Proofs.Repetition
import TroffTable.Proofs.SpanReading
import TroffTable.Proofs.SpanFaults
import TroffTable.Proofs.SpanCheck
import TroffTable.Proofs.LenientConversion
import TroffTable.Proofs.TagReading
import TroffTable.Proofs.ElementPlaces
import TroffTable.Proofs.ParsedTrees
import TroffTable.Proofs.DocumentNotes
import TroffTable.Proofs.Splicing
import TroffTable.Proofs.Extraction
import TroffTable.Proofs.FlatText
import TroffTable.Proofs.Forests
import TroffTable.Proofs.ForestTrees
import TroffTable.Proofs.JoinedDocuments
import TroffTable.Proofs.OutermostTables
import TroffTable.Proofs.PlainTables
import TroffTable.Proofs.TextTables
import TroffTable.Proofs.LayoutBlocks
import TroffTable.Proofs.WrittenEntries
import TroffTable.Proofs.TagMarks
import TroffTable.Proofs.TidySections
import TroffTable.Proofs.UnwrappedSections
import TroffTable.Proofs.RowSections
import TroffTable.Proofs.LongReferences
import TroffTable.Proofs.TableAborts
import TroffTable.Proofs.LeadingCaptions
import TroffTable.Proofs.TagBalance
import TroffTable.Proofs.TagPairs
import TroffTable.Proofs.TextlessTrees
import TroffTable.Proofs.Comments
import TroffTable.Proofs.OptionHistories
import TroffTable.Proofs.ReadFaults
import TroffTable.Proofs.LoadFaults
import TroffTable.Proofs.PairedElements
import TroffTable.Proofs.WrittenAttributes
import TroffTable.Proofs.RowEntries
import TroffTable.Proofs.KeptText
import TroffTable.Proofs.AddedCells
import TroffTable.Proofs.RelatedTexts
import TroffTable.Proofs.TextIndependence
import TroffTable.Proofs.Separators
import TroffTable.Proofs.ControlLines
import TroffTable.Proofs.NodeInvariants
import TroffTable.Proofs.Configurations
import TroffTable.Proofs.CellLines
import TroffTable.Proofs.NameCase
import TroffTable.Proofs.RecasedTrees
import TroffTable.Proofs.TagSplits
import TroffTable.Proofs.BoundedRuns
import TroffTable.Proofs.NearestConfiguration
import TroffTable.Proofs.RefusedConfigurations
import TroffTable.Proofs.LedgerHistories
import TroffTable.Proofs.SpanNumerals
