import JsonSeek.Binary64.Basic
import JsonSeek.Binary64.Decimal
import JsonSeek.CommandLine.Arguments
import JsonSeek.CommandLine.Input
import JsonSeek.CommandLine.Run
import JsonSeek.CommandLine.Switch
import JsonSeek.CommandLine.Word
import JsonSeek.Json.Reader
import JsonSeek.Json.Writer
import JsonSeek.Main
import JsonSeek.Match.Fuzzy
import JsonSeek.Match.Matcher
import JsonSeek.Match.Simple
import JsonSeek.Match.Spans
import JsonSeek.Path.Basic
import JsonSeek.Path.Lookup
import JsonSeek.Path.Nodes
import JsonSeek.Path.Reader
import JsonSeek.Prune
import JsonSeek.Query.Comparison
import JsonSeek.Query.Select
import JsonSeek.Query.Token
import JsonSeek.Regex.CharTest
import JsonSeek.Regex.Escape
import JsonSeek.Regex.Find
import JsonSeek.Regex.Lexeme
import JsonSeek.Regex.Pattern
import JsonSeek.Regex.Reader
import JsonSeek.Regex.Run
import JsonSeek.Report.Csv
import JsonSeek.Report.Excerpt
import JsonSeek.Report.Export
import JsonSeek.Report.Highlight
import JsonSeek.Report.Lines
import JsonSeek.Report.Summary
import JsonSeek.Search.Event
import JsonSeek.Search.FilterRow
import JsonSeek.Search.Options
import JsonSeek.Search.Result
import JsonSeek.Search.Run
import JsonSeek.Search.Session
import JsonSeek.Search.Statistics
import JsonSeek.Search.TextScan
import JsonSeek.Settings.Basic
import JsonSeek.Settings.Conversion
import JsonSeek.Settings.Session
import JsonSeek.Settings.Source
import JsonSeek.Text.Alphanumeric
import JsonSeek.Text.Blank
import JsonSeek.Text.Case
import JsonSeek.Text.CaseClass
import JsonSeek.Text.CodePoints
import JsonSeek.Text.Digit
import JsonSeek.Text.Grouped
import JsonSeek.Text.Identifier
import JsonSeek.Text.Lowercase
import JsonSeek.Text.Numeral
import JsonSeek.Text.Printable
import JsonSeek.Text.Quoted
import JsonSeek.Text.Utf8
import JsonSeek.Toml.Display
import JsonSeek.Toml.Entry
import JsonSeek.Toml.Moment
import JsonSeek.Toml.Number
import JsonSeek.Toml.Quotation
import JsonSeek.Toml.Reader
import JsonSeek.Toml.Value
import JsonSeek.Value.Basic
import JsonSeek.Proofs.Document
import JsonSeek.Proofs.TextHit
import JsonSeek.Proofs.TextScan
import JsonSeek.Proofs.Ranking
import JsonSeek.Proofs.TextSearch
import JsonSeek.Proofs.QueryMeaning
import JsonSeek.Proofs.Binary64Range
import JsonSeek.Proofs.DistinctKeys
import JsonSeek.Proofs.FoundNodes
import JsonSeek.Proofs.PathSpelling
import JsonSeek.Proofs.Pruning
import JsonSeek.Proofs.PrunedDocument
import JsonSeek.Proofs.QuerySpelling
import JsonSeek.Proofs.Reachability
import JsonSeek.Proofs.SearchFailure
import JsonSeek.Proofs.PathQuery
import JsonSeek.Proofs.PathSearch
import JsonSeek.Proofs.Truncation
import JsonSeek.Proofs.NodeOrder
import JsonSeek.Proofs.PrunedSearch
import JsonSeek.Proofs.Statistics
import JsonSeek.Proofs.PatternPlaces
import JsonSeek.Proofs.Highlighting
import JsonSeek.Proofs.PathImitation
import JsonSeek.Proofs.SettingLayers
import JsonSeek.Proofs.SettingFailure
import JsonSeek.Proofs.KeptSettings
import JsonSeek.Proofs.RowNarrowing
import JsonSeek.Proofs.MarkedText
import JsonSeek.Proofs.JsonLine
import JsonSeek.Proofs.Lines
import JsonSeek.Proofs.ResultLines
import JsonSeek.Proofs.SelectedOnce
import JsonSeek.Proofs.RepeatedPruning
import JsonSeek.Proofs.ClosedGaps
import JsonSeek.Proofs.LoweredText
import JsonSeek.Proofs.MarkedRuns
import JsonSeek.Proofs.MatchedPieces
import JsonSeek.Proofs.SlicedArray
import JsonSeek.Proofs.FilteredArray
import JsonSeek.Proofs.CoveredRuns
import JsonSeek.Proofs.IgnoredCase
import JsonSeek.Proofs.EscapedText
import JsonSeek.Proofs.AnchoredRows
import JsonSeek.Proofs.TableReading
import JsonSeek.Proofs.Excerpts
import JsonSeek.Proofs.RoundingOrder
import JsonSeek.Proofs.EarliestReading
import JsonSeek.Proofs.LeftmostOccurrences
import JsonSeek.Proofs.Walks
