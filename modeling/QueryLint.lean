import QueryLint.Check.Checker
import QueryLint.Check.Settings
import QueryLint.Clause
import QueryLint.EditDistance
import QueryLint.ItemList
import QueryLint.Keyword
import QueryLint.Main
import QueryLint.Rejection.Complaint
import QueryLint.Rejection.Location
import QueryLint.Rejection.Remedy
import QueryLint.Rejection.Wording
import QueryLint.Report.Basic
import QueryLint.Report.Document
import QueryLint.Report.Render
import QueryLint.Report.Scalar
import QueryLint.Report.Yaml
import QueryLint.Rule.Mistake
import QueryLint.Rule.Selection
import QueryLint.Scan
import QueryLint.Script
import QueryLint.SmallParser.Basic
import QueryLint.SmallParser.Command
import QueryLint.SmallParser.Expression
import QueryLint.SmallParser.Lexer
import QueryLint.SmallParser.Query
import QueryLint.SmallParser.Token
import QueryLint.Sql.Grammar
import QueryLint.Sql.Tree
import QueryLint.TableList
import QueryLint.Text.Alphabetic
import QueryLint.Text.Basic
import QueryLint.Text.Case
import QueryLint.Text.CaseContext
import QueryLint.Text.CaseTable
import QueryLint.Text.CharClass
import QueryLint.Text.Marks
import QueryLint.Text.Numeral
import QueryLint.Text.Numeric
import QueryLint.Text.Pattern
import QueryLint.Toml.Document
import QueryLint.Toml.Scalar
import QueryLint.Toml.Value
import QueryLint.Tool.CommandLine
import QueryLint.Tool.Configuration
import QueryLint.Tool.Program
import QueryLint.Vocabulary
import QueryLint.Proofs.EditScripts
import QueryLint.Proofs.MaximalRuns
import QueryLint.Proofs.ItemSplitting
import QueryLint.Proofs.Searching
import QueryLint.Proofs.ScriptCuts
import QueryLint.Proofs.Segments
import QueryLint.Proofs.StatementPlaces
import QueryLint.Proofs.Outcomes
import QueryLint.Proofs.ScriptReports
import QueryLint.Proofs.AcceptedSettings
import QueryLint.Proofs.SettingSources
import QueryLint.Proofs.Presentation
import QueryLint.Proofs.Guarded.Clauses
import QueryLint.Proofs.Guarded.Lists
import QueryLint.Proofs.Guarded.Messages
import QueryLint.Proofs.Guarded.Check
import QueryLint.Proofs.ScanParts
import QueryLint.Proofs.KeywordOccurrences
import QueryLint.Proofs.VisibleText
import QueryLint.Proofs.ClauseBodies
import QueryLint.Proofs.KeywordWords
import QueryLint.Proofs.WrittenClauses
import QueryLint.Proofs.Rewriting
import QueryLint.Proofs.CommaMarks
import QueryLint.Proofs.HiddenText
import QueryLint.Proofs.ItemSegments
import QueryLint.Proofs.CommentPieces
import QueryLint.Proofs.Quantifiers
import QueryLint.Proofs.CommentRemoval
import QueryLint.Proofs.CommentRules
import QueryLint.Proofs.WrittenTables
import QueryLint.Proofs.CommaLists
import QueryLint.Proofs.JoinChains
import QueryLint.Proofs.JoinParts
import QueryLint.Proofs.MistypedKeywords
import QueryLint.Proofs.Phrases
import QueryLint.Proofs.WrittenComplaints
import QueryLint.Proofs.Coordinates
import QueryLint.Proofs.NamedPlaces
import QueryLint.Proofs.Snippets
import QueryLint.Proofs.TextParts
import QueryLint.Proofs.RepeatedText
import QueryLint.Proofs.Wildcards
import QueryLint.Proofs.SortSuffixes
import QueryLint.Proofs.SortKeys
import QueryLint.Proofs.InsertedMarks
import QueryLint.Proofs.SuffixedKeys
import QueryLint.Proofs.DisabledRules
import QueryLint.Proofs.Suggestions
import QueryLint.Proofs.AppendedMarks
import QueryLint.Proofs.ConditionBodies
import QueryLint.Proofs.SettledMarks
import QueryLint.Proofs.StatementEndings
import QueryLint.Proofs.CodeOffsets
import QueryLint.Proofs.Numerals
import QueryLint.Proofs.Colours
import QueryLint.Proofs.ColumnReads
import QueryLint.Proofs.Json.Grammar
import QueryLint.Proofs.Json.Decoding
import QueryLint.Proofs.Json.Reports
import QueryLint.Proofs.Markup
import QueryLint.Proofs.MaximalWords
