import FormulaLexer.CommandLine.Arguments
import FormulaLexer.CommandLine.Report
import FormulaLexer.CommandLine.Run
import FormulaLexer.Configuration
import FormulaLexer.DateTime.Basic
import FormulaLexer.DateTime.Calendar
import FormulaLexer.DateTime.Literal
import FormulaLexer.Json
import FormulaLexer.Log.Code
import FormulaLexer.Log.Event
import FormulaLexer.Log.Level
import FormulaLexer.Log.Memory
import FormulaLexer.Main
import FormulaLexer.Matcher.Basic
import FormulaLexer.Matcher.Named
import FormulaLexer.Number.Decimal
import FormulaLexer.Number.Reading
import FormulaLexer.Pattern.Anchor
import FormulaLexer.Pattern.Basic
import FormulaLexer.Pattern.Bracket
import FormulaLexer.Pattern.CharSet
import FormulaLexer.Pattern.Element
import FormulaLexer.Pattern.Escape
import FormulaLexer.Pattern.Flags
import FormulaLexer.Pattern.Memory
import FormulaLexer.Pattern.Property
import FormulaLexer.Pattern.Reader
import FormulaLexer.Pattern.Route
import FormulaLexer.Pattern.Search
import FormulaLexer.Preferences
import FormulaLexer.Proofs.Balance
import FormulaLexer.Proofs.BlankExchange
import FormulaLexer.Proofs.BuiltInMatches
import FormulaLexer.Proofs.Calendar
import FormulaLexer.Proofs.CaseBlindness
import FormulaLexer.Proofs.CaseSensitivity
import FormulaLexer.Proofs.Counting
import FormulaLexer.Proofs.Coverage
import FormulaLexer.Proofs.DateTimeLiterals
import FormulaLexer.Proofs.DateTimePatterns
import FormulaLexer.Proofs.DateTimeShapes
import FormulaLexer.Proofs.DateTimeTokens
import FormulaLexer.Proofs.DecimalForms
import FormulaLexer.Proofs.DigitScripts
import FormulaLexer.Proofs.ElementExtension
import FormulaLexer.Proofs.ErrorPlaces
import FormulaLexer.Proofs.Gaps
import FormulaLexer.Proofs.GreedyRuns
import FormulaLexer.Proofs.GroupRuns
import FormulaLexer.Proofs.KeyMaps
import FormulaLexer.Proofs.KeywordTables
import FormulaLexer.Proofs.Keywords
import FormulaLexer.Proofs.LetterCase
import FormulaLexer.Proofs.LetterCaseValues
import FormulaLexer.Proofs.Letters
import FormulaLexer.Proofs.Lexemes
import FormulaLexer.Proofs.LineIndex
import FormulaLexer.Proofs.LineSplit
import FormulaLexer.Proofs.Lockstep
import FormulaLexer.Proofs.LoggedLoop
import FormulaLexer.Proofs.Loop
import FormulaLexer.Proofs.LoopAgreement
import FormulaLexer.Proofs.LoopSteps
import FormulaLexer.Proofs.MatchPlaces
import FormulaLexer.Proofs.MatcherDenotation
import FormulaLexer.Proofs.MemoryLog
import FormulaLexer.Proofs.Nesting
import FormulaLexer.Proofs.NumberLiterals
import FormulaLexer.Proofs.Numerals
import FormulaLexer.Proofs.OperandPlaces
import FormulaLexer.Proofs.PatternNesting
import FormulaLexer.Proofs.PositionMeasure
import FormulaLexer.Proofs.Progress
import FormulaLexer.Proofs.Pruning
import FormulaLexer.Proofs.QuotedStrings
import FormulaLexer.Proofs.ReaderExtension
import FormulaLexer.Proofs.Registration
import FormulaLexer.Proofs.RenderedErrors
import FormulaLexer.Proofs.Rescan
import FormulaLexer.Proofs.Resources
import FormulaLexer.Proofs.RunLog
import FormulaLexer.Proofs.RunMetrics
import FormulaLexer.Proofs.Sameness
import FormulaLexer.Proofs.SearchAgreement
import FormulaLexer.Proofs.SetHistory
import FormulaLexer.Proofs.SetMembers
import FormulaLexer.Proofs.Spelling
import FormulaLexer.Proofs.Steps
import FormulaLexer.Proofs.TextCuts
import FormulaLexer.Proofs.Truncation
import FormulaLexer.Proofs.Unmatched
import FormulaLexer.Proofs.Vocabulary
import FormulaLexer.Proofs.Ways
import FormulaLexer.Proofs.WholeWords
import FormulaLexer.Proofs.WrittenCounts
import FormulaLexer.Scanner.Basic
import FormulaLexer.Scanner.BuiltIn
import FormulaLexer.Scanner.Set
import FormulaLexer.Source.Lines
import FormulaLexer.Source.Position
import FormulaLexer.Source.Span
import FormulaLexer.Text
import FormulaLexer.Text.Quoted
import FormulaLexer.Token.Basic
import FormulaLexer.Token.Category
import FormulaLexer.Token.Value
import FormulaLexer.Tokenizer.Basic
import FormulaLexer.Tokenizer.Error
import FormulaLexer.Tokenizer.Events
import FormulaLexer.Tokenizer.Trace
import FormulaLexer.Toml.Item
import FormulaLexer.Toml.Reader
import FormulaLexer.Toml.Scalar
import FormulaLexer.Unicode.Age
import FormulaLexer.Unicode.CaseFolding
import FormulaLexer.Unicode.Cased
import FormulaLexer.Unicode.CharacterClass
import FormulaLexer.Unicode.GeneralCategory
import FormulaLexer.Unicode.LowerCase
import FormulaLexer.Unicode.PropertyList
import FormulaLexer.Unicode.Ranges
import FormulaLexer.Unicode.Script
import FormulaLexer.Unicode.Shifts
