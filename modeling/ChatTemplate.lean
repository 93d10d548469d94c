import ChatTemplate.Main
import ChatTemplate.Proofs.Silence
import ChatTemplate.Proofs.InlineCommands
import ChatTemplate.Proofs.PrintParse
import ChatTemplate.Proofs.ParsedReadable
import ChatTemplate.Proofs.Frame
import ChatTemplate.Proofs.Dependence
import ChatTemplate.Proofs.Substitution
import ChatTemplate.Proofs.CommandSafety
import ChatTemplate.Proofs.PlaceholderScan
import ChatTemplate.Proofs.HiddenEntries
import ChatTemplate.Proofs.FailedLines
import ChatTemplate.Proofs.Footprint
import ChatTemplate.Proofs.ParserBound
import ChatTemplate.Proofs.Dialects
import ChatTemplate.Proofs.Resolving
import ChatTemplate.Proofs.Loading
import ChatTemplate.Proofs.NewUsers
import ChatTemplate.Proofs.OverlayDraft
import ChatTemplate.Proofs.OverlayVariables
import ChatTemplate.Proofs.UserIds
import ChatTemplate.Proofs.ArithmeticVariables
import ChatTemplate.Proofs.UserLoading
import ChatTemplate.Proofs.ArgumentText
import ChatTemplate.Proofs.RandomNumbers
import ChatTemplate.Proofs.RandomUsers
import ChatTemplate.Proofs.UsageAccounts
import ChatTemplate.Proofs.UserNames
import ChatTemplate.Proofs.WrittenTokens
import ChatTemplate.Proofs.CompoundAssignment
import ChatTemplate.Proofs.IntegerComparison
import ChatTemplate.Proofs.Announcement
import ChatTemplate.Proofs.EscapedTitles
import ChatTemplate.Proofs.EventOrder
import ChatTemplate.Proofs.ReferenceGrammar
import ChatTemplate.Proofs.ReferenceEscapes
import ChatTemplate.Proofs.AnsweredCalls
import ChatTemplate.Proofs.NamedSources
import ChatTemplate.Proofs.NamedReading
import ChatTemplate.Proofs.NamedStatements
import ChatTemplate.Proofs.WrittenCalls
import ChatTemplate.Proofs.PageCalls
import ChatTemplate.Proofs.PercentDecoding
import ChatTemplate.Proofs.JsonBridge
import ChatTemplate.Proofs.QuotedArguments
import ChatTemplate.Proofs.OptionGroups
import ChatTemplate.Proofs.MirroredSettings
import ChatTemplate.Proofs.AttributeOrder
import ChatTemplate.Proofs.EmptyAnswers
import ChatTemplate.Proofs.TopTip
import ChatTemplate.Proofs.PickedNames
import ChatTemplate.Proofs.Slices
import ChatTemplate.Proofs.SearchedTexts
import ChatTemplate.Proofs.HexLiterals
import ChatTemplate.Proofs.Extremes
import ChatTemplate.Proofs.WorldArithmetic
import ChatTemplate.Proofs.TextSizes
import ChatTemplate.Proofs.MethodSizes
import ChatTemplate.Proofs.NameRuns
import ChatTemplate.Proofs.PagePaths
import ChatTemplate.Proofs.LooseIntegers
