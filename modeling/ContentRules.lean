import ContentRules.Main
import ContentRules.Json.Reader
import ContentRules.Matching.Matcher
import ContentRules.Proofs.Advanced.Scriptlets
import ContentRules.Proofs.CommandLine.Runs
import ContentRules.Proofs.Conversion.AddedException
import ContentRules.Proofs.Conversion.CancelledRules
import ContentRules.Proofs.Conversion.PayloadFormats
import ContentRules.Proofs.Conversion.UnreportedExceptions
import ContentRules.Proofs.Conversion.UrlFilters
import ContentRules.Proofs.Filter.Narrowing
import ContentRules.Proofs.Filter.OptionSplit
import ContentRules.Proofs.Filter.Sites
import ContentRules.Proofs.Matching.Party
import ContentRules.Proofs.Matching.Prefilter
import ContentRules.Proofs.Native.KeptSources
import ContentRules.Proofs.Native.LongestFit
import ContentRules.Proofs.Native.NeedlessEntries
import ContentRules.Proofs.Native.NormalForm
import ContentRules.Proofs.Native.Optimizing
import ContentRules.Proofs.Native.PageExceptions
import ContentRules.Proofs.Native.PlainRules
import ContentRules.Proofs.Native.Precedence
import ContentRules.Proofs.Native.VersionWords
import ContentRules.Proofs.Pattern.Meaning
import ContentRules.Proofs.Pattern.OwnHost
import ContentRules.Proofs.Pattern.RequiredLiteral
import ContentRules.Proofs.Regex.Folding
import ContentRules.Proofs.Regex.Search
import ContentRules.Proofs.Regex.Widening
