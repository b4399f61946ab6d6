import HeaderRules.Url.Pattern
import HeaderRules.Url.Filter
import HeaderRules.Yaml.Document
import HeaderRules.Profile.Loader
import HeaderRules.Profile.Path
import HeaderRules.Rule.OfProfile
import HeaderRules.Rule.Distinct
import HeaderRules.Store
import HeaderRules.Apply
import HeaderRules.Enforce
import HeaderRules.Addon
import HeaderRules.Log.Setup
import HeaderRules.Launch
import HeaderRules.Main
import HeaderRules.Proofs.Outcome
import HeaderRules.Proofs.Text.Case
import HeaderRules.Proofs.Text.AsciiCase
import HeaderRules.Proofs.Text.BeyondAscii
import HeaderRules.Proofs.Text.FinalSigma
import HeaderRules.Proofs.Text.Utf8
import HeaderRules.Proofs.Yaml.Source
import HeaderRules.Proofs.Yaml.Tokens
import HeaderRules.Proofs.Yaml.Composer
import HeaderRules.Proofs.Yaml.Decoding
import HeaderRules.Proofs.Profile.Loading
import HeaderRules.Proofs.Profile.Failure
import HeaderRules.Proofs.Profile.Run
import HeaderRules.Proofs.Profile.Document
import HeaderRules.Proofs.Profile.Selection
import HeaderRules.Proofs.Profile.RoundTrip
import HeaderRules.Proofs.Profile.Acceptance
import HeaderRules.Proofs.Rule.OfProfile
import HeaderRules.Proofs.Rule.Firsts
import HeaderRules.Proofs.Rule.Hash
import HeaderRules.Proofs.Rule.Key
import HeaderRules.Proofs.Rule.Repeated
import HeaderRules.Proofs.Store.Check
import HeaderRules.Proofs.Store.Update
import HeaderRules.Proofs.Store.Keyed
import HeaderRules.Proofs.Store.Invariant
import HeaderRules.Proofs.Store.Refusal
import HeaderRules.Proofs.Store.Matching
import HeaderRules.Proofs.Rule.Compiled
import HeaderRules.Proofs.Rule.PlainForm
import HeaderRules.Proofs.Apply.Atomic
import HeaderRules.Proofs.Apply.Compiled
import HeaderRules.Proofs.Apply.Race
import HeaderRules.Proofs.Addon.Run
import HeaderRules.Proofs.Addon.Traffic
import HeaderRules.Proofs.Message.Fields
import HeaderRules.Proofs.Message.Change
import HeaderRules.Proofs.Message.Upsert
import HeaderRules.Proofs.Enforce.Exchange
import HeaderRules.Proofs.Enforce.Repeated
import HeaderRules.Proofs.Enforce.Hits
import HeaderRules.Proofs.Enforce.FirstRule
import HeaderRules.Proofs.Enforce.OwnHeaders
import HeaderRules.Proofs.Enforce.Twice
import HeaderRules.Proofs.Enforce.Coverage
import HeaderRules.Proofs.Regex.CharSet
import HeaderRules.Proofs.Regex.Language
import HeaderRules.Proofs.Regex.Reading
import HeaderRules.Proofs.Regex.CaseOption
import HeaderRules.Proofs.Regex.Limits
import HeaderRules.Proofs.Regex.PartLimits
import HeaderRules.Proofs.Regex.OpeningLimits
import HeaderRules.Proofs.Regex.ParserLimits
import HeaderRules.Proofs.Url.FilterText
import HeaderRules.Proofs.Url.FilterMeaning
import HeaderRules.Proofs.Url.PatternText
import HeaderRules.Proofs.Url.PatternMeaning
import HeaderRules.Proofs.Url.Verbatim
import HeaderRules.Proofs.Url.WildcardText
import HeaderRules.Proofs.Url.Examples
import HeaderRules.Proofs.Url.Literal
import HeaderRules.Proofs.Url.Preview
import HeaderRules.Proofs.Url.CaseBlind
import HeaderRules.Proofs.Url.Evaluation
import HeaderRules.Proofs.Url.Agreement
