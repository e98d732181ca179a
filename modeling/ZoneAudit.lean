import ZoneAudit.Audit
import ZoneAudit.Codec.Policy
import ZoneAudit.Codec.Report
import ZoneAudit.Codec.Uri
import ZoneAudit.Codec.Zone
import ZoneAudit.Doh
import ZoneAudit.Json.Printer
import ZoneAudit.Provider
import ZoneAudit.Proofs.Fresh
import ZoneAudit.Proofs.Walk
import ZoneAudit.Proofs.Dispatch
import ZoneAudit.Proofs.Strict
import ZoneAudit.Proofs.Sight
import ZoneAudit.Proofs.Fallback
import ZoneAudit.Proofs.Tracker
import ZoneAudit.Proofs.RecordSets
import ZoneAudit.Proofs.WalkParts
import ZoneAudit.Proofs.Shuffle
import ZoneAudit.Proofs.Soundness
import ZoneAudit.Proofs.Attribution
import ZoneAudit.Proofs.OptionalChecks
import ZoneAudit.Proofs.Removal
import ZoneAudit.Proofs.PrintedText
import ZoneAudit.Proofs.ReadBack
import ZoneAudit.Proofs.RoundTrip
import ZoneAudit.Proofs.NameSpelling
import ZoneAudit.Proofs.Respelling
import ZoneAudit.Proofs.Malformed
import ZoneAudit.Proofs.Numerals
import ZoneAudit.Proofs.Verdict
import ZoneAudit.Proofs.Repetition
import ZoneAudit.Proofs.Aggregation
import ZoneAudit.Proofs.Inert
import ZoneAudit.Proofs.ReportAddresses
import ZoneAudit.Proofs.PolicySettings
import ZoneAudit.Proofs.ExchangeVerdict
import ZoneAudit.Proofs.AddressFamilies
import ZoneAudit.Proofs.DottedQuads
import ZoneAudit.Proofs.AddressGroups
import ZoneAudit.Proofs.AddressPatterns
import ZoneAudit.Proofs.PolicyTerms
import ZoneAudit.Proofs.LookupBudget
import ZoneAudit.Proofs.Recognition
import ZoneAudit.Proofs.PolicyTags
import ZoneAudit.Proofs.TimeTally
import ZoneAudit.Proofs.ResponsibleNames
import ZoneAudit.Proofs.NamePatterns
import ZoneAudit.Proofs.AliasTargets
import ZoneAudit.Proofs.SerialDates
import ZoneAudit.Proofs.Mailboxes
import ZoneAudit.Proofs.AuthorizationFields
import ZoneAudit.Proofs.QuotedStrings
import ZoneAudit.Proofs.BodyWords
import ZoneAudit.Proofs.PlainNumerals
import ZoneAudit.Proofs.SmallLetters
import ZoneAudit.Proofs.Providers
import ZoneAudit.Proofs.ProviderTerms
import ZoneAudit.Proofs.TextMarks
import ZoneAudit.Proofs.ContainerText
import ZoneAudit.Proofs.ObjectMembers
import ZoneAudit.Proofs.ResponseMembers
import ZoneAudit.Proofs.UriSchemes
import ZoneAudit.Proofs.Slugs
import ZoneAudit.Proofs.Mnemonics
import ZoneAudit.Proofs.TagLists
import ZoneAudit.Proofs.LeadingNumbers
