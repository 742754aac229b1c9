import BenefitForm.Catalog
import BenefitForm.Catalog.Lookup
import BenefitForm.Command
import BenefitForm.Command.Folder
import BenefitForm.Command.Line
import BenefitForm.Compile
import BenefitForm.Compression.Checksum
import BenefitForm.Compression.Inflate
import BenefitForm.Compression.PrefixCode
import BenefitForm.DocumentField
import BenefitForm.Failure
import BenefitForm.Field
import BenefitForm.Field.Grouping
import BenefitForm.Field.Input
import BenefitForm.Field.Schema
import BenefitForm.Json
import BenefitForm.Json.Display
import BenefitForm.Json.Equal
import BenefitForm.Json.Items
import BenefitForm.Json.Reader
import BenefitForm.Json.Writer
import BenefitForm.Key
import BenefitForm.Label
import BenefitForm.Log
import BenefitForm.Log.Format
import BenefitForm.Log.Threshold
import BenefitForm.Main
import BenefitForm.Number.Binary64
import BenefitForm.Number.Rounded
import BenefitForm.Number.Shortest
import BenefitForm.Pattern
import BenefitForm.Pattern.Escape
import BenefitForm.Pattern.Reader
import BenefitForm.Pattern.Token
import BenefitForm.Prefill
import BenefitForm.Property
import BenefitForm.Registry
import BenefitForm.Rule
import BenefitForm.Rule.Feed
import BenefitForm.Rule.Plan
import BenefitForm.Rule.ProofSet
import BenefitForm.Schema
import BenefitForm.Schema.Input
import BenefitForm.Service
import BenefitForm.Service.Shape
import BenefitForm.Settings
import BenefitForm.Submission
import BenefitForm.Text
import BenefitForm.Text.Base64
import BenefitForm.Text.Composed
import BenefitForm.Text.Direction
import BenefitForm.Text.Directive
import BenefitForm.Text.Encoding
import BenefitForm.Text.Identifier
import BenefitForm.Text.Layout
import BenefitForm.Text.LetterCase
import BenefitForm.Text.LowerCase
import BenefitForm.Text.Mark
import BenefitForm.Text.Name
import BenefitForm.Text.Name.Alphabet
import BenefitForm.Text.Name.Ancient
import BenefitForm.Text.Name.Further
import BenefitForm.Text.Name.Picture
import BenefitForm.Text.Name.Sign
import BenefitForm.Text.Name.Syllable
import BenefitForm.Text.Numeral
import BenefitForm.Text.Percent
import BenefitForm.Text.Printable
import BenefitForm.Text.Template
import BenefitForm.Text.Utf8
import BenefitForm.Text.Word
import BenefitForm.Upload
import BenefitForm.Url
import BenefitForm.Url.Host
import BenefitForm.Url.Label
import BenefitForm.Url.LabelPoint
import BenefitForm.Url.Punycode
import BenefitForm.Validation
import BenefitForm.Validation.Conformance
import BenefitForm.Validation.Violation
import BenefitForm.Validation.WellFormed
import BenefitForm.Wallet
import BenefitForm.Warning
import BenefitForm.Proofs.Members
import BenefitForm.Proofs.Firsts
import BenefitForm.Proofs.Registry
import BenefitForm.Proofs.Property
import BenefitForm.Proofs.Assembly
import BenefitForm.Proofs.Compilation
import BenefitForm.Proofs.RuleFeed
import BenefitForm.Proofs.DocumentRecord
import BenefitForm.Proofs.SelectedDocument
import BenefitForm.Proofs.Submission
import BenefitForm.Proofs.Validation
import BenefitForm.Proofs.RequiredDocument
import BenefitForm.Proofs.Grouping
import BenefitForm.Proofs.Plan
import BenefitForm.Proofs.Selection
import BenefitForm.Proofs.CriterionField
import BenefitForm.Proofs.Writable
import BenefitForm.Proofs.Readable
import BenefitForm.Proofs.Reader
import BenefitForm.Proofs.Source
import BenefitForm.Proofs.RuleField
import BenefitForm.Proofs.ValidSelection
import BenefitForm.Proofs.Payload
import BenefitForm.Proofs.SchemaForms
import BenefitForm.Proofs.MissingDocument
import BenefitForm.Proofs.Refusal
import BenefitForm.Proofs.Totality
import BenefitForm.Proofs.Content
import BenefitForm.Proofs.Display
import BenefitForm.Proofs.SubmissionOutcome
import BenefitForm.Proofs.Undisturbed
import BenefitForm.Proofs.WalletChange
import BenefitForm.Proofs.WellFormed
import BenefitForm.Proofs.Routing
import BenefitForm.Proofs.LoggedWarning
import BenefitForm.Proofs.SharedRegistry
import BenefitForm.Proofs.RegistryHistory
import BenefitForm.Proofs.CatalogAddress
import BenefitForm.Proofs.RedirectChain
import BenefitForm.Proofs.LookupFault
import BenefitForm.Proofs.UsableAnswer
import BenefitForm.Proofs.Uploads
import BenefitForm.Proofs.FeedOrder
import BenefitForm.Proofs.TextOrder
import BenefitForm.Proofs.ProofOrder
import BenefitForm.Proofs.RewrittenCriterion
import BenefitForm.Proofs.Positions
import BenefitForm.Proofs.FeedPartition
import BenefitForm.Proofs.GroupPartition
import BenefitForm.Proofs.CriterionPlan
import BenefitForm.Proofs.KeyIdentity
import BenefitForm.Proofs.DisplayGroups
import BenefitForm.Proofs.DisplayOrder
import BenefitForm.Proofs.PropertyViolations
import BenefitForm.Proofs.ReportOrder
import BenefitForm.Proofs.WritableFinding
import BenefitForm.Proofs.ReportLimit
import BenefitForm.Proofs.EqualObject
import BenefitForm.Proofs.DeclarationOrder
import BenefitForm.Proofs.PatternEnds
import BenefitForm.Proofs.ValueFormat
import BenefitForm.Proofs.ReadBack
import BenefitForm.Proofs.PlannedDocument
import BenefitForm.Proofs.GroupedInput
import BenefitForm.Proofs.JsonPath
import BenefitForm.Proofs.CatalogItem
import BenefitForm.Proofs.CatalogFeed
import BenefitForm.Proofs.Gathered
import BenefitForm.Proofs.CatalogGrouping
import BenefitForm.Proofs.ReadableLabel
import BenefitForm.Proofs.UnreadableSource
import BenefitForm.Proofs.SeededValues
