import EdgeAlert.Alert
import EdgeAlert.Alert.Stamped
import EdgeAlert.Binary.Basic
import EdgeAlert.Binary.Format
import EdgeAlert.Checker
import EdgeAlert.CommandLine
import EdgeAlert.Decimal.Integer
import EdgeAlert.Decimal.Layout
import EdgeAlert.Decimal.Reading
import EdgeAlert.Decimal.Shortest
import EdgeAlert.Delivery
import EdgeAlert.Delivery.Handlers
import EdgeAlert.Event
import EdgeAlert.Event.Codec
import EdgeAlert.Files
import EdgeAlert.Host
import EdgeAlert.Identity
import EdgeAlert.Intake
import EdgeAlert.Intake.Line
import EdgeAlert.Json.Basic
import EdgeAlert.Json.Double
import EdgeAlert.Json.Reader
import EdgeAlert.Json.Syntax
import EdgeAlert.Json.Writer
import EdgeAlert.LogDirective
import EdgeAlert.Main
import EdgeAlert.NodeId
import EdgeAlert.NodeId.Codec
import EdgeAlert.Notice
import EdgeAlert.OrderedMap
import EdgeAlert.Pattern.Compliance
import EdgeAlert.Pattern.Error
import EdgeAlert.Pattern.Number
import EdgeAlert.Pattern.Numeric
import EdgeAlert.Pattern.Textual
import EdgeAlert.Power
import EdgeAlert.Proofs.Binary.Rounding
import EdgeAlert.Proofs.Checker.AttributeOrder
import EdgeAlert.Proofs.Checker.Clearing
import EdgeAlert.Proofs.Checker.Collision
import EdgeAlert.Proofs.Checker.Identity
import EdgeAlert.Proofs.Checker.Interleaving
import EdgeAlert.Proofs.Checker.Noninterference
import EdgeAlert.Proofs.Checker.Observation
import EdgeAlert.Proofs.Checker.OneEvent
import EdgeAlert.Proofs.Checker.Replay
import EdgeAlert.Proofs.Checker.Run
import EdgeAlert.Proofs.Checker.TypedRule
import EdgeAlert.Proofs.Decimal.Digits
import EdgeAlert.Proofs.Decimal.ReadBack
import EdgeAlert.Proofs.Decimal.Spelling
import EdgeAlert.Proofs.Delivery.Calls
import EdgeAlert.Proofs.Delivery.ExactlyOnce
import EdgeAlert.Proofs.Delivery.Progress
import EdgeAlert.Proofs.Delivery.Relay
import EdgeAlert.Proofs.Event.Canonical
import EdgeAlert.Proofs.Event.Flattened
import EdgeAlert.Proofs.Event.Insertion
import EdgeAlert.Proofs.Intake.Accounting
import EdgeAlert.Proofs.Intake.Feedback
import EdgeAlert.Proofs.Intake.Garbage
import EdgeAlert.Proofs.Intake.Reading
import EdgeAlert.Proofs.Json.Double
import EdgeAlert.Proofs.Json.Number
import EdgeAlert.Proofs.Json.RoundTrip
import EdgeAlert.Proofs.Json.Strings
import EdgeAlert.Proofs.Json.Visible
import EdgeAlert.Proofs.Pattern.Grammar
import EdgeAlert.Proofs.Pattern.Integers
import EdgeAlert.Proofs.Pattern.LargeLiterals
import EdgeAlert.Proofs.Pattern.Listing
import EdgeAlert.Proofs.Pattern.WholeText
import EdgeAlert.Proofs.Regex.Anchoring
import EdgeAlert.Proofs.Regex.Bounds
import EdgeAlert.Proofs.Regex.Brackets
import EdgeAlert.Proofs.Regex.Groups
import EdgeAlert.Proofs.Regex.Locality
import EdgeAlert.Proofs.Regex.Matching
import EdgeAlert.Proofs.Rules.Agreement
import EdgeAlert.Proofs.Service.Posting
import EdgeAlert.Proofs.Service.Requests
import EdgeAlert.Proofs.Service.Restart
import EdgeAlert.Proofs.Settings.Flattening
import EdgeAlert.Proofs.Settings.Spelling
import EdgeAlert.Proofs.Store.Files
import EdgeAlert.Proofs.Store.Language
import EdgeAlert.Proofs.Store.Membership
import EdgeAlert.Proofs.Store.Operations
import EdgeAlert.Proofs.Store.Snapshot
import EdgeAlert.Proofs.Text.ByteOrder
import EdgeAlert.Proofs.Text.Cut
import EdgeAlert.Proofs.Text.Fields
import EdgeAlert.Proofs.Text.Lines
import EdgeAlert.Proofs.Text.Utf8
import EdgeAlert.Proofs.Toml.Paths
import EdgeAlert.Proofs.Toml.Reading
import EdgeAlert.Regex
import EdgeAlert.Regex.Bracket
import EdgeAlert.Regex.Escape
import EdgeAlert.Regex.Expr
import EdgeAlert.Regex.Extent
import EdgeAlert.Regex.Match
import EdgeAlert.Regex.Meaning
import EdgeAlert.Regex.Reader
import EdgeAlert.Regex.Syntax
import EdgeAlert.Rules
import EdgeAlert.Service
import EdgeAlert.Service.Lifecycle
import EdgeAlert.Settings
import EdgeAlert.Severity
import EdgeAlert.Store
import EdgeAlert.Store.Snapshot
import EdgeAlert.Text.Blank
import EdgeAlert.Text.Fields
import EdgeAlert.Text.Hex
import EdgeAlert.Text.Lines
import EdgeAlert.Time.Calendar
import EdgeAlert.Time.Timestamp
import EdgeAlert.Toml.Basic
import EdgeAlert.Toml.Document
import EdgeAlert.Toml.Reader
import EdgeAlert.Toml.Scalar
import EdgeAlert.Toml.Text
import EdgeAlert.Unicode.Age
import EdgeAlert.Unicode.BinaryProperties
import EdgeAlert.Unicode.CaseFolding
import EdgeAlert.Unicode.CharSet
import EdgeAlert.Unicode.GeneralCategory
import EdgeAlert.Unicode.Properties
import EdgeAlert.Unicode.Script
import EdgeAlert.Unicode.ScriptExtensions
import EdgeAlert.Unicode.Segmentation
import EdgeAlert.Unicode.Table
import EdgeAlert.Value
