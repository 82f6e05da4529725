import NodeGroups.Backend.CallLog
import NodeGroups.Backend.Calls
import NodeGroups.Backend.Request
import NodeGroups.Backend.Session
import NodeGroups.CommandLine.Command
import NodeGroups.CommandLine.Layers
import NodeGroups.CommandLine.Reader
import NodeGroups.CommandLine.Run
import NodeGroups.CommandLine.Trace
import NodeGroups.CommandLine.Usage
import NodeGroups.Directory
import NodeGroups.Document.Classification
import NodeGroups.Document.Configuration
import NodeGroups.Document.Environment
import NodeGroups.Document.Parameter
import NodeGroups.Document.Rules
import NodeGroups.Document.Variables
import NodeGroups.Failure
import NodeGroups.Json.Basic
import NodeGroups.Json.Decoder
import NodeGroups.Json.Number
import NodeGroups.Json.Printer
import NodeGroups.Json.Source
import NodeGroups.Main
import NodeGroups.Numeric.Binary
import NodeGroups.Numeric.Reading
import NodeGroups.Numeric.Shortest
import NodeGroups.OrderedMap
import NodeGroups.Page.Classes
import NodeGroups.Page.Group
import NodeGroups.Page.ParameterInput
import NodeGroups.Page.Rows
import NodeGroups.Page.Rules
import NodeGroups.Page.Status
import NodeGroups.Page.Variables
import NodeGroups.Page.Zone
import NodeGroups.Pattern.Bracketed
import NodeGroups.Pattern.Compile
import NodeGroups.Pattern.Escape
import NodeGroups.Pattern.Footprint
import NodeGroups.Pattern.Meaning
import NodeGroups.Pattern.Program
import NodeGroups.Pattern.PropertyName
import NodeGroups.Pattern.Reader
import NodeGroups.Pattern.Regex
import NodeGroups.Pattern.Syntax
import NodeGroups.Picker.Basic
import NodeGroups.Picker.Placement
import NodeGroups.Proofs.Backend.Datasets
import NodeGroups.Proofs.Backend.Entries
import NodeGroups.Proofs.Backend.Exchange
import NodeGroups.Proofs.Backend.Journey
import NodeGroups.Proofs.Backend.Storage
import NodeGroups.Proofs.Backend.Traffic
import NodeGroups.Proofs.CommandLine.Amending
import NodeGroups.Proofs.CommandLine.Layers
import NodeGroups.Proofs.CommandLine.ListWidths
import NodeGroups.Proofs.CommandLine.Logging
import NodeGroups.Proofs.CommandLine.Nodes
import NodeGroups.Proofs.CommandLine.PatternMode
import NodeGroups.Proofs.CommandLine.Searching
import NodeGroups.Proofs.CommandLine.Variables
import NodeGroups.Proofs.CommandLine.Writes
import NodeGroups.Proofs.Document.Decoding
import NodeGroups.Proofs.Document.Formats
import NodeGroups.Proofs.Interleaving
import NodeGroups.Proofs.Json.Decoding
import NodeGroups.Proofs.Json.Grammar
import NodeGroups.Proofs.Json.Nesting
import NodeGroups.Proofs.Json.Printing
import NodeGroups.Proofs.Json.Reading
import NodeGroups.Proofs.Json.Rereading
import NodeGroups.Proofs.Json.Syntax
import NodeGroups.Proofs.Numeric.Rounding
import NodeGroups.Proofs.Numeric.Shortest
import NodeGroups.Proofs.OrderedMap
import NodeGroups.Proofs.Page.AcceptedText
import NodeGroups.Proofs.Page.Arming
import NodeGroups.Proofs.Page.Assigned
import NodeGroups.Proofs.Page.Classes
import NodeGroups.Proofs.Page.Commit
import NodeGroups.Proofs.Page.Exchange
import NodeGroups.Proofs.Page.Freshness
import NodeGroups.Proofs.Page.Group
import NodeGroups.Proofs.Page.Handles
import NodeGroups.Proofs.Page.Idempotence
import NodeGroups.Proofs.Page.Ledger
import NodeGroups.Proofs.Page.Loading
import NodeGroups.Proofs.Page.Messages
import NodeGroups.Proofs.Page.Offering
import NodeGroups.Proofs.Page.PanelForms
import NodeGroups.Proofs.Page.ParameterInput
import NodeGroups.Proofs.Page.Picks
import NodeGroups.Proofs.Page.Refusals
import NodeGroups.Proofs.Page.Reload
import NodeGroups.Proofs.Page.RowHistory
import NodeGroups.Proofs.Page.Rules
import NodeGroups.Proofs.Page.RulesHistory
import NodeGroups.Proofs.Page.Sides
import NodeGroups.Proofs.Page.Status
import NodeGroups.Proofs.Page.Unsaved
import NodeGroups.Proofs.Page.VariableRows
import NodeGroups.Proofs.Page.Variables
import NodeGroups.Proofs.Page.VariablesHistory
import NodeGroups.Proofs.Past
import NodeGroups.Proofs.Pattern.Escape
import NodeGroups.Proofs.Pattern.Row
import NodeGroups.Proofs.Picker.Clicks
import NodeGroups.Proofs.Picker.History
import NodeGroups.Proofs.Picker.Lookup
import NodeGroups.Proofs.Picker.Typing
import NodeGroups.Proofs.Search.Change
import NodeGroups.Proofs.Search.Highlights
import NodeGroups.Proofs.Search.Index
import NodeGroups.Proofs.Search.IndexHistory
import NodeGroups.Proofs.Search.Itself
import NodeGroups.Proofs.Search.Listing
import NodeGroups.Proofs.Search.Substring
import NodeGroups.Proofs.Settings.Url
import NodeGroups.Proofs.Text.CaseFold
import NodeGroups.Proofs.Text.CharSet
import NodeGroups.Proofs.Text.Utf8
import NodeGroups.Search.Index
import NodeGroups.Search.Query
import NodeGroups.Search.Record
import NodeGroups.Settings
import NodeGroups.Settings.File
import NodeGroups.Text.Blank
import NodeGroups.Text.CaseFold
import NodeGroups.Text.CharSet
import NodeGroups.Text.Digit
import NodeGroups.Text.Quoted
import NodeGroups.Text.Unicode.Category
import NodeGroups.Text.Unicode.Property
import NodeGroups.Text.Unicode.Script
import NodeGroups.Toml.Basic
import NodeGroups.Toml.Reader
import NodeGroups.Yaml.Classification
import NodeGroups.Yaml.Cursor
import NodeGroups.Yaml.Node
import NodeGroups.Yaml.Scalar
import NodeGroups.Yaml.Token
import NodeGroups.Yaml.Value
