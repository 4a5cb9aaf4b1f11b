import Watchpost.Alert
import Watchpost.Balanced
import Watchpost.Channel
import Watchpost.Condition.Basic
import Watchpost.Condition.Compile
import Watchpost.Condition.Evaluate
import Watchpost.Condition.Flaw
import Watchpost.Condition.Literal
import Watchpost.Condition.Token
import Watchpost.Configuration
import Watchpost.Double.Basic
import Watchpost.Double.Decimal
import Watchpost.Double.Notation
import Watchpost.Double.Reading
import Watchpost.Engine.Basic
import Watchpost.Engine.Call
import Watchpost.Error
import Watchpost.Event
import Watchpost.Event.Record
import Watchpost.Instant
import Watchpost.Instant.Reading
import Watchpost.Json.Basic
import Watchpost.Json.Draft
import Watchpost.Json.Fields
import Watchpost.Json.Numeral
import Watchpost.Lane.Basic
import Watchpost.Lane.Turn
import Watchpost.Lane.Work
import Watchpost.Like
import Watchpost.Metrics
import Watchpost.Pattern.Basic
import Watchpost.Pattern.Bracket
import Watchpost.Pattern.Escape
import Watchpost.Pattern.Flags
import Watchpost.Pattern.Item
import Watchpost.Pattern.Marked
import Watchpost.Pattern.Piece
import Watchpost.Pattern.Plan
import Watchpost.Pattern.Reader
import Watchpost.Pattern.Room
import Watchpost.Proofs.Channel
import Watchpost.Proofs.Condition.Blame
import Watchpost.Proofs.Condition.Chains
import Watchpost.Proofs.Condition.Compiling
import Watchpost.Proofs.Condition.Counts
import Watchpost.Proofs.Condition.Duality
import Watchpost.Proofs.Condition.Grammar
import Watchpost.Proofs.Condition.Order
import Watchpost.Proofs.Condition.Prefixes
import Watchpost.Proofs.Condition.Reading
import Watchpost.Proofs.Condition.Rendering
import Watchpost.Proofs.Condition.Slices
import Watchpost.Proofs.Condition.Spans
import Watchpost.Proofs.Condition.Spelling
import Watchpost.Proofs.Condition.Walk
import Watchpost.Proofs.Condition.Writing
import Watchpost.Proofs.Configuration
import Watchpost.Proofs.Double.Integers
import Watchpost.Proofs.Double.Order
import Watchpost.Proofs.Double.Rounding
import Watchpost.Proofs.Double.Shortest
import Watchpost.Proofs.Double.Writing
import Watchpost.Proofs.Engine.Broadcasts
import Watchpost.Proofs.Engine.Calls
import Watchpost.Proofs.Engine.Lifetime
import Watchpost.Proofs.Engine.Records
import Watchpost.Proofs.Engine.Run
import Watchpost.Proofs.Event.Canonical
import Watchpost.Proofs.Event.Labels
import Watchpost.Proofs.Event.Scalars
import Watchpost.Proofs.Event.Sizes
import Watchpost.Proofs.Json.Fields
import Watchpost.Proofs.Json.Regular
import Watchpost.Proofs.Json.Shuffling
import Watchpost.Proofs.Json.Spelling
import Watchpost.Proofs.Json.Writing
import Watchpost.Proofs.Lane.Account
import Watchpost.Proofs.Lane.Agreement
import Watchpost.Proofs.Lane.Beginning
import Watchpost.Proofs.Lane.Ledger
import Watchpost.Proofs.Lane.Line
import Watchpost.Proofs.Lane.Metrics
import Watchpost.Proofs.Lane.Moments
import Watchpost.Proofs.Lane.Number
import Watchpost.Proofs.Lane.Processing
import Watchpost.Proofs.Lane.Resuming
import Watchpost.Proofs.Lane.Run
import Watchpost.Proofs.Lane.Serving
import Watchpost.Proofs.Lane.Silence
import Watchpost.Proofs.Lane.Standing
import Watchpost.Proofs.Lane.Story
import Watchpost.Proofs.Lane.Tally
import Watchpost.Proofs.Lane.Trace
import Watchpost.Proofs.Like.Textbook
import Watchpost.Proofs.Like.Whole
import Watchpost.Proofs.Pattern.Brackets
import Watchpost.Proofs.Pattern.Closing
import Watchpost.Proofs.Pattern.Matching
import Watchpost.Proofs.Pattern.Wrapping
import Watchpost.Proofs.Registry.Changes
import Watchpost.Proofs.Registry.Lossless
import Watchpost.Proofs.Registry.Order
import Watchpost.Proofs.Registry.Restoring
import Watchpost.Proofs.Registry.Written
import Watchpost.Proofs.Replica.Changes
import Watchpost.Proofs.Replica.Counts
import Watchpost.Proofs.Replica.Fates
import Watchpost.Proofs.Replica.Metrics
import Watchpost.Proofs.Replica.Processing
import Watchpost.Proofs.Site.Run
import Watchpost.Proofs.Store.Directory
import Watchpost.Proofs.Store.Fetch
import Watchpost.Proofs.Store.Retry
import Watchpost.Proofs.Table
import Watchpost.Proofs.Text.Bytes
import Watchpost.Registry.Basic
import Watchpost.Registry.Snapshot
import Watchpost.Replica.Basic
import Watchpost.Rule.Basic
import Watchpost.Rule.Definition
import Watchpost.Rule.File
import Watchpost.Rule.Update
import Watchpost.Settings
import Watchpost.Severity
import Watchpost.Site.Basic
import Watchpost.Site.Elapse
import Watchpost.Site.Round
import Watchpost.Site.RunOut
import Watchpost.Site.Solo
import Watchpost.Stats
import Watchpost.Store.Basic
import Watchpost.Store.Directory
import Watchpost.Store.Fetch
import Watchpost.Store.Retry
import Watchpost.Table
import Watchpost.Text.Age
import Watchpost.Text.AgeTable
import Watchpost.Text.ByteRange
import Watchpost.Text.Category
import Watchpost.Text.CategoryTable
import Watchpost.Text.CharSet
import Watchpost.Text.Fold
import Watchpost.Text.FoldTable
import Watchpost.Text.Letter
import Watchpost.Text.NamedSet
import Watchpost.Text.Property
import Watchpost.Text.PropertyTable
import Watchpost.Text.Runs
import Watchpost.Text.Script
import Watchpost.Text.ScriptTable
import Watchpost.Text.Segment
import Watchpost.Text.Utf8
import Watchpost.Toml.Basic
import Watchpost.Toml.Reading
import Watchpost.Toml.Scalar
import Watchpost.Toml.Text
import Watchpost.Yaml.Layout
import Watchpost.Yaml.Node
import Watchpost.Yaml.Place
import Watchpost.Yaml.Scalar
import Watchpost.Yaml.Token
import Watchpost.Yaml.Value
