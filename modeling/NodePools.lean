import NodePools.Aws.Backend
import NodePools.Aws.Client
import NodePools.Aws.ObjectStore
import NodePools.Aws.Scaler
import NodePools.Aws.Stacks
import NodePools.Bootstrap
import NodePools.Cluster
import NodePools.Command
import NodePools.Config.Loading
import NodePools.Config.Merge
import NodePools.Config.Settings
import NodePools.Converter
import NodePools.Datum
import NodePools.Decimal.Binary64
import NodePools.Decimal.Layout
import NodePools.Decimal.Reader
import NodePools.Decimal.Rounded
import NodePools.Decimal.Shortest
import NodePools.Digest.Sha512
import NodePools.Error
import NodePools.Fault
import NodePools.Fields
import NodePools.FileTree
import NodePools.Json.Basic
import NodePools.Json.Parser
import NodePools.Json.Printer
import NodePools.Json.Quoted
import NodePools.Log
import NodePools.Moment
import NodePools.Number
import NodePools.Pairs
import NodePools.Path
import NodePools.Pool
import NodePools.Pricing
import NodePools.Profile
import NodePools.Prog
import NodePools.Provisioner
import NodePools.Publisher
import NodePools.Rehearsal.Clients
import NodePools.Rehearsal.Program
import NodePools.Rehearsal.Task
import NodePools.Rehearsal.World
import NodePools.Service
import NodePools.Settle
import NodePools.Stack
import NodePools.Tags
import NodePools.Template.Arithmetic
import NodePools.Template.Attribute
import NodePools.Template.Compare
import NodePools.Template.Compile
import NodePools.Template.Constant
import NodePools.Template.Eval
import NodePools.Template.Evaluate
import NodePools.Template.Execute
import NodePools.Template.Filter
import NodePools.Template.Lookup
import NodePools.Template.Method
import NodePools.Template.Parser
import NodePools.Template.Placeholder
import NodePools.Template.Print
import NodePools.Template.Program
import NodePools.Template.Render
import NodePools.Template.Scope
import NodePools.Template.Sort
import NodePools.Template.Stream
import NodePools.Template.Syntax
import NodePools.Template.Test
import NodePools.Template.Token
import NodePools.Template.Value
import NodePools.Text.Base64
import NodePools.Text.Blank
import NodePools.Text.CodeRange
import NodePools.Text.Composition
import NodePools.Text.DecimalDigit
import NodePools.Text.Hex
import NodePools.Text.Identifier
import NodePools.Text.LetterCase
import NodePools.Text.Lines
import NodePools.Text.Printable
import NodePools.Text.Quoted
import NodePools.Text.Search
import NodePools.Text.Utf8
import NodePools.Toml.Document
import NodePools.Toml.Nest
import NodePools.Toml.Scalar
import NodePools.Toml.Text
import NodePools.Toml.Value
import NodePools.Proofs.Trace
import NodePools.Proofs.Interleaving
import NodePools.Proofs.Attempt
import NodePools.Proofs.Finished
import NodePools.Proofs.Provisioning
import NodePools.Proofs.TagCodec
import NodePools.Proofs.Live
import NodePools.Proofs.Decommission
import NodePools.Proofs.History
import NodePools.Proofs.Schedule
import NodePools.Proofs.Neighbours
import NodePools.Proofs.Passes
import NodePools.Proofs.BootReference
import NodePools.Proofs.Interpretation
import NodePools.Proofs.Publishing
import NodePools.Proofs.StackCalls
import NodePools.Proofs.Convergence
import NodePools.Proofs.StackProvisioning
import NodePools.Proofs.Listing
import NodePools.Proofs.ScalingGroup
import NodePools.Proofs.DrainedPass
import NodePools.Proofs.Protection
import NodePools.Proofs.Contracts
import NodePools.Proofs.WellFormed
import NodePools.Proofs.OwnErrors
import NodePools.Proofs.Upserting
import NodePools.Proofs.StoreCalls
import NodePools.Proofs.SharedStore
import NodePools.Proofs.Repetition
import NodePools.Proofs.DoubleRange
import NodePools.Proofs.ConfigErrors
import NodePools.Proofs.ExactTime
import NodePools.Proofs.TimedWait
import NodePools.Proofs.Deadline
import NodePools.Proofs.StuckStack
import NodePools.Proofs.Regions
import NodePools.Proofs.Bidding
import NodePools.Proofs.TagEntries
import NodePools.Proofs.PagedListing
import NodePools.Proofs.UserDataText
import NodePools.Proofs.StackRendering
import NodePools.Proofs.RenderErrors
import NodePools.Proofs.Layers
import NodePools.Proofs.TomlKeys
import NodePools.Proofs.LayeredConfig
import NodePools.Proofs.ReadClusters
import NodePools.Proofs.LegacyProfiles
import NodePools.Proofs.Crew
import NodePools.Proofs.GroupDeadline
import NodePools.Proofs.SheetTokens
import NodePools.Proofs.SheetReading
import NodePools.Proofs.SheetProgram
import NodePools.Proofs.SheetRendering
