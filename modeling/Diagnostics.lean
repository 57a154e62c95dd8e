import Diagnostics.Json.Writer
import Diagnostics.Main
import Diagnostics.Proofs.FileTable
import Diagnostics.Proofs.Outcome
import Diagnostics.Proofs.PolicyMap.Points
import Diagnostics.Proofs.PolicyMap.Discovery
import Diagnostics.Proofs.PolicyMap.Calls
import Diagnostics.Proofs.PolicyMap.Complete
import Diagnostics.Proofs.PolicyMap.Runs
import Diagnostics.Proofs.PolicyMap.Log
import Diagnostics.Proofs.PolicyMap.Holders
import Diagnostics.Proofs.PolicyMap.Steady
import Diagnostics.Proofs.Engine.Calls
import Diagnostics.Proofs.Template.World
import Diagnostics.Proofs.Engine.Reporting
import Diagnostics.Proofs.Engine.Ownership
import Diagnostics.Proofs.Engine.Unreported
import Diagnostics.Proofs.Engine.Upkeep
import Diagnostics.Proofs.Engine.Verdicts
import Diagnostics.Proofs.Engine.CutOff
import Diagnostics.Proofs.Engine.Settled
import Diagnostics.Proofs.Engine.Scopes
import Diagnostics.Proofs.Engine.Throughout
import Diagnostics.Proofs.Engine.Counting
import Diagnostics.Proofs.Engine.Notes
import Diagnostics.Proofs.Engine.Orderly
import Diagnostics.Proofs.Engine.Owning
import Diagnostics.Proofs.Engine.Requests
import Diagnostics.Proofs.Engine.GenuineErrors
import Diagnostics.Proofs.Engine.Frames
import Diagnostics.Proofs.PolicyMap.Marks
import Diagnostics.Proofs.PolicyMap.InEffect
import Diagnostics.Proofs.Engine.Machine
import Diagnostics.Proofs.Engine.Pragmas
import Diagnostics.Proofs.Engine.Acceptance
import Diagnostics.Proofs.Engine.Headers
import Diagnostics.Proofs.Template.Grammar
import Diagnostics.Proofs.Template.Cutting
import Diagnostics.Proofs.Template.Rendering
import Diagnostics.Proofs.Template.Meaning
import Diagnostics.Proofs.Engine.Chains
import Diagnostics.Proofs.Engine.Tallies
import Diagnostics.Proofs.Engine.Excess
import Diagnostics.Proofs.Engine.Mailbox
import Diagnostics.Proofs.Engine.Processing
import Diagnostics.Proofs.Engine.Builders
import Diagnostics.Proofs.Aggregator.Grouping
import Diagnostics.Proofs.Lockstep
import Diagnostics.Proofs.Template.Opacity
import Diagnostics.Proofs.Text.Utf8
import Diagnostics.Proofs.Json.Spelling
import Diagnostics.Proofs.Json.Reading
import Diagnostics.Proofs.Json.Fragments
import Diagnostics.Proofs.Aggregator.RunFiles
import Diagnostics.Proofs.CommandLine.Aggregating
import Diagnostics.Proofs.PolicyMap.Ahead
import Diagnostics.Proofs.Engine.EarlyQueries
import Diagnostics.Proofs.Ends
import Diagnostics.Proofs.PolicyMap.Grown
import Diagnostics.Proofs.PolicyMap.Refusal
import Diagnostics.Proofs.Engine.OutOfOrder
import Diagnostics.Proofs.Engine.Afterwards
import Diagnostics.Proofs.Catalog.Members
import Diagnostics.Proofs.Engine.Intact
import Diagnostics.Proofs.Engine.Repeated
import Diagnostics.Proofs.Engine.Groups
import Diagnostics.Proofs.Engine.Renewal
import Diagnostics.Proofs.Template.Comparison
import Diagnostics.Proofs.Template.PluralClauses
import Diagnostics.Proofs.Template.History
import Diagnostics.Proofs.Template.Making
import Diagnostics.Proofs.Template.Questions
import Diagnostics.Proofs.Catalog.Building
import Diagnostics.Proofs.Location.Positions
import Diagnostics.Proofs.CommandLine.MalformedLines
import Diagnostics.Proofs.Template.Parts
import Diagnostics.Proofs.Template.Placement
import Diagnostics.Proofs.Text.Numerals
import Diagnostics.Proofs.CommandLine.BareWords
import Diagnostics.Proofs.PolicyMap.HalfBuilt
import Diagnostics.Proofs.Template.Boundaries
