import TraceMining.Matching.Checked
import TraceMining.Service.Handler
import TraceMining.Settings
import TraceMining.Value.Writer
import TraceMining.Proofs.Matching.Earliest
import TraceMining.Proofs.Matching.Scanning
import TraceMining.Proofs.Batch
import TraceMining.Proofs.Matching.Outcome
import TraceMining.Proofs.Matching.Summary
import TraceMining.Proofs.Recognition.Noise
import TraceMining.Proofs.Recognition.Optimality
import TraceMining.Proofs.Recognition.Soundness
import TraceMining.Proofs.Stable
import TraceMining.Proofs.Store.Log
import TraceMining.Proofs.Recognition.Continuation
import TraceMining.Proofs.Recognition.Monotonicity
import TraceMining.Proofs.Workspace.Identities
import TraceMining.Proofs.Workspace.Writing
import TraceMining.Proofs.Workspace.Ownership
import TraceMining.Proofs.Workspace.Arrival
import TraceMining.Proofs.Workspace.Isolation
import TraceMining.Proofs.Workspace.Settling
import TraceMining.Proofs.Workspace.Repetition
import TraceMining.Proofs.Distinct
import TraceMining.Proofs.Store.Table
import TraceMining.Proofs.Store.Catalog
import TraceMining.Proofs.Workspace.Snapshot
import TraceMining.Proofs.Service.Definitions
import TraceMining.Proofs.Model.Application
import TraceMining.Proofs.Store.Timeline
import TraceMining.Proofs.Workspace.Synthesis
import TraceMining.Proofs.Workspace.Recording
import TraceMining.Proofs.Glob
import TraceMining.Proofs.Glob.Expression
import TraceMining.Proofs.Glob.Language
import TraceMining.Proofs.Store.Calls
import TraceMining.Proofs.Store.Groups
import TraceMining.Proofs.Model.Screen
import TraceMining.Proofs.Model.ScreenGroup
import TraceMining.Proofs.Model.Consistency
import TraceMining.Proofs.Model.EntityGroup
import TraceMining.Proofs.Model.EntityName
import TraceMining.Proofs.Model.EntityLink
import TraceMining.Proofs.Model.NavigationGroup
import TraceMining.Proofs.Service.Addresses
import TraceMining.Proofs.Service.Requests
import TraceMining.Proofs.Service.Retention
import TraceMining.Proofs.Matching.Leftmost
import TraceMining.Proofs.Recognition.Gap
import TraceMining.Proofs.Rule.Grammar
import TraceMining.Proofs.Rule.Diagnosis
import TraceMining.Proofs.Recognition.Unrolling
import TraceMining.Proofs.Rule.Reordering
import TraceMining.Proofs.Rule.Satisfaction
import TraceMining.Proofs.Model.NavigationLead
import TraceMining.Proofs.Store.Atomicity
import TraceMining.Proofs.Store.Pages
import TraceMining.Proofs.Service.Updates
import TraceMining.Proofs.Glob.Tokens
import TraceMining.Proofs.Model.Property
import TraceMining.Proofs.Store.Statistics
import TraceMining.Proofs.Text.Alphabet
import TraceMining.Proofs.Naming.Identifier
import TraceMining.Proofs.Naming.Label
