import ModelPlanner.Config.Json
import ModelPlanner.Instance
import ModelPlanner.Planner
import ModelPlanner.Snapshot.Json
import ModelPlanner.Proofs.Registry.Edits
import ModelPlanner.Proofs.Model.Edits
import ModelPlanner.Proofs.Model.Links
import ModelPlanner.Proofs.Registry.Shadowing
import ModelPlanner.Proofs.Instance.Calls
import ModelPlanner.Proofs.Instance.Exclusion
import ModelPlanner.Proofs.Hierarchy.Chain
import ModelPlanner.Proofs.Hierarchy.Methods
import ModelPlanner.Proofs.Planner.Stages
import ModelPlanner.Proofs.Planner.Batch
import ModelPlanner.Proofs.TypeName.Scan
import ModelPlanner.Proofs.TypeName.Derivation
import ModelPlanner.Proofs.TypeName.Grammar
import ModelPlanner.Proofs.TypeName.RoundTrip
import ModelPlanner.Proofs.Planner.Inheritance
import ModelPlanner.Proofs.Planner.StatedGroups
import ModelPlanner.Proofs.Hierarchy.Climb
import ModelPlanner.Proofs.Hierarchy.Transparency
import ModelPlanner.Proofs.Hierarchy.Overridable
import ModelPlanner.Proofs.Planner.Histories
import ModelPlanner.Proofs.Surface.Signatures
import ModelPlanner.Proofs.Instance.Equality
import ModelPlanner.Proofs.Surface.BuilderMethods
import ModelPlanner.Proofs.Model.Election
import ModelPlanner.Proofs.Model.Current
import ModelPlanner.Proofs.Model.Refusals
import ModelPlanner.Proofs.Planner.Groups
import ModelPlanner.Proofs.Planner.Failures
import ModelPlanner.Proofs.Model.Resolution
import ModelPlanner.Proofs.Hierarchy.Collection
import ModelPlanner.Proofs.Hierarchy.Bound
import ModelPlanner.Proofs.Snapshot.RoundTrip
import ModelPlanner.Proofs.Registry.Log
import ModelPlanner.Proofs.Instance.LastEvent
import ModelPlanner.Proofs.Hierarchy.Search
import ModelPlanner.Proofs.Hierarchy.Capability
import ModelPlanner.Proofs.Hierarchy.Identity
import ModelPlanner.Proofs.Value.Integers
import ModelPlanner.Proofs.Value.Quoted
import ModelPlanner.Proofs.Snapshot.References
import ModelPlanner.Proofs.Instance.Fitting
import ModelPlanner.Proofs.Config.Options
import ModelPlanner.Proofs.Text.Polynomial
