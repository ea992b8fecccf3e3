import ResourceRouting.ErrorEnum.Build
import ResourceRouting.Main
import ResourceRouting.Proofs.Results
import ResourceRouting.Proofs.Lists
import ResourceRouting.Proofs.OctetOrder
import ResourceRouting.Proofs.Validation
import ResourceRouting.Proofs.ErrorEnum.Contexts
import ResourceRouting.Proofs.ErrorEnum.Generated
import ResourceRouting.Proofs.ErrorEnum.Paths
import ResourceRouting.Proofs.ErrorEnum.Reports
import ResourceRouting.Proofs.ErrorEnum.Rules
import ResourceRouting.Proofs.Declared.Bodies
import ResourceRouting.Proofs.Declared.Merging
import ResourceRouting.Proofs.Declared.Tree
import ResourceRouting.Proofs.Declared.Application
import ResourceRouting.Proofs.Declared.Names
import ResourceRouting.Proofs.Compilation
import ResourceRouting.Proofs.Plan
import ResourceRouting.Proofs.Dispatch.Handling
import ResourceRouting.Proofs.Dispatch.Matching
import ResourceRouting.Proofs.Dispatch.Reach
import ResourceRouting.Proofs.Dispatch.Shape
import ResourceRouting.Proofs.Dispatch.Instances
import ResourceRouting.Proofs.Dispatch.Choice
import ResourceRouting.Proofs.Dispatch.Identified
import ResourceRouting.Proofs.Dispatch.Advertised
import ResourceRouting.Proofs.Paths.Segments
import ResourceRouting.Proofs.Paths.Relative
import ResourceRouting.Proofs.Paths.Placeholders
import ResourceRouting.Proofs.Paths.Root
import ResourceRouting.Proofs.Paths.Rooted
import ResourceRouting.Proofs.Paths.Along
import ResourceRouting.Proofs.Paths.Chains
import ResourceRouting.Proofs.Paths.Anchors
import ResourceRouting.Proofs.Lineage
import ResourceRouting.Proofs.Paths.Documents
import ResourceRouting.Proofs.Faults.Offences
import ResourceRouting.Proofs.Faults.Recorded
import ResourceRouting.Proofs.Faults.Reported
import ResourceRouting.Proofs.Host.Precedence
import ResourceRouting.Proofs.Host.Mounting
import ResourceRouting.Proofs.Host.Agreement
import ResourceRouting.Proofs.Host.Mountable
import ResourceRouting.Proofs.Objects
import ResourceRouting.Proofs.Texts
import ResourceRouting.Proofs.Host.Gathering
import ResourceRouting.Proofs.Headers
import ResourceRouting.Proofs.Host.Refusals
import ResourceRouting.Proofs.Variation.Contexts
import ResourceRouting.Proofs.Variation.Switches
import ResourceRouting.Proofs.Variation.Features
import ResourceRouting.Proofs.Variation.Disabled
import ResourceRouting.Proofs.Variation.Rearranged
import ResourceRouting.Proofs.Parameters
import ResourceRouting.Proofs.Contributions
import ResourceRouting.Proofs.Publication
import ResourceRouting.Proofs.Namespaces
import ResourceRouting.Proofs.Catalog.Duties
import ResourceRouting.Proofs.Catalog.Effects
import ResourceRouting.Proofs.Catalog.Tasks
import ResourceRouting.Proofs.Catalog.Books
import ResourceRouting.Proofs.Catalog.Concurrency
import ResourceRouting.Proofs.Catalog.Reuse
import ResourceRouting.Proofs.Catalog.Building
import ResourceRouting.Proofs.Catalog.Listing
import ResourceRouting.Proofs.Config.Layers
import ResourceRouting.Proofs.Config.Overrides
import ResourceRouting.Proofs.Log.Directives
