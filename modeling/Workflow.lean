import Workflow.Command
import Workflow.FlowStore.Memory
import Workflow.FlowStore.Table
import Workflow.Http
import Workflow.Json.Printer
import Workflow.Proofs.Cycle
import Workflow.Proofs.Document
import Workflow.Proofs.Edit
import Workflow.Proofs.Outcome
import Workflow.Proofs.Store
import Workflow.Registry.Document
import Workflow.Schema.Merge
import Workflow.Proofs.Run
import Workflow.Proofs.Acyclic
import Workflow.Proofs.Clients
import Workflow.Proofs.Entries
import Workflow.Proofs.Schema.Values
import Workflow.Proofs.Schema.Inference
import Workflow.Proofs.Schema.Compatibility
import Workflow.Proofs.Schema.Looseness
import Workflow.Proofs.Wiring
import Workflow.Proofs.ToolName
import Workflow.Proofs.Readable
import Workflow.Proofs.Renaming
import Workflow.Proofs.Endpoint.External
import Workflow.Proofs.Works
import Workflow.Proofs.Interchange
import Workflow.Proofs.Schema.WellFormed
import Workflow.Proofs.Schema.Document
import Workflow.Proofs.NodeNames
import Workflow.Proofs.Atomicity
import Workflow.Proofs.Schema.Breakage
import Workflow.Proofs.Validation
import Workflow.Proofs.LinkRule
import Workflow.Proofs.Accepted
import Workflow.Proofs.Refusals
import Workflow.Proofs.Schema.Truncation
import Workflow.Proofs.Schema.Covering
import Workflow.Proofs.Splice
import Workflow.Proofs.Legality
import Workflow.Proofs.Schema.Relaxation
import Workflow.Proofs.Schema.Unseen
import Workflow.Proofs.Schema.CommonShape
import Workflow.Proofs.FlowReport
import Workflow.Proofs.Endpoint.Reported
import Workflow.Proofs.Redirection
import Workflow.Proofs.Shown
import Workflow.Proofs.Deletion
import Workflow.Proofs.Restyling
import Workflow.Proofs.Filling
import Workflow.Proofs.Checked
import Workflow.Proofs.Schema.Grammar
import Workflow.Proofs.Counting
import Workflow.Proofs.Slug
