import NotionSchema.Main
import NotionSchema.Http.ScriptedPeer
import NotionSchema.Query.Binding
import NotionSchema.Query.Execution
import NotionSchema.Query.Step
import NotionSchema.Reconcile.Suggestion
import NotionSchema.Remote.Workspace
import NotionSchema.Proofs.Schema.Acceptance
import NotionSchema.Proofs.Schema.RoundTrip
import NotionSchema.Proofs.Query.ExplicitTypes
import NotionSchema.Proofs.Query.Included
import NotionSchema.Proofs.Query.Interleaving
import NotionSchema.Proofs.Query.WireForm
import NotionSchema.Proofs.Loading.Bench
import NotionSchema.Proofs.Validation.FirstFailure
import NotionSchema.Proofs.Query.Faithful
import NotionSchema.Proofs.Loading.Transparency
import NotionSchema.Proofs.Client.Resources
import NotionSchema.Proofs.CommandLine.Check
import NotionSchema.Proofs.Reconcile.Declaration
import NotionSchema.Proofs.Reconcile.SuggestedModel
import NotionSchema.Proofs.Schema.Joining
import NotionSchema.Proofs.Reconcile.Verdict
import NotionSchema.Proofs.Loading.Failure
import NotionSchema.Proofs.Loading.Shape
import NotionSchema.Proofs.Loading.Idempotence
import NotionSchema.Proofs.Query.RelationFilter
import NotionSchema.Proofs.Query.BoundFields
import NotionSchema.Proofs.Schema.AttributeScan
import NotionSchema.Proofs.Schema.FieldSpelling
import NotionSchema.Proofs.Schema.Relayout
import NotionSchema.Proofs.Schema.Faults
import NotionSchema.Proofs.Query.Flattened
import NotionSchema.Proofs.Remote.Rereading
import NotionSchema.Proofs.Schema.Warnings
import NotionSchema.Proofs.Url.Appended
import NotionSchema.Proofs.Client.BaseAddress
import NotionSchema.Proofs.Schema.Resolution
import NotionSchema.Proofs.Validation.DatabaseIds
