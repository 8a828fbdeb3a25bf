import InfoModel.Main
import InfoModel.Proofs.Hierarchy.CycleSearch
import InfoModel.Proofs.Mapping.Coherence
import InfoModel.Proofs.Mapping.DeclarationOrder
import InfoModel.Proofs.Mapping.Redeclaration
import InfoModel.Proofs.Mapping.SupertypeOrder
import InfoModel.Proofs.Mapping.Elements
import InfoModel.Proofs.Mapping.Faults
import InfoModel.Proofs.Mapping.Diagnostics
import InfoModel.Proofs.Mapping.Acceptance
import InfoModel.Proofs.Mapping.Inventory
import InfoModel.Proofs.Mapping.References
import InfoModel.Proofs.Mapping.Accounting
import InfoModel.Proofs.Mapping.StandardTypes
import InfoModel.Proofs.Mapping.Extension
import InfoModel.Proofs.Mapping.ImplicitPrimitive
import InfoModel.Proofs.Mapping.ChoiceOrder
import InfoModel.Proofs.Hierarchy.StackSearch
import InfoModel.Proofs.Mapping.Flattening
import InfoModel.Proofs.Document.Declarations
import InfoModel.Proofs.Hierarchy.BreadthFirst
import InfoModel.Proofs.Hierarchy.Topmost
import InfoModel.Proofs.Mapping.ValueTypes
import InfoModel.Proofs.Mapping.OwnMembers
import InfoModel.Proofs.Mapping.Loosening
import InfoModel.Proofs.Mapping.Erasure
import InfoModel.Proofs.Occurrence.Writing
import InfoModel.Proofs.Occurrence.Tightest
import InfoModel.Proofs.Document.RestatedModels
import InfoModel.Proofs.Document.Settings
import InfoModel.Proofs.Document.ReadBack
import InfoModel.Proofs.Collection
import InfoModel.Proofs.CommandLine.Run
import InfoModel.Proofs.Schema.Summary
