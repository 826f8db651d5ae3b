import OpenApiGen.Main
import OpenApiGen.Spec.Encode
import OpenApiGen.Proofs.Naming.Legal
import OpenApiGen.Proofs.Dict
import OpenApiGen.Proofs.Results
import OpenApiGen.Proofs.Model.Flattening
import OpenApiGen.Proofs.Model.Reconcile
import OpenApiGen.Proofs.Model.Inheritance
import OpenApiGen.Proofs.Model.Reachability
import OpenApiGen.Proofs.Model.ClassName
import OpenApiGen.Proofs.Json.Reader
import OpenApiGen.Proofs.Record
import OpenApiGen.Proofs.Spec.Faithful
import OpenApiGen.Proofs.Spec.RoundTrip
import OpenApiGen.Proofs.Spec.Keyed
import OpenApiGen.Proofs.Schema.Declaration
import OpenApiGen.Proofs.Schema.References
import OpenApiGen.Proofs.Model.Extension
import OpenApiGen.Proofs.Operation.Extension
import OpenApiGen.Proofs.Generation.Basic
import OpenApiGen.Proofs.Generation.Extension
import OpenApiGen.Proofs.Schema.Lookup
import OpenApiGen.Proofs.Model.Lookup
import OpenApiGen.Proofs.Operation.Faults
import OpenApiGen.Proofs.Generation.References
import OpenApiGen.Proofs.Schema.Spelling
import OpenApiGen.Proofs.Model.SingleMember
import OpenApiGen.Proofs.Schema.Inline
import OpenApiGen.Proofs.Schema.ComposedItems
import OpenApiGen.Proofs.Model.Views
import OpenApiGen.Proofs.Model.Ordering
import OpenApiGen.Proofs.Model.Hierarchy
import OpenApiGen.Proofs.Generation.Views
import OpenApiGen.Proofs.Generation.Ordering
import OpenApiGen.Proofs.Naming.LeadingChar
import OpenApiGen.Proofs.Schema.LeadingChar
import OpenApiGen.Proofs.Model.LeadingChar
import OpenApiGen.Proofs.Operation.LeadingChar
import OpenApiGen.Proofs.Generation.LeadingChar
import OpenApiGen.Proofs.Model.Members
import OpenApiGen.Proofs.Model.Aliases
import OpenApiGen.Proofs.Schema.Termination
import OpenApiGen.Proofs.Model.Declarations
import OpenApiGen.Proofs.Generation.Recursion
import OpenApiGen.Proofs.Naming.Affixes
import OpenApiGen.Proofs.Naming.EnumCase
import OpenApiGen.Proofs.Model.EnumType
import OpenApiGen.Proofs.Naming.Identifier
import OpenApiGen.Proofs.Naming.FirstChar
import OpenApiGen.Proofs.Generation.Names
import OpenApiGen.Proofs.Naming.Literal
import OpenApiGen.Proofs.Model.Default
import OpenApiGen.Proofs.Operation.Merging
import OpenApiGen.Proofs.Operation.Parameters
import OpenApiGen.Proofs.Spec.Trail
import OpenApiGen.Proofs.Schema.Layers
import OpenApiGen.Proofs.Decoration.Regex
import OpenApiGen.Proofs.Decoration.Jsdoc
import OpenApiGen.Proofs.Decoration.Arguments
import OpenApiGen.Proofs.Spec.Rounds
import OpenApiGen.Proofs.Generation.Documents
