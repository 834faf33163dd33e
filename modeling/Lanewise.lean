import Lanewise.Implementation
import Lanewise.Derivative
import Lanewise.Formula.Standard
import Lanewise.Artifact
import Lanewise.FileTree.Operation
import Lanewise.FileTree.Listing
import Lanewise.Package
import Lanewise.Main
import Lanewise.Decimal
import Lanewise.FileTree.Spelled
import Lanewise.Proofs.Identifier
import Lanewise.Proofs.Overload.Key
import Lanewise.Proofs.Catalog.Identity
import Lanewise.Proofs.Generate.Effect
import Lanewise.Proofs.Implementation.Fallback
import Lanewise.Proofs.Implementation.Accelerated
import Lanewise.Proofs.Implementation.Signature
import Lanewise.Proofs.Catalog.Reference
import Lanewise.Proofs.Catalog.Registration
import Lanewise.Proofs.Formula.Validation
import Lanewise.Proofs.Artifact.Rendering
import Lanewise.Proofs.Expression.Basic
import Lanewise.Proofs.Formula.Reading
import Lanewise.Proofs.Formula.Gradient
import Lanewise.Proofs.Artifact.Matrix
import Lanewise.Proofs.Catalog.Lookup
import Lanewise.Proofs.Generate.Replacement
import Lanewise.Proofs.Derivative.Uniform
import Lanewise.Proofs.Formula.Product
import Lanewise.Proofs.Artifact.Nesting
import Lanewise.Proofs.Formula.Pullback
import Lanewise.Proofs.Formula.Value
import Lanewise.Proofs.Overload.Capture
import Lanewise.Proofs.Derivative.Piecewise
import Lanewise.Proofs.Overload.Label
import Lanewise.Proofs.Overload.Parameter
import Lanewise.Proofs.Overload.Row
import Lanewise.Proofs.Artifact.Path
import Lanewise.Proofs.Formula.Grouping
import Lanewise.Proofs.Template.Substitution
