import TripleAlgebra.Abbreviation
import TripleAlgebra.Algebra
import TripleAlgebra.Algebra.Evaluate
import TripleAlgebra.Algebra.Meaning
import TripleAlgebra.Algebra.Rebuild
import TripleAlgebra.Algebra.Text
import TripleAlgebra.Bag
import TripleAlgebra.Bag.Effectful
import TripleAlgebra.Bag.Join
import TripleAlgebra.Bindings
import TripleAlgebra.Clock
import TripleAlgebra.Config
import TripleAlgebra.Context
import TripleAlgebra.Context.Script
import TripleAlgebra.Context.Work
import TripleAlgebra.Dataset
import TripleAlgebra.Dataset.Faulty
import TripleAlgebra.Dataset.Store
import TripleAlgebra.Decimal.Binary64
import TripleAlgebra.Evaluation
import TripleAlgebra.Expression
import TripleAlgebra.Expression.Error
import TripleAlgebra.Expression.Evaluate
import TripleAlgebra.Pattern
import TripleAlgebra.Pattern.Matching
import TripleAlgebra.Term
import TripleAlgebra.Term.Text
import TripleAlgebra.Text.Alphanumeric
import TripleAlgebra.Text.Blank
import TripleAlgebra.Text.Quoted
import TripleAlgebra.Triple
import TripleAlgebra.Proofs.Algebra.Extension
import TripleAlgebra.Proofs.Algebra.Indexing
import TripleAlgebra.Proofs.Algebra.Narrowing
import TripleAlgebra.Proofs.Algebra.Refinement
import TripleAlgebra.Proofs.Algebra.Scoping
import TripleAlgebra.Proofs.Algebra.Difference
import TripleAlgebra.Proofs.Algebra.Reachability
import TripleAlgebra.Proofs.Store.History
import TripleAlgebra.Proofs.Evaluation.Deadline
import TripleAlgebra.Proofs.Algebra.Errors
import TripleAlgebra.Proofs.Algebra.Timeout
import TripleAlgebra.Proofs.Algebra.Homomorphism
import TripleAlgebra.Proofs.Algebra.Reordering
import TripleAlgebra.Proofs.Algebra.PushDown
import TripleAlgebra.Proofs.Pattern.Safety
import TripleAlgebra.Proofs.Algebra.Poison
import TripleAlgebra.Proofs.Bag.Rearrangement
import TripleAlgebra.Proofs.Algebra.Rearrangement
import TripleAlgebra.Proofs.Algebra.Monotonicity
import TripleAlgebra.Proofs.Bag.History
import TripleAlgebra.Proofs.Algebra.Progress
import TripleAlgebra.Proofs.Algebra.CanonicalText
import TripleAlgebra.Proofs.Pattern.Economy
import TripleAlgebra.Proofs.Algebra.Chain
import TripleAlgebra.Proofs.Bag.Semiring
import TripleAlgebra.Proofs.Bag.OptionalJoin
import TripleAlgebra.Proofs.Bag.Distinct
import TripleAlgebra.Proofs.Algebra.Assignment
import TripleAlgebra.Proofs.Expression.Logic
import TripleAlgebra.Proofs.Expression.Persistence
import TripleAlgebra.Proofs.Decimal.Numeral
import TripleAlgebra.Proofs.Expression.Literals
import TripleAlgebra.Proofs.Expression.Addition
import TripleAlgebra.Proofs.Expression.Comparison
import TripleAlgebra.Proofs.Text.Abbreviation
import TripleAlgebra.Proofs.Expression.Reading
import TripleAlgebra.Proofs.Algebra.Rebuild
import TripleAlgebra.Proofs.Text.Blank
import TripleAlgebra.Proofs.Config
import TripleAlgebra.Proofs.Context.Work
import TripleAlgebra.Proofs.Context.Input
