/-
# TripleAlgebra.Dataset.Faulty -- datasets that fail or answer wrongly

Two ways to spoil a dataset, for watching what an evaluation does with bad answers.
A poisoned dataset fails every call that names a certain term.  A misleading dataset
gives wrong answers on certain paths: too many triples for a key, none for a scan of
all, and yes for every test.
-/
import TripleAlgebra.Dataset

namespace TripleAlgebra.Dataset

set_option autoImplicit false

/-- The answer of a dataset to a call that names a poisoned term. -/
def poisonError (poison : Term) : DatasetError :=
  .unavailable ("lookup of " ++ poison.text ++ " failed")

/-- The dataset, except that every call naming the term fails.  A scan of all triples
names none. -/
def poisoned (d : Dataset) (poison : Term) : Dataset where
  scan access :=
    if poison ∈ (Call.scan access).terms then .error (poisonError poison) else d.scan access
  contains t :=
    if poison ∈ (Call.contains t).terms then .error (poisonError poison) else d.contains t

/-- The dataset, except that calls on some paths are answered wrongly. -/
def misleading (d : Dataset) (paths : List IndexPath) : Dataset where
  scan access :=
    if access.path ∈ paths then
      match access with
      | .all => .ok []
      | _ => d.scan .all
    else d.scan access
  contains t := if .contains ∈ paths then .ok true else d.contains t

end TripleAlgebra.Dataset
