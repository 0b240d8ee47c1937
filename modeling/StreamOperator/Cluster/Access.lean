import StreamOperator.Error
import StreamOperator.Kube.Coordinates
import StreamOperator.Kube.Job
import StreamOperator.Kube.Resource

/-!
# Access to a cluster

The operations on custom resources and jobs that the operator builds on. What they act on is a
parameter: a cluster kept in memory and a server that is spoken to both provide them.
-/

set_option autoImplicit false

namespace StreamOperator

/-- An operation on a cluster: it may fail, and whether it does or not it may change the cluster. -/
abbrev Act (σ : Type) := ExceptT Failure (StateM σ)

namespace Act

variable {σ α : Type}

/-- The result of an operation as a value. -/
def attempt (act : Act σ α) : Act σ (Except Failure α) := fun s =>
  let (result, s) := act s
  (.ok result, s)

/-- A result that is known. -/
def ofExcept : Except Failure α → Act σ α
  | .ok a => pure a
  | .error e => throw e

end Act

/-- The operations of a cluster. Resources are addressed by type, namespace and name, jobs by
namespace and name; an annotation without a value is removed. -/
structure ClusterApi (σ : Type) where
  getResource (c : Coordinates) (space name : String) : Act σ (Option Resource)
  patchStatus (c : Coordinates) (space name : String) (status : Json) : Act σ Unit
  annotateResource (c : Coordinates) (space name key : String) (value : Option String) : Act σ Unit
  getJob (space name : String) : Act σ (Option Job)
  sendJob (job : Job) (space : String) : Act σ Unit
  deleteJob (space name : String) : Act σ Unit
  annotateJob (space name key : String) (value : Option String) : Act σ Unit

end StreamOperator
