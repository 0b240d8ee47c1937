import StreamOperator.Proofs.Cluster.Effects

/-!
# Writes to a cluster

The exact outcome of every write where its target is there, and where it is not. Each is one of three
things: the operation is made to fail and nothing happens, the target is missing, or the target is
written in the next version and the write is recorded.
-/

set_option autoImplicit false

namespace StreamOperator.Cluster

variable {c : Coordinates} {space name key : String} {value : Option String} {k : Cluster}

/-- The failure of an operation that is made to fail. -/
def injected : Failure := refusal 500 "injected failure"

/-- The version that the next write gets. -/
def nextVersion (k : Cluster) : String := toString (k.version + 1)

/-- The cluster after a resource was written. -/
def afterResource (k : Cluster) (key : ResourceKey) (r : Resource) (call : String) : Cluster :=
  { k with
    resources := Table.set key (versioned r k.nextVersion) k.resources
    version := k.version + 1
    calls := call :: k.calls }

/-- The cluster after a job was written. -/
def afterJob (k : Cluster) (key : JobKey) (job : Job) (call : String) : Cluster :=
  { k with
    jobs := Table.set key (versionedJob job k.nextVersion) k.jobs
    version := k.version + 1
    calls := call :: k.calls }

/-- The cluster after a job was deleted. -/
def afterDeletion (k : Cluster) (key : JobKey) (call : String) : Cluster :=
  { k with
    jobs := Table.erase key k.jobs
    calls := call :: k.calls }

section

variable {key : ResourceKey} {jobKey : JobKey} {r : Resource} {job : Job} {call : String}

@[simp] theorem afterJob_failing : (k.afterJob jobKey job call).failing = k.failing := rfl

@[simp] theorem afterResource_target : Table.get? key (k.afterResource key r call).resources
    = some (versioned r k.nextVersion) := Table.get?_set_self _ _ _

@[simp] theorem afterJob_target : Table.get? jobKey (k.afterJob jobKey job call).jobs
    = some (versionedJob job k.nextVersion) := Table.get?_set_self _ _ _

@[simp] theorem afterDeletion_target : Table.get? jobKey (k.afterDeletion jobKey call).jobs = none :=
  Table.get?_erase_self _ _

end

def patchCall (c : Coordinates) (space name : String) (status : Json) : String :=
  "patch_status " ++ c.plural ++ "/" ++ space ++ "/" ++ name ++ " " ++ phaseText status

def annotateCall (c : Coordinates) (space name key : String) (value : Option String) : String :=
  "annotate " ++ c.plural ++ "/" ++ space ++ "/" ++ name ++ " " ++ changeText key value

def annotateJobCall (space name key : String) (value : Option String) : String :=
  "annotate_job " ++ space ++ "/" ++ name ++ " " ++ changeText key value

/-! ## Resources -/

theorem changeResource_of_found {r : Resource} (found : k.resource? c space name = some r)
    (change : Resource → Resource) : changeResource c space name change k = (.ok (), { k with
      resources := Table.set ⟨c.plural, space, name⟩ (versioned (change r) k.nextVersion) k.resources
      version := k.version + 1 }) := by
  have found : Cluster.resource? { k with version := k.version + 1 } c space name = some r := found
  unfold changeResource
  rw [Act.bind_ok (newVersion_apply k), Act.bind_ok (Act.get_apply _), found]
  rfl

theorem patchStatus_of_found {r : Resource} (found : k.resource? c space name = some r)
    (status : Json) : patchStatus c space name status k =
      if k.failing.contains "patch_custom_resource_status" then (.error injected, k)
      else (.ok (), k.afterResource ⟨c.plural, space, name⟩
        { r with data := r.data.insert "status" status } (patchCall c space name status)) := by
  unfold patchStatus
  rw [guardOperation_bind, Act.bind_ok (changeResource_of_found found _)]
  rfl

theorem annotateResource_of_found {r : Resource} (found : k.resource? c space name = some r)
    (key : String) (value : Option String) : annotateResource c space name key value k =
      if k.failing.contains "annotate_resource" then (.error injected, k)
      else (.ok (), k.afterResource ⟨c.plural, space, name⟩
        { r with metadata := r.metadata.annotate key value }
        (annotateCall c space name key value)) := by
  unfold annotateResource
  rw [guardOperation_bind, Act.bind_ok (changeResource_of_found found _)]
  rfl

/-! ## Jobs -/

theorem annotateJob_of_found {job : Job} (found : k.job? space name = some job) (key : String)
    (value : Option String) : annotateJob space name key value k =
      if k.failing.contains "annotate_job" then (.error injected, k)
      else (.ok (), k.afterJob ⟨space, name⟩ { job with metadata := job.metadata.annotate key value }
        (annotateJobCall space name key value)) := by
  have found : Cluster.job? { k with version := k.version + 1 } space name = some job := found
  unfold annotateJob
  rw [guardOperation_bind, Act.bind_ok (newVersion_apply k), Act.bind_ok (Act.get_apply _), found]
  rfl

theorem sendJob_apply (job : Job) (space : String) (k : Cluster) : sendJob job space k =
    if k.failing.contains "send_job" then (.error injected, k)
    else if (k.job? space job.name).isSome then (.error (refusal 409 "already exists"), k)
    else (.ok (), k.afterJob ⟨space, job.name⟩ job ("send_job " ++ space ++ "/" ++ job.name)) := by
  unfold sendJob
  rw [guardOperation_bind, Act.bind_ok (Act.get_apply k)]
  cases k.job? space job.name <;> rfl

theorem deleteJob_apply (space name : String) (k : Cluster) : deleteJob space name k =
    if k.failing.contains "delete_job" then (.error injected, k)
    else if (k.job? space name).isNone then (.error (refusal 404 "not found"), k)
    else (.ok (), k.afterDeletion ⟨space, name⟩ ("delete_job " ++ space ++ "/" ++ name)) := by
  unfold deleteJob
  rw [guardOperation_bind, Act.bind_ok (Act.get_apply k)]
  cases k.job? space name <;> rfl

end StreamOperator.Cluster
