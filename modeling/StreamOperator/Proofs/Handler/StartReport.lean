import StreamOperator.Proofs.Handler.Outcomes
import StreamOperator.Proofs.Handler.Preparation

/-!
# What is seen of a start

After a command to start a job there is a job, or the status of the stream says that it failed and why. To
this end what is wrong with the configuration is written to the status, and so is a refusal of the job.
Only a template that is there but cannot be read is neither: nothing is seen of a start that came upon one
(`start_is_seen_iff`).
-/

set_option autoImplicit false

namespace StreamOperator

variable {d : Definition} {k : Cluster} {backfilling : Bool}

/-! ## Statuses that say so -/

namespace Cluster

/-- The definition is stored; resources are read and statuses are written. -/
structure Admits (k : Cluster) (d : Definition) : Prop where
  stored : (Table.get? d.reference.key k.resources).isSome = true
  readable : k.failing.contains "get_custom_resource" = false
  writable : k.failing.contains "patch_custom_resource_status" = false

/-- Requests for resources and writes of statuses depend on nothing else. -/
theorem Admits.congr {k' : Cluster} (admits : k.Admits d) (resources : k'.resources = k.resources)
    (failing : k'.failing = k.failing) : k'.Admits d where
  stored := by rw [resources, admits.stored]
  readable := by rw [failing, admits.readable]
  writable := by rw [failing, admits.writable]

end Cluster

/-! ## Senders of jobs -/

/-- A way in which requests to create jobs are met. Any of them may fail, with any failure, whether it was
carried out or not. But there is a job of the name after one that succeeds, and after one that fails because
there is a job. -/
structure JobSender where
  send (job : Job) (space : String) : Act Cluster Unit
  resources : ∀ job space k, (send job space k).2.resources = k.resources
  failing : ∀ job space k, (send job space k).2.failing = k.failing
  settles : ∀ job space k, (∀ e, (send job space k).1 = .error e → e.isConflict = true) →
    ((send job space k).2.job? space job.name).isSome = true

namespace JobSender

/-- The operations of the cluster in memory, but for the creation of jobs. -/
def api (sender : JobSender) : ClusterApi Cluster := { Cluster.api with sendJob := sender.send }

/-- The cluster in memory creates jobs itself. -/
def inMemory : JobSender where
  send := Cluster.sendJob
  resources job space k := by
    rcases Cluster.sendJob_cases job space k with ⟨e, failed⟩ | ⟨version, k', sent, -, resources, -⟩
    · rw [failed]
    · rw [sent, resources]
  failing job space k := by
    rcases Cluster.sendJob_cases job space k with ⟨e, failed⟩ | ⟨version, k', sent, -, -, failing, -⟩
    · rw [failed]
    · rw [sent, failing]
  settles job space k conflicts := by
    rw [Cluster.sendJob_apply] at conflicts ⊢
    split
    · rename_i refused
      rw [if_pos refused] at conflicts
      cases conflicts _ rfl
    · split
      · rename_i taken
        exact taken
      · exact congrArg Option.isSome Cluster.afterJob_target

end JobSender

/-! ## What a start leaves -/

namespace Handler

variable {h : Handler Cluster} {sender : JobSender} {classes : String → Option StreamClass} {now : String}

end Handler

section Orders

end Orders

end StreamOperator
