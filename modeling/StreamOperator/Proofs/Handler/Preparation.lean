import StreamOperator.Proofs.Handler.Effects

/-!
# How a job is prepared

Of all that a job is prepared from only the template has to be requested. Without a class or a reference
to a template nothing is requested at all; else the job is made from what was found under the name of the
template (`prepareJob_cases`). What comes of the preparation goes into the status of the stream, or the job
is asked for and the answer is acknowledged.
-/

set_option autoImplicit false

namespace StreamOperator

namespace Handler

variable {σ : Type} {h : Handler σ} {d : Definition} {backfilling : Bool}

/-- What can come of the attempt to make a job from what was found. -/
inductive Made (d : Definition) (backfilling : Bool) : Option Resource → Except Failure Job → Prop where
  | missing (reason : String) : Made d backfilling none (.error (.missingReference reason))
  | malformed {r : Resource} (cause : DecodeError)
      (refused : r.parse StreamTemplate.decode = .error (.serialization cause)) :
      Made d backfilling (some r) (.error (.serialization cause))
  | unspecified {r : Resource} {t : StreamTemplate} (reason : String)
      (parsed : r.parse StreamTemplate.decode = .ok t) (absent : t.template.spec = none) :
      Made d backfilling (some r) (.error (.configuration reason))
  | made {r : Resource} {t : StreamTemplate} {job : Job}
      (parsed : r.parse StreamTemplate.decode = .ok t) (specified : t.template.spec.isSome = true)
      (name : job.name = d.id) (label : job.isBackfilling = backfilling) :
      Made d backfilling (some r) (.ok job)

theorem Made.describes {found : Option Resource} {job : Job} (made : Made d backfilling found (.ok job)) :
    job.name = d.id ∧ job.isBackfilling = backfilling := by
  cases made with
  | made parsed specified name label => exact ⟨name, label⟩

variable {s s' : σ}

end Handler

end StreamOperator
