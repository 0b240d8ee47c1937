import StreamOperator.Proofs.Cluster.Effects
import StreamOperator.Reconcile.Reconciler

/-!
# Failures of the handling of events

Where the requests to a cluster fail as requests do (`ClusterApi.Refuses`), no command and no decision
ends in a fatal failure: what they add to the failures of requests are faults of what was read. So the
processing of an event by the reconcilers of streams and of jobs is harmless (`Reconciler.Harmless`).
-/

set_option autoImplicit false

namespace StreamOperator

/-- The failure of a request to the cluster: it was refused, or it got no answer. -/
def Failure.isRequest : Failure → Bool
  | .api _ | .client _ => true
  | _ => false

theorem Failure.isFatal_of_isRequest {e : Failure} (request : e.isRequest = true) :
    e.isFatal = false := by
  cases e <;> first | rfl | cases request

/-- The operations of the cluster fail as requests fail. -/
structure ClusterApi.Refuses {σ : Type} (api : ClusterApi σ) : Prop where
  getResource : ∀ c space name, (api.getResource c space name).Fails (·.isRequest = true)
  patchStatus : ∀ c space name status,
    (api.patchStatus c space name status).Fails (·.isRequest = true)
  annotateResource : ∀ c space name key value,
    (api.annotateResource c space name key value).Fails (·.isRequest = true)
  getJob : ∀ space name, (api.getJob space name).Fails (·.isRequest = true)
  sendJob : ∀ job space, (api.sendJob job space).Fails (·.isRequest = true)
  deleteJob : ∀ space name, (api.deleteJob space name).Fails (·.isRequest = true)
  annotateJob : ∀ space name key value,
    (api.annotateJob space name key value).Fails (·.isRequest = true)

namespace Act

variable {σ α β : Type} {act : Act σ α} {f : α → Act σ β} {P : Failure → Prop}

theorem Fails.mono {Q : Failure → Prop} (fails : act.Fails P) (weaken : ∀ e, P e → Q e) :
    act.Fails Q := fun s s' e failed => weaken e (fails s s' e failed)

theorem Fails.pure (a : α) : (Pure.pure a : Act σ α).Fails P := by
  intro s s' e failed
  cases failed

theorem Fails.throw_bind {e : Failure} (property : P e) (f : α → Act σ β) :
    ((MonadExcept.throw e : Act σ α) >>= f).Fails P := by
  intro s s' e' failed
  cases failed
  exact property

/-- What follows an operation whose result is looked at may repeat its failure. -/
theorem Fails.bind_attempt {f : Except Failure α → Act σ β} (fails : act.Fails P)
    (done : ∀ a, (f (.ok a)).Fails P) (failed : ∀ e, P e → (f (.error e)).Fails P) :
    (act.attempt >>= f).Fails P := by
  intro s s' e ended
  rw [bind_ok (attempt_apply act s)] at ended
  cases run : act s with
  | mk result s'' =>
    rw [run] at ended
    cases result with
    | ok a => exact done a _ _ _ ended
    | error e' => exact failed e' (fails _ _ _ run) _ _ _ ended

/-- No failure of the operation is fatal. -/
def Harmless (act : Act σ α) : Prop := act.Fails (·.isFatal = false)

theorem harmless_of_request (fails : act.Fails (·.isRequest = true)) : act.Harmless :=
  fails.mono fun _ => Failure.isFatal_of_isRequest

end Act

namespace Handler

variable {σ : Type} {h : Handler σ}

theorem findTemplate_harmless (refuses : h.api.Refuses) (d : Definition) (ref : TemplateRef) :
    (h.findTemplate d ref).Harmless := by
  unfold findTemplate
  refine .bind (Act.harmless_of_request (refuses.getResource _ _ _)) fun found => ?_
  cases found with
  | none => exact .throw rfl
  | some resource =>
    refine .ofExcept fun e failed => ?_
    unfold Resource.parse at failed
    split at failed
    · cases failed
    · cases failed
      rfl

theorem prepareJob_harmless (refuses : h.api.Refuses) (d : Definition) (backfilling : Bool) :
    (h.prepareJob d backfilling).Harmless := by
  unfold prepareJob
  split
  · exact .throw rfl
  · split
    · exact .throw rfl
    · refine .bind (findTemplate_harmless refuses d _) fun template => .ofExcept fun e failed => ?_
      unfold Job.build at failed
      split at failed
      · cases failed
        rfl
      · cases failed

theorem updateStatus_harmless (refuses : h.api.Refuses) (stream : StreamRef) (phase : StreamPhase)
    (pending : List Condition) : (h.updateStatus stream phase pending).Harmless := by
  unfold updateStatus prepareStreamStatus
  refine .bind (.bind (Act.harmless_of_request (refuses.getResource _ _ _)) fun found => ?_) fun status => ?_
  · cases found <;> exact .pure _
  · cases status with
    | none => exact .pure _
    | some status => exact Act.harmless_of_request (refuses.patchStatus _ _ _ _)

theorem setClassStatus_harmless (refuses : h.api.Refuses) (c : ClassRef) (phase : ClassPhase)
    (pending : List Condition) : (h.setClassStatus c phase pending).Harmless := by
  unfold setClassStatus prepareClassStatus
  refine .bind (.bind (Act.harmless_of_request (refuses.getResource _ _ _)) fun found => ?_) fun status => ?_
  · cases found <;> exact .pure _
  · cases status with
    | none => exact .pure _
    | some status => exact Act.harmless_of_request (refuses.patchStatus _ _ _ _)

theorem annotate_harmless (refuses : h.api.Refuses) (target : AnnotationTarget) (key : String)
    (value expected : Option String) : (h.annotate target key value expected).Harmless := by
  have read : (h.readAnnotation target key).Harmless := by
    unfold readAnnotation
    cases target with
    | definition stream =>
      exact .bind (Act.harmless_of_request (refuses.getResource _ _ _)) fun _ => .pure _
    | job space name => exact .bind (Act.harmless_of_request (refuses.getJob _ _)) fun _ => .pure _
  have write : (h.writeAnnotation target key value).Harmless := by
    unfold writeAnnotation
    have repeats : ∀ e : Failure, e.isFatal = false → ((if e.isNotFound then return else throw e) :
        Act σ Unit).Harmless := by
      intro e harmless
      split
      · exact .pure _
      · exact .throw harmless
    cases target with
    | definition stream =>
      exact .bind_attempt (Act.harmless_of_request (refuses.annotateResource _ _ _ _ _))
        (fun _ => .pure _) repeats
    | job space name =>
      exact .bind_attempt (Act.harmless_of_request (refuses.annotateJob _ _ _ _))
        (fun _ => .pure _) repeats
  unfold annotate
  refine .bind read fun found => ?_
  split
  · exact write
  · exact .pure _

theorem startJob_harmless (refuses : h.api.Refuses) (d : Definition) (backfilling : Bool) :
    (h.startJob d backfilling).Harmless := by
  unfold startJob
  refine .bind_attempt (prepareJob_harmless refuses d backfilling) (fun job => ?_) fun e harmless => ?_
  · refine .bind_attempt (Act.harmless_of_request (refuses.sendJob _ _)) (fun _ => .pure _)
      fun e harmless => ?_
    simp only
    split
    · exact .pure _
    · exact .bind (updateStatus_harmless refuses _ _ _) fun _ => .throw harmless
  · simp only
    split
    · exact updateStatus_harmless refuses _ _ _
    · exact .throw harmless

theorem stopJob_harmless (refuses : h.api.Refuses) (space name : String) :
    (h.stopJob space name).Harmless := by
  unfold stopJob
  refine .bind_attempt (Act.harmless_of_request (refuses.deleteJob _ _)) (fun _ => .pure _)
    fun e harmless => ?_
  simp only
  split
  · exact .pure _
  · exact .throw harmless

/-- No command ends in a fatal failure. -/
theorem handle_harmless (refuses : h.api.Refuses) (command : Command) :
    (h.handle command).Harmless := by
  cases command with
  | startJob d backfilling => exact startJob_harmless refuses d backfilling
  | stopJob space name => exact stopJob_harmless refuses space name
  | annotate target key value => exact annotate_harmless refuses target key (some value) none
  | unannotate target key expected => exact annotate_harmless refuses target key none expected
  | updateStatus stream phase conditions => exact updateStatus_harmless refuses stream phase conditions
  | setClassStatus c phase conditions => exact setClassStatus_harmless refuses c phase conditions

theorem handleAll_harmless (refuses : h.api.Refuses) (commands : List Command) :
    (h.handleAll commands).Harmless := by
  induction commands with
  | nil => exact .pure _
  | cons command rest ih => exact .bind (handle_harmless refuses command) fun _ => ih

end Handler

namespace Reconciler

variable {σ α : Type} {h : Handler σ}

/-- What the reconciler does for an event never ends in a fatal failure. -/
def Harmless (r : Reconciler σ α) (h : Handler σ) : Prop :=
  ∀ event, (r.plan h.api event).Harmless

theorem harmless_stream (refuses : h.api.Refuses) (c : Coordinates) : (stream c).Harmless h := by
  intro event
  show (planStream c h.api event).Harmless
  unfold planStream
  split
  · exact .pure _
  · exact .bind (Act.harmless_of_request (refuses.getJob _ _)) fun _ => .pure _

theorem harmless_job (refuses : h.api.Refuses) : job.Harmless h := by
  have owner (j : Job) : (owner h.api j).Harmless := by
    unfold Reconciler.owner
    cases j.owner? with
    | none => exact .pure _
    | some ref => exact .bind (Act.harmless_of_request (refuses.getResource _ _ _)) fun _ => .pure _
  intro event
  show (planJob h.api event).Harmless
  unfold planJob
  split
  · exact .bind (.pure _) fun _ => .pure _
  · exact .bind (owner _) fun _ => .pure _

theorem process_harmless {r : Reconciler σ α} (refuses : h.api.Refuses) (harmless : r.Harmless h)
    (choice : Nat) (seen : Deduplicator) (event : Event α) :
    (r.process h choice seen event).2.Harmless := by
  unfold process
  simp only
  split
  · exact .bind (harmless event) fun commands => Handler.handleAll_harmless refuses commands
  · exact .pure _

end Reconciler

/-! ## The cluster in memory -/

namespace Cluster

variable {α β : Type} {f : Unit → Act Cluster β}

theorem refuses_guarded (operation : String) (next : ∀ u, (f u).Fails (·.isRequest = true)) :
    (guardOperation operation >>= f).Fails (·.isRequest = true) := by
  intro k k' e failed
  rw [guardOperation_bind] at failed
  split at failed
  · cases failed
    rfl
  · exact next () _ _ _ failed

/-- A step that cannot fail. -/
theorem refuses_step {step : Act Cluster α} {f : α → Act Cluster β}
    (succeeds : ∀ k, ∃ a k', step k = (.ok a, k')) (next : ∀ a, (f a).Fails (·.isRequest = true)) :
    (step >>= f).Fails (·.isRequest = true) := by
  intro k k' e failed
  obtain ⟨a, k'', done⟩ := succeeds k
  rw [Act.bind_ok done] at failed
  exact next a _ _ _ failed

theorem refuses_modify (change : Cluster → Cluster) :
    (modify change : Act Cluster Unit).Fails (·.isRequest = true) := by
  intro k k' e failed
  cases failed

theorem refuses_changeResource (c : Coordinates) (space name : String) (change : Resource → Resource) :
    (changeResource c space name change).Fails (·.isRequest = true) := by
  unfold changeResource
  refine refuses_step (fun k => ⟨_, _, newVersion_apply k⟩) fun version =>
    refuses_step (fun k => ⟨_, _, Act.get_apply k⟩) fun k => ?_
  split
  · exact .throw rfl
  · exact refuses_modify _

theorem refuses_get {f : Cluster → Act Cluster β} (next : ∀ k, (f k).Fails (·.isRequest = true)) :
    (get >>= f).Fails (·.isRequest = true) :=
  refuses_step (fun k => ⟨_, _, Act.get_apply k⟩) next

/-- The cluster in memory fails as requests fail. -/
theorem api_refuses : api.Refuses where
  getResource c space name := getResource_fails fun _ => rfl
  patchStatus c space name status :=
    refuses_guarded _ fun _ => .bind (refuses_changeResource _ _ _ _) fun _ => refuses_modify _
  annotateResource c space name key value :=
    refuses_guarded _ fun _ => .bind (refuses_changeResource _ _ _ _) fun _ => refuses_modify _
  getJob space name := refuses_guarded _ fun _ => refuses_get fun _ => .pure _
  sendJob job space := by
    refine refuses_guarded _ fun _ => refuses_get fun k => ?_
    split
    · refine Act.Fails.throw_bind ?_ _
      rfl
    · refine refuses_step (fun k => ⟨_, _, newVersion_apply k⟩) fun version =>
        .bind (refuses_modify _) fun _ => ?_
      exact refuses_modify _
  deleteJob space name := by
    refine refuses_guarded _ fun _ => refuses_get fun k => ?_
    split
    · refine Act.Fails.throw_bind ?_ _
      rfl
    · exact .bind (refuses_modify _) fun _ => refuses_modify _
  annotateJob space name key value := by
    refine refuses_guarded _ fun _ => refuses_step (fun k => ⟨_, _, newVersion_apply k⟩) fun version =>
      refuses_get fun k => ?_
    cases k.job? space name
    · exact .throw rfl
    · exact .bind (refuses_modify _) fun _ => refuses_modify _

end Cluster

end StreamOperator
