import StreamOperator.Cluster.Memory

/-!
# What operations do to a cluster

An operation is applied to a cluster; a sequence of operations is taken apart with `Act.bind_ok` and
`Act.bind_error`. For each operation of the cluster in memory there is one statement of everything it
can do to the resources, the jobs and the operations that fail.
-/

set_option autoImplicit false

namespace StreamOperator

namespace Act

variable {σ α β : Type} {act : Act σ α} {f : α → Act σ β} {s s' : σ}

theorem get_apply (s : σ) : (get : Act σ σ) s = (.ok s, s) := rfl

theorem attempt_apply (act : Act σ α) (s : σ) : act.attempt s = (.ok (act s).1, (act s).2) := rfl

theorem bind_apply (act : Act σ α) (f : α → Act σ β) (s : σ) :
    (act >>= f) s = match act s with
      | (.ok a, s) => f a s
      | (.error e, s) => (.error e, s) := by
  show (ExceptT.bind act f : Act σ β) s = _
  simp only [ExceptT.bind, ExceptT.mk, bind, StateT.bind]
  rcases act s with ⟨_ | _, _⟩ <;> rfl

theorem bind_ok {a : α} (h : act s = (.ok a, s')) : (act >>= f) s = f a s' := by
  rw [bind_apply, h]

theorem bind_error {e : Failure} (h : act s = (.error e, s')) : (act >>= f) s = (.error e, s') := by
  rw [bind_apply, h]

/-- The operation leaves what it acts on as it is. -/
def Reads (act : Act σ α) : Prop := ∀ s, (act s).2 = s

theorem Reads.pure (a : α) : (Pure.pure a : Act σ α).Reads := fun _ => rfl

theorem Reads.throw (e : Failure) : (MonadExcept.throw e : Act σ α).Reads := fun _ => rfl

theorem Reads.ofExcept (result : Except Failure α) : (Act.ofExcept result : Act σ α).Reads := by
  cases result with
  | ok a => exact .pure a
  | error e => exact .throw e

theorem ofExcept_apply (result : Except Failure α) (s : σ) : Act.ofExcept result s = (result, s) := by
  cases result <;> rfl

/-- Nothing happens before what follows an operation that only reads. -/
theorem Reads.bind_cases (reads : act.Reads) (f : α → Act σ β) (s : σ) :
    (∃ e, (act >>= f) s = (.error e, s)) ∨ ∃ a, (act >>= f) s = f a s := by
  cases run : act s with
  | mk result s' =>
    obtain rfl : s' = s := by simpa [run] using reads s
    cases result with
    | error e => exact .inl ⟨e, bind_error run⟩
    | ok a => exact .inr ⟨a, bind_ok run⟩

theorem Reads.bind (first : act.Reads) (next : ∀ a, (f a).Reads) : (act >>= f).Reads := by
  intro s
  rcases first.bind_cases f s with ⟨e, failed⟩ | ⟨a, same⟩
  · rw [failed]
  · rw [same]
    exact next a s

/-- What comes after an operation only reads: the operation alone decides what is left. -/
theorem bind_snd (reads : ∀ a, (f a).Reads) (act : Act σ α) (s : σ) :
    ((act >>= f) s).2 = (act s).2 := by
  cases run : act s with
  | mk result s' =>
    cases result with
    | error e => rw [bind_error run]
    | ok a =>
      rw [bind_ok run]
      exact reads a s'

/-- Every result of the operation has a property. -/
def Yields (P : α → Prop) (act : Act σ α) : Prop :=
  ∀ s s' a, act s = (.ok a, s') → P a

theorem Yields.throw {P : α → Prop} (e : Failure) : (MonadExcept.throw e : Act σ α).Yields P := by
  intro s s' a yielded
  cases yielded

theorem Yields.ofExcept {P : α → Prop} {result : Except Failure α}
    (property : ∀ a, result = .ok a → P a) : (Act.ofExcept result : Act σ α).Yields P := by
  intro s s' a yielded
  cases result with
  | ok b =>
    cases yielded
    exact property _ rfl
  | error e => cases yielded

theorem Yields.bind {P : β → Prop} (next : ∀ a, (f a).Yields P) : (act >>= f).Yields P := by
  intro s s' b yielded
  cases run : act s with
  | mk result s'' =>
    cases result with
    | error e =>
      rw [bind_error run] at yielded
      cases yielded
    | ok a =>
      rw [bind_ok run] at yielded
      exact next a _ _ _ yielded

/-- Every failure of the operation has a property. -/
def Fails (P : Failure → Prop) (act : Act σ α) : Prop :=
  ∀ s s' e, act s = (.error e, s') → P e

theorem Fails.throw {P : Failure → Prop} {e : Failure} (property : P e) :
    (MonadExcept.throw e : Act σ α).Fails P := by
  intro s s' e' failed
  cases failed
  exact property

theorem Fails.ofExcept {P : Failure → Prop} {result : Except Failure α}
    (property : ∀ e, result = .error e → P e) : (Act.ofExcept result : Act σ α).Fails P := by
  intro s s' e failed
  cases result with
  | ok a => cases failed
  | error e' =>
    cases failed
    exact property _ rfl

theorem Fails.bind {P : Failure → Prop} (first : act.Fails P) (next : ∀ a, (f a).Fails P) :
    (act >>= f).Fails P := by
  intro s s' e failed
  cases run : act s with
  | mk result s'' =>
    cases result with
    | error e' =>
      rw [bind_error run] at failed
      cases failed
      exact first _ _ _ run
    | ok a =>
      rw [bind_ok run] at failed
      exact next a _ _ _ failed

end Act

namespace Cluster

variable {c : Coordinates} {space name : String} {k k' : Cluster}

/-- An operation that is made to fail does nothing; any other one goes on. -/
theorem guardOperation_bind {α : Type} (operation : String) (f : Unit → Act Cluster α) (k : Cluster) :
    (guardOperation operation >>= f) k =
      if k.failing.contains operation then (.error (refusal 500 "injected failure"), k)
      else f () k := by
  unfold guardOperation
  rw [Act.bind_apply, Act.bind_ok (Act.get_apply k)]
  cases failing : k.failing.contains operation <;> rfl

theorem newVersion_apply (k : Cluster) :
    newVersion k = (.ok (toString (k.version + 1)), { k with version := k.version + 1 }) := rfl

/-! ## Reading -/

theorem getResource_apply (c : Coordinates) (space name : String) (k : Cluster) :
    getResource c space name k =
      if k.failing.contains "get_custom_resource" then (.error (refusal 500 "injected failure"), k)
      else (.ok (k.resource? c space name), k) := by
  unfold getResource
  rw [guardOperation_bind]
  rfl

/-- A request for a resource is refused; else what follows goes on with what is stored. -/
theorem getResource_bind {α : Type} (f : Option Resource → Act Cluster α) (k : Cluster) :
    (getResource c space name >>= f) k =
      if k.failing.contains "get_custom_resource" then (.error (refusal 500 "injected failure"), k)
      else f (k.resource? c space name) k := by
  rw [Act.bind_apply, getResource_apply]
  cases k.failing.contains "get_custom_resource" <;> rfl

theorem getResource_reads : (getResource c space name).Reads := by
  intro k
  rw [getResource_apply]
  split <;> rfl

/-- A resource is not read only when the cluster refuses the request. -/
theorem getResource_fails {P : Failure → Prop} (refused : ∀ status, P (.api status)) :
    (getResource c space name).Fails P := by
  intro k k' e failed
  rw [getResource_apply] at failed
  split at failed
  · cases failed
    exact refused _
  · cases failed

theorem getJob_apply (space name : String) (k : Cluster) : getJob space name k =
    if k.failing.contains "get_job" then (.error (refusal 500 "injected failure"), k)
    else (.ok (k.job? space name), k) := by
  unfold getJob
  rw [guardOperation_bind]
  rfl

theorem getJob_bind {α : Type} (f : Option Job → Act Cluster α) (k : Cluster) :
    (getJob space name >>= f) k =
      if k.failing.contains "get_job" then (.error (refusal 500 "injected failure"), k)
      else f (k.job? space name) k := by
  rw [Act.bind_apply, getJob_apply]
  cases k.failing.contains "get_job" <;> rfl

theorem getJob_reads : (getJob space name).Reads := by
  intro k
  rw [getJob_apply]
  split <;> rfl

/-! ## Writing resources -/

/-- At most the resource under one key is rewritten, in a certain way. The jobs and the operations that
fail stay. -/
structure Edits (key : ResourceKey) (change : Resource → Resource → Prop) (k k' : Cluster) : Prop where
  jobs : k'.jobs = k.jobs
  failing : k'.failing = k.failing
  resources : k'.resources = k.resources ∨ ∃ r r', Table.get? key k.resources = some r ∧
    change r r' ∧ k'.resources = Table.set key r' k.resources

namespace Edits

variable {key : ResourceKey} {P Q : Resource → Resource → Prop}

theorem refl (k : Cluster) : Edits key P k k := ⟨rfl, rfl, .inl rfl⟩

theorem mono (edits : Edits key P k k') (weaken : ∀ r r', P r r' → Q r r') : Edits key Q k k' := by
  refine ⟨edits.jobs, edits.failing, ?_⟩
  rcases edits.resources with same | ⟨r, r', found, changed, written⟩
  · exact .inl same
  · exact .inr ⟨r, r', found, weaken r r' changed, written⟩

/-- All other resources stay. -/
theorem elsewhere (edits : Edits key P k k') {other : ResourceKey} (differ : other ≠ key) :
    Table.get? other k'.resources = Table.get? other k.resources := by
  rcases edits.resources with same | ⟨r, r', -, -, written⟩
  · rw [same]
  · rw [written, Table.get?_set_of_ne differ]

/-- The resource itself stays or is rewritten. -/
theorem target (edits : Edits key P k k') {r : Resource} (found : Table.get? key k.resources = some r) :
    Table.get? key k'.resources = some r ∨
      ∃ r', Table.get? key k'.resources = some r' ∧ P r r' := by
  rcases edits.resources with same | ⟨s, r', found', changed, written⟩
  · exact .inl (by rw [same, found])
  · obtain rfl := Option.some.inj (found.symm.trans found')
    exact .inr ⟨r', by rw [written, Table.get?_set_self], changed⟩

end Edits

/-- The resource with a version. -/
def versioned (r : Resource) (version : String) : Resource :=
  { r with metadata := { r.metadata with resourceVersion := some version } }

/-- The resource with a status and a version. -/
def restated (r : Resource) (status : Json) (version : String) : Resource :=
  versioned { r with data := r.data.insert "status" status } version

/-- The resource with an annotation set or removed, and a version. -/
def annotated (r : Resource) (key : String) (value : Option String) (version : String) : Resource :=
  versioned { r with metadata := r.metadata.annotate key value } version

theorem changeResource_edits (change : Resource → Resource) (k : Cluster) :
    Edits ⟨c.plural, space, name⟩ (fun r r' => ∃ version, r' = versioned (change r) version) k
      (changeResource c space name change k).2 := by
  unfold changeResource
  rw [Act.bind_ok (newVersion_apply k), Act.bind_ok (Act.get_apply _)]
  cases found : Cluster.resource? { k with version := k.version + 1 } c space name with
  | none => exact ⟨rfl, rfl, .inl rfl⟩
  | some r => exact ⟨rfl, rfl, .inr ⟨r, _, found, ⟨_, rfl⟩, rfl⟩⟩

/-- The record of a write, after a change that may have failed. -/
theorem edits_of_write {key : ResourceKey} {P : Resource → Resource → Prop} {write : Act Cluster Unit}
    (edits : ∀ k, Edits key P k (write k).2) (operation call : String) (k : Cluster) :
    Edits key P k ((do guardOperation operation; write; record call : Act Cluster Unit) k).2 := by
  rw [guardOperation_bind]
  split
  · exact .refl k
  · have written := edits k
    cases run : write k with
    | mk result k' =>
      rw [run] at written
      cases result with
      | error e =>
        rw [Act.bind_error run]
        exact written
      | ok _ =>
        rw [Act.bind_ok run]
        exact ⟨written.jobs, written.failing, written.resources⟩

theorem patchStatus_edits (status : Json) (k : Cluster) :
    Edits ⟨c.plural, space, name⟩ (fun r r' => ∃ version, r' = restated r status version) k
      (patchStatus c space name status k).2 :=
  edits_of_write (changeResource_edits _) _ _ k

theorem annotateResource_edits (key : String) (value : Option String) (k : Cluster) :
    Edits ⟨c.plural, space, name⟩ (fun r r' => ∃ version, r' = annotated r key value version) k
      (annotateResource c space name key value k).2 :=
  edits_of_write (changeResource_edits _) _ _ k

/-! ## Writing jobs -/

/-- The job with a version. -/
def versionedJob (job : Job) (version : String) : Job :=
  { job with metadata := { job.metadata with resourceVersion := some version } }

/-- A job is created under a name that is free, or nothing changes. -/
theorem sendJob_cases (job : Job) (space : String) (k : Cluster) :
    (∃ e, sendJob job space k = (.error e, k)) ∨
    ∃ version k', sendJob job space k = (.ok (), k') ∧ k.job? space job.name = none ∧
      k'.resources = k.resources ∧ k'.failing = k.failing ∧
      k'.jobs = Table.set ⟨space, job.name⟩ (versionedJob job version) k.jobs := by
  unfold sendJob
  rw [guardOperation_bind]
  split
  · exact .inl ⟨_, rfl⟩
  · rw [Act.bind_ok (Act.get_apply k)]
    cases found : k.job? space job.name with
    | some _ => exact .inl ⟨_, rfl⟩
    | none => exact .inr ⟨_, _, rfl, rfl, rfl, rfl, rfl⟩

/-- A job that is there is removed, or nothing changes. -/
theorem deleteJob_cases (space name : String) (k : Cluster) :
    (∃ e, deleteJob space name k = (.error e, k)) ∨
    ∃ k', deleteJob space name k = (.ok (), k') ∧ (k.job? space name).isSome = true ∧
      k'.resources = k.resources ∧ k'.failing = k.failing ∧
      k'.jobs = Table.erase ⟨space, name⟩ k.jobs := by
  unfold deleteJob
  rw [guardOperation_bind]
  split
  · exact .inl ⟨_, rfl⟩
  · rw [Act.bind_ok (Act.get_apply k)]
    cases found : k.job? space name with
    | none => exact .inl ⟨_, rfl⟩
    | some _ => exact .inr ⟨_, rfl, rfl, rfl, rfl, rfl⟩

/-- A job that is there gets an annotation, or all jobs stay. -/
theorem annotateJob_cases (space name key : String) (value : Option String) (k : Cluster) :
    (annotateJob space name key value k).2.resources = k.resources ∧
    (annotateJob space name key value k).2.failing = k.failing ∧
    ((annotateJob space name key value k).2.jobs = k.jobs ∨
      ∃ version job, k.job? space name = some job ∧
        (annotateJob space name key value k).2.jobs = Table.set ⟨space, name⟩
          (versionedJob { job with metadata := job.metadata.annotate key value } version) k.jobs) := by
  unfold annotateJob
  rw [guardOperation_bind]
  split
  · exact ⟨rfl, rfl, .inl rfl⟩
  · simp only [Act.bind_ok (newVersion_apply k), Act.bind_ok (Act.get_apply _)]
    cases found : Cluster.job? { k with version := k.version + 1 } space name with
    | none => exact ⟨rfl, rfl, .inl rfl⟩
    | some job => exact ⟨rfl, rfl, .inr ⟨_, job, found, rfl⟩⟩

end Cluster

end StreamOperator
