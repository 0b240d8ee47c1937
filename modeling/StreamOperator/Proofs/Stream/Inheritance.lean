import Mathlib.Data.List.Forall2
import StreamOperator.Proofs.Json.Faithful
import StreamOperator.Proofs.Stream.BuiltJob

/-!
# What a job takes over from its template

A job is its template with additions. Labels and annotations of the operator are put over those of the
template (`Dictionary.putAll`), and every container has the variables and sources of the stream behind its
own; nothing else of the template is changed or left out (`built_job_keeps_template`). That holds of the
document the template was read from as well, since what the operator does not look into is written as it
was read (`Container.keeps_others`). The pods of the job carry the labels by which they are traced back to
the stream if, and only if, the template of the pods has metadata to put them in (`pods_are_traced_iff`).
-/

set_option autoImplicit false

namespace StreamOperator

/-! ## Labels and annotations -/

namespace Dictionary

variable {β : Type} {d : Dictionary β} {entries : List (String × β)}

/-- Puts entries into a dictionary, one after another. -/
def putAll (entries : List (String × β)) (d : Dictionary β) : Dictionary β :=
  entries.foldl (fun d entry => d.insert entry.1 entry.2) d

theorem entries_putAll (entries : List (String × β)) (d : Dictionary β) : (d.putAll entries).entries
    = entries.foldl (fun sorted entry => Entries.insert entry.1 entry.2 sorted) d.entries := by
  induction entries generalizing d with
  | nil => rfl
  | cons entry rest ih => exact ih (d.insert entry.1 entry.2)

/-- What is put into a dictionary is found before what was there. -/
theorem get?_putAll (distinct : (entries.map Prod.fst).Nodup) (d : Dictionary β) (key : String) :
    (d.putAll entries).get? key = (Entries.get? key entries).or (d.get? key) := by
  rw [get?, entries_putAll, Entries.get?_foldl_insert distinct]
  rfl

end Dictionary

namespace Job

/-- The labels by which pods are traced back to a stream. -/
def podLabels (v : StreamView) : List (String × String) :=
  [(Key.streamId, v.id), (Key.streamKind, v.kind)]

/-- The operator's labels on the job of a stream. -/
def ownLabels (v : StreamView) (backfilling : Bool) : List (String × String) :=
  podLabels v ++ [(Key.backfilling, Environment.flag backfilling)]

/-- The operator's annotations on the job of a stream. -/
def ownAnnotations (v : StreamView) (c : Coordinates) : List (String × String) :=
  [(Key.checksum, v.checksum), (Key.apiGroup, c.group), (Key.apiVersion, c.version),
    (Key.apiPlural, c.plural)]

variable (v : StreamView) (c : Coordinates) (backfilling : Bool) (d : Dictionary String) (key : String)

theorem get?_markPod :
    (markPod v d).get? key = (Entries.get? key (podLabels v)).or (d.get? key) := by
  have marked : markPod v d = d.putAll (podLabels v) := rfl
  have distinct : ((podLabels v).map Prod.fst).Nodup := by
    show [Key.streamId, Key.streamKind].Nodup
    decide
  rw [marked, Dictionary.get?_putAll distinct]

theorem get?_buildLabels : (buildLabels v backfilling d).get? key
    = (Entries.get? key (ownLabels v backfilling)).or (d.get? key) := by
  have labelled : buildLabels v backfilling d = d.putAll (ownLabels v backfilling) := rfl
  have distinct : ((ownLabels v backfilling).map Prod.fst).Nodup := by
    show Key.labels.Nodup
    decide
  rw [labelled, Dictionary.get?_putAll distinct]

theorem get?_buildAnnotations : (buildAnnotations v c d).get? key
    = (Entries.get? key (ownAnnotations v c)).or (d.get? key) := by
  have annotated : buildAnnotations v c d = d.putAll (ownAnnotations v c) := rfl
  have distinct : ((ownAnnotations v c).map Prod.fst).Nodup := by
    show [Key.checksum, Key.apiGroup, Key.apiVersion, Key.apiPlural].Nodup
    decide
  rw [annotated, Dictionary.get?_putAll distinct]

end Job

/-! ## Containers and pods -/

/-- What stands in relation to a part that is there is there, too. -/
theorem exists_of_optionRel {α β : Type} {R : α → β → Prop} {a : α} {made : Option β}
    (related : Option.Rel R (some a) made) : ∃ b, made = some b ∧ R a b := by
  cases related with
  | some related => exact ⟨_, rfl, related⟩

theorem EnvVar.field?_encode (e : EnvVar) (key : String) : e.encode.field? key =
    if key ∈ ["valueFrom"] then e.others.values.get? key
    else (Entries.get? key [("name", some (.str e.name)), ("value", e.value.map Json.str)]).join :=
  e.others.field?_ofFields ["name", "value"] rfl (by decide) key

theorem EnvVar.keeps_others : decode.Keeps encode ["valueFrom"] := by
  refine Record.Yields.keeps EnvVar.others ?_ (by decide)
    (fun e key named => (e.field?_encode key).trans (if_pos named)) _
  refine .and ?_ (Field.yields_true _)
  refine .and ?_ (Field.yields_true _)
  exact Record.yields_const (by intros; rfl)

theorem Container.field?_encode (c : Container) (key : String) : c.encode.field? key =
    if key ∈ otherNames then c.others.values.get? key else (Entries.get? key c.ownFields).join :=
  c.others.field?_ofFields ["name", "image", "command", "args", "env", "envFrom"] rfl (by decide) key

theorem Container.keeps_others : decode.Keeps encode otherNames := by
  refine Record.Yields.keeps Container.others ?_ (by decide)
    (fun c key named => (c.field?_encode key).trans (if_pos named)) _
  refine .and ?_ (Field.yields_true _)
  refine .and ?_ (Field.yields_true _)
  refine .and ?_ (Field.yields_true _)
  refine .and ?_ (Field.yields_true _)
  refine .and ?_ (Field.yields_true _)
  refine .and ?_ (Field.yields_true _)
  exact Record.yields_const (by intros; rfl)

/-- The container has variables and sources behind its own, and is otherwise unchanged, also in what is
written of it. -/
structure Container.Extends (e : Environment) (c c' : Container) : Prop where
  vars : c'.env = some (c.env.getD [] ++ e.vars)
  sources : c'.envFrom = some (c.envFrom.getD [] ++ e.sources)
  others : { c' with env := c.env, envFrom := c.envFrom } = c
  written : ∀ key, key ≠ "env" → key ≠ "envFrom" → c'.encode.field? key = c.encode.field? key

theorem Container.extends_extend (e : Environment) (c : Container) : c.Extends e (c.extend e) where
  vars := rfl
  sources := rfl
  others := rfl
  written key vars sources := by
    rw [field?_encode, field?_encode]
    refine ite_congr rfl (fun _ => rfl) fun _ => congrArg Option.join ?_
    simp only [ownFields, extend, Entries.get?, if_neg vars.symm, if_neg sources.symm]

theorem Container.forall₂_extend (e : Environment) (cs : List Container) :
    List.Forall₂ (Container.Extends e) cs (cs.map (Container.extend · e)) :=
  List.forall₂_map_right_iff.2 (List.forall₂_same.2 fun c _ => c.extends_extend e)

theorem PodSpec.field?_encode (p : PodSpec) (key : String) : p.encode.field? key =
    if key ∈ otherNames then p.others.values.get? key else (Entries.get? key p.ownFields).join :=
  p.others.field?_ofFields ["containers", "initContainers", "restartPolicy", "serviceAccountName",
    "nodeSelector"] rfl (by decide) key

theorem PodSpec.keeps_others : decode.Keeps encode otherNames := by
  refine Record.Yields.keeps PodSpec.others ?_ (by decide)
    (fun p key named => (p.field?_encode key).trans (if_pos named)) _
  refine .and ?_ (Field.yields_true _)
  refine .and ?_ (Field.yields_true _)
  refine .and ?_ (Field.yields_true _)
  refine .and ?_ (Field.yields_true _)
  refine .and ?_ (Field.yields_true _)
  exact Record.yields_const (by intros; rfl)

/-- The containers of the pod are extended one by one, in their order, and all else of it is unchanged. -/
structure PodSpec.Extends (e : Environment) (p p' : PodSpec) : Prop where
  containers : List.Forall₂ (Container.Extends e) p.containers p'.containers
  initContainers :
    Option.Rel (List.Forall₂ (Container.Extends e)) p.initContainers p'.initContainers
  others : { p' with containers := p.containers, initContainers := p.initContainers } = p
  written : ∀ key, key ≠ "containers" → key ≠ "initContainers" →
    p'.encode.field? key = p.encode.field? key

theorem PodSpec.extends_extend (e : Environment) (p : PodSpec) : p.Extends e (p.extend e) where
  containers := Container.forall₂_extend e p.containers
  initContainers := by
    unfold extend
    cases p.initContainers with
    | none => exact .none
    | some cs => exact .some (Container.forall₂_extend e cs)
  others := rfl
  written key containers initContainers := by
    have behind : ∀ p : PodSpec, Entries.get? key p.ownFields = Entries.get? key (p.ownFields.drop 2) :=
      fun _ => (if_neg containers.symm).trans (if_neg initContainers.symm)
    rw [field?_encode, field?_encode, behind, behind]
    rfl

/-- The metadata has labels put over its own, and is otherwise unchanged. -/
structure Metadata.Labelled (labels : List (String × String)) (m m' : Metadata) : Prop where
  labels : ∀ key, m'.label? key = (Entries.get? key labels).or (m.label? key)
  others : { m' with labels := m.labels } = m

/-- The metadata of the pods, if there is any, has the labels of the stream, and the containers, if there
are any, have its environment. -/
structure PodTemplate.Extends (v : StreamView) (e : Environment) (p p' : PodTemplate) : Prop where
  metadata : Option.Rel (Metadata.Labelled (Job.podLabels v)) p.metadata p'.metadata
  spec : Option.Rel (PodSpec.Extends e) p.spec p'.spec

theorem Metadata.label?_of_labels {m : Metadata} {d : Option (Dictionary String)} (same : m.labels = d)
    (key : String) : m.label? key = (d.getD .empty).get? key := by
  rw [label?, same]
  cases d <;> rfl

theorem PodTemplate.extends_buildPod (v : StreamView) (e : Environment) (p : PodTemplate) :
    p.Extends v e (Job.buildPod v e p) where
  metadata := by
    unfold Job.buildPod
    cases p.metadata with
    | none => exact .none
    | some m =>
      refine .some ⟨fun key => ?_, rfl⟩
      rw [Metadata.label?_of_labels rfl, Metadata.label?_of_labels (m := m) rfl]
      exact Job.get?_markPod v _ key
  spec := by
    unfold Job.buildPod
    cases p.spec with
    | none => exact .none
    | some spec => exact .some (spec.extends_extend e)

theorem JobSpec.field?_encode (s : JobSpec) (key : String) : s.encode.field? key =
    if key ∈ otherNames then s.others.values.get? key else (Entries.get? key s.ownFields).join :=
  s.others.field?_ofFields ["activeDeadlineSeconds", "backoffLimit", "completions", "parallelism",
    "ttlSecondsAfterFinished", "suspend", "template"] rfl (by decide) key

theorem JobSpec.keeps_others : decode.Keeps encode otherNames := by
  refine Record.Yields.keeps JobSpec.others ?_ (by decide)
    (fun s key named => (s.field?_encode key).trans (if_pos named)) _
  refine .and ?_ (Field.yields_true _)
  refine .and ?_ (Field.yields_true _)
  refine .and ?_ (Field.yields_true _)
  refine .and ?_ (Field.yields_true _)
  refine .and ?_ (Field.yields_true _)
  refine .and ?_ (Field.yields_true _)
  refine .and ?_ (Field.yields_true _)
  exact Record.yields_const (by intros; rfl)

/-- The specification has a template for pods of the stream, and is otherwise unchanged. -/
structure JobSpec.Extends (v : StreamView) (e : Environment) (s s' : JobSpec) : Prop where
  pods : s.template.Extends v e s'.template
  others : { s' with template := s.template } = s
  written : ∀ key, key ≠ "template" → s'.encode.field? key = s.encode.field? key

theorem JobSpec.extends_of_template {v : StreamView} {e : Environment} (s : JobSpec) {p : PodTemplate}
    (pods : s.template.Extends v e p) : s.Extends v e { s with template := p } where
  pods := pods
  others := rfl
  written key template := by
    have before : ∀ s : JobSpec, Entries.get? key s.ownFields = Entries.get? key (s.ownFields.take 6) :=
      fun s => (Entries.get?_append key (s.ownFields.take 6) _).trans
        ((congrArg _ (if_neg template.symm)).trans Option.or_none)
    rw [field?_encode, field?_encode, before, before]
    rfl

/-- The label of the pods under a key. -/
def PodTemplate.label? (p : PodTemplate) (key : String) : Option String :=
  p.metadata.bind fun m => m.label? key

/-- Labels reach the pods as far as there is metadata for them. -/
theorem PodTemplate.Extends.label? {v : StreamView} {e : Environment} {p p' : PodTemplate}
    (extended : p.Extends v e p') (key : String) : p'.label? key =
      if p.metadata.isSome then (Entries.get? key (Job.podLabels v)).or (p.label? key) else none := by
  have metadata := extended.metadata
  unfold PodTemplate.label?
  generalize p.metadata = own at metadata
  generalize p'.metadata = made at metadata
  cases metadata with
  | none => rfl
  | some labelled => exact labelled.labels key

/-! ## Jobs -/

namespace Job

/-- The job has the specification of its template, extended by what the pods are to know of the stream,
and the operator's labels and annotations, put over those of the template. -/
structure Extends (template : JobTemplate) (v : StreamView) (c : Coordinates) (backfilling : Bool)
    (e : Environment) (job : Job) : Prop where
  spec : Option.Rel (JobSpec.Extends v e) template.spec job.spec
  labels : ∀ key, job.metadata.label? key = (Entries.get? key (ownLabels v backfilling)).or
    (template.metadata.bind fun m => m.label? key)
  annotations : ∀ key, job.metadata.annotation? key = (Entries.get? key (ownAnnotations v c)).or
    (template.metadata.bind fun m => m.annotation? key)

variable {template : StreamTemplate} {v : StreamView} {c : Coordinates} {backfilling : Bool}
  {fields : List String} {job : Job}

theorem extends_of_build (built : build template v c backfilling fields = .ok job) :
    job.Extends template.template v c backfilling (v.environment backfilling fields) := by
  unfold build at built
  split at built
  · cases built
  · rename_i spec complete
    obtain rfl := Except.ok.inj built
    refine ⟨?_, fun key => ?_, fun key => ?_⟩
    · rw [complete]
      exact .some (spec.extends_of_template (spec.template.extends_buildPod v _))
    · refine (get?_buildLabels v backfilling _ key).trans (congrArg _ ?_)
      cases template.template.metadata with
      | none => rfl
      | some m => exact (Metadata.label?_of_labels rfl key).symm
    · refine (get?_buildAnnotations v c _ key).trans (congrArg _ ?_)
      cases template.template.metadata with
      | none => rfl
      | some m =>
        show (m.annotations.getD .empty).get? key = m.annotations.bind fun d => d.get? key
        cases m.annotations <;> rfl

/-- The label that the pods of the job have under a key. -/
def podLabel? (job : Job) (key : String) : Option String :=
  job.spec.bind fun spec => spec.template.label? key

theorem podLabel?_of_extends {t : JobTemplate} {e : Environment} {spec : JobSpec}
    (extended : job.Extends t v c backfilling e) (complete : t.spec = some spec) (key : String) :
    job.podLabel? key = if spec.template.metadata.isSome
      then (Entries.get? key (podLabels v)).or (spec.template.label? key) else none := by
  obtain ⟨spec', found, made⟩ := exists_of_optionRel (complete ▸ extended.spec)
  rw [podLabel?, found]
  exact made.pods.label? key

/-- The pods of the job have the id and the kind of the stream on them as the job has, and keep the other
labels of their template. -/
structure TracesPods (pod : PodTemplate) (job : Job) : Prop where
  id : ∃ id, job.metadata.label? Key.streamId = some id ∧ job.podLabel? Key.streamId = some id
  kind : ∃ kind, job.metadata.label? Key.streamKind = some kind ∧ job.podLabel? Key.streamKind = some kind
  others : ∀ key, key ≠ Key.streamId → key ≠ Key.streamKind → job.podLabel? key = pod.label? key

end Job

/-- A job is built from every template that has a job specification, and it is that template with
additions: its containers and init containers, each with the variables and sources of the environment
behind its own, its labels and annotations, except under keys of the operator, and everything else. -/
theorem built_job_keeps_template (template : StreamTemplate) (v : StreamView) (c : Coordinates)
    (backfilling : Bool) (fields : List String) (complete : template.template.spec.isSome = true) :
    ∃ job, Job.build template v c backfilling fields = .ok job ∧
      job.Extends template.template v c backfilling (v.environment backfilling fields) := by
  rcases Job.build_cases template v c backfilling fields with ⟨bare, -⟩ | ⟨-, job, built⟩
  · rw [bare] at complete
    cases complete
  · exact ⟨job, built, Job.extends_of_build built⟩

section Orders

/-- A variable whose value is taken from a secret. -/
def shippingToken : EnvVar where
  name := "TOKEN"
  others := .ofValues _ fun key => Entries.get? key
    [("valueFrom", .obj [("secretKeyRef", .obj [("key", .str "token"), ("name", .str "shipping")])])]

/-- What a container may use of the machine. -/
def shippingResources : Json := .obj [("limits", .obj [("memory", .str "1Gi")])]

/-- The specification of a job with a container that has variables, one that has none and one that runs
first, in pods with or without metadata. The cluster is told more of each than the operator looks into. -/
def shippingSpec (pods : Option Metadata) : JobSpec where
  backoffLimit := some 0
  others := .ofValues _ fun key => Entries.get? key [("completionMode", .str "NonIndexed")]
  template := {
    metadata := pods
    spec := some {
      containers := [
        { name := "stream"
          image := some "stream:1"
          env := some [{ name := "LEVEL", value := some "info" }, shippingToken]
          others := .ofValues _ fun key => Entries.get? key [("resources", shippingResources)] },
        { name := "proxy", envFrom := some [] }]
      initContainers := some [{ name := "prepare" }]
      restartPolicy := some "Never"
      others := .ofValues _ fun key => Entries.get? key [("hostNetwork", .bool true)] } }

/-- A template with a label of its own and one under a key of the operator. -/
def shippingTemplate (pods : Option Metadata) : StreamTemplate where
  metadata := Orders.template.metadata
  template := {
    metadata := some {
      labels := some (Dictionary.ofList [("team", "shipping"), (Key.streamId, "invoices")]) }
    spec := some (shippingSpec pods) }

/-- The template is read as it was written. The job of the orders has its label, its own id, and in its
first container the variables of the template before the four of the stream; what nothing looks into is
written for the job as it was for the template. -/
theorem job_of_orders_keeps_template :
    let v := (Orders.definition "1" none).view
    StreamTemplate.decode (shippingTemplate none).encode = .ok (shippingTemplate none) ∧
    ∃ job, Job.build (shippingTemplate none) v Orders.kind true [] = .ok job ∧
      job.metadata.label? "team" = some "shipping" ∧ job.metadata.label? Key.streamId = some "orders" ∧
      ∃ spec pod first second, job.spec = some spec ∧ spec.template.spec = some pod ∧
        pod.containers = [first, second] ∧
        first.env = some ({ name := "LEVEL", value := some "info" } :: shippingToken ::
          (v.environment true []).vars) ∧
        second.env = some (v.environment true []).vars ∧
        spec.encode.field? "completionMode" = some (.str "NonIndexed") ∧
        pod.encode.field? "hostNetwork" = some (.bool true) ∧
        first.encode.field? "resources" = some shippingResources := by
  intro v
  refine ⟨by decide +kernel, ?_⟩
  obtain ⟨job, built, extended⟩ :=
    built_job_keeps_template (shippingTemplate none) v Orders.kind true [] rfl
  obtain ⟨spec, found, made⟩ := exists_of_optionRel extended.spec
  obtain ⟨pod, inside, pods⟩ := exists_of_optionRel made.pods.spec
  obtain ⟨first, rest, behind, containers, all⟩ := List.forall₂_cons_left_iff.1 pods.containers
  obtain ⟨second, rest', alone, none, rfl⟩ := List.forall₂_cons_left_iff.1 containers
  obtain rfl := List.forall₂_nil_left_iff.1 none
  refine ⟨job, built, by rw [extended.labels]; decide +kernel, by rw [extended.labels]; rfl, spec, pod,
    first, second, found, inside, all, behind.vars, alone.vars, ?_, ?_, ?_⟩
  · exact (made.written _ (by decide)).trans (by decide +kernel)
  · exact (pods.written _ (by decide) (by decide)).trans (by decide +kernel)
  · exact (behind.written _ (by decide) (by decide)).trans (by decide +kernel)

end Orders

/-- The pods of a job can be traced back to its stream exactly if the template of the pods has metadata;
without it they have no labels at all. -/
theorem pods_are_traced_iff (template : StreamTemplate) (spec : JobSpec) (v : StreamView)
    (c : Coordinates) (backfilling : Bool) (fields : List String)
    (complete : template.template.spec = some spec) :
    ∃ job, Job.build template v c backfilling fields = .ok job ∧
      (job.TracesPods spec.template ↔ spec.template.metadata.isSome = true) ∧
      (spec.template.metadata = none → ∀ key, job.podLabel? key = none) := by
  rcases Job.build_cases template v c backfilling fields with ⟨bare, -⟩ | ⟨-, job, built⟩
  · rw [bare] at complete
    cases complete
  have extended := Job.extends_of_build built
  have label := Job.podLabel?_of_extends extended complete
  refine ⟨job, built, ⟨fun traced => ?_, fun present => ?_⟩, fun absent key => ?_⟩
  · obtain ⟨id, -, marked⟩ := traced.id
    by_contra absent
    rw [label, if_neg absent] at marked
    cases marked
  · simp only [present, if_true] at label
    refine ⟨⟨v.id, ?_, ?_⟩, ⟨v.kind, ?_, ?_⟩, fun key noId noKind => ?_⟩
    · rw [extended.labels]
      rfl
    · rw [label]
      rfl
    · rw [extended.labels]
      rfl
    · rw [label]
      rfl
    · have other : Entries.get? key (Job.podLabels v) = none := by
        simp [Job.podLabels, Entries.get?, Ne.symm noId, Ne.symm noKind]
      rw [label, other, Option.none_or]
  · rw [label, absent]
    rfl

section Orders

/-- With metadata, even if it says nothing, the pods of the orders can be traced back. -/
theorem pods_of_orders_are_traced :
    ∃ job, Job.build (shippingTemplate (some {})) (Orders.definition "1" none).view Orders.kind false []
      = .ok job ∧ job.TracesPods (shippingSpec (some {})).template := by
  obtain ⟨job, built, traced, -⟩ := pods_are_traced_iff (shippingTemplate (some {}))
    (shippingSpec (some {})) (Orders.definition "1" none).view Orders.kind false [] rfl
  exact ⟨job, built, traced.2 rfl⟩

/-- Without metadata the pods of the orders cannot be traced back. -/
theorem pods_of_orders_are_lost : ¬ ∀ (template : StreamTemplate) (spec : JobSpec) (v : StreamView)
    (c : Coordinates) (backfilling : Bool) (fields : List String), template.template.spec = some spec →
    ∃ job, Job.build template v c backfilling fields = .ok job ∧ job.TracesPods spec.template := by
  intro traced
  obtain ⟨job, built, traces⟩ := traced (shippingTemplate none) (shippingSpec none)
    (Orders.definition "1" none).view Orders.kind false [] rfl
  obtain ⟨id, -, marked⟩ := traces.id
  rw [Job.podLabel?_of_extends (Job.extends_of_build built) rfl] at marked
  cases marked

end Orders

end StreamOperator
