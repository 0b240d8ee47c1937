import StreamOperator.Proofs.Supervisor.ClassEvents

/-!
# The life of one stream class

A stream class is one resource, whatever its specification says in the course of time. Its versions are
processed one after another. As long as they name one kind, the supervisor has one pipeline for the
resource at most, it is that of the latest version, and nothing is left after the deletion
(`Follows`, an invariant).
-/

set_option autoImplicit false

namespace StreamOperator

/-- The call is about a class that has a property. -/
def Call.About (versions : StreamClass → Prop) : Call → Prop
  | attach c _ | detach c _ => versions c
  | stop _ => False

/-- The call has taken the handle of a resource, or is about to make one. -/
def Call.Carries (ref : ClassRef) : Call → Prop
  | attach _ (.awaiting _) | attach _ .registering | attach _ .spawning => True
  | detach _ (.awaiting handle) | detach _ (.releasing handle) => handle.streamClass.reference = ref
  | _ => False

/-- The attaching has refused the class or has started its pipeline. -/
def AttachStage.IsLate : AttachStage → Prop
  | refusing _ _ | announcing _ | done _ => True
  | _ => False

theorem Call.not_carries_of_result {call : Call} {ref : ClassRef}
    (finished : call.result?.isSome = true) : ¬ call.Carries ref := by
  unfold Call.result? at finished
  split at finished <;> simp_all [Call.Carries]

theorem Call.taken_of_result {call : Call} (finished : call.result?.isSome = true) :
    call.taken = [] := by
  unfold Call.result? at finished
  split at finished <;> simp_all [Call.taken]

/-- A later version of a resource has a greater generation, or the same one and the same
specification. -/
def StreamClass.Precedes (u v : StreamClass) : Prop :=
  ∃ g h, u.metadata.generation = some g ∧ v.metadata.generation = some h ∧ g ≤ h ∧
    (g = h → u.spec = v.spec)

/-- Versions of one resource that name one kind. -/
structure Lineage (ref : ClassRef) (kind : String) (versions : StreamClass → Prop) : Prop where
  named : ∀ {c}, versions c → c.reference = ref
  kind_eq : ∀ {c}, versions c → c.spec.kindRef = kind
  spec_eq : ∀ {c d}, versions c → versions d → c.metadata.generation = d.metadata.generation →
    c.spec = d.spec

/-- All versions have one id. -/
theorem Lineage.id_eq {ref : ClassRef} {kind : String} {versions : StreamClass → Prop}
    {c d : StreamClass} (lineage : Lineage ref kind versions) (own : versions c) (own' : versions d) :
    c.id = d.id := by
  have form : ∀ e : StreamClass,
      e.id = e.reference.space ++ "-" ++ Text.lowercase e.spec.kindRef := fun _ => rfl
  rw [form, form, lineage.named own, lineage.named own', lineage.kind_eq own, lineage.kind_eq own']

namespace Session

variable {w v u : Session} {c d : StreamClass} {ref : ClassRef} {kind : String}
  {versions : StreamClass → Prop} {events : List (Event StreamClass)} {id : String}

/-! ## What is there of a resource -/

/-- A class of the resource has a handle. -/
def HasHandle (w : Session) (ref : ClassRef) : Prop :=
  ∃ id c, w.supervisor.class? id = some c ∧ c.reference = ref

/-- A class of the resource is registered. -/
def HasEntry (w : Session) (ref : ClassRef) : Prop :=
  ∃ kind c, w.supervisor.registry.get? kind = some c ∧ c.reference = ref

/-- Nothing is there of a resource: no handle, no pipeline that has not ended, no entry in the
registry. -/
structure Without (w : Session) (ref : ClassRef) : Prop where
  unhandled : ¬ w.HasHandle ref
  unserved : ∀ {n p}, w.supervisor.pipeline? n = some p → p.streamClass.reference ≠ ref
  unregistered : ¬ w.HasEntry ref

/-- A class occurs in a session. -/
inductive Mentions (w : Session) (c : StreamClass) : Prop where
  | relies (relies : w.Relies c)
  | registered {kind : String} (found : w.supervisor.registry.get? kind = some c)
  | called {stage : AttachStage} (current : w.call = some (.attach c stage))
      (unfinished : (Call.attach c stage).result? = none)

/-- The registry has each class under its kind. -/
theorem Reachable.kindRef_of_get? (reachable : w.Reachable)
    (found : w.supervisor.registry.get? kind = some c) : c.spec.kindRef = kind := by
  have all : ∀ kind c, w.supervisor.registry.get? kind = some c → c.spec.kindRef = kind := by
    apply reachable.invariant (P := fun w => ∀ kind c,
      w.supervisor.registry.get? kind = some c → c.spec.kindRef = kind)
    · rintro w ⟨-, classes, dedup, delay, buffer, new⟩ kind c found
      rw [new] at found
      cases found
    · intro w v before ih step kind c found
      cases step.registering before.sound with
      | kept same =>
        rw [same] at found
        exact ih kind c found
      | inserted called taken =>
        rw [ClassRegistry.get?_of_insert taken] at found
        split at found
        · rename_i own
          obtain rfl := Option.some.inj found
          exact own.symm
        · exact ih kind c found
      | detached _ _ removed | stopped _ _ removed =>
        rw [removed, ClassRegistry.get?_remove] at found
        split at found
        · cases found
        · exact ih kind c found
  exact all kind c found

/-- A call that takes a step is not over. -/
theorem unfinished_of_stepCall {s t : Supervisor} {now : String} {call next : Call} {k k' : Cluster}
    (taken : s.stepCall now call k = some (next, t, k')) : call.result? = none := by
  cases Supervisor.callStep_of_stepCall taken with
  | attach moved => cases moved <;> rfl
  | detach moved => cases moved <;> rfl
  | stop moved => cases moved <;> rfl

/-- Nothing brings a class into a session but the event of it. -/
theorem Turn.mentions (sound : w.Sound) (matched : w.Matched) (turn : Turn w v)
    (mentions : v.Mentions c) : w.Mentions c := by
  have step := turn.step
  have attaching : ∀ {stage}, v.call = some (.attach c stage) →
      (Call.attach c stage).result? = none → w.Mentions c := by
    intro stage current unfinished
    cases turn with
    | pipeline | elsewhere => exact .called current unfinished
    | call before taken =>
      cases current
      have unfinished' := unfinished_of_stepCall taken
      cases Supervisor.callStep_of_stepCall taken with
      | attach moved => exact .called before unfinished'
  cases mentions with
  | relies relies =>
    rcases step.relies sound matched relies with before | called
    · exact .relies before
    · exact attaching called rfl
  | called current unfinished => exact attaching current unfinished
  | @registered kind found =>
    cases step.registering sound with
    | kept same =>
      rw [same] at found
      exact .registered found
    | inserted called taken =>
      rw [ClassRegistry.get?_of_insert taken] at found
      split at found
      · obtain rfl := Option.some.inj found
        exact attaching called rfl
      · exact .registered found
    | detached _ _ removed | stopped _ _ removed =>
      rw [removed, ClassRegistry.get?_remove] at found
      split at found
      · cases found
      · exact .registered found

/-! ## The invariant -/

/-- What holds of a session in which versions of a resource are processed. -/
structure Follows (ref : ClassRef) (versions : StreamClass → Prop) (w : Session) : Prop where
  running : w.supervisor.stopped = false
  about : ∀ {call}, w.call = some call → call.About versions ∨ call.result?.isSome = true
  traced : ∀ {c}, w.Mentions c → c.reference = ref → versions c
  /-- What is registered of the resource has a handle, or the call sees to it. -/
  minded : w.HasEntry ref → w.HasHandle ref ∨ ∃ call, w.call = some call ∧ call.Carries ref
  upToDate : ∀ {c stage}, w.call = some (.attach c stage) → stage.IsLate →
    ∀ {id d}, w.supervisor.class? id = some d → d.reference = ref → c.reference = ref →
      d.spec = c.spec

/-- The classes of the resource that have a handle are versions. -/
theorem Follows.version_of_class? (follows : Follows ref versions w)
    (found : w.supervisor.class? id = some c) (own : c.reference = ref) : versions c :=
  follows.traced (.relies (relies_of_class? found)) own

theorem Follows.version_of_get? (follows : Follows ref versions w)
    (found : w.supervisor.registry.get? kind = some c) (own : c.reference = ref) : versions c :=
  follows.traced (.registered found) own

/-- While no call is under way, only handles and pipelines rely on classes. -/
theorem Matched.relies_of_idle (matched : w.Matched) (idle : w.IsIdle) (relies : w.Relies c) :
    (∃ id, w.supervisor.class? id = some c) ∨
      ∃ n p, w.supervisor.pipeline? n = some p ∧ p.streamClass = c := by
  rcases relies with ⟨⟨id, member⟩ | ⟨call, current, member⟩, rfl⟩ | current | served
  · have standing := matched.get? member
    exact .inl ⟨id, by rw [Supervisor.class?, standing, Option.map_some]⟩
  · rw [Call.taken_of_result (idle call current)] at member
    cases member
  · have finished := idle _ current
    cases finished
  · exact .inr served

/-- In a supervisor without a resource its versions can be processed. -/
theorem follows_of_without (matched : w.Matched) (idle : w.IsIdle)
    (running : w.supervisor.stopped = false) (without : w.Without ref) : Follows ref versions w := by
  refine ⟨running, fun current => .inr (idle _ current), ?_, ?_, ?_⟩
  · intro c mentions own
    exfalso
    cases mentions with
    | relies relies =>
      rcases matched.relies_of_idle idle relies with ⟨id, found⟩ | ⟨n, p, found, rfl⟩
      · exact without.unhandled ⟨id, c, found, own⟩
      · exact without.unserved found own
    | registered found => exact without.unregistered ⟨_, c, found, own⟩
    | called current unfinished =>
      have finished := idle _ current
      rw [unfinished] at finished
      cases finished
  · intro entry
    exact absurd entry without.unregistered
  · intro c stage _ _ id d found own _
    exact absurd ⟨id, d, found, own⟩ without.unhandled

/-- The next version is taken. -/
theorem Follows.begin {event : Event StreamClass} (follows : Follows ref versions w)
    (sound : w.Sound) (matched : w.Matched) (idle : w.IsIdle) (own : versions event.resource) :
    Follows ref versions { w with call := some event.classCall } := by
  refine ⟨follows.running, ?_, ?_, ?_, ?_⟩
  · intro call current
    obtain rfl := Option.some.inj current
    left
    unfold Event.classCall
    split <;> exact own
  · intro c mentions same
    have called : ∀ {stage}, some event.classCall = some (.attach c stage) → versions c := by
      intro stage current
      unfold Event.classCall at current
      split at current <;> cases current <;> exact own
    cases mentions with
    | relies relies =>
      rcases (Step.begin idle event.classCall_isFresh).relies sound matched relies with
        before | current
      · exact follows.traced (.relies before) same
      · exact called current
    | registered found => exact follows.traced (.registered found) same
    | called current => exact called current
  · intro entry
    rcases follows.minded entry with handle | ⟨call, current, carries⟩
    · exact .inl handle
    · exact absurd carries (Call.not_carries_of_result (idle call current))
  · intro c stage current late
    have fresh := event.classCall_isFresh
    rw [Option.some.inj current] at fresh
    cases stage <;> simp_all [Call.IsFresh, AttachStage.IsLate]

/-! ## Steps of the calls -/

variable {now : String} {t : Supervisor} {k : Cluster} {handle : Handle}

/-- A step that leaves the handles and the registry keeps what is minded, unless the call gives up what
it carries. -/
theorem Follows.minded_of_same {call next : Call} (follows : Follows ref versions w)
    (current : w.call = some call) (handles : ∀ id, t.class? id = w.supervisor.class? id)
    (registry : t.registry = w.supervisor.registry)
    (carries : call.Carries ref → next.Carries ref ∨ ¬ w.HasEntry ref) :
    HasEntry ⟨t, some next, k⟩ ref → HasHandle ⟨t, some next, k⟩ ref ∨
      ∃ call, some next = some call ∧ call.Carries ref := by
  rintro ⟨kind, c, found, own⟩
  have before : w.HasEntry ref := ⟨kind, c, by rw [← found]; simp [registry], own⟩
  rcases follows.minded before with ⟨id, d, standing, own'⟩ | ⟨_, current', carried⟩
  · exact .inl ⟨id, d, (handles id).trans standing, own'⟩
  · obtain rfl := Option.some.inj (current.symm.trans current')
    rcases carries carried with carries | absent
    · exact .inr ⟨next, rfl, carries⟩
    · exact absurd before absent

/-- A version is not refused while an entry of the resource is there. -/
theorem Follows.not_hasEntry_of_rejected {e : Failure} (follows : Follows ref versions w)
    (lineage : Lineage ref kind versions) (reachable : w.Reachable) (own : versions c)
    (rejected : w.supervisor.registry.insert c = .error e) : ¬ w.HasEntry ref := by
  rintro ⟨kind', d, found, same⟩
  have version := follows.version_of_get? found same
  have kinds : kind' = c.spec.kindRef := by
    rw [← reachable.kindRef_of_get? found, lineage.kind_eq version, lineage.kind_eq own]
  rw [kinds] at found
  exact ClassRegistry.id_ne_of_insert_error rejected found (lineage.id_eq version own)

theorem Follows.minded_attach {stage next : AttachStage} (follows : Follows ref versions w)
    (lineage : Lineage ref kind versions) (reachable : w.Reachable)
    (current : w.call = some (.attach c stage)) (own : versions c)
    (moved : w.supervisor.AttachStep now c w.cluster stage next t k) :
    HasEntry ⟨t, some (.attach c next), k⟩ ref → HasHandle ⟨t, some (.attach c next), k⟩ ref ∨
      ∃ call, some (Call.attach c next) = some call ∧ call.Carries ref := by
  cases moved with
  | unhandled | claimed | registered => exact fun _ => .inr ⟨_, rfl, trivial⟩
  | awaited => exact follows.minded_of_same current (fun _ => rfl) rfl fun _ => .inl trivial
  | rejected full =>
    exact follows.minded_of_same current (fun _ => rfl) rfl fun _ =>
      .inr (follows.not_hasEntry_of_rejected lineage reachable own full)
  | spawned =>
    intro _
    rw [Supervisor.install_of_unhandled (reachable.sound.claimed current rfl)]
    exact .inl ⟨c.id, c, (Supervisor.class?_spawn _ _).trans (if_pos rfl), lineage.named own⟩
  | refused | admitted | current | refusing | failed | announcing | succeeded =>
    exact follows.minded_of_same current (fun _ => rfl) rfl fun carries => absurd carries id

/-- A handle of the resource stands under the id of every version. -/
theorem Follows.id_of_class? (follows : Follows ref versions w) (lineage : Lineage ref kind versions)
    (matched : w.Matched) (own : versions c) (standing : w.supervisor.class? id = some d)
    (same : d.reference = ref) : id = c.id := by
  rw [← matched.id_of_class? standing]
  exact lineage.id_eq (follows.version_of_class? standing same) own

/-- While the handle of a version is taken, the resource has none. -/
theorem Follows.not_hasHandle (follows : Follows ref versions w) (lineage : Lineage ref kind versions)
    (matched : w.Matched) (own : versions c) (free : Table.get? c.id w.supervisor.handles = none) :
    ¬ w.HasHandle ref := by
  rintro ⟨id, d, standing, same⟩
  rw [follows.id_of_class? lineage matched own standing same, Supervisor.class?, free] at standing
  cases standing

theorem Follows.minded_detach {stage next : DetachStage} (follows : Follows ref versions w)
    (lineage : Lineage ref kind versions) (reachable : w.Reachable)
    (current : w.call = some (.detach c stage)) (own : versions c)
    (moved : w.supervisor.DetachStep c w.cluster stage next t k) :
    HasEntry ⟨t, some (.detach c next), k⟩ ref → HasHandle ⟨t, some (.detach c next), k⟩ ref ∨
      ∃ call, some (Call.detach c next) = some call ∧ call.Carries ref := by
  have matched := reachable.matched
  cases moved with
  | unhandled =>
    exact follows.minded_of_same current (fun _ => rfl) rfl fun carries => absurd carries id
  | awaited => exact follows.minded_of_same current (fun _ => rfl) rfl .inl
  | @claimed handle found =>
    rintro ⟨kind', d, entry, same⟩
    have before : w.HasEntry ref := ⟨kind', d, by rw [← entry, Supervisor.registry_revoke], same⟩
    rcases follows.minded before with ⟨id, e, standing, same'⟩ | ⟨_, current', carried⟩
    · -- The handle of the resource is the one that is taken.
      have taken : handle.streamClass = e := by
        rw [follows.id_of_class? lineage matched own standing same', Supervisor.class?, found] at standing
        exact Option.some.inj standing
      exact .inr ⟨_, rfl, by rw [← taken] at same'; exact same'⟩
    · obtain rfl := Option.some.inj (current.symm.trans current')
      exact absurd carried id
  | @released handle =>
    rintro ⟨kind', d, entry, same⟩
    exfalso
    rw [ClassRegistry.get?_remove] at entry
    split at entry
    · cases entry
    · rename_i kept
      have version := follows.version_of_get? entry same
      have free := reachable.sound.claimed current rfl
      rcases follows.minded ⟨kind', d, entry, same⟩ with handled | ⟨_, current', carried⟩
      · exact follows.not_hasHandle lineage matched own free handled
      · -- The entry is under the kind of the class whose handle was taken.
        obtain rfl := Option.some.inj (current.symm.trans current')
        have hands : w.Hands handle := .inr ⟨_, current, List.mem_cons_self⟩
        have taken : versions handle.streamClass :=
          follows.traced (.relies (.handle hands rfl)) carried
        have kinds : kind' = handle.streamClass.spec.kindRef := by
          rw [← reachable.kindRef_of_get? entry, lineage.kind_eq version, lineage.kind_eq taken]
        refine kept ⟨kinds, ?_⟩
        rw [ClassRegistry.serves, ← kinds, entry, Option.any_some, lineage.id_eq version taken]
        exact beq_self_eq_true _

/-- After a step of its attaching the handle of the resource is of the version that was attached. -/
theorem Follows.upToDate_attach {stage next : AttachStage} (follows : Follows ref versions w)
    (lineage : Lineage ref kind versions) (reachable : w.Reachable)
    (current : w.call = some (.attach c stage)) (own : versions c)
    (moved : w.supervisor.AttachStep now c w.cluster stage next t k) (late : next.IsLate)
    (found : t.class? id = some d) (same : d.reference = ref) : d.spec = c.spec := by
  have matched := reachable.matched
  cases moved with
  | refused stopped =>
    rw [follows.running] at stopped
    cases stopped
  | @current handle standing generation =>
    have place := follows.id_of_class? lineage matched own found same
    have taken : handle.streamClass = d := by
      rw [place, Supervisor.class?, standing] at found
      exact Option.some.inj found
    have version := follows.version_of_class? found same
    apply lineage.spec_eq version own
    rw [← taken, ← matched.generation _ (Table.mem_of_get? standing)]
    exact generation
  | rejected =>
    have free := reachable.sound.claimed current rfl
    exact absurd ⟨id, d, found, same⟩ (follows.not_hasHandle lineage matched own free)
  | spawned =>
    have free := reachable.sound.claimed current rfl
    rw [Supervisor.install_of_unhandled free, Supervisor.class?_spawn] at found
    split at found
    · rw [Option.some.inj found]
    · exact absurd ⟨id, d, found, same⟩ (follows.not_hasHandle lineage matched own free)
  | refusing | failed | announcing | succeeded =>
    exact follows.upToDate current trivial found same (lineage.named own)
  | admitted | unhandled | claimed | awaited | registered => exact False.elim late

/-! ## Runs -/

theorem Follows.turn (follows : Follows ref versions w) (lineage : Lineage ref kind versions)
    (reachable : w.Reachable) (turn : Turn w v) : Follows ref versions v := by
  have sound := reachable.sound
  have matched := reachable.matched
  have traced : ∀ {c}, v.Mentions c → c.reference = ref → versions c :=
    fun mentions => follows.traced (turn.mentions sound matched mentions)
  cases turn with
  | pipeline taken =>
    have classes := matched.class?_of_stepPipeline sound.tidy taken
    have stopped := Supervisor.stopped_of_stepPipeline sound.tidy taken
    have registry := Supervisor.registry_of_stepPipeline sound.tidy taken
    refine ⟨stopped.trans follows.running, follows.about, traced, ?_, ?_⟩
    · rintro ⟨kind', c, found, own⟩
      rw [registry] at found
      rcases follows.minded ⟨kind', c, found, own⟩ with ⟨id, d, standing, same⟩ | carried
      · exact .inl ⟨id, d, (classes id).trans standing, same⟩
      · exact .inr carried
    · intro c stage current late id d found
      rw [classes] at found
      exact follows.upToDate current late found
  | elsewhere => exact ⟨follows.running, follows.about, traced, follows.minded, follows.upToDate⟩
  | @call now call next t k current taken =>
    have moved := Supervisor.callStep_of_stepCall taken
    have about : call.About versions := by
      rcases follows.about current with about | finished
      · exact about
      · rw [unfinished_of_stepCall taken] at finished
        cases finished
    have running : t.stopped = false := by
      rcases moved.stopped_eq with same | rfl
      · exact same.trans follows.running
      · exact False.elim about
    cases moved with
    | attach moved =>
      refine ⟨running, fun current => .inl ?_, traced,
        follows.minded_attach lineage reachable current about moved, ?_⟩
      · cases current
        exact about
      · intro c' stage current' late id d found same _
        cases current'
        exact follows.upToDate_attach lineage reachable current about moved late found same
    | detach moved =>
      refine ⟨running, fun current => .inl ?_, traced,
        follows.minded_detach lineage reachable current about moved, ?_⟩
      · cases current
        exact about
      · intro c' stage current'
        cases current'
    | stop => exact False.elim about

/-- The call under way is the one that an event asked for. -/
def Answers (w : Session) (event : Event StreamClass) : Prop :=
  if event.type = .deleted then ∃ stage, w.call = some (.detach event.resource stage)
  else ∃ stage, w.call = some (.attach event.resource stage)

theorem Turn.answers {event : Event StreamClass} (turn : Turn w v) (answers : w.Answers event) :
    v.Answers event := by
  unfold Answers at answers ⊢
  cases turn with
  | pipeline | elsewhere => exact answers
  | call current taken =>
    split at answers
    · rename_i deleted
      rw [if_pos deleted]
      obtain ⟨stage, same⟩ := answers
      obtain rfl := Option.some.inj (same.symm.trans current)
      cases Supervisor.callStep_of_stepCall taken with
      | detach => exact ⟨_, rfl⟩
    · rename_i kept
      rw [if_neg kept]
      obtain ⟨stage, same⟩ := answers
      obtain rfl := Option.some.inj (same.symm.trans current)
      cases Supervisor.callStep_of_stepCall taken with
      | attach => exact ⟨_, rfl⟩

theorem Processed.answers {last : Event StreamClass} (processed : w.Processed events v)
    (ended : events.getLast? = some last) : v.Answers last := by
  induction processed with
  | start => cases ended
  | taken before idle event =>
    rw [List.getLast?_concat] at ended
    obtain rfl := Option.some.inj ended
    unfold Answers Event.classCall
    cases event with | mk type resource => cases type <;> exact ⟨_, rfl⟩
  | turn before turn ih => exact turn.answers (ih ended)

theorem Processed.follows (processed : w.Processed events v) (lineage : Lineage ref kind versions)
    (reachable : w.Reachable) (idle : w.IsIdle) (running : w.supervisor.stopped = false)
    (without : w.Without ref) (own : ∀ event ∈ events, versions event.resource) :
    Follows ref versions v := by
  induction processed with
  | start => exact follows_of_without reachable.matched idle running without
  | @taken events v before idle' event ih =>
    have follows := ih fun e member => own e (List.mem_append_left _ member)
    have reachable' := reachable.reaches before.reaches
    exact follows.begin reachable'.sound reachable'.matched idle'
      (own event (List.mem_append_right _ List.mem_cons_self))
  | turn before turn ih => exact (ih own).turn lineage (reachable.reaches before.reaches) turn

/-! ## What follows -/

/-- The resource has one handle at most. -/
theorem Follows.single {id' : String} {c' : StreamClass} (follows : Follows ref versions w)
    (lineage : Lineage ref kind versions) (matched : w.Matched)
    (found : w.supervisor.class? id = some c) (found' : w.supervisor.class? id' = some c')
    (same : c.reference = ref) (same' : c'.reference = ref) : id = id' := by
  have version := follows.version_of_class? found' same'
  rw [follows.id_of_class? lineage matched version found same, matched.id_of_class? found']

/-- After the attaching of a version the handle of the resource is of that version's specification. -/
theorem Follows.latest {event : Event StreamClass} (follows : Follows ref versions w)
    (own : event.resource.reference = ref) (idle : w.IsIdle) (answers : w.Answers event)
    (kept : event.type ≠ .deleted) (found : w.supervisor.class? id = some c)
    (same : c.reference = ref) : c.spec = event.resource.spec := by
  rw [Answers, if_neg kept] at answers
  obtain ⟨stage, current⟩ := answers
  have finished := idle _ current
  cases stage with
  | done result => exact follows.upToDate current trivial found same own
  | _ => cases finished

/-- After the deletion of a version nothing is left of the resource. -/
theorem Follows.without {event : Event StreamClass} (follows : Follows ref versions w)
    (lineage : Lineage ref kind versions) (reachable : w.Reachable)
    (own : versions event.resource) (idle : w.IsIdle) (answers : w.Answers event)
    (deleted : event.type = .deleted) : w.Without ref := by
  rw [Answers, if_pos deleted] at answers
  obtain ⟨stage, current⟩ := answers
  have finished := idle _ current
  cases stage with
  | done =>
    have sound := reachable.sound
    have unhandled : ¬ w.HasHandle ref :=
      follows.not_hasHandle lineage reachable.matched own (sound.claimed current rfl)
    refine ⟨unhandled, ?_, ?_⟩
    · intro n p found same
      have version := follows.traced (.relies (.asked (asks_of_pipeline found))) same
      exact sound.not_runs current rfl (fun _ h => h)
        ⟨n, p, found, lineage.id_eq version own⟩
    · intro entry
      rcases follows.minded entry with handled | ⟨_, current', carried⟩
      · exact unhandled handled
      · obtain rfl := Option.some.inj (current.symm.trans current')
        exact carried
  | _ => cases finished

end Session

end StreamOperator
