import StreamOperator.Proofs.Supervisor.ClassLife
import StreamOperator.Proofs.Supervisor.Progress

/-!
# Edits of the kind of a stream class

The id under which a class is attached and the key under which it is registered are computed from the
kind its specification names. When an edit changes the kind, the handle or the entry of the version
before is not found any more and stays behind: two pipelines of one resource run (`exists_two_handles`),
or an entry outlives the deletion (`exists_stale_entry`). With the invariant for versions of one kind
this says for which edits one pipeline at most belongs to the resource
(`one_pipeline_for_resource_iff`).
-/

set_option autoImplicit false

namespace StreamOperator

namespace Session

variable {w v u : Session} {c : StreamClass} {events : List (Event StreamClass)} {s : Supervisor}
  {k : Cluster} {type : EventType} {handle : Handle} {call : Option Call} {n : Nat}

/-! ## Ways a call can go -/

/-- The call for the last event goes on by its own steps. -/
theorem Processed.goes (before : w.Processed events v) (goes : Goes "" v u) :
    w.Processed events u := by
  induction goes with
  | refl => exact before
  | tail _ last ih =>
    cases last with
    | taken current taken => exact ih.turn (.call current taken)

/-- The event of a class that was not deleted asks for its attaching. -/
theorem Processed.attaching (before : w.Processed events v) (idle : v.IsIdle) (kept : type ≠ .deleted) :
    w.Processed (events ++ [⟨type, c⟩]) { v with call := some (.ofAttach c) } := by
  have taken := before.taken idle ⟨type, c⟩
  have call : Event.classCall ⟨type, c⟩ = .ofAttach c := by
    cases type with
    | added | modified => rfl
    | deleted => exact absurd rfl kept
  rw [call] at taken
  exact taken

/-- A class whose id is free is attached. -/
theorem Processed.attached {registry : ClassRegistry} (before : w.Processed events v)
    (idle : v.IsIdle) (running : v.supervisor.stopped = false) (kept : type ≠ .deleted)
    (free : Table.get? c.id v.supervisor.handles = none)
    (inserted : v.supervisor.registry.insert c = .ok registry) :
    ∃ k, w.Processed (events ++ [⟨type, c⟩])
      ⟨{ v.supervisor with registry := registry }.spawn c false, some (.attach c (.done (.ok ()))), k⟩ := by
  obtain ⟨k, attached⟩ := exists_attached running free inserted
  exact ⟨k, (before.attaching idle kept).goes attached⟩

/-- A class whose id another generation holds waits for the pipeline of the handle. -/
theorem Processed.displacing (before : w.Processed events v) (idle : v.IsIdle)
    (running : v.supervisor.stopped = false) (kept : type ≠ .deleted)
    (found : Table.get? c.id v.supervisor.handles = some handle)
    (outdated : handle.generation ≠ c.metadata.generation) :
    w.Processed (events ++ [⟨type, c⟩])
      ⟨v.supervisor.revoke c.id handle, some (.attach c (.awaiting handle.seq)), v.cluster⟩ := by
  have claiming := (before.attaching (c := c) idle kept).goes (goes_claiming running)
  exact claiming.goes (goes_awaiting found fun same => outdated same.1)

/-- The deletion of a class without a handle does nothing. -/
theorem Processed.ignored (before : w.Processed events v) (idle : v.IsIdle)
    (free : Table.get? c.id v.supervisor.handles = none) :
    w.Processed (events ++ [⟨.deleted, c⟩])
      ⟨v.supervisor, some (.detach c .done), v.cluster⟩ :=
  (before.taken idle ⟨.deleted, c⟩).goes (goes_undetached free)

/-- The steps of a pipeline go on while the call waits. -/
theorem Processed.drives {t : Supervisor} {k' : Cluster} (before : w.Processed events ⟨s, call, k⟩)
    (drives : s.Drives n k t k') : w.Processed events ⟨t, call, k'⟩ := by
  induction drives with
  | refl => exact before
  | head taken _ ih => exact ih (before.turn (.pipeline taken))

/-! ## What an edit of the kind leaves behind -/

/-- A supervisor without classes, with room for some kinds. -/
def vacant (capacity : Nat) : Session := ⟨.create capacity 1 0 1, none, {}⟩

theorem vacant_reachable (capacity : Nat) : (vacant capacity).Reachable :=
  ⟨_, ⟨rfl, capacity, 1, 0, 1, rfl⟩, .refl⟩

theorem vacant_idle (capacity : Nat) : (vacant capacity).IsIdle := by
  intro call current
  cases current

theorem vacant_without (capacity : Nat) (ref : ClassRef) : (vacant capacity).Without ref := by
  refine ⟨?_, ?_, ?_⟩
  · rintro ⟨id, c, found, -⟩
    cases found
  · intro n p found
    cases found
  · rintro ⟨kind, c, found, -⟩
    cases found

/-- The registry with one class. -/
def holding (capacity : Nat) (u : StreamClass) : ClassRegistry :=
  ⟨max capacity 1, Dictionary.empty.insert u.spec.kindRef u⟩

theorem get?_holding (capacity : Nat) (u : StreamClass) (kind : String) :
    (holding capacity u).get? kind = if kind = u.spec.kindRef then some u else none := by
  rw [ClassRegistry.get?, holding, Dictionary.get?_insert]
  rfl

/-- The supervisor to which one class was attached. -/
def sole (capacity : Nat) (u : StreamClass) : Supervisor :=
  { (vacant capacity).supervisor with registry := holding capacity u }.spawn u false

/-- The first class is attached. -/
theorem vacant_attached (capacity : Nat) (u : StreamClass) :
    ∃ k, (vacant capacity).Processed [⟨.added, u⟩]
      ⟨sole capacity u, some (.attach u (.done (.ok ()))), k⟩ := by
  have room : (vacant capacity).supervisor.registry.size <
      (vacant capacity).supervisor.registry.capacity :=
    Nat.lt_of_lt_of_le Nat.zero_lt_one (Nat.le_max_right _ _)
  exact Processed.attached .start (vacant_idle capacity) rfl nofun rfl
    (ClassRegistry.insert_of_room rfl room)

theorem idle_of_attached {result : Except Failure Unit} :
    IsIdle ⟨s, some (.attach c (.done result)), k⟩ := by
  intro call current
  cases current
  rfl

/-- When an edit changes the id, the version before stays attached beside the new one. -/
theorem exists_two_handles (u v : StreamClass) (kinds : v.spec.kindRef ≠ u.spec.kindRef)
    (ids : v.id ≠ u.id) : ∃ x, (vacant 2).Processed [⟨.added, u⟩, ⟨.modified, v⟩] x ∧
      x.supervisor.class? u.id = some u ∧ x.supervisor.class? v.id = some v := by
  obtain ⟨k, first⟩ := vacant_attached 2 u
  have free : (holding 2 u).get? v.spec.kindRef = none := by rw [get?_holding, if_neg kinds]
  have room : (holding 2 u).size < (holding 2 u).capacity := Nat.lt_succ_self 1
  have unhandled : Table.get? v.id (sole 2 u).handles = none :=
    (Supervisor.handle?_spawn _ _).trans (if_neg ids)
  obtain ⟨k', second⟩ := first.attached idle_of_attached rfl
    (show EventType.modified ≠ .deleted from nofun) unhandled (ClassRegistry.insert_of_room free room)
  refine ⟨_, second, ?_, ?_⟩
  · rw [Supervisor.class?_spawn, if_neg ids.symm]
    exact (Supervisor.class?_spawn _ _).trans (if_pos rfl)
  · rw [Supervisor.class?_spawn, if_pos rfl]

/-- When an edit does not change the id, the pipeline of the version before ends and its handle goes
before the new version is registered. -/
theorem exists_displaced (capacity : Nat) (u v : StreamClass) (ids : v.id = u.id)
    (differs : u.metadata.generation ≠ v.metadata.generation) :
    ∃ t k, (vacant capacity).Processed [⟨.added, u⟩, ⟨.modified, v⟩]
        ⟨t, some (.attach v .registering), k⟩ ∧
      t.registry = holding capacity u ∧ Table.get? v.id t.handles = none := by
  obtain ⟨k, first⟩ := vacant_attached capacity u
  have tidy := ((vacant_reachable capacity).reaches first.reaches).sound.tidy
  have handled : Table.get? v.id (sole capacity u).handles = some ⟨u, u.metadata.generation, 0⟩ :=
    (Supervisor.handle?_spawn _ _).trans (if_pos ids)
  have displaced := first.displacing idle_of_attached rfl
    (show EventType.modified ≠ .deleted from nofun) handled differs
  obtain ⟨t, k', drives, ended, registry, free⟩ :=
    ((vacant_reachable capacity).reaches displaced.reaches).exists_awaited tidy
  exact ⟨t, k', (displaced.drives drives).goes (goes_awaited ended), registry, free⟩

/-- When an edit changes the kind but not the id, the entry of the version before outlives the deletion. -/
theorem exists_stale_entry (u v : StreamClass) (kinds : v.spec.kindRef ≠ u.spec.kindRef)
    (ids : v.id = u.id) (differs : u.metadata.generation ≠ v.metadata.generation) :
    ∃ x, (vacant 1).Processed [⟨.added, u⟩, ⟨.modified, v⟩, ⟨.deleted, v⟩] x ∧ x.IsIdle ∧
      x.supervisor.registry.get? u.spec.kindRef = some u := by
  obtain ⟨t, k, registering, registry, unhandled⟩ := exists_displaced 1 u v ids differs
  have free : t.registry.get? v.spec.kindRef = none := by
    rw [registry, get?_holding, if_neg kinds]
  have full : t.registry.capacity ≤ t.registry.size := by
    rw [registry]
    exact Nat.le_refl 1
  obtain ⟨e, refused⟩ := ClassRegistry.insert_of_full free full
  obtain ⟨k', goes⟩ := exists_refused refused
  have failed := registering.goes goes
  refine ⟨_, failed.ignored idle_of_attached unhandled, ?_, ?_⟩
  · intro call current
    cases current
    rfl
  · rw [registry, get?_holding, if_pos rfl]

/-- When an edit changes neither the id nor the kind, the new version takes the place of the old one. -/
theorem exists_replaced (u v : StreamClass) (kinds : v.spec.kindRef = u.spec.kindRef)
    (ids : v.id = u.id) (differs : u.metadata.generation ≠ v.metadata.generation) :
    ∃ x, (vacant 2).Processed [⟨.added, u⟩, ⟨.modified, v⟩] x ∧ x.IsIdle ∧
      x.supervisor.class? v.id = some v := by
  obtain ⟨t, k, registering, registry, unhandled⟩ := exists_displaced 2 u v ids differs
  have serving : t.registry.get? v.spec.kindRef = some u := by
    rw [registry, get?_holding, if_pos kinds]
  obtain ⟨k', goes⟩ := exists_installed unhandled
    (ClassRegistry.insert_of_serving serving ids.symm)
  refine ⟨_, registering.goes goes, idle_of_attached, ?_⟩
  rw [Supervisor.class?_spawn, if_pos rfl]

/-! ## Which edits are harmless -/

/-- What an event of a resource is to leave behind: after a deletion nothing of the resource, else no
handle of it but for the specification that was processed last. -/
def Settled (w : Session) (ref : ClassRef) (last : Event StreamClass) : Prop :=
  if last.type = .deleted then w.Without ref
  else ∀ id c, w.supervisor.class? id = some c → c.reference = ref → c.spec = last.resource.spec

variable {ref : ClassRef} {kind : String} {versions : StreamClass → Prop}

/-- For versions of one kind the events leave behind what they are to. -/
theorem Processed.settled {last : Event StreamClass} (processed : w.Processed events v)
    (lineage : Lineage ref kind versions) (reachable : v.Reachable) (follows : Follows ref versions v)
    (own : ∀ event ∈ events, versions event.resource) (idle : v.IsIdle)
    (ended : events.getLast? = some last) : v.Settled ref last := by
  have version := own last (List.mem_of_getLast? ended)
  have answers := processed.answers ended
  unfold Settled
  split
  · rename_i deleted
    exact follows.without lineage reachable version idle answers deleted
  · rename_i kept
    intro id c found same
    exact follows.latest (lineage.named version) idle answers kept found same

/-- An edit from one version to a later one, with another kind, is not harmless. -/
theorem exists_unsettled (u v : StreamClass) (kinds : v.spec.kindRef ≠ u.spec.kindRef)
    (sameResource : u.reference = v.reference)
    (differs : u.metadata.generation ≠ v.metadata.generation) :
    (∃ x, (vacant 2).Processed [⟨.added, u⟩, ⟨.modified, v⟩] x ∧
      x.supervisor.class? u.id = some u ∧ x.supervisor.class? v.id = some v ∧ u.id ≠ v.id) ∨
    ∃ x, (vacant 1).Processed [⟨.added, u⟩, ⟨.modified, v⟩, ⟨.deleted, v⟩] x ∧ x.IsIdle ∧
      ¬ x.Without v.reference := by
  by_cases ids : v.id = u.id
  · obtain ⟨x, processed, idle, stale⟩ := exists_stale_entry u v kinds ids differs
    exact .inr ⟨x, processed, idle, fun without => without.unregistered ⟨_, u, stale, sameResource⟩⟩
  · obtain ⟨x, processed, first, second⟩ := exists_two_handles u v kinds ids
    exact .inl ⟨x, processed, first, second, Ne.symm ids⟩

/-- Versions in an order of their generations that name one kind are a lineage. -/
theorem exists_lineage (named : ∀ c, versions c → c.reference = ref)
    (ordered : ∀ u v, versions u → versions v → u.Precedes v ∨ v.Precedes u)
    (kinds : ∀ u v, versions u → versions v → u.spec.kindRef = v.spec.kindRef) :
    ∃ kind, Lineage ref kind versions := by
  have spec_eq : ∀ {c d}, versions c → versions d →
      c.metadata.generation = d.metadata.generation → c.spec = d.spec := by
    intro c d own own' same
    rcases ordered c d own own' with ⟨g, h, hg, hh, -, specs⟩ | ⟨g, h, hg, hh, -, specs⟩
    · exact specs (Option.some.inj (hg.symm.trans (same.trans hh)))
    · exact (specs (Option.some.inj (hg.symm.trans (same.symm.trans hh)))).symm
  by_cases any : ∃ u, versions u
  · obtain ⟨u, own⟩ := any
    exact ⟨u.spec.kindRef, fun own => named _ own, fun own' => kinds _ _ own' own, spec_eq⟩
  · exact ⟨"", fun own => named _ own, fun own => absurd ⟨_, own⟩ any, spec_eq⟩

/-- Whatever versions of a resource are processed, from whatever session without it: the resource has
one pipeline attached at most, which is that of the latest specification, and none and no entry after
the deletion, if and only if all versions name one kind. -/
theorem one_pipeline_for_resource_iff (named : ∀ c, versions c → c.reference = ref)
    (ordered : ∀ u v, versions u → versions v → u.Precedes v ∨ v.Precedes u) :
    (∀ (w : Session) (events : List (Event StreamClass)) (v : Session), w.Reachable → w.IsIdle →
      w.supervisor.stopped = false → w.Without ref → (∀ event ∈ events, versions event.resource) →
      events.Pairwise (fun a b => a.resource.Precedes b.resource) → w.Processed events v →
      (∀ id id' c c', v.supervisor.class? id = some c → v.supervisor.class? id' = some c' →
        c.reference = ref → c'.reference = ref → id = id') ∧
      (v.IsIdle → ∀ last, events.getLast? = some last → v.Settled ref last)) ↔
    ∀ u v, versions u → versions v → u.spec.kindRef = v.spec.kindRef := by
  constructor
  · intro safe
    -- The counterexamples go from an earlier version to a later one.
    have forward : ∀ u v, versions u → versions v → u.Precedes v →
        u.spec.kindRef = v.spec.kindRef := by
      intro u v own own' before
      by_contra kinds
      have again : v.Precedes v := (ordered v v own' own').elim id id
      have sameResource : u.reference = v.reference := (named u own).trans (named v own').symm
      have differs : u.metadata.generation ≠ v.metadata.generation := by
        intro same
        obtain ⟨g, h, hg, hh, -, specs⟩ := before
        rw [specs (Option.some.inj (hg.symm.trans (same.trans hh)))] at kinds
        exact kinds rfl
      rcases exists_unsettled u v (Ne.symm kinds) sameResource differs with
        ⟨x, processed, first, second, ids⟩ | ⟨x, processed, idle, left⟩
      · have single := (safe (vacant 2) _ x (vacant_reachable 2) (vacant_idle 2) rfl
          (vacant_without 2 ref) (by simp [own, own']) (by simp [before]) processed).1
        exact ids (single _ _ _ _ first second (named u own) (named v own'))
      · have settled := (safe (vacant 1) _ x (vacant_reachable 1) (vacant_idle 1) rfl
          (vacant_without 1 ref) (by simp [own, own']) (by simp [before, again]) processed).2 idle
            ⟨.deleted, v⟩ rfl
        rw [Settled, if_pos rfl, ← named v own'] at settled
        exact left settled
    intro u v own own'
    rcases ordered u v own own' with before | before
    · exact forward u v own own' before
    · exact (forward v u own' own before).symm
  · intro kinds w events v reachable idle running without own _ processed
    obtain ⟨kind, lineage⟩ := exists_lineage named ordered kinds
    have reachable' := reachable.reaches processed.reaches
    have follows := processed.follows lineage reachable idle running without own
    refine ⟨fun id id' c c' => follows.single lineage reachable'.matched, ?_⟩
    intro idle' last ended
    exact processed.settled lineage reachable' follows own idle' ended

/-! ## An edit in practice -/

/-- The class after an edit of its capacity. -/
def enlarged : StreamClass :=
  { sqlServer with
    metadata.generation := some 2
    spec.maxBufferCapacity := 128 }

/-- The class after an edit of its kind. -/
def retargeted : StreamClass :=
  { sqlServer with
    metadata.generation := some 2
    spec.kindRef := "KafkaStream" }

/-- A version of the class before or after the edit of its capacity. -/
def IsVersion (c : StreamClass) : Prop := c = sqlServer ∨ c = enlarged

theorem precedes_of_isVersion (u v : StreamClass) (own : IsVersion u) (own' : IsVersion v) :
    u.Precedes v ∨ v.Precedes u := by
  rcases own with rfl | rfl <;> rcases own' with rfl | rfl
  · exact .inl ⟨1, 1, rfl, rfl, by decide, fun _ => rfl⟩
  · exact .inl ⟨1, 2, rfl, rfl, by decide, by decide⟩
  · exact .inr ⟨1, 2, rfl, rfl, by decide, by decide⟩
  · exact .inl ⟨2, 2, rfl, rfl, by decide, fun _ => rfl⟩

/-- After an edit of another field only the pipeline of the edited class is left. -/
theorem edit_of_capacity_is_harmless : ∃ v,
    (vacant 2).Processed [⟨.added, sqlServer⟩, ⟨.modified, enlarged⟩] v ∧ v.IsIdle ∧
      v.supervisor.class? enlarged.id = some enlarged ∧
      ∀ id c, v.supervisor.class? id = some c → c.reference = sqlServer.reference → id = enlarged.id := by
  have named : ∀ c, IsVersion c → c.reference = sqlServer.reference := by
    rintro c (rfl | rfl) <;> rfl
  have kinds : ∀ u v, IsVersion u → IsVersion v → u.spec.kindRef = v.spec.kindRef := by
    rintro u v (rfl | rfl) (rfl | rfl) <;> rfl
  have first : sqlServer.Precedes enlarged := ⟨1, 2, rfl, rfl, by decide, by decide⟩
  obtain ⟨v, processed, idle, attached⟩ := exists_replaced sqlServer enlarged rfl rfl (by decide)
  have safe := (one_pipeline_for_resource_iff named precedes_of_isVersion).2 kinds
  have single := (safe (vacant 2) _ v (vacant_reachable 2) (vacant_idle 2) rfl (vacant_without 2 _)
    (by simp [IsVersion]) (by simp [first]) processed).1
  exact ⟨v, processed, idle, attached, fun id c found own => single _ _ _ _ found attached own rfl⟩

/-- An edit of the kind leaves the pipeline of the old kind attached beside the new one. -/
theorem edit_of_kind_leaves_two_pipelines : sqlServer.reference = retargeted.reference ∧
    sqlServer.Precedes retargeted ∧ (vacant 2).Reachable ∧
    (vacant 2).Without sqlServer.reference ∧
    ∃ v, (vacant 2).Processed [⟨.added, sqlServer⟩, ⟨.modified, retargeted⟩] v ∧
      v.supervisor.class? "streaming-sqlserverstream" = some sqlServer ∧
      v.supervisor.class? "streaming-kafkastream" = some retargeted := by
  have ids : sqlServer.id = "streaming-sqlserverstream" ∧ retargeted.id = "streaming-kafkastream" := by
    decide +kernel
  obtain ⟨v, processed, first, second⟩ := exists_two_handles sqlServer retargeted (by decide)
    (by rw [ids.1, ids.2]; decide)
  rw [ids.1] at first
  rw [ids.2] at second
  exact ⟨rfl, ⟨1, 2, rfl, rfl, by decide, by decide⟩, vacant_reachable 2, vacant_without 2 _, v,
    processed, first, second⟩

end Session

end StreamOperator
