import StreamOperator.Proofs.Reconcile.World

/-!
# The steps of runs

All that one step of a run can do: `Run.Went` has one case for each outcome. From it is read off which
commands are under way after a step (`Went.commands`), that only a run that was told to stop ends well
(`Went.told`), and that what subscriptions leave alone changes by commands only (`Went.kept_or_handled`).
-/

set_option autoImplicit false

namespace StreamOperator

namespace Run

variable {α : Type} {r r' : Run α} {h : Handler Cluster} {cancelled : Bool} {k k' : Cluster}
  {stage stage' : RunStage α}

theorem result?_eq_some_iff {result : Except Failure Unit} :
    r.result? = some result ↔ r.stage = .ended result := by
  unfold result?
  cases r.stage <;> simp

/-- The outcomes of a step, from the stage before it to the stage and the cluster after it. -/
inductive Went (r : Run α) (h : Handler Cluster) (cancelled : Bool) (k : Cluster) :
    RunStage α → RunStage α → Cluster → Prop where
  | subscribed {ticket : Nat} {k' : Cluster}
      (opened : r.feed.subscribe r.capacity k = (.ok ticket, k')) :
      Went r h cancelled k .subscribing (.idle ticket) k'
  | refused {e : Failure} {k' : Cluster}
      (failed : r.feed.subscribe r.capacity k = (.error e, k')) :
      Went r h cancelled k .subscribing (.ended (.error e)) k'
  | stopped {ticket : Nat} (told : cancelled = true) :
      Went r h cancelled k (.idle ticket) (.ended (.ok ())) (r.feed.leave ticket k)
  | took {ticket : Nat} {event : Event α} {k' : Cluster}
      (item : r.feed.take ticket k = (.item (.ok event), k')) :
      Went r h cancelled k (.idle ticket) (.received ticket event) k'
  /-- The subscription delivers a failure, or has ended. -/
  | lost {ticket : Nat} {delivery : Delivery α} {e : Failure} {k' : Cluster}
      (taken : r.feed.take ticket k = (delivery, k')) :
      Went r h cancelled k (.idle ticket) (r.afterItem ticket (.error e) k').1.stage
        (r.afterItem ticket (.error e) k').2
  | dropped {ticket : Nat} {event : Event α} :
      Went r h cancelled k (.received ticket event) (.idle ticket) k
  | decided {ticket : Nat} {event : Event α} {commands : List Command} {k' : Cluster}
      (planned : r.reconciler.plan h.api event k = (.ok commands, k')) :
      Went r h cancelled k (.received ticket event) (.executing ticket commands) k'
  | undecided {ticket : Nat} {event : Event α} {e : Failure} {k' : Cluster}
      (failed : r.reconciler.plan h.api event k = (.error e, k')) :
      Went r h cancelled k (.received ticket event) (r.afterItem ticket (.error e) k').1.stage
        (r.afterItem ticket (.error e) k').2
  | finished {ticket : Nat} : Went r h cancelled k (.executing ticket []) (.idle ticket) k
  | handled {ticket : Nat} {command : Command} {rest : List Command} {k' : Cluster}
      (done : h.handle command k = (.ok (), k')) :
      Went r h cancelled k (.executing ticket (command :: rest)) (.executing ticket rest) k'
  | unhandled {ticket : Nat} {command : Command} {rest : List Command} {e : Failure} {k' : Cluster}
      (failed : h.handle command k = (.error e, k')) :
      Went r h cancelled k (.executing ticket (command :: rest))
        (r.afterItem ticket (.error e) k').1.stage (r.afterItem ticket (.error e) k').2

/-- What a run is for does not depend on where it stands or what it remembers. -/
def SamePurpose (r r' : Run α) : Prop := r'.reconciler = r.reconciler ∧ r'.feed = r.feed

theorem samePurpose_afterItem (ticket : Nat) (result : Except Failure Unit) (k : Cluster) :
    r.SamePurpose (r.afterItem ticket result k).1 := by
  unfold afterItem
  split <;> exact ⟨rfl, rfl⟩

/-- What follows an item depends on the purpose of the run alone. -/
theorem SamePurpose.afterItem (same : r.SamePurpose r') (ticket : Nat) (result : Except Failure Unit)
    (k : Cluster) : (r'.afterItem ticket result k).1.stage = (r.afterItem ticket result k).1.stage ∧
      (r'.afterItem ticket result k).2 = (r.afterItem ticket result k).2 := by
  obtain ⟨-, feed⟩ := same
  unfold Run.afterItem
  rw [feed]
  split <;> exact ⟨rfl, rfl⟩

/-- A step that ends with a failed item. -/
theorem afterItem_eq {ticket : Nat} {result : Except Failure Unit}
    (taken : some (r.afterItem ticket result k) = some (r', k')) :
    r' = (r.afterItem ticket result k).1 ∧ k' = (r.afterItem ticket result k).2 := by
  rw [Option.some.inj taken]
  exact ⟨rfl, rfl⟩

theorem went_of_step (taken : r.step h cancelled k = some (r', k')) :
    r.SamePurpose r' ∧ r.Went h cancelled k r.stage r'.stage k' := by
  cases standing : r.stage with
  | subscribing =>
    simp only [step, standing] at taken
    split at taken
    · rename_i opened
      cases taken
      exact ⟨⟨rfl, rfl⟩, .subscribed opened⟩
    · rename_i failed
      cases taken
      exact ⟨⟨rfl, rfl⟩, .refused failed⟩
  | idle ticket =>
    simp only [step, standing] at taken
    split at taken
    · rename_i told
      cases taken
      exact ⟨⟨rfl, rfl⟩, .stopped told⟩
    · split at taken
      · cases taken
      · rename_i item
        cases taken
        exact ⟨⟨rfl, rfl⟩, .took item⟩
      · rename_i item
        obtain ⟨rfl, rfl⟩ := afterItem_eq taken
        exact ⟨samePurpose_afterItem _ _ _, .lost item⟩
      · rename_i item
        obtain ⟨rfl, rfl⟩ := afterItem_eq taken
        exact ⟨samePurpose_afterItem _ _ _, .lost item⟩
  | received ticket event =>
    simp only [step, standing] at taken
    split at taken
    · cases taken
      exact ⟨⟨rfl, rfl⟩, .dropped⟩
    · split at taken
      · rename_i planned
        cases taken
        exact ⟨⟨rfl, rfl⟩, .decided planned⟩
      · rename_i e after failed
        obtain ⟨rfl, rfl⟩ := afterItem_eq taken
        have purpose : r.SamePurpose { r with
            dedup := (r.dedup.filter 0 r.reconciler.kind (r.reconciler.metadata event.resource)).2
            stage := .received ticket event } := ⟨rfl, rfl⟩
        obtain ⟨sameStage, sameCluster⟩ := purpose.afterItem ticket (.error e) after
        rw [sameStage, sameCluster]
        exact ⟨samePurpose_afterItem _ _ _, .undecided failed⟩
  | executing ticket commands =>
    cases commands with
    | nil =>
      simp only [step, standing] at taken
      cases taken
      exact ⟨⟨rfl, rfl⟩, .finished⟩
    | cons command rest =>
      simp only [step, standing] at taken
      split at taken
      · rename_i done
        cases taken
        exact ⟨⟨rfl, rfl⟩, .handled done⟩
      · rename_i failed
        obtain ⟨rfl, rfl⟩ := afterItem_eq taken
        exact ⟨samePurpose_afterItem _ _ _, .unhandled failed⟩
  | ended result => simp [step, standing] at taken

/-! ## What a step leaves -/

/-- After an item a run waits or has failed: there is nothing left to do. -/
theorem afterItem_stage (ticket : Nat) (result : Except Failure Unit) (k : Cluster) :
    (r.afterItem ticket result k).1.stage = .idle ticket ∨
      ∃ e, (r.afterItem ticket result k).1.stage = .ended (.error e) := by
  unfold afterItem
  split
  · exact .inr ⟨_, rfl⟩
  · exact .inl rfl

theorem commands_afterItem (ticket : Nat) (result : Except Failure Unit) (k : Cluster) :
    (r.afterItem ticket result k).1.stage.commands = [] := by
  rcases r.afterItem_stage ticket result k with idle | ⟨e, ended⟩
  · rw [idle]
    rfl
  · rw [ended]
    rfl

/-- A command that is under way was so before, or the step decided on it. -/
theorem Went.commands (went : r.Went h cancelled k stage stage' k') {command : Command}
    (left : command ∈ stage'.commands) : command ∈ stage.commands ∨
      ∃ ticket event commands k', stage = .received ticket event ∧
        r.reconciler.plan h.api event k = (.ok commands, k') ∧ command ∈ commands := by
  cases went with
  | decided planned => exact .inr ⟨_, _, _, _, rfl, planned, left⟩
  | handled => exact .inl (List.mem_cons_of_mem _ left)
  | lost | undecided | unhandled =>
    rw [commands_afterItem] at left
    cases left
  | _ => cases left

/-- A run ends well only when it was told to stop. -/
theorem Went.told (went : r.Went h cancelled k stage stage' k') (ended : stage' = .ended (.ok ())) :
    cancelled = true := by
  have failed : ∀ ticket result k, (r.afterItem ticket result k).1.stage ≠ .ended (.ok ()) := by
    intro ticket result k same
    rcases r.afterItem_stage ticket result k with idle | ⟨e, failed⟩
    · rw [idle] at same
      cases same
    · rw [failed] at same
      cases same
  cases went with
  | stopped told => exact told
  | lost | undecided | unhandled => exact absurd ended (failed _ _ _)
  | _ => cases ended

/-- A subscription and the decisions on its events leave a part of the cluster alone. -/
structure Leaves {β : Type} (r : Run α) (part : Cluster → β) : Prop where
  subscribe : ∀ k, part (r.feed.subscribe r.capacity k).2 = part k
  take : ∀ ticket k, part (r.feed.take ticket k).2 = part k
  leave : ∀ ticket k, part (r.feed.leave ticket k) = part k
  plan : ∀ event, (r.reconciler.plan Cluster.api event).Reads

section

variable {β : Type} {part : Cluster → β}

/-- What is computed of such a part is left alone too. -/
theorem Leaves.map {γ : Type} (leaves : r.Leaves part) (f : β → γ) : r.Leaves fun k => f (part k) where
  subscribe k := congrArg f (leaves.subscribe k)
  take ticket k := congrArg f (leaves.take ticket k)
  leave ticket k := congrArg f (leaves.leave ticket k)
  plan := leaves.plan

theorem Leaves.afterItem (leaves : r.Leaves part) (ticket : Nat) (result : Except Failure Unit)
    (k : Cluster) : part (r.afterItem ticket result k).2 = part k := by
  unfold Run.afterItem
  split
  · exact leaves.leave ticket k
  · rfl

/-- Such a part changes by carrying out the next command only. -/
theorem Went.kept_or_handled (went : r.Went h cancelled k stage stage' k') (leaves : r.Leaves part)
    (inMemory : h.api = Cluster.api) : part k' = part k ∨
      ∃ ticket command rest, stage = .executing ticket (command :: rest) ∧
        part k' = part (h.handle command k).2 := by
  cases went with
  | subscribed opened =>
    have kept := leaves.subscribe k
    rw [opened] at kept
    exact .inl kept
  | refused failed =>
    have kept := leaves.subscribe k
    rw [failed] at kept
    exact .inl kept
  | stopped => exact .inl (leaves.leave _ k)
  | @took ticket _ _ item =>
    have kept := leaves.take ticket k
    rw [item] at kept
    exact .inl kept
  | @lost ticket _ _ _ taken =>
    have kept := leaves.take ticket k
    rw [taken] at kept
    exact .inl ((leaves.afterItem _ _ _).trans kept)
  | dropped | finished => exact .inl rfl
  | @decided _ event _ _ planned =>
    have kept := leaves.plan event k
    rw [← inMemory, planned] at kept
    exact .inl (congrArg part kept)
  | @undecided _ event _ _ failed =>
    have kept := leaves.plan event k
    rw [← inMemory, failed] at kept
    exact .inl ((leaves.afterItem _ _ _).trans (congrArg part kept))
  | handled done =>
    refine .inr ⟨_, _, _, rfl, ?_⟩
    rw [done]
  | unhandled failed =>
    refine .inr ⟨_, _, _, rfl, ?_⟩
    rw [failed]
    exact leaves.afterItem _ _ _

end

end Run

end StreamOperator
