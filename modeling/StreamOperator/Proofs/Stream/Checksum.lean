import StreamOperator.Proofs.Handler.Outcomes
import StreamOperator.Proofs.Json.Canonical
import StreamOperator.Proofs.Reconcile.World

/-!
# What a checksum tells of a payload

The canonical text of a payload identifies it, whatever the order of its fields: the canonical form
decides equality of values (`Json.canonical_eq_iff`) and a text has one value (`Json.render_inj`). The
hexadecimal digits of a digest identify its bytes, so that only the digest itself could confuse two
payloads. Where it does not (`Digest.TellsApart`), a job that runs is asked to restart exactly if the
payload is another one than the one it was built from (`checksum_identifies_payload`).
-/

set_option autoImplicit false

namespace StreamOperator

/-! ## Digests in hexadecimal digits -/

namespace Digest

/-- The digest has no collision on two texts. -/
def TellsApart (s t : String) : Prop :=
  sha256 s.toUTF8.toList = sha256 t.toUTF8.toList → s = t

theorem digitChar_inj : ∀ n < 16, ∀ m < 16, Nat.digitChar n = Nat.digitChar m → n = m := by
  decide

/-- Two digits have one byte. -/
theorem hexByte_inj {x y : UInt8} (same : hexByte x = hexByte y) : x = y := by
  have below := x.toNat_lt
  have below' := y.toNat_lt
  simp only [hexByte, List.cons.injEq, and_true] at same
  have high := digitChar_inj _ (by omega) _ (by omega) same.1
  have low := digitChar_inj _ (by omega) _ (by omega) same.2
  exact UInt8.toNat_inj.1 (by omega)

theorem hexBytes_inj {xs ys : List UInt8} (same : xs.flatMap hexByte = ys.flatMap hexByte) :
    xs = ys := by
  induction xs generalizing ys with
  | nil =>
    cases ys with
    | nil => rfl
    | cons y ys => simp [hexByte] at same
  | cons x xs ih =>
    cases ys with
    | nil => simp [hexByte] at same
    | cons y ys =>
      rw [List.flatMap_cons, List.flatMap_cons] at same
      obtain ⟨first, rest⟩ := List.append_inj same rfl
      rw [hexByte_inj first, ih rest]

/-- The digits of a digest are as good as its bytes. -/
theorem sha256Hex_inj {s t : String} (apart : TellsApart s t) : sha256Hex s = sha256Hex t ↔ s = t :=
  ⟨fun same => apart (hexBytes_inj (String.ofList_inj.1 same)), fun same => by rw [same]⟩

end Digest

/-! ## Payloads -/

variable {a b : Json}

/-- Two payloads have the same canonical text exactly if they are the same. -/
theorem Json.canonicalText_inj (plain : a.isFloatFree = true) (plain' : b.isFloatFree = true) :
    a.canonical.render = b.canonical.render ↔ Json.Same a b := by
  rw [render_inj (isFloatFree_canonical a plain) (isFloatFree_canonical b plain'), canonical_eq_iff]

theorem configurationChecksum_inj (plain : a.isFloatFree = true) (plain' : b.isFloatFree = true)
    (apart : Digest.TellsApart a.canonical.render b.canonical.render) :
    configurationChecksum a = configurationChecksum b ↔ Json.Same a b := by
  rw [configurationChecksum, configurationChecksum, Digest.sha256Hex_inj apart,
    Json.canonicalText_inj plain plain']

/-! ## Jobs -/

/-- The job was built from a payload, and its checksum has not changed since. -/
def Job.BuiltFrom (job : Job) (payload : Json) : Prop :=
  ∃ (earlier : Definition) (template : StreamTemplate) (backfilling : Bool) (fields : List String)
    (made : Job), Job.build template earlier.view earlier.coordinates backfilling fields = .ok made ∧
      earlier.payload = payload ∧ job.checksum? = made.checksum?

theorem Job.BuiltFrom.checksum? {job : Job} {payload : Json} (built : job.BuiltFrom payload) :
    job.checksum? = some (configurationChecksum payload) := by
  obtain ⟨earlier, template, backfilling, fields, made, built, rfl, checksum⟩ := built
  rw [checksum, Job.checksum?_build built]
  rfl

/-- A job that runs a stream as it is to run is asked to restart if its checksum is not that of the
definition, and else nothing is done. -/
theorem Definition.react_modified {d : Definition} (job : Job) (unsuspended : d.isSuspended = false)
    (unrequested : d.isReloadRequested = false) : d.react .modified (some job) =
      if job.checksum? = some (configurationChecksum d.payload) then [] else [.requestRestart job] := by
  simp only [react, onModified, unsuspended, unrequested, Bool.false_eq_true, if_false, ite_not]
  rfl

/-- The canonical text identifies a payload, and so does its checksum unless the digest has a collision:
a modified stream's job is asked to restart exactly if it was built from another payload. -/
theorem checksum_identifies_payload (a b : Json) (plain : a.isFloatFree = true)
    (plain' : b.isFloatFree = true) :
    (a.canonical.render = b.canonical.render ↔ Json.Same a b) ∧
    (Json.Same a b → configurationChecksum a = configurationChecksum b) ∧
    (Digest.TellsApart a.canonical.render b.canonical.render →
      (configurationChecksum a = configurationChecksum b ↔ Json.Same a b) ∧
      ∀ (d : Definition) (job : Job), job.BuiltFrom a → d.payload = b → d.isSuspended = false →
        d.isReloadRequested = false →
        (d.react .modified (some job) = [.requestRestart job] ↔ ¬ Json.Same a b) ∧
        (d.react .modified (some job) = [] ↔ Json.Same a b)) := by
  refine ⟨Json.canonicalText_inj plain plain', fun same => ?_, fun apart =>
    ⟨configurationChecksum_inj plain plain' apart, ?_⟩⟩
  · rw [configurationChecksum, configurationChecksum, same.canonical_eq]
  · rintro d job built rfl unsuspended unrequested
    have current : job.checksum? = some (configurationChecksum d.payload) ↔ Json.Same a d.payload := by
      rw [built.checksum?, Option.some_inj, configurationChecksum_inj plain plain' apart]
    rw [Definition.react_modified job unsuspended unrequested, ← current]
    split
    · rename_i unchanged
      simp [unchanged]
    · rename_i changed
      simp [changed]

section Rates

/-- Orders with a rate. -/
def ratedOrders (rate : Json) : Definition where
  resource := { (Orders.definition "1" none).resource with
    data := Dictionary.ofList [("spec", .obj [("rate", rate), ("note", .str "so \"many\"")])] }
  coordinates := Orders.kind

/-- The job of the orders at the rate `1`. -/
theorem exists_rated_job : ∃ job : Job, job.BuiltFrom (ratedOrders (.int 1)).payload :=
  ⟨_, ratedOrders (.int 1), ⟨Orders.template.metadata, { spec := some {} }⟩, false, [], _, rfl, rfl, rfl⟩

/-- A job that was built for the rate `1` is asked to restart for the rate `"1"`. -/
theorem rate_is_told_from_text : ∃ job : Job, job.BuiltFrom (ratedOrders (.int 1)).payload ∧
    (ratedOrders (.str "1")).react .modified (some job) = [.requestRestart job] := by
  obtain ⟨job, built⟩ := exists_rated_job
  have apart : Digest.TellsApart (ratedOrders (.int 1)).payload.canonical.render
      (ratedOrders (.str "1")).payload.canonical.render := fun same => absurd same (by decide +kernel)
  have other : ¬ Json.Same (ratedOrders (.int 1)).payload (ratedOrders (.str "1")).payload := by
    intro same
    cases same with
    | obj keys fields => nomatch fields "rate" (.int 1) (.str "1") rfl rfl
  have drift := (checksum_identifies_payload (ratedOrders (.int 1)).payload
    (ratedOrders (.str "1")).payload (by decide) (by decide)).2.2 apart
  exact ⟨job, built, (drift.2 _ job built rfl (by decide) (by decide)).1.2 other⟩

end Rates

end StreamOperator
