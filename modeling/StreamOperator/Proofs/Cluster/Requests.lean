import StreamOperator.Cluster.Server
import StreamOperator.Proofs.Cluster.Effects

/-!
# What is sent to a server

A text with a plain path and a query names a target with this path (`Target.path_of_ofText`). A patch
succeeds exactly if its request can be built and is answered with something that can be read
(`Server.patch_eq_ok_iff`).
-/

set_option autoImplicit false

namespace StreamOperator

/-! ## Targets -/

namespace Target

theorem isPathChar_eq : isPathChar = fun c => '\x21' ≤ c && !(['#', '<', '>', '?', '`'].contains c) := by
  funext c
  simp [isPathChar, String.contains_char_eq]

theorem isQueryChar_eq : isQueryChar = fun c => '\x21' ≤ c && !(['"', '#', '<', '>'].contains c) := by
  funext c
  simp [isQueryChar, String.contains_char_eq]

theorem plain_append {path part : String} (plain : path.toList.all isPathChar = true)
    (plain' : part.toList.all isPathChar = true) : (path ++ part).toList.all isPathChar = true := by
  rw [String.toList_append, List.all_append, plain, plain']
  rfl

theorem plain_status : "/status".toList.all isPathChar = true := by
  rw [isPathChar_eq]
  decide

variable {path : String} {parameters : List (String × String)} {target : Target}

theorem ne_of_plain (plain : path.toList.all isPathChar = true) {c : Char} (member : c ∈ path.toList) :
    c ≠ '#' ∧ c ≠ '?' := by
  have allowed := List.all_eq_true.1 plain c member
  rw [isPathChar_eq] at allowed
  constructor <;> rintro rfl <;> exact absurd allowed (by decide)

theorem toList_query (parameters : List (String × String)) :
    (query parameters).toList = '?' :: (query parameters).toList.tail := by
  rw [query, String.toList_join]
  rfl

/-- Without a fragment there are the path and the query. -/
theorem takeWhile_append_query (plain : path.toList.all isPathChar = true) :
    (path ++ query parameters).toList.takeWhile (· ≠ '#')
      = path.toList ++ '?' :: (query parameters).toList.tail.takeWhile (· ≠ '#') := by
  have before : ∀ c ∈ path.toList, decide (c ≠ '#') = true := fun c member =>
    decide_eq_true (ne_of_plain plain member).1
  rw [String.toList_append, toList_query, List.takeWhile_append_of_pos before,
    List.takeWhile_cons_of_pos (by decide)]
  rfl

theorem ofText_append_query (plain : path.toList.all isPathChar = true) :
    ofText (path ++ query parameters) =
      if greatestSize < (path ++ query parameters).utf8ByteSize then .error .length
      else
        let asked := (query parameters).toList.tail.takeWhile (· ≠ '#')
        if asked.all isQueryChar then .ok ⟨path, parametersOf asked⟩ else .error .character := by
  have inside : ∀ c ∈ path.toList, decide (c ≠ '?') = true := fun c member =>
    decide_eq_true (ne_of_plain plain member).2
  unfold ofText
  simp only [takeWhile_append_query plain, List.takeWhile_append_of_pos inside,
    List.dropWhile_append_of_pos inside]
  simp [plain]

/-- The path of a target is what stands before its query. -/
theorem path_of_ofText (plain : path.toList.all isPathChar = true)
    (named : ofText (path ++ query parameters) = .ok target) : target.path = path := by
  rw [ofText_append_query plain] at named
  split at named
  · cases named
  · simp only at named
    split at named
    · cases named
      rfl
    · cases named

end Target

/-! ## Replies -/

theorem Reply.read_eq_ok_iff {α : Type} {read : String → Except Json.TextError α} {reply : Reply} {a : α} :
    reply.read read = .ok a ↔ ∃ code text, reply = .answer code text ∧
      reportsFailure code = false ∧ read text = .ok a := by
  cases reply with
  | refused reason => simp [Reply.read]
  | answer code text =>
    rw [Reply.read]
    constructor
    · intro made
      split at made
      · cases made
      · rename_i accepted
        split at made
        · rename_i found
          cases made
          exact ⟨code, text, rfl, Bool.eq_false_iff.2 accepted, found⟩
        · cases made
    · rintro ⟨code, text, ⟨⟩, accepted, found⟩
      rw [if_neg (Bool.eq_false_iff.1 accepted), found]

/-! ## Patches -/

namespace Server

variable {σ α : Type} {s : Server σ} {st st' : σ} {decode : Decoder α} {c : Coordinates}
  {space name part : String} {change : Json}

theorem ask_ok (s : Server σ) (read : String → Except Json.TextError α) (request : Request) (st : σ) :
    s.ask read (.ok request) st = ((s.send request st).1.read read, (s.send request st).2) := by
  have sent : (liftM (s.send request) : Act σ Reply) st
      = (.ok (s.send request st).1, (s.send request st).2) := rfl
  unfold ask
  simp only
  rw [Act.bind_ok sent, Act.ofExcept_apply]

/-- The request of a patch, if it can be built. -/
def patchRequest (s : Server σ) (c : Coordinates) (space name part : String) (change : Json) :
    Except BuildFault Request := do
  requireName name
  let target ← s.writeTarget (c.resourcePath space name ++ part) "PatchParams"
  Request.build .patch target (some (.mergePatch, change))

/-- A patch of what has a name goes to its path. -/
theorem patchRequest_eq_ok_iff {request : Request} :
    s.patchRequest c space name part change = .ok request ↔
      name ≠ "" ∧ s.fieldManager.utf8ByteSize ≤ 128 ∧ ∃ target,
        Target.ofText (c.resourcePath space name ++ part
          ++ Target.query [("fieldManager", s.fieldManager)]) = .ok target ∧
        request = ⟨.patch, target, some (.mergePatch, change)⟩ := by
  unfold patchRequest requireName writeTarget Request.build
  by_cases named : name = ""
  · simp [named, bind, Except.bind]
  by_cases short : s.fieldManager.utf8ByteSize ≤ 128
  · cases made : Target.ofText (c.resourcePath space name ++ part
        ++ Target.query [("fieldManager", s.fieldManager)]) with
    | error fault => simp [named, Nat.not_lt.2 short, bind, Except.bind, made]
    | ok target => simp [named, short, Nat.not_lt.2 short, bind, Except.bind, made, eq_comm]
  · simp [named, short, Nat.not_le.1 short, bind, Except.bind]

/-- A patch succeeds when it can be sent and is answered with something that can be read. -/
theorem patch_eq_ok_iff : s.patch decode c space name part change st = (.ok (), st') ↔
    ∃ request code text a, s.patchRequest c space name part change = .ok request ∧
      s.send request st = (.answer code text, st') ∧ Reply.reportsFailure code = false ∧
      decode.ofText text = .ok a := by
  have applied : s.patch decode c space name part change
      = s.ask decode.ofText (s.patchRequest c space name part change) >>= fun _ => pure () := rfl
  rw [applied]
  cases built : s.patchRequest c space name part change with
  | error fault =>
    simp only [reduceCtorEq, false_and, exists_false, iff_false]
    exact nofun
  | ok request =>
    have asked := s.ask_ok decode.ofText request st
    constructor
    · intro done
      cases read : (s.send request st).1.read decode.ofText with
      | error e =>
        rw [read] at asked
        rw [Act.bind_error asked] at done
        cases done
      | ok a =>
        rw [read] at asked
        rw [Act.bind_ok asked] at done
        obtain ⟨code, text, answered, accepted, found⟩ := Reply.read_eq_ok_iff.1 read
        exact ⟨request, code, text, a, rfl, Prod.ext answered (Prod.mk.inj done).2, accepted, found⟩
    · rintro ⟨_, code, text, a, ⟨⟩, answered, accepted, found⟩
      rw [answered, Reply.read_eq_ok_iff.2 ⟨code, text, rfl, accepted, found⟩] at asked
      exact Act.bind_ok asked

end Server

end StreamOperator
