import StreamOperator.Dictionary
import StreamOperator.Number.Binary64

/-!
# JSON values

A value keeps apart integers and floating-point numbers: `1`, `1.0` and `"1"` are three
values. The fields of an object are a list; a value read from text or put into canonical
form has them sorted by key, each key once (`Json.canonical`). A merge patch describes a change of a
value: an object changes the fields it names, null removes a field, and anything else takes the place of
the value (`Json.mergePatch`).
-/

set_option autoImplicit false

namespace StreamOperator

inductive Json where
  | null
  | bool (value : Bool)
  | int (value : Int)
  | float (value : Binary64)
  | str (value : String)
  | arr (items : List Json)
  | obj (fields : List (String × Json))
  deriving Repr, Inhabited

namespace Json

mutual

/-- Compares two values, floating-point numbers by a given relation. -/
def sameBy (number : Binary64 → Binary64 → Bool) : Json → Json → Bool
  | null, null => true
  | bool a, bool b => a == b
  | int a, int b => a == b
  | float a, float b => number a b
  | str a, str b => a == b
  | arr a, arr b => sameItems number a b
  | obj a, obj b => sameFields number a b
  | _, _ => false

/-- Compares two lists of values. -/
def sameItems (number : Binary64 → Binary64 → Bool) : List Json → List Json → Bool
  | [], [] => true
  | a :: as, b :: bs => sameBy number a b && sameItems number as bs
  | _, _ => false

/-- Compares two lists of fields. -/
def sameFields (number : Binary64 → Binary64 → Bool) :
    List (String × Json) → List (String × Json) → Bool
  | [], [] => true
  | (k, a) :: as, (l, b) :: bs => k == l && sameBy number a b && sameFields number as bs
  | _, _ => false

end

mutual

theorem sameBy_beq_iff (a b : Json) : sameBy (· == ·) a b = true ↔ a = b := by
  match a, b with
  | arr as, arr bs => simp [sameBy, sameItems_beq_iff as bs]
  | obj as, obj bs => simp [sameBy, sameFields_beq_iff as bs]
  | null, b => cases b <;> simp [sameBy]
  | bool _, b => cases b <;> simp [sameBy]
  | int _, b => cases b <;> simp [sameBy]
  | float _, b => cases b <;> simp [sameBy]
  | str _, b => cases b <;> simp [sameBy]
  | arr _, null | arr _, bool _ | arr _, int _ | arr _, float _ | arr _, str _ | arr _, obj _ =>
    simp [sameBy]
  | obj _, null | obj _, bool _ | obj _, int _ | obj _, float _ | obj _, str _ | obj _, arr _ =>
    simp [sameBy]

theorem sameItems_beq_iff (a b : List Json) : sameItems (· == ·) a b = true ↔ a = b := by
  match a, b with
  | [], [] | [], _ :: _ | _ :: _, [] => simp [sameItems]
  | x :: xs, y :: ys => simp [sameItems, sameBy_beq_iff x y, sameItems_beq_iff xs ys]

theorem sameFields_beq_iff (a b : List (String × Json)) :
    sameFields (· == ·) a b = true ↔ a = b := by
  match a, b with
  | [], [] | [], _ :: _ | _ :: _, [] => simp [sameFields]
  | (k, x) :: xs, (l, y) :: ys =>
    simp [sameFields, sameBy_beq_iff x y, sameFields_beq_iff xs ys, and_assoc]

end

instance : DecidableEq Json := fun a b =>
  decidable_of_iff (sameBy (· == ·) a b = true) (sameBy_beq_iff a b)

/-- Equality of values as data: floating-point numbers are equal as numbers. -/
def agrees (a b : Json) : Bool := sameBy Binary64.sameValue a b

/-- The value of a field, when there is an object that has it. -/
def field? (key : String) : Json → Option Json
  | obj fields => Entries.get? key fields
  | _ => none

/-- The text of a string value. -/
def text? : Json → Option String
  | str s => some s
  | _ => none

mutual

/-- The value with the fields of every object sorted by key, of equal keys the last. -/
def canonical : Json → Json
  | arr items => arr (canonicalItems items)
  | obj fields => obj (Entries.ofList (canonicalFields fields))
  | other => other

def canonicalItems : List Json → List Json
  | [] => []
  | item :: rest => canonical item :: canonicalItems rest

def canonicalFields : List (String × Json) → List (String × Json)
  | [] => []
  | (key, value) :: rest => (key, canonical value) :: canonicalFields rest

end

mutual

/-- The fields of every object are sorted, each key once. -/
def isCanonical : Json → Bool
  | arr items => areCanonical items
  | obj fields => decide (Entries.Sorted fields) && areCanonicalFields fields
  | _ => true

def areCanonical : List Json → Bool
  | [] => true
  | item :: rest => isCanonical item && areCanonical rest

def areCanonicalFields : List (String × Json) → Bool
  | [] => true
  | (_, value) :: rest => isCanonical value && areCanonicalFields rest

end

/-- The object of a list of fields, without those that have no value. -/
def ofFields (fields : List (String × Option Json)) : Json :=
  obj (Entries.ofList (fields.filterMap fun field => field.2.map fun value => (field.1, value)))

/-! ## Merge patches -/

/-- The fields of an object; any other value has none. -/
def fieldsOf : Json → List (String × Json)
  | obj fields => fields
  | _ => []

mutual

/-- The value that a patch makes of a target. -/
def mergePatch (target : Json) : Json → Json
  | obj changes => obj (mergeFields target.fieldsOf changes)
  | other => other

/-- The fields that a patch of fields makes of those of a target, one after the other. -/
def mergeFields (target : List (String × Json)) : List (String × Json) → List (String × Json)
  | [] => target
  | (key, null) :: rest => mergeFields (Entries.erase key target) rest
  | (key, change) :: rest =>
    let value := mergePatch ((Entries.get? key target).getD null) change
    mergeFields (Entries.insert key value target) rest

end

end Json

end StreamOperator
