import StreamOperator.Json.Printer
import StreamOperator.Json.Quotation

/-!
# A text has one value

Two values without floating-point numbers that have the same text are the same value
(`Json.render_inj`). Strings and numbers say where they end: a string at its closing quote, because
the reader of quotations reads back what the printer wrote (`Quotation.text_written`), a number at the
first character that is no digit (`Ends`). The rest is an induction over the value with the characters
that follow it (`Json.chars_append_inj`). The first character tells which kind of value comes, so that
two kinds never have a text in common, and no value begins like the end of an array.

Floating-point numbers are left out: that the shortest digits of one determine it is a matter of its own.
-/

set_option autoImplicit false

namespace StreamOperator.Json

/-! ## Strings -/

namespace Quotation

variable {cs rest read : List Char} {place : Place} {c x : Char} {n : Nat}

/-- A character that is not escaped is read as it stands. -/
theorem text_plain (quote : c ≠ '"') (backslash : c ≠ '\\') (printable : ¬ c.toNat < 0x20) :
    text true read place (c :: rest) = text true (c :: read) (place.after c) rest := by
  rw [text.eq_4 _ _ _ _ _ quote backslash, if_neg printable]

/-- An escape is read as the character it stands for. -/
theorem text_escape {length : Nat}
    (escape : escaped true (place.after '\\') rest = .ok (x, length)) :
    text true read place ('\\' :: rest) =
      text true (x :: read) ((place.after '\\').afterBytes length rest) (rest.drop length) := by
  rw [text, escape]

theorem escaped_letter (letter : c ≠ 'u') (short : shortEscape c = some x) :
    escaped true place (c :: rest) = .ok (x, 1) := by
  rw [escaped.eq_3 _ _ _ _ letter, short]

theorem hexCode_controlDigits : ∀ n < 0x20,
    hexCode '0' '0' (Nat.digitChar (n / 16)) (Nat.digitChar (n % 16)) = some n := by
  decide

/-- Four characters are four bytes at least. -/
theorem code_of_hexCode {a b d : Char} (digits : hexCode a b c d = some n) :
    code place (a :: b :: c :: d :: rest) = .ok n := by
  have long : ¬ (0 + a.utf8Size + b.utf8Size + c.utf8Size + d.utf8Size < 4) := by
    have := a.utf8Size_pos
    have := b.utf8Size_pos
    have := c.utf8Size_pos
    have := d.utf8Size_pos
    omega
  simp only [code, List.take_succ_cons, List.take_zero, List.foldl_cons, List.foldl_nil,
    if_neg long, digits]

theorem escaped_control (control : n < 0x20) :
    escaped true place ('u' :: controlDigits n ++ rest) = .ok (Char.ofNat n, 5) := by
  have read : code (place.after 'u') (controlDigits n ++ rest) = .ok n :=
    code_of_hexCode (hexCode_controlDigits n control)
  have low : isLow n = false := by simp [isLow]; omega
  have high : isHigh n = false := by simp [isHigh]; omega
  simp only [List.cons_append, escaped, read, bind, Except.bind, if_true, charOfCode, low, high]
  rfl

/-- A character that was written is read back. -/
theorem text_escapeChar (c : Char) (rest read : List Char) (place : Place) : ∃ place',
    text true read place (escapeChar c ++ rest) = text true (c :: read) place' rest := by
  have letter : ∀ {x}, x ≠ 'u' → shortEscape x = some c → ∃ place',
      text true read place (['\\', x] ++ rest) = text true (c :: read) place' rest := fun other short =>
    ⟨_, text_escape (escaped_letter other short)⟩
  unfold escapeChar
  iterate 7
    split
    · exact letter (by decide) (by subst_vars; rfl)
  split
  · rename_i control
    have escape : escaped true (place.after '\\') ('u' :: controlDigits c.toNat ++ rest) = .ok (c, 5) := by
      rw [escaped_control control, Char.ofNat_toNat]
    exact ⟨_, text_escape escape⟩
  · rename_i quote backslash _ _ _ _ _ printable
    exact ⟨_, text_plain quote backslash printable⟩

/-- A string that was written is read back, up to its closing quote. -/
theorem text_written (cs rest read : List Char) (place : Place) : ∃ place',
    text true read place (cs.flatMap escapeChar ++ '"' :: rest) =
      .ok (String.ofList (read.reverse ++ cs), ⟨rest, place'⟩) := by
  induction cs generalizing read place with
  | nil => exact ⟨_, by rw [List.flatMap_nil, List.nil_append, text, List.append_nil]⟩
  | cons c cs ih =>
    rw [List.flatMap_cons, List.append_assoc]
    obtain ⟨place', first⟩ := text_escapeChar c (cs.flatMap escapeChar ++ '"' :: rest) read place
    obtain ⟨place'', others⟩ := ih (c :: read) place'
    refine ⟨place'', first.trans (others.trans ?_)⟩
    rw [List.reverse_cons, List.append_assoc, List.singleton_append]

end Quotation

/-- A string ends at its closing quote, whatever follows. -/
theorem stringChars_append_inj {s t : String} {r r' : List Char}
    (same : stringChars s ++ r = stringChars t ++ r') : s = t ∧ r = r' := by
  have tails : s.toList.flatMap escapeChar ++ '"' :: r = t.toList.flatMap escapeChar ++ '"' :: r' := by
    simpa [stringChars] using same
  obtain ⟨place, first⟩ := Quotation.text_written s.toList r [] {}
  obtain ⟨place', second⟩ := Quotation.text_written t.toList r' [] {}
  rw [tails, second] at first
  simp only [Except.ok.injEq, Prod.mk.injEq, Cursor.mk.injEq, String.ofList_inj, List.reverse_nil,
    List.nil_append, String.toList_inj] at first
  exact ⟨first.1.symm, first.2.1.symm⟩

/-! ## Numbers -/

/-- What follows a value in a text: it does not go on with a digit. -/
def Ends (rest : List Char) : Prop := ∀ c ∈ rest.head?, c.isDigit = false

theorem ends_nil : Ends [] := by simp [Ends]

theorem ends_cons {c : Char} {rest : List Char} (other : c.isDigit = false) : Ends (c :: rest) := by
  simpa [Ends] using other

/-- The digits of a number are those up to what follows it. -/
theorem takeWhile_of_ends {digits rest : List Char} (all : ∀ c ∈ digits, c.isDigit = true)
    (ends : Ends rest) : (digits ++ rest).takeWhile Char.isDigit = digits := by
  rw [List.takeWhile_append_of_pos all]
  cases rest with
  | nil => simp
  | cons c rest => simp [ends c rfl]

theorem toDigits_append_inj {n m : Nat} {r s : List Char} (ends : Ends r) (ends' : Ends s)
    (same : Nat.toDigits 10 n ++ r = Nat.toDigits 10 m ++ s) : n = m ∧ r = s := by
  have all : ∀ {n}, ∀ c ∈ Nat.toDigits 10 n, c.isDigit = true := fun c member =>
    Nat.isDigit_of_mem_toDigits (by decide) (by decide) member
  have digits : Nat.toDigits 10 n = Nat.toDigits 10 m := by
    rw [← takeWhile_of_ends all ends, same, takeWhile_of_ends all ends']
  refine ⟨?_, List.append_cancel_left (digits ▸ same)⟩
  rw [← Nat.ofDigitChars_ten_toDigits (n := n), digits, Nat.ofDigitChars_ten_toDigits]

/-- A numeral starts with a digit. -/
theorem exists_toDigits (n : Nat) : ∃ c rest, Nat.toDigits 10 n = c :: rest ∧ c.isDigit = true := by
  cases digits : Nat.toDigits 10 n with
  | nil => exact absurd digits Nat.toDigits_ne_nil
  | cons c rest =>
    have member : c ∈ Nat.toDigits 10 n := digits ▸ List.mem_cons_self
    exact ⟨c, rest, rfl, Nat.isDigit_of_mem_toDigits (by decide) (by decide) member⟩

theorem minus_ne_toDigits {n : Nat} {r s : List Char} : '-' :: r ≠ Nat.toDigits 10 n ++ s := by
  obtain ⟨c, rest, digits, digit⟩ := exists_toDigits n
  rw [digits, List.cons_append]
  rintro same
  rw [← (List.cons.inj same).1] at digit
  exact absurd digit (by decide)

theorem intChars_append_inj {n m : Int} {r s : List Char} (ends : Ends r) (ends' : Ends s)
    (same : intChars n ++ r = intChars m ++ s) : n = m ∧ r = s := by
  unfold intChars at same
  split at same <;> split at same
  · obtain ⟨sizes, rest⟩ := toDigits_append_inj ends ends' (List.cons.inj same).2
    exact ⟨by omega, rest⟩
  · exact absurd same minus_ne_toDigits
  · exact absurd same.symm minus_ne_toDigits
  · obtain ⟨sizes, rest⟩ := toDigits_append_inj ends ends' same
    exact ⟨by omega, rest⟩

/-! ## Values -/

mutual

/-- There are no floating-point numbers in the value. -/
def isFloatFree : Json → Bool
  | float _ => false
  | arr items => areFloatFree items
  | obj fields => areFloatFreeFields fields
  | _ => true

def areFloatFree : List Json → Bool
  | [] => true
  | item :: rest => isFloatFree item && areFloatFree rest

def areFloatFreeFields : List (String × Json) → Bool
  | [] => true
  | (_, value) :: rest => isFloatFree value && areFloatFreeFields rest

end

/-- What the first character of a value's text tells of the value. -/
def lead : Json → Char
  | null => 'n'
  | bool _ => 'b'
  | int _ => '0'
  | float _ => '.'
  | str _ => '"'
  | arr _ => '['
  | obj _ => '\x7b'

/-- What a first character tells of the value. -/
def leadOf (c : Char) : Char :=
  if c = 't' ∨ c = 'f' then 'b' else if c = '-' ∨ c.isDigit then '0' else c

variable {a b : Json} {r s : List Char}

theorem exists_lead (plain : a.isFloatFree = true) :
    ∃ c rest, chars a = c :: rest ∧ leadOf c = a.lead := by
  match a with
  | null => exact ⟨_, _, rfl, by decide⟩
  | bool true => exact ⟨_, _, rfl, by decide⟩
  | bool false => exact ⟨_, _, rfl, by decide⟩
  | int n =>
    obtain ⟨c, rest, digits, digit⟩ := exists_toDigits n.natAbs
    rw [chars, intChars]
    split
    · exact ⟨_, _, rfl, show leadOf '-' = '0' by decide⟩
    · have letter : ¬ (c = 't' ∨ c = 'f') := by
        rintro (rfl | rfl) <;> exact absurd digit (by decide)
      exact ⟨c, rest, digits, by simp [leadOf, digit, lead, letter]⟩
  | str t => exact ⟨_, _, rfl, show leadOf '"' = '"' by decide⟩
  | arr [] => exact ⟨_, _, rfl, by decide⟩
  | arr (_ :: _) => exact ⟨_, _, rfl, show leadOf '[' = '[' by decide⟩
  | obj [] => exact ⟨_, _, rfl, by decide⟩
  | obj (_ :: _) => exact ⟨_, _, rfl, show leadOf '\x7b' = '\x7b' by decide⟩

theorem lead_eq (plain : a.isFloatFree = true) (plain' : b.isFloatFree = true)
    (same : chars a ++ r = chars b ++ s) : a.lead = b.lead := by
  obtain ⟨c, rest, first, own⟩ := exists_lead plain
  obtain ⟨d, rest', first', own'⟩ := exists_lead plain'
  rw [first, first'] at same
  rw [← own, ← own', (List.cons.inj same).1]

/-- No value begins with a closing bracket. -/
theorem bracket_ne_chars (plain : a.isFloatFree = true) : ']' :: r ≠ chars a ++ s := by
  obtain ⟨c, rest, first, own⟩ := exists_lead plain
  rw [first]
  intro same
  rw [← (List.cons.inj same).1] at own
  cases a <;> exact absurd own (by simp [lead, leadOf])

theorem ends_itemChars (items : List Json) : Ends (itemChars items ++ r) := by
  cases items <;> exact ends_cons (by decide)

theorem ends_fieldChars (fields : List (String × Json)) : Ends (fieldChars fields ++ r) := by
  cases fields with
  | nil => exact ends_cons (by decide)
  | cons field rest => exact ends_cons (by decide)

/-! ## Unique reading -/

mutual

/-- A text has one value at its front. -/
theorem chars_append_inj (a b : Json) {r s : List Char} (plain : a.isFloatFree = true)
    (plain' : b.isFloatFree = true) (ends : Ends r) (ends' : Ends s)
    (same : chars a ++ r = chars b ++ s) : a = b ∧ r = s := by
  have kind : a.lead = b.lead := lead_eq plain plain' same
  match a with
  | null =>
    cases b with
    | null => exact ⟨rfl, by simpa [chars] using same⟩
    | _ => simp [lead] at kind
  | bool v =>
    cases b with
    | bool w =>
      cases v <;> cases w
      case false.false | true.true => exact ⟨rfl, by simpa [chars] using same⟩
      all_goals simp [chars] at same
    | _ => simp [lead] at kind
  | int n =>
    cases b with
    | int m =>
      obtain ⟨rfl, rest⟩ := intChars_append_inj ends ends' same
      exact ⟨rfl, rest⟩
    | _ => simp [lead] at kind
  | float _ => simp [isFloatFree] at plain
  | str t =>
    cases b with
    | str u =>
      obtain ⟨rfl, rest⟩ := stringChars_append_inj same
      exact ⟨rfl, rest⟩
    | _ => simp [lead] at kind
  | arr xs =>
    cases b with
    | arr ys =>
      simp only [isFloatFree] at plain plain'
      match xs, ys with
      | [], [] => exact ⟨rfl, by simpa [chars] using same⟩
      | [], y :: ys =>
        simp only [areFloatFree, Bool.and_eq_true] at plain'
        have tails : ']' :: r = chars y ++ (itemChars ys ++ s) := by simpa [chars] using same
        exact absurd tails (bracket_ne_chars plain'.1)
      | x :: xs, [] =>
        simp only [areFloatFree, Bool.and_eq_true] at plain
        have tails : chars x ++ (itemChars xs ++ r) = ']' :: s := by simpa [chars] using same
        exact absurd tails.symm (bracket_ne_chars plain.1)
      | x :: xs, y :: ys =>
        have items : itemChars (x :: xs) ++ r = itemChars (y :: ys) ++ s := by
          simpa [chars, itemChars] using same
        obtain ⟨lists, rest⟩ := itemChars_append_inj (x :: xs) (y :: ys) plain plain' items
        exact ⟨by rw [lists], rest⟩
    | _ => simp [lead] at kind
  | obj xs =>
    cases b with
    | obj ys =>
      simp only [isFloatFree] at plain plain'
      match xs, ys with
      | [], [] => exact ⟨rfl, by simpa [chars] using same⟩
      | [], _ :: _ | _ :: _, [] => simp [chars, stringChars] at same
      | x :: xs, y :: ys =>
        have fields : fieldChars (x :: xs) ++ r = fieldChars (y :: ys) ++ s := by
          simpa [chars, fieldChars] using same
        obtain ⟨lists, rest⟩ := fieldChars_append_inj (x :: xs) (y :: ys) plain plain' fields
        exact ⟨by rw [lists], rest⟩
    | _ => simp [lead] at kind

theorem itemChars_append_inj (as bs : List Json) {r s : List Char}
    (plain : areFloatFree as = true) (plain' : areFloatFree bs = true)
    (same : itemChars as ++ r = itemChars bs ++ s) : as = bs ∧ r = s := by
  match as, bs with
  | [], [] => exact ⟨rfl, by simpa [itemChars] using same⟩
  | [], _ :: _ => simp [itemChars] at same
  | _ :: _, [] => simp [itemChars] at same
  | a :: as, b :: bs =>
    simp only [areFloatFree, Bool.and_eq_true] at plain plain'
    have tails : chars a ++ (itemChars as ++ r) = chars b ++ (itemChars bs ++ s) := by
      simpa [itemChars] using same
    obtain ⟨rfl, rests⟩ := chars_append_inj a b plain.1 plain'.1 (ends_itemChars as)
      (ends_itemChars bs) tails
    obtain ⟨rfl, rest⟩ := itemChars_append_inj as bs plain.2 plain'.2 rests
    exact ⟨rfl, rest⟩

theorem fieldChars_append_inj (as bs : List (String × Json)) {r s : List Char}
    (plain : areFloatFreeFields as = true) (plain' : areFloatFreeFields bs = true)
    (same : fieldChars as ++ r = fieldChars bs ++ s) : as = bs ∧ r = s := by
  match as, bs with
  | [], [] => exact ⟨rfl, by simpa [fieldChars] using same⟩
  | [], _ :: _ => simp [fieldChars] at same
  | _ :: _, [] => simp [fieldChars] at same
  | (k, a) :: as, (l, b) :: bs =>
    simp only [areFloatFreeFields, Bool.and_eq_true] at plain plain'
    have keys : stringChars k ++ (':' :: (chars a ++ (fieldChars as ++ r))) =
        stringChars l ++ (':' :: (chars b ++ (fieldChars bs ++ s))) := by
      simpa [fieldChars] using same
    obtain ⟨rfl, values⟩ := stringChars_append_inj keys
    obtain ⟨rfl, rests⟩ := chars_append_inj a b plain.1 plain'.1 (ends_fieldChars as)
      (ends_fieldChars bs) (List.cons.inj values).2
    obtain ⟨rfl, rest⟩ := fieldChars_append_inj as bs plain.2 plain'.2 rests
    exact ⟨rfl, rest⟩

end

/-- A text is the text of one value. -/
theorem render_inj (plain : a.isFloatFree = true) (plain' : b.isFloatFree = true) :
    a.render = b.render ↔ a = b := by
  refine ⟨fun same => ?_, fun same => by rw [same]⟩
  have texts : chars a ++ [] = chars b ++ [] := by
    rw [String.ofList_inj.1 same]
  exact (chars_append_inj a b plain plain' ends_nil ends_nil texts).1

end StreamOperator.Json
