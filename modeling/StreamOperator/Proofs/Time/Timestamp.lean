import StreamOperator.Proofs.Json.Text
import StreamOperator.Proofs.Time.Calendar

/-!
# Timestamps are read back

An instant is written to the second, so what is read back is the instant without the fraction of its
second (`Instant.decode_text`). A leap second is kept as one: it is the second 60 of its minute. The
reader takes a text number by number; each number that was written ends at the sign that follows it
(`digits_numeral`), and the day that was written is one of the calendar (`exists_civil`).
-/

set_option autoImplicit false

namespace StreamOperator.Instant

/-! ## Numbers -/

/-- The digits of a number, perhaps after zeros. -/
structure Numeral (ds : List Char) (n : Nat) : Prop where
  nonempty : ds ≠ []
  digits : ∀ c ∈ ds, c.isDigit = true
  value : Nat.ofDigitChars 10 ds 0 = n

section Numbers

variable {ds rest : List Char} {n least greatest : Nat}

theorem numeral_padded (width n : Nat) : Numeral (padded width n).toList n := by
  refine ⟨?_, ?_, ?_⟩ <;> simp only [padded, String.toList_ofList]
  · exact List.append_ne_nil_of_right_ne_nil _ Nat.toDigits_ne_nil
  · intro c member
    rcases List.mem_append.1 member with zero | digit
    · rw [List.eq_of_mem_replicate zero]
      decide
    · exact Nat.isDigit_of_mem_toDigits (by decide) (by decide) digit
  · rw [Nat.ofDigitChars_append, Nat.ofDigitChars_replicate_zero, Nat.mul_zero,
      Nat.ofDigitChars_ten_toDigits]

theorem length_padded {width n : Nat} (pos : 0 < width) (below : n < Nat.pow 10 width) :
    (padded width n).toList.length = width := by
  have short := (Nat.length_toDigits_le_iff (by decide : 1 < 10) pos).2 below
  simp only [padded, String.toList_ofList, List.length_append, List.length_replicate]
  omega

/-- A numeral starts with a digit. -/
theorem Numeral.exists_cons (numeral : Numeral ds n) : ∃ c cs, ds = c :: cs ∧ c.isDigit = true := by
  obtain ⟨c, cs, rfl⟩ := List.exists_cons_of_ne_nil numeral.nonempty
  exact ⟨c, cs, rfl, numeral.digits c List.mem_cons_self⟩

theorem Numeral.ne_cons (numeral : Numeral ds n) {c : Char} {cs : List Char}
    (other : c.isDigit = false) : ds ++ rest ≠ c :: cs := by
  obtain ⟨d, ds, rfl, digit⟩ := numeral.exists_cons
  rintro ⟨rfl⟩
  exact absurd digit (by simp [other])

theorem isBlank_of_isDigit {c : Char} (digit : c.isDigit = true) : Text.isBlank c = false := by
  simp only [Char.isDigit, Bool.and_eq_true, decide_eq_true_eq, UInt32.le_iff_toNat_le] at digit
  have bounds : 48 ≤ c.toNat ∧ c.toNat ≤ 57 := digit
  simp only [Text.isBlank, Bool.or_eq_false_iff, Bool.and_eq_false_iff, decide_eq_false_iff_not,
    beq_eq_false_iff_ne]
  omega

theorem Numeral.skipBlanks (numeral : Numeral ds n) (rest : List Char) :
    skipBlanks (ds ++ rest) = ds ++ rest := by
  obtain ⟨c, cs, rfl, digit⟩ := numeral.exists_cons
  exact List.dropWhile_cons_of_neg (by simp [isBlank_of_isDigit digit])

/-- A numeral is read up to what follows it. -/
theorem digits_numeral {width : Option Nat} (numeral : Numeral ds n) (ends : Json.Ends rest)
    (short : ∀ w ∈ width, ds.length ≤ w) (fits : n < Nat.pow 2 63) :
    digits width (ds ++ rest) = .ok (n, rest) := by
  have value : ds.foldl (fun n d => n * 10 + (d.toNat - '0'.toNat)) 0 = n := by
    simpa only [Nat.ofDigitChars, Nat.mul_comm] using numeral.value
  have read : ∀ {taken : List Char}, taken = ds →
      (if Nat.pow 2 63 ≤ taken.foldl (fun n d => n * 10 + (d.toNat - '0'.toNat)) 0
        then (.error .outOfRange : Except ReadError (Nat × List Char))
        else .ok (taken.foldl (fun n d => n * 10 + (d.toNat - '0'.toNat)) 0,
          (ds ++ rest).drop taken.length)) = .ok (n, rest) := by
    rintro _ rfl
    rw [value, if_neg (Nat.not_le.2 fits), List.drop_left]
  obtain ⟨c, cs, begins, digit⟩ := numeral.exists_cons
  have nonempty : ds ++ rest = c :: (cs ++ rest) := by rw [begins, List.cons_append]
  rw [digits.eq_def, nonempty]
  simp only [digit, if_true]
  rw [← nonempty]
  cases width with
  | none => exact read (Json.takeWhile_of_ends numeral.digits ends)
  | some w =>
    have ends : Json.Ends (rest.take (w - ds.length)) := by
      intro c first
      rw [List.head?_take] at first
      split at first
      · cases first
      · exact ends c first
    refine read ?_
    dsimp only
    rw [List.take_append, List.take_of_length_le (short w rfl)]
    exact Json.takeWhile_of_ends numeral.digits ends

/-- A number of two digits is read back. -/
theorem numberIn_padded (least_le : least ≤ n) (le_greatest : n ≤ greatest) (below : n < 100)
    (ends : Json.Ends rest) :
    numberIn least greatest ((padded 2 n).toList ++ rest) = .ok (n, rest) := by
  have numeral := numeral_padded 2 n
  have short : ∀ w ∈ some 2, (padded 2 n).toList.length ≤ w := by
    rintro w ⟨rfl⟩
    exact Nat.le_of_eq (length_padded (by decide) below)
  have fits : n < Nat.pow 2 63 := Nat.lt_trans below (by decide)
  rw [numberIn, numeral.skipBlanks, digits_numeral numeral ends short fits]
  exact if_pos ⟨least_le, le_greatest⟩

theorem separator_cons {mark : Char} (visible : Text.isBlank mark = false) (rest : List Char) :
    separator mark (mark :: rest) = .ok rest := by
  rw [separator, skipBlanks, List.dropWhile_cons_of_neg (by simp [visible])]
  exact if_pos rfl

/-- The years that the reader can hold. -/
abbrev YearFits (y : Int) : Prop := -(Nat.pow 2 31) ≤ y ∧ y < Nat.pow 2 31

theorem year_of_numeral (numeral : Numeral ds n) (ends : Json.Ends rest) (short : ds.length ≤ 4)
    (small : n < Nat.pow 2 63) (fits : YearFits n) : year (ds ++ rest) = .ok (↑n, rest) := by
  have read : digits (some 4) (ds ++ rest) = .ok (n, rest) :=
    digits_numeral numeral ends (fun w same => Option.some.inj same ▸ short) small
  rw [year, numeral.skipBlanks]
  -- A numeral has no sign, so the first two cases of the reader do not apply.
  split
  · rename_i same
    exact absurd same (numeral.ne_cons (by decide))
  · rename_i same
    exact absurd same (numeral.ne_cons (by decide))
  · simp only [read, bind, Except.bind]
    rw [if_pos fits]

theorem year_plus (numeral : Numeral ds n) (ends : Json.Ends rest) (small : n < Nat.pow 2 63)
    (fits : YearFits n) : year ('+' :: (ds ++ rest)) = .ok (↑n, rest) := by
  have read : digits none (ds ++ rest) = .ok (n, rest) := digits_numeral numeral ends nofun small
  rw [year, skipBlanks, List.dropWhile_cons_of_neg (by decide)]
  simp only [read, bind, Except.bind]
  rw [if_pos fits]

theorem year_minus (numeral : Numeral ds n) (ends : Json.Ends rest) (small : n < Nat.pow 2 63)
    (fits : YearFits (-n)) : year ('-' :: (ds ++ rest)) = .ok (-↑n, rest) := by
  have read : digits none (ds ++ rest) = .ok (n, rest) := digits_numeral numeral ends nofun small
  rw [year, skipBlanks, List.dropWhile_cons_of_neg (by decide)]
  simp only [read, bind, Except.bind]
  rw [if_pos fits]

/-- A year is read back, whether it is written with a sign or without. -/
theorem year_yearText {y : Int} (fits : YearFits y) (ends : Json.Ends rest) :
    year ((yearText y).toList ++ rest) = .ok (y, rest) := by
  have numeral := numeral_padded 4 y.natAbs
  have small : y.natAbs < Nat.pow 2 63 := by
    have : Nat.pow 2 31 = 2147483648 := rfl
    have : Nat.pow 2 63 = 9223372036854775808 := rfl
    omega
  unfold yearText
  split
  · have below : y.natAbs < 10000 := by omega
    have short : (padded 4 y.natAbs).toList.length ≤ 4 :=
      Nat.le_of_eq (length_padded (by decide) below)
    have whole : (y.natAbs : Int) = y := by omega
    rw [year_of_numeral numeral ends short small (by rwa [whole]), whole]
  · rw [String.toList_append, List.append_assoc]
    split
    · have whole : -(y.natAbs : Int) = y := by omega
      have sign : "-".toList = ['-'] := rfl
      rw [sign, List.singleton_append, year_minus numeral ends small (by rwa [whole]), whole]
    · have whole : (y.natAbs : Int) = y := by omega
      have sign : "+".toList = ['+'] := rfl
      rw [sign, List.singleton_append, year_plus numeral ends small (by rwa [whole]), whole]

end Numbers

/-! ## Texts -/

/-- A date and a time that were written are read back. -/
theorem read_written {y : Int} {month day hour minute second leap : Nat} {seconds : Int}
    (valid : Valid y month day) (first : firstYear ≤ y) (last : y ≤ lastYear)
    (hour_lt : hour < 24) (minute_lt : minute < 60) (second_le : second ≤ 60)
    (leap_eq : leap = if second = 60 then 1 else 0)
    (seconds_eq : seconds
      = daysFromCivil y month day * 86400 + (hour * 3600 + minute * 60 + second - leap : Nat))
    (inside : inCalendar (seconds.fdiv 86400) = true) :
    read (yearText y ++ "-" ++ padded 2 month ++ "-" ++ padded 2 day ++ "T" ++ padded 2 hour
      ++ ":" ++ padded 2 minute ++ ":" ++ padded 2 second ++ "Z")
      = .ok ⟨seconds, leap * Nat.pow 10 9⟩ := by
  obtain ⟨month_pos, month_le, day_pos, day_le⟩ := valid
  have day_le_31 : day ≤ 31 := Nat.le_trans day_le (daysInMonth_le_31 y month)
  have wide : YearFits y := by
    have : Nat.pow 2 31 = 2147483648 := rfl
    unfold firstYear at first
    unfold lastYear at last
    omega
  have yearRead : ∀ rest, year ((yearText y).toList ++ '-' :: rest) = .ok (y, '-' :: rest) :=
    fun _ => year_yearText wide (Json.ends_cons (by decide))
  have monthRead : ∀ rest,
      numberIn 1 12 ((padded 2 month).toList ++ '-' :: rest) = .ok (month, '-' :: rest) :=
    fun _ => numberIn_padded month_pos month_le (by omega) (Json.ends_cons (by decide))
  have dayRead : ∀ rest,
      numberIn 1 31 ((padded 2 day).toList ++ 'T' :: rest) = .ok (day, 'T' :: rest) :=
    fun _ => numberIn_padded day_pos day_le_31 (by omega) (Json.ends_cons (by decide))
  have hourRead : ∀ rest,
      numberIn 0 23 ((padded 2 hour).toList ++ ':' :: rest) = .ok (hour, ':' :: rest) :=
    fun _ => numberIn_padded (Nat.zero_le _) (by omega) (by omega) (Json.ends_cons (by decide))
  have minuteRead : ∀ rest,
      numberIn 0 59 ((padded 2 minute).toList ++ ':' :: rest) = .ok (minute, ':' :: rest) :=
    fun _ => numberIn_padded (Nat.zero_le _) (by omega) (by omega) (Json.ends_cons (by decide))
  have secondRead : numberIn 0 60 ((padded 2 second).toList ++ ['Z']) = .ok (second, ['Z']) :=
    numberIn_padded (Nat.zero_le _) second_le (by omega) (Json.ends_cons (by decide))
  have whole : fraction ['Z'] = .ok (0, ['Z']) := rfl
  have zone : offset (skipBlanks ['Z']) = .ok (0, []) := rfl
  have dash : ∀ rest, separator '-' ('-' :: rest) = .ok rest := separator_cons (by decide)
  have colon : ∀ rest, separator ':' (':' :: rest) = .ok rest := separator_cons (by decide)
  have characters : (yearText y ++ "-" ++ padded 2 month ++ "-" ++ padded 2 day ++ "T"
      ++ padded 2 hour ++ ":" ++ padded 2 minute ++ ":" ++ padded 2 second ++ "Z").toList
      = (yearText y).toList ++ '-' :: ((padded 2 month).toList ++ '-' :: ((padded 2 day).toList
        ++ 'T' :: ((padded 2 hour).toList ++ ':' :: ((padded 2 minute).toList
        ++ ':' :: ((padded 2 second).toList ++ ['Z']))))) := by
    simp
  have complete : (!(skipBlanks []).isEmpty) = false := rfl
  have ranges : ¬ (daysInMonth y month < day ∨ y < firstYear ∨ lastYear < y
      ∨ 86400 ≤ (0 : Int).natAbs) := by
    simp only [Int.natAbs_zero]
    omega
  rw [read, characters]
  simp only [yearRead, monthRead, dayRead, hourRead, minuteRead, secondRead, dash, colon, whole, zone,
    bind, Except.bind, true_or, if_true]
  rw [complete, if_neg Bool.false_ne_true, if_neg ranges, ← leap_eq, Int.sub_zero, ← seconds_eq,
    if_pos inside, Nat.zero_add]

/-- The second an instant is in. Only the last second of a minute can be followed by a leap second;
after any other second the next one begins. -/
def toSecond (t : Instant) : Instant :=
  if Nat.pow 10 9 ≤ t.nanoseconds then
    if t.seconds % 60 = 59 then ⟨t.seconds, Nat.pow 10 9⟩ else ⟨t.seconds + 1, 0⟩
  else ⟨t.seconds, 0⟩

/-- The instant is on a day of the calendar. -/
def InCalendar (t : Instant) : Prop := inCalendar (t.seconds.fdiv 86400) = true

instance (t : Instant) : Decidable t.InCalendar := inferInstanceAs (Decidable (_ = _))

variable {t : Instant}

theorem toSecond_of_whole (whole : t.nanoseconds = 0) : t.toSecond = t := by
  obtain ⟨seconds, nanoseconds⟩ := t
  obtain rfl : nanoseconds = 0 := whole
  exact if_neg (show ¬ Nat.pow 10 9 ≤ 0 by decide)

/-- The second that is written is at most the 60th of its minute, and that one only for a leap second. -/
theorem exists_toSecond (t : Instant) : ∃ extra leap : Nat,
    (if Nat.pow 10 9 ≤ t.nanoseconds then 1 else 0) = extra ∧ extra ≤ 1 ∧
    (leap : Int) = (if t.seconds % 60 + extra = 60 then 1 else 0) ∧
    t.toSecond = ⟨t.seconds + extra - leap, leap * Nat.pow 10 9⟩ := by
  unfold toSecond
  split
  · split
    · rename_i last
      refine ⟨1, 1, rfl, by decide, by simp [last], ?_⟩
      rw [Nat.one_mul, Int.add_sub_cancel]
    · exact ⟨1, 0, rfl, by decide, by omega, by simp⟩
  · exact ⟨0, 0, rfl, by decide, by omega, by simp⟩

/-- Nothing else of an instant is written. -/
theorem text_toSecond (t : Instant) : t.toSecond.text = t.text := by
  obtain ⟨extra, leap, extra_eq, extra_le, leap_eq, toSecond_eq⟩ := exists_toSecond t
  obtain ⟨seconds, nanoseconds⟩ := t
  have days : seconds.fdiv 86400 = seconds / 86400 := Int.fdiv_eq_ediv_of_nonneg _ (by decide)
  have days' : (seconds + extra - leap).fdiv 86400 = seconds / 86400 := by
    rw [Int.fdiv_eq_ediv_of_nonneg _ (by decide)]
    dsimp only at leap_eq
    omega
  obtain ⟨inDay, inDay_eq⟩ : ∃ inDay, (seconds - seconds / 86400 * 86400).toNat = inDay := ⟨_, rfl⟩
  obtain ⟨inDay', inDay'_eq⟩ :
      ∃ inDay', (seconds + extra - leap - seconds / 86400 * 86400).toNat = inDay' := ⟨_, rfl⟩
  have late : (if Nat.pow 10 9 ≤ leap * Nat.pow 10 9 then 1 else 0) = leap := by
    have := leap_eq
    split at this
    · obtain rfl : leap = 1 := by omega
      rfl
    · obtain rfl : leap = 0 := by omega
      rfl
  dsimp only at leap_eq extra_eq
  have hours : inDay' / 3600 = inDay / 3600 := by omega
  have minutes : inDay' / 60 = inDay / 60 := by omega
  have second : inDay' % 60 + leap = inDay % 60 + extra := by omega
  rw [toSecond_eq]
  simp only [text, days, days', inDay_eq, inDay'_eq, extra_eq, late, hours, minutes, second]

/-- An instant that was written is read back to the second. -/
theorem read_text (known : t.InCalendar) : read t.text = .ok t.toSecond := by
  obtain ⟨extra, leap, extra_eq, extra_le, leap_eq, toSecond_eq⟩ := exists_toSecond t
  obtain ⟨seconds, nanoseconds⟩ := t
  have days : seconds.fdiv 86400 = seconds / 86400 := Int.fdiv_eq_ediv_of_nonneg _ (by decide)
  obtain ⟨year, month, day, civil, valid, back⟩ := exists_civil (seconds / 86400)
  obtain ⟨inDay, inDay_eq⟩ : ∃ inDay, (seconds - seconds / 86400 * 86400).toNat = inDay := ⟨_, rfl⟩
  dsimp only [InCalendar] at *
  rw [days] at known
  obtain ⟨first, last⟩ := valid.year_of_inCalendar (back.symm ▸ known)
  have leap_eq : leap = if inDay % 60 + extra = 60 then 1 else 0 := by
    split <;> omega
  have seconds_eq : seconds + extra - leap = daysFromCivil year month day * 86400
      + (inDay / 3600 * 3600 + inDay / 60 % 60 * 60 + (inDay % 60 + extra) - leap : Nat) := by
    rw [back]
    omega
  -- A second that is added without being a leap second ends no minute, so the day stays the same.
  have sameDay : (seconds + extra - leap) / 86400 = seconds / 86400 := by
    omega
  rw [toSecond_eq]
  simp only [text, days, civil, inDay_eq, extra_eq]
  refine read_written valid first last (by omega) (by omega) (by omega) leap_eq seconds_eq ?_
  rw [Int.fdiv_eq_ediv_of_nonneg _ (by decide), sameDay]
  exact known

theorem decode_text (known : t.InCalendar) : Instant.decode (.str t.text) = .ok t.toSecond := by
  simp only [decode, Decoder.scalar, read_text known]

end StreamOperator.Instant
