import StreamOperator.Json.Decode
import StreamOperator.Text.Visible
import StreamOperator.Time.Instant

/-!
# Reading instants

A timestamp is a date, one of `T`, `t` and a blank, a time of day and an offset from UTC. Blanks may
stand before each number and sign of the date and the time; the offset may be `Z`, `UTC` or hours
and minutes.
-/

set_option autoImplicit false

namespace StreamOperator.Instant

/-- Why a text is no timestamp. -/
inductive ReadError where
  | invalid
  | tooShort
  | tooLong
  | outOfRange
  /-- The calendar ends before the instant is reached. -/
  | impossible
  deriving DecidableEq, Repr

def ReadError.message : ReadError → String
  | invalid => "input contains invalid characters"
  | tooShort => "premature end of input"
  | tooLong => "trailing input"
  | outOfRange => "input is out of range"
  | impossible => "no possible date and time matching input"

def skipBlanks (cs : List Char) : List Char := cs.dropWhile Text.isBlank

/-- A number of at most `width` digits. -/
def digits (width : Option Nat) (cs : List Char) : Except ReadError (Nat × List Char) :=
  match cs with
  | [] => .error .tooShort
  | c :: _ =>
    if c.isDigit then
      let ds := match width with
        | some width => (cs.take width).takeWhile Char.isDigit
        | none => cs.takeWhile Char.isDigit
      let n := ds.foldl (fun n d => n * 10 + (d.toNat - '0'.toNat)) 0
      if Nat.pow 2 63 ≤ n then .error .outOfRange else .ok (n, cs.drop ds.length)
    else .error .invalid

/-- A number in a range, after blanks. -/
def numberIn (least greatest : Nat) (cs : List Char) : Except ReadError (Nat × List Char) := do
  let (n, rest) ← digits (some 2) (skipBlanks cs)
  if least ≤ n ∧ n ≤ greatest then .ok (n, rest) else .error .outOfRange

/-- A year: up to four digits, or any number of them after a sign. -/
def year (cs : List Char) : Except ReadError (Int × List Char) :=
  let checked (n : Int) (rest : List Char) : Except ReadError (Int × List Char) :=
    if -(Nat.pow 2 31) ≤ n ∧ n < Nat.pow 2 31 then .ok (n, rest) else .error .outOfRange
  match skipBlanks cs with
  | '+' :: rest => do
    let (n, rest) ← digits none rest
    checked n rest
  | '-' :: rest => do
    let (n, rest) ← digits none rest
    checked (-(n : Int)) rest
  | cs => do
    let (n, rest) ← digits (some 4) cs
    checked n rest

/-- A sign that separates two numbers, after blanks. -/
def separator (mark : Char) (cs : List Char) : Except ReadError (List Char) :=
  match skipBlanks cs with
  | [] => .error .tooShort
  | c :: rest => if c = mark then .ok rest else .error .invalid

/-- The fraction of a second in nanoseconds; digits beyond the ninth are dropped. -/
def fraction : List Char → Except ReadError (Nat × List Char)
  | '.' :: rest => do
    let (_, after) ← digits (some 9) rest
    let ds := rest.take (rest.length - after.length)
    let n := ds.foldl (fun n d => n * 10 + (d.toNat - '0'.toNat)) 0
    .ok (n * Nat.pow 10 (9 - ds.length), after.dropWhile Char.isDigit)
  | cs => .ok (0, cs)

/-- A pair of digits that stand for less than a hundred. -/
def pair (a b : Char) : Option Nat :=
  if a.isDigit ∧ b.isDigit then some ((a.toNat - '0'.toNat) * 10 + (b.toNat - '0'.toNat)) else none

/-- Less than two digits are left; a character beyond ASCII stands where a digit should. -/
def missingDigit : List Char → ReadError
  | [c] => if c.toNat < 0x80 then .tooShort else .invalid
  | _ => .tooShort

/-- The minutes of an offset. -/
def offsetMinutes : List Char → Except ReadError (Nat × List Char)
  | a :: b :: rest =>
    match pair a b with
    | none => .error .invalid
    | some minutes => if minutes < 60 then .ok (minutes, rest) else .error .outOfRange
  | cs => .error (missingDigit cs)

/-- The hours and minutes of an offset, in seconds. -/
def offsetSize : List Char → Except ReadError (Nat × List Char)
  | a :: b :: rest =>
    match pair a b with
    | none => .error .invalid
    | some hours => do
      let (minutes, rest) ← offsetMinutes (rest.dropWhile fun c => c == ':' || Text.isBlank c)
      .ok (hours * 3600 + minutes * 60, rest)
  | cs => .error (missingDigit cs)

/-- The offset from UTC in seconds. -/
def offset (cs : List Char) : Except ReadError (Int × List Char) :=
  if (cs.take 3).map Char.toUpper = ['U', 'T', 'C'] then .ok (0, cs.drop 3)
  else
    match cs with
    | [] => .error .tooShort
    | c :: rest =>
      if c = 'Z' ∨ c = 'z' then .ok (0, rest)
      else if c = '+' then do
        let (n, rest) ← offsetSize rest
        .ok (n, rest)
      else if c = '-' ∨ c = '−' then do
        let (n, rest) ← offsetSize rest
        .ok (-(n : Int), rest)
      else .error .invalid

/-- The first and the last year of the calendar. -/
def firstYear : Int := -262143

def lastYear : Int := 262142

/-- The day is one of the calendar. -/
def inCalendar (days : Int) : Bool :=
  daysFromCivil firstYear 1 1 ≤ days && days ≤ daysFromCivil lastYear 12 31

/-- The instant of a timestamp. -/
def read (text : String) : Except ReadError Instant := do
  let (year, cs) ← year text.toList
  let cs ← separator '-' cs
  let (month, cs) ← numberIn 1 12 cs
  let cs ← separator '-' cs
  let (day, cs) ← numberIn 1 31 cs
  let cs ← match cs with
    | [] => .error .tooShort
    | c :: rest => if c = 'T' ∨ c = 't' ∨ c = ' ' then .ok rest else .error .invalid
  let (hour, cs) ← numberIn 0 23 cs
  let cs ← separator ':' cs
  let (minute, cs) ← numberIn 0 59 cs
  let cs ← separator ':' cs
  let (second, cs) ← numberIn 0 60 cs
  let (nanoseconds, cs) ← fraction cs
  let (shift, cs) ← offset (skipBlanks cs)
  if !(skipBlanks cs).isEmpty then .error .tooLong
  else if daysInMonth year month < day ∨ year < firstYear ∨ lastYear < year
      ∨ 86400 ≤ shift.natAbs then
    .error .outOfRange
  else
    let leap := if second = 60 then 1 else 0
    let inDay := hour * 3600 + minute * 60 + second - leap
    let seconds := daysFromCivil year month day * 86400 + inDay - shift
    if inCalendar (seconds.fdiv 86400) then .ok ⟨seconds, nanoseconds + leap * Nat.pow 10 9⟩
    else .error .impossible

def decode : Decoder Instant := .scalar fun value =>
  match value with
  | .str s =>
    match read s with
    | .ok t => .ok t
    | .error e => .error (.malformed e.message)
  | value => Decode.mismatch value "an RFC 3339 formatted date and time string"

end StreamOperator.Instant
