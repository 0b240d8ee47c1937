import StreamOperator.Json.DecodeError

/-!
# Places in JSON text

A cursor is a place in a text with what remains of it. Reading fails at a place: because the text is
not JSON, or because it holds a value of another type than the one that is read.
-/

set_option autoImplicit false

namespace StreamOperator.Json

/-- A line, counted from one, and the number of bytes before on that line. -/
structure Place where
  line : Nat := 1
  column : Nat := 0
  deriving DecidableEq, Repr

namespace Place

/-- The place after a character. -/
def after (p : Place) (c : Char) : Place :=
  if c = '\n' then ⟨p.line + 1, 0⟩ else ⟨p.line, p.column + c.utf8Size⟩

/-- The place a number of bytes further on, or at the end of the characters. -/
def afterBytes : Place → Nat → List Char → Place
  | p, _, [] => p
  | p, n, c :: rest =>
    if n = 0 then p
    else if c.utf8Size ≤ n then (p.after c).afterBytes (n - c.utf8Size) rest
    else ⟨p.line, p.column + n⟩

end Place

/-- Why a text is not JSON. -/
inductive Flaw where
  | colon
  | controlCharacter
  | endOfList
  | endOfObject
  | endOfString
  | endOfValue
  | escape
  | escapePair
  | hexEnd
  | keyText
  | listEnd
  | nesting
  | number
  | objectEnd
  | range
  | trailingCharacters
  | trailingComma
  | value
  | word
  deriving DecidableEq, Repr

def Flaw.message : Flaw → String
  | colon => "expected `:`"
  | controlCharacter => "control character (\\u0000-\\u001F) found while parsing a string"
  | endOfList => "EOF while parsing a list"
  | endOfObject => "EOF while parsing an object"
  | endOfString => "EOF while parsing a string"
  | endOfValue => "EOF while parsing a value"
  | escape => "invalid escape"
  | escapePair => "lone leading surrogate in hex escape"
  | hexEnd => "unexpected end of hex escape"
  | keyText => "key must be a string"
  | listEnd => "expected `,` or `]`"
  | nesting => "recursion limit exceeded"
  | number => "invalid number"
  | objectEnd => "expected `,` or `\x7d`"
  | range => "number out of range"
  | trailingCharacters => "trailing characters"
  | trailingComma => "trailing comma"
  | value => "expected value"
  | word => "expected ident"

/-- Why a text was refused. -/
inductive Refusal where
  | flaw (flaw : Flaw)
  | value (error : DecodeError)
  deriving DecidableEq, Repr

/-- Why a text was refused, and where. -/
structure TextError where
  reason : Refusal
  place : Place
  deriving DecidableEq, Repr

def TextError.message (e : TextError) : String :=
  let reason := match e.reason with
    | .flaw flaw => flaw.message
    | .value error => error.message
  reason ++ s!" at line {e.place.line} column {e.place.column}"

structure Cursor where
  rest : List Char
  place : Place := {}

namespace Cursor

/-- Goes on by one character. -/
def skip (c : Cursor) : Cursor :=
  match c.rest with
  | [] => c
  | x :: rest => ⟨rest, c.place.after x⟩

def skipMany : Nat → Cursor → Cursor
  | 0, c => c
  | n + 1, c => skipMany n c.skip

/-- The place after the next byte. -/
def nextPlace (c : Cursor) : Place := c.place.afterBytes 1 c.rest

/-- Goes over the characters of a class. -/
def dropWhile (set : Char → Bool) (c : Cursor) : Cursor :=
  skipMany (c.rest.takeWhile set).length c

def isBlank (c : Char) : Bool := c == ' ' || c == '\n' || c == '\t' || c == '\r'

end Cursor

/-! ## Readers -/

/-- Reads a part of a text. -/
abbrev Reader := StateT Cursor (Except TextError)

namespace Reader

variable {α : Type}

def peek : Reader (Option Char) := return (← get).rest.head?

def advance : Reader Unit := modify Cursor.skip

/-- Goes to the next character that is no blank, and tells which it is. -/
def next : Reader (Option Char) := do
  modify (·.dropWhile Cursor.isBlank)
  peek

/-- Goes over a character if it is the next one. -/
def accept (c : Char) : Reader Bool := do
  let there := (← peek) == some c
  if there then advance
  return there

/-- The text has a flaw here. -/
def fail (flaw : Flaw) : Reader α := do throw ⟨.flaw flaw, (← get).place⟩

/-- The next byte is a flaw of the text. -/
def failNext (flaw : Flaw) : Reader α := do throw ⟨.flaw flaw, (← get).nextPlace⟩

/-- The value before this place is not one that is read. -/
def refuse (error : DecodeError) : Reader α := do throw ⟨.value error, (← get).place⟩

/-- A result of decoding the value before this place. -/
def judge : Except DecodeError α → Reader α
  | .ok a => return a
  | .error e => refuse e

end Reader

end StreamOperator.Json
