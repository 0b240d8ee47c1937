/-!
# Places in a YAML text

A cursor is a place in a text: what remains of it, with the line and the column. All line breaks but
the two separators of Unicode are read as line feeds.
-/

set_option autoImplicit false

namespace StreamOperator.Yaml

/-- Why a text is not a YAML document, or not one that is understood. -/
inductive Fault where
  | character
  | comment
  | directive
  | duplicateField (name : String)
  | emptyAnchor
  | escape
  | expected (what : String)
  | flowColon
  | key
  | manyDocuments
  | notAllowed (what : String)
  | tab
  | tag
  | unknownAnchor
  | unterminated
  | wrongType (what : String)
  deriving DecidableEq, Repr

def Fault.message : Fault → String
  | character => "found character that cannot start any token"
  | comment => "did not find expected comment or line break"
  | directive => "found a directive that is not understood"
  | duplicateField name => "duplicate field `" ++ name ++ "`"
  | emptyAnchor => "did not find expected alphabetic or numeric character"
  | escape => "found unknown escape character"
  | expected what => "did not find expected " ++ what
  | flowColon => "found unexpected ':'"
  | key => "could not find expected ':'"
  | manyDocuments => "deserializing from YAML containing more than one document is not supported"
  | notAllowed what => what ++ " are not allowed in this context"
  | tab => "found a tab character where an indentation space is expected"
  | tag => "did not find expected tag URI"
  | unknownAnchor => "unknown anchor"
  | unterminated => "found unexpected end of stream"
  | wrongType what => "invalid type: expected " ++ what

abbrev Result := Except Fault

/-! ## Characters -/

/-- A character that a document may hold. -/
def isAllowed (c : Char) : Bool :=
  let n := c.toNat
  n == 0x9 || n == 0xA || n == 0xD || (0x20 ≤ n && n ≤ 0x7E) || n == 0x85 || (0xA0 ≤ n && n ≤ 0xFFFD)
    || 0x10000 ≤ n

/-- A line feed or a separator; other line breaks do not occur after `breaksRead`. -/
def isBreak (c : Char) : Bool := c == '\n' || c == '\u2028' || c == '\u2029'

def isBlank (c : Char) : Bool := c == ' ' || c == '\t'

/-- A letter, a digit or one of the two marks that make up names. -/
def isWord (c : Char) : Bool := c.isAlphanum || c == '_' || c == '-'

/-- The text with carriage returns, alone or before a line feed, and next lines as line feeds. -/
def breaksRead : List Char → List Char
  | [] => []
  | '\r' :: '\n' :: rest => '\n' :: breaksRead rest
  | c :: rest => (if c = '\r' ∨ c = '\u0085' then '\n' else c) :: breaksRead rest

/-! ## Cursors -/

structure Cursor where
  rest : List Char
  line : Nat := 0
  column : Nat := 0
  /-- The number of bytes before. -/
  index : Nat := 0

namespace Cursor

def ofText (text : String) : Result Cursor :=
  if text.toList.all isAllowed then .ok { rest := breaksRead text.toList } else .error .character

def peek? (c : Cursor) : Option Char := c.rest.head?

/-- The character some places further on. -/
def ahead? (c : Cursor) (n : Nat) : Option Char := c.rest[n]?

def isAt (c : Cursor) (x : Char) : Bool := c.peek? == some x

def atEnd (c : Cursor) : Bool := c.rest.isEmpty

/-- The next character belongs to a class; there is no next one at the end. -/
def isIn (c : Cursor) (set : Char → Bool) : Bool := c.peek?.any set

/-- A line ends here. -/
def atLineEnd (c : Cursor) : Bool := c.atEnd || c.isIn isBreak

/-- A word ends some places further on. -/
def blankAhead (c : Cursor) (n : Nat) : Bool :=
  match c.ahead? n with
  | none => true
  | some x => isBlank x || isBreak x

def atBlank (c : Cursor) : Bool := c.blankAhead 0

/-- Goes on by one character. -/
def skip (c : Cursor) : Cursor :=
  match c.rest with
  | [] => c
  | x :: rest =>
    let index := c.index + x.utf8Size
    if isBreak x then ⟨rest, c.line + 1, 0, index⟩ else ⟨rest, c.line, c.column + 1, index⟩

def skipMany : Nat → Cursor → Cursor
  | 0, c => c
  | n + 1, c => skipMany n c.skip

/-- The characters of a class up to the first other one, and the place after them. -/
def takeWhile (set : Char → Bool) (c : Cursor) : List Char × Cursor :=
  let taken := c.rest.takeWhile set
  (taken, c.skipMany taken.length)

def dropWhile (set : Char → Bool) (c : Cursor) : Cursor := (c.takeWhile set).2

/-- Goes to the end of the line. -/
def toLineEnd (c : Cursor) : Cursor := c.dropWhile fun x => !isBreak x

/-- The line begins with a mark of three characters on its own. -/
def atMark (c : Cursor) (mark : Char) : Bool :=
  c.column == 0 && c.isAt mark && c.ahead? 1 == some mark && c.ahead? 2 == some mark
    && c.blankAhead 3

/-- The line begins or ends a document. -/
def atDocumentMark (c : Cursor) : Bool := c.atMark '-' || c.atMark '.'

end Cursor

end StreamOperator.Yaml
