import StreamOperator.Yaml.Scalar

/-!
# Tokens

The tokens of a YAML text, with those that stand for its indentation, and the readers of tokens that
do not depend on where they stand: directives, tags and anchors.
-/

set_option autoImplicit false

namespace StreamOperator.Yaml

inductive Token where
  | version (major minor : Nat)
  /-- A handle for tags that begin with a text. -/
  | tagHandle (handle beginning : String)
  | documentStart
  | documentEnd
  | blockSequence
  | blockMapping
  | blockEnd
  | flowSequence
  | flowSequenceEnd
  | flowMapping
  | flowMappingEnd
  | blockEntry
  | flowEntry
  | key
  | value
  | alias (name : String)
  | anchor (name : String)
  | tag (handle suffix : String)
  | scalar (content : Scalar)
  deriving DecidableEq, Repr

namespace Token

/-! ## Anchors -/

/-- The name of an anchor or an alias, after its mark. -/
def readName (c : Cursor) : Result (String × Cursor) :=
  let (name, c) := c.takeWhile isWord
  let ended := c.atBlank || c.isIn fun x => "?:,]\x7d%@`".contains x
  if name.isEmpty || !ended then .error .emptyAnchor else .ok (String.ofList name, c)

/-! ## Tags -/

/-- A character of a tag; three more are allowed between angle brackets and in directives. -/
def isTagChar (wide : Bool) (x : Char) : Bool :=
  isWord x || ";/?:@&=+$.!~*'()".contains x || (wide && ",[]".contains x)

/-- The byte of a percent escape. -/
def readByte (c : Cursor) : Result (Nat × Cursor) :=
  match c.isAt '%', (c.ahead? 1).bind hexValue?, (c.ahead? 2).bind hexValue? with
  | true, some high, some low => .ok (high * 16 + low, c.skipMany 3)
  | _, _, _ => .error .tag

def readBytes : Nat → Cursor → Result (List Nat × Cursor)
  | 0, c => .ok ([], c)
  | n + 1, c => do
    let (byte, c) ← readByte c
    let (rest, c) ← readBytes n c
    return (byte :: rest, c)

/-- The number of bytes that follow the first byte of a character. -/
def bytesAfter? (first : Nat) : Option Nat :=
  if first < 0x80 then some 0
  else if first < 0xC0 then none
  else if first < 0xE0 then some 1
  else if first < 0xF0 then some 2
  else if first < 0xF8 then some 3
  else none

/-- The byte can stand after the first one of a character. -/
def isContinuation (byte : Nat) : Bool := byte / 64 == 2

/-- The character of some bytes; what stands for none is read as a replacement character. -/
def charOfBytes (bytes : List Nat) : Char :=
  ((String.fromUTF8? (ByteArray.mk (bytes.map UInt8.ofNat).toArray)).bind (·.toList.head?)).getD '\ufffd'

/-- The character of percent escapes. Their number has to fit, not what they stand for. -/
def readEscaped (c : Cursor) : Result (Char × Cursor) := do
  let (first, c) ← readByte c
  match bytesAfter? first with
  | none => throw .tag
  | some n =>
    let (others, c) ← readBytes n c
    if !others.all isContinuation then throw .tag
    return (charOfBytes (first :: others), c)

/-- The text of a tag. -/
def readTagText (wide : Bool) : Nat → List Char → Cursor → Result (List Char × Cursor)
  | 0, done, c => .ok (done.reverse, c)
  | fuel + 1, done, c =>
    match c.peek? with
    | some '%' =>
      match readEscaped c with
      | .error e => .error e
      | .ok (x, c) => readTagText wide fuel (x :: done) c
    | some x =>
      if isTagChar wide x then readTagText wide fuel (x :: done) c.skip else .ok (done.reverse, c)
    | none => .ok (done.reverse, c)

/-- A handle: words between exclamation marks, or a beginning of one. -/
def readHandle (c : Cursor) : Result (List Char × Cursor) :=
  if c.isAt '!' then
    let (name, c) := c.skip.takeWhile isWord
    if c.isAt '!' then .ok ('!' :: name ++ ['!'], c.skip) else .ok ('!' :: name, c)
  else .error .tag

/-- What a tag says ends at the first null character of its text. -/
def significant (text : List Char) : String := String.ofList (text.takeWhile (· ≠ '\x00'))

/-- The handle and the rest of a tag that is not between angle brackets. -/
def readShortTag (c : Cursor) : Result (String × String × Cursor) := do
  let (handle, c) ← readHandle c
  if 2 ≤ handle.length && handle.getLast? == some '!' then
    let (suffix, c) ← readTagText false (c.rest.length + 1) [] c
    if suffix.isEmpty then throw .tag
    return (String.ofList handle, significant suffix, c)
  else
    let (suffix, c) ← readTagText false (c.rest.length + 1) (handle.drop 1).reverse c
    if (significant suffix).isEmpty then return ("", "!", c) else return ("!", significant suffix, c)

/-- A tag from its exclamation mark on, within a flow collection or not. -/
def readTag (inFlow : Bool) (c : Cursor) : Result (Token × Cursor) := do
  let (handle, suffix, c) ←
    if c.ahead? 1 == some '<' then do
      let (text, c) ← readTagText true (c.rest.length + 1) [] c.skip.skip
      if text.isEmpty || !c.isAt '>' then throw .tag
      pure ("", significant text, c.skip)
    else readShortTag c
  if c.atBlank || (inFlow && c.isAt ',') then return (.tag handle suffix, c)
  throw .tag

/-! ## Directives -/

/-- A number of at most nine digits. -/
def readNumber (c : Cursor) : Result (Nat × Cursor) :=
  let (digits, c) := c.takeWhile Char.isDigit
  if digits.isEmpty || 9 < digits.length then .error .directive
  else .ok (digits.foldl (fun n d => n * 10 + (d.toNat - 48)) 0, c)

def readVersion (c : Cursor) : Result (Token × Cursor) := do
  let (major, c) ← readNumber (c.dropWhile isBlank)
  if !c.isAt '.' then throw .directive
  let (minor, c) ← readNumber c.skip
  return (.version major minor, c)

def readTagHandle (c : Cursor) : Result (Token × Cursor) := do
  let (handle, c) ← readHandle (c.dropWhile isBlank)
  if handle.length ≠ 1 && handle.getLast? ≠ some '!' then throw .directive
  if !c.isIn isBlank then throw .directive
  let c := c.dropWhile isBlank
  let (beginning, c) ← readTagText true (c.rest.length + 1) [] c
  if beginning.isEmpty || !c.atBlank then throw .directive
  return (.tagHandle (String.ofList handle) (significant beginning), c)

/-- A directive, from its percent sign to the end of its line. -/
def readDirective (c : Cursor) : Result (Token × Cursor) := do
  let (name, c) := c.skip.takeWhile isWord
  if name.isEmpty || !c.atBlank then throw .directive
  let (token, c) ←
    if name = "YAML".toList then readVersion c
    else if name = "TAG".toList then readTagHandle c
    else throw .directive
  return (token, ← endLine c)

end Token

end StreamOperator.Yaml
