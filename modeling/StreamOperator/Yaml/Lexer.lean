import StreamOperator.Yaml.Token

/-!
# From text to tokens

Tokens are read with the indentation of the blocks that are open and, for every level of flow
collections, the place of a token that may turn out to be a key. When a colon follows on the same
line, the tokens that mark it as a key are put in front of it.
-/

set_option autoImplicit false

namespace StreamOperator.Yaml

/-- A token that may turn out to be a key. -/
structure PossibleKey where
  /-- A key is the only thing it can be. -/
  required : Bool
  /-- The number of tokens before it. -/
  place : Nat
  start : Cursor

structure Lexer where
  cursor : Cursor
  tokens : List Token := []
  /-- The column of the innermost block, or a number before every column. -/
  indent : Int := -1
  outer : List Int := []
  /-- One place for each level of flow collections and one for the level outside of them. -/
  keys : List (Option PossibleKey) := [none]
  keyAllowed : Bool := true

namespace Lexer

def inFlow (l : Lexer) : Bool := 1 < l.keys.length

def put (l : Lexer) (t : Token) : Lexer := { l with tokens := l.tokens ++ [t] }

/-- Goes on to a place. -/
def moveTo (l : Lexer) (c : Cursor) : Lexer := { l with cursor := c }

/-! ## Indentation -/

/-- Closes the blocks to the right of a column. -/
def unroll (l : Lexer) (column : Int) : Lexer :=
  if l.inFlow then l
  else
    let closed := (l.indent :: l.outer).takeWhile (column < ·)
    match (l.indent :: l.outer).drop closed.length with
    | indent :: outer =>
      { l with indent := indent, outer := outer
               tokens := l.tokens ++ List.replicate closed.length Token.blockEnd }
    | [] => l

/-- Opens a block at a column to the right of the innermost one; its token goes to a place. -/
def roll (l : Lexer) (column place : Nat) (t : Token) : Lexer :=
  if l.inFlow || (column : Int) ≤ l.indent then l
  else
    { l with indent := column, outer := l.indent :: l.outer
             tokens := l.tokens.insertIdx place t }

def rollHere (l : Lexer) (t : Token) : Lexer := l.roll l.cursor.column l.tokens.length t

/-! ## Possible keys -/

/-- A key ends on its line, and within 1024 bytes. -/
def isStale (l : Lexer) (k : PossibleKey) : Bool :=
  k.start.line < l.cursor.line || k.start.index + 1024 < l.cursor.index

/-- Gives up the possible keys that have become stale. -/
def dropStale (l : Lexer) : Result Lexer :=
  let stale := fun k => isStale l k
  if l.keys.any fun key => key.any fun k => stale k && k.required then .error .key
  else .ok { l with keys := l.keys.map fun key => key.filter fun k => !stale k }

/-- Gives up the possible key of this level. -/
def dropKey (l : Lexer) : Result Lexer :=
  match l.keys with
  | some k :: outer => if k.required then .error .key else .ok { l with keys := none :: outer }
  | _ => .ok l

/-- Notes that the next token may be a key. -/
def saveKey (l : Lexer) : Result Lexer :=
  if l.keyAllowed then do
    let required := !l.inFlow && l.indent == (l.cursor.column : Int)
    let l ← l.dropKey
    return { l with keys := some ⟨required, l.tokens.length, l.cursor⟩ :: l.keys.drop 1 }
  else .ok l

/-! ## Tokens -/

/-- Ends all blocks, and puts a token that stands outside of them. -/
def outside (l : Lexer) : Result Lexer := do
  let l ← (l.unroll (-1)).dropKey
  return { l with keyAllowed := false }

def directive (l : Lexer) : Result Lexer := do
  let l ← l.outside
  let (t, c) ← Token.readDirective l.cursor
  return (l.put t).moveTo c

def documentMark (l : Lexer) (t : Token) : Result Lexer := do
  let l ← l.outside
  return (l.put t).moveTo (l.cursor.skipMany 3)

def openFlow (l : Lexer) (t : Token) : Result Lexer := do
  let l ← l.saveKey
  return { (l.put t).moveTo l.cursor.skip with keys := none :: l.keys, keyAllowed := true }

def closeFlow (l : Lexer) (t : Token) : Result Lexer := do
  let l ← l.dropKey
  let keys := if l.inFlow then l.keys.drop 1 else l.keys
  return { (l.put t).moveTo l.cursor.skip with keys := keys, keyAllowed := false }

def flowEntry (l : Lexer) : Result Lexer := do
  let l ← l.dropKey
  return { (l.put .flowEntry).moveTo l.cursor.skip with keyAllowed := true }

def blockEntry (l : Lexer) : Result Lexer := do
  if !l.inFlow && !l.keyAllowed then throw (.notAllowed "block sequence entries")
  let l ← (l.rollHere .blockSequence).dropKey
  return { (l.put .blockEntry).moveTo l.cursor.skip with keyAllowed := true }

def keyMark (l : Lexer) : Result Lexer := do
  if !l.inFlow && !l.keyAllowed then throw (.notAllowed "mapping keys")
  let l ← (l.rollHere .blockMapping).dropKey
  return { (l.put .key).moveTo l.cursor.skip with keyAllowed := !l.inFlow }

def valueMark (l : Lexer) : Result Lexer := do
  match l.keys with
  | some k :: outer =>
    let l := { l with tokens := l.tokens.insertIdx k.place Token.key, keys := none :: outer }
    let l := l.roll k.start.column k.place .blockMapping
    return { (l.put .value).moveTo l.cursor.skip with keyAllowed := false }
  | _ =>
    if !l.inFlow && !l.keyAllowed then throw (.notAllowed "mapping values")
    let l := l.rollHere .blockMapping
    return { (l.put .value).moveTo l.cursor.skip with keyAllowed := !l.inFlow }

/-- Puts a token that may be a key, or belong to one. -/
def content (l : Lexer) (read : Cursor → Result (Token × Cursor)) : Result Lexer := do
  let l ← l.saveKey
  let (t, c) ← read l.cursor
  return { (l.put t).moveTo c with keyAllowed := false }

def named (make : String → Token) (c : Cursor) : Result (Token × Cursor) := do
  let (name, c) ← Token.readName c.skip
  return (make name, c)

def quoted (quote : Char) (c : Cursor) : Result (Token × Cursor) := do
  let (s, c) ← quotedScalar quote c
  return (.scalar s, c)

def block (l : Lexer) (folded : Bool) : Result Lexer := do
  let l ← l.dropKey
  let (s, c) ← blockScalar folded l.indent l.cursor
  return { (l.put (.scalar s)).moveTo c with keyAllowed := true }

def plain (l : Lexer) : Result Lexer := do
  let l ← l.saveKey
  let (s, broken, c) ← plainScalar l.inFlow (l.indent + 1).toNat l.cursor
  return { (l.put (.scalar s)).moveTo c with keyAllowed := broken }

/-- A plain scalar may begin with the character; three more begin one when no blank follows them. -/
def startsPlain (x : Char) : Bool :=
  !(isBlank x || isBreak x || "-?:,[]\x7b\x7d#&*!|>'\"%@`".contains x)

/-- Reads the token that begins at the cursor. -/
def token (l : Lexer) : Result Lexer :=
  let c := l.cursor
  if c.column = 0 && c.isAt '%' then l.directive
  else if c.atMark '-' then l.documentMark .documentStart
  else if c.atMark '.' then l.documentMark .documentEnd
  else
    match c.peek? with
    | some '[' => l.openFlow .flowSequence
    | some '\x7b' => l.openFlow .flowMapping
    | some ']' => l.closeFlow .flowSequenceEnd
    | some '\x7d' => l.closeFlow .flowMappingEnd
    | some ',' => l.flowEntry
    | some '*' => l.content (named .alias)
    | some '&' => l.content (named .anchor)
    | some '!' => l.content (Token.readTag l.inFlow)
    | some '\'' => l.content (quoted '\'')
    | some '"' => l.content (quoted '"')
    | some '-' => if c.blankAhead 1 then l.blockEntry else l.plain
    | some '?' =>
      if l.inFlow || c.blankAhead 1 then l.keyMark else l.plain
    | some ':' =>
      if l.inFlow || c.blankAhead 1 then l.valueMark else l.plain
    | some '|' => if l.inFlow then .error .character else l.block false
    | some '>' => if l.inFlow then .error .character else l.block true
    | _ => if c.isIn startsPlain then l.plain else .error .character

/-! ## Between tokens -/

/-- Skips blanks, comments and line breaks; tabs where no key may begin. -/
def toToken : Nat → Lexer → Lexer
  | 0, l => l
  | fuel + 1, l =>
    let c := l.cursor
    let c := if c.column = 0 && c.isAt '\ufeff' then c.skip else c
    let c := c.dropWhile fun x => x == ' ' || ((l.inFlow || !l.keyAllowed) && x == '\t')
    let c := if c.isAt '#' then c.toLineEnd else c
    if c.isIn isBreak then
      toToken fuel { l with cursor := c.skip, keyAllowed := l.keyAllowed || !l.inFlow }
    else l.moveTo c

/-- Reads all tokens. -/
def run : Nat → Lexer → Result (List Token)
  | 0, _ => .error .unterminated
  | fuel + 1, l => do
    let l ← (toToken (l.cursor.rest.length + 1) l).dropStale
    let l := l.unroll l.cursor.column
    if l.cursor.atEnd then return (← (l.unroll (-1)).dropKey).tokens
    run fuel (← l.token)

end Lexer

/-- The tokens of a text. -/
def tokens (text : String) : Result (List Token) := do
  let c ← Cursor.ofText text
  Lexer.run (c.rest.length + 2) { cursor := c }

end StreamOperator.Yaml
