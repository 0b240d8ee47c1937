import StreamOperator.Yaml.Cursor

/-!
# Scalars

Plain, quoted and block scalars. A line break inside a plain or quoted scalar is read as a space, and
more than one as one less; a literal block keeps its lines, and a folded block joins them.
-/

set_option autoImplicit false

namespace StreamOperator.Yaml

inductive Style where
  | plain
  | singleQuoted
  | doubleQuoted
  | literal
  | folded
  deriving DecidableEq, Repr

structure Scalar where
  style : Style
  text : String
  /-- The tag in full. -/
  tag : Option String := none
  deriving DecidableEq, Repr

/-! ## Gaps between words -/

/-- Blanks and line breaks between two words. -/
structure Gap where
  blanks : List Char := []
  /-- A line has ended. -/
  broken : Bool := false
  firstBreak : List Char := []
  moreBreaks : List Char := []

namespace Gap

/-- What line breaks come to: a line feed alone is a space. -/
def fold (firstBreak moreBreaks : List Char) : List Char :=
  if firstBreak = ['\n'] then (if moreBreaks.isEmpty then [' '] else moreBreaks)
  else firstBreak ++ moreBreaks

/-- What the gap comes to. -/
def chars (g : Gap) : List Char := if g.broken then fold g.firstBreak g.moreBreaks else g.blanks

/-- Adds a blank or a line break. -/
def add (g : Gap) (x : Char) : Gap :=
  if isBlank x then (if g.broken then g else { g with blanks := g.blanks ++ [x] })
  else if g.broken then { g with moreBreaks := g.moreBreaks ++ [x] }
  else { g with broken := true, blanks := [], firstBreak := [x] }

/-- Reads a gap; after a line break no tab may stand before a column. -/
def read (margin : Nat) : Nat → Gap → Cursor → Result (Gap × Cursor)
  | 0, g, c => .ok (g, c)
  | fuel + 1, g, c =>
    match c.peek? with
    | some x =>
      if isBlank x || isBreak x then
        if g.broken && c.column < margin && x == '\t' then .error .tab
        else read margin fuel (g.add x) c.skip
      else .ok (g, c)
    | none => .ok (g, c)

end Gap

/-! ## Quoted scalars -/

def hexValue? (c : Char) : Option Nat :=
  if c.isDigit then some (c.toNat - 48)
  else if 'a' ≤ c ∧ c ≤ 'f' then some (c.toNat - 87)
  else if 'A' ≤ c ∧ c ≤ 'F' then some (c.toNat - 55)
  else none

/-- The number that a list of hexadecimal digits writes. -/
def hexNumber? (digits : List Char) : Option Nat :=
  digits.foldl (fun number? d => do return (← number?) * 16 + (← hexValue? d)) (some 0)

/-- The character of an escape by a single letter. -/
def escaped? : Char → Option Char
  | '0' => some '\x00'
  | 'a' => some '\x07'
  | 'b' => some '\x08'
  | 't' | '\t' => some '\t'
  | 'n' => some '\n'
  | 'v' => some '\x0b'
  | 'f' => some '\x0c'
  | 'r' => some '\r'
  | 'e' => some '\x1b'
  | ' ' => some ' '
  | '"' => some '"'
  | '/' => some '/'
  | '\\' => some '\\'
  | 'N' => some '\u0085'
  | '_' => some '\u00a0'
  | 'L' => some '\u2028'
  | 'P' => some '\u2029'
  | _ => none

/-- The number of digits of an escape by a code. -/
def escapeLength? : Char → Option Nat
  | 'x' => some 2
  | 'u' => some 4
  | 'U' => some 8
  | _ => none

/-- The character of an escape, after the backslash. -/
def readEscape (c : Cursor) : Result (Char × Cursor) :=
  match c.peek? with
  | none => .error .escape
  | some x =>
    match escaped? x, escapeLength? x with
    | some y, _ => .ok (y, c.skip)
    | none, none => .error .escape
    | none, some n =>
      let digits := c.skip.rest.take n
      match if digits.length = n then hexNumber? digits else none with
      | none => .error (.expected "hexdecimal number")
      | some code =>
        if code.isValidChar then .ok (Char.ofNat code, c.skip.skipMany n) else .error .escape

/-- What a word of a quoted scalar ends with. -/
inductive WordEnd where
  | quote
  | gap (g : Gap)

/-- Reads a word of a quoted scalar, in reverse after what was read before it. -/
def readWord (quote : Char) : Nat → List Char → Cursor → Result (List Char × WordEnd × Cursor)
  | 0, _, _ => .error .unterminated
  | fuel + 1, done, c =>
    match c.rest with
    | [] => .ok (done, .gap {}, c)
    | x :: following =>
      if isBlank x || isBreak x then .ok (done, .gap {}, c)
      else if x = '\'' && quote == '\'' && following.head? == some '\'' then
        readWord quote fuel ('\'' :: done) c.skip.skip
      else if x = quote then .ok (done, .quote, c.skip)
      else if x = '\\' && quote == '"' then
        if c.skip.isIn isBreak then .ok (done, .gap { broken := true }, c.skip.skip)
        else
          match readEscape c.skip with
          | .error e => .error e
          | .ok (y, c) => readWord quote fuel (y :: done) c
      else readWord quote fuel (x :: done) c.skip

/-- Reads the words of a quoted scalar up to the quote that ends it. -/
def readQuoted (quote : Char) : Nat → List Char → Cursor → Result (List Char × Cursor)
  | 0, _, _ => .error .unterminated
  | fuel + 1, done, c =>
    if c.atDocumentMark then .error .unterminated
    else if c.atEnd then .error .unterminated
    else
      match readWord quote (c.rest.length + 1) done c with
      | .error e => .error e
      | .ok (done, .quote, c) => .ok (done.reverse, c)
      | .ok (done, .gap g, c) =>
        match g.read 0 (c.rest.length + 1) c with
        | .error e => .error e
        | .ok (g, c) => readQuoted quote fuel (g.chars.reverse ++ done) c

/-- A quoted scalar, from its first quote on. -/
def quotedScalar (quote : Char) (c : Cursor) : Result (Scalar × Cursor) := do
  let (text, c) ← readQuoted quote (c.rest.length + 1) [] c.skip
  return (⟨if quote = '"' then .doubleQuoted else .singleQuoted, String.ofList text, none⟩, c)

/-! ## Plain scalars -/

def isFlowMark (x : Char) : Bool :=
  x == ',' || x == '[' || x == ']' || x == '\x7b' || x == '\x7d'

/-- A plain scalar ends before the next character. -/
def endsPlain (inFlow : Bool) (c : Cursor) : Bool :=
  (c.isAt ':' && c.blankAhead 1) || (inFlow && c.isIn isFlowMark)

/-- A colon that a plain scalar in a flow collection may not hold. -/
def isStrayColon (inFlow : Bool) (c : Cursor) : Bool :=
  inFlow && c.isAt ':' && (c.ahead? 1).any fun x => isFlowMark x || x == '?'

/-- Reads a word of a plain scalar, in reverse after what was read before it. -/
def readPlainWord (inFlow : Bool) : Nat → List Char → Cursor → Result (List Char × Cursor)
  | 0, done, c => .ok (done, c)
  | fuel + 1, done, c =>
    if c.atBlank then .ok (done, c)
    else if isStrayColon inFlow c then .error .flowColon
    else if endsPlain inFlow c then .ok (done, c)
    else
      match c.peek? with
      | none => .ok (done, c)
      | some x => readPlainWord inFlow fuel (x :: done) c.skip

/-- Reads the words of a plain scalar with the gap before the next one; a line that begins before the
margin ends a scalar outside of flow collections. Also whether it ended after a line break. -/
def readPlain (inFlow : Bool) (margin : Nat) :
    Nat → List Char → Gap → Cursor → Result (List Char × Bool × Cursor)
  | 0, done, g, c => .ok (done.reverse, g.broken, c)
  | fuel + 1, done, g, c =>
    if c.atDocumentMark || c.isAt '#' then .ok (done.reverse, g.broken, c)
    else
      match readPlainWord inFlow (c.rest.length + 1) [] c with
      | .error e => .error e
      | .ok ([], c) => .ok (done.reverse, g.broken, c)
      | .ok (word, c) =>
        let done := word ++ g.chars.reverse ++ done
        if c.isIn (fun x => isBlank x || isBreak x) then
          match Gap.read margin (c.rest.length + 1) {} c with
          | .error e => .error e
          | .ok (g, c) =>
            if !inFlow && c.column < margin then .ok (done.reverse, g.broken, c)
            else readPlain inFlow margin fuel done g c
        else .ok (done.reverse, false, c)

/-- A plain scalar, and whether it ended after a line break. -/
def plainScalar (inFlow : Bool) (margin : Nat) (c : Cursor) : Result (Scalar × Bool × Cursor) := do
  let (text, broken, c) ← readPlain inFlow margin (c.rest.length + 1) [] {} c
  return (⟨.plain, String.ofList text, none⟩, broken, c)

/-! ## Block scalars -/

/-- What becomes of the line breaks at the end of a block. -/
inductive Chomping where
  | strip
  | clip
  | keep
  deriving DecidableEq, Repr

def chomping? : Char → Option Chomping
  | '-' => some .strip
  | '+' => some .keep
  | _ => none

/-- The step of the indentation that a header gives; zero is refused. -/
def readStep (c : Cursor) : Result (Option Nat × Cursor) :=
  match c.peek? with
  | some x =>
    if x = '0' then .error (.notAllowed "indentation indicators equal to 0")
    else if x.isDigit then .ok (some (x.toNat - 48), c.skip)
    else .ok (none, c)
  | none => .ok (none, c)

/-- The marks of a block's header, in either order. -/
def readHeader (c : Cursor) : Result (Chomping × Option Nat × Cursor) := do
  match c.peek?.bind chomping? with
  | some chomping =>
    let (step, c) ← readStep c.skip
    return (chomping, step, c)
  | none =>
    let (step, c) ← readStep c
    match step, c.peek?.bind chomping? with
    | some n, some chomping => return (chomping, some n, c.skip)
    | _, _ => return (.clip, step, c)

/-- Goes to the next line over blanks and a comment. -/
def endLine (c : Cursor) : Result Cursor :=
  let c := c.dropWhile isBlank
  let c := if c.isAt '#' then c.toLineEnd else c
  if c.atLineEnd then .ok c.skip else .error .comment

/-- Spaces before a column, or all of them when no column is known. -/
def skipIndent (indent : Option Nat) : Nat → Cursor → Cursor
  | 0, c => c
  | fuel + 1, c =>
    if indent.all (c.column < ·) && c.isAt ' ' then skipIndent indent fuel c.skip else c

/-- Reads empty lines, with the greatest column that was reached. -/
def readEmptyLines (indent : Option Nat) :
    Nat → Nat → List Char → Cursor → Result (Nat × List Char × Cursor)
  | 0, widest, breaks, c => .ok (widest, breaks, c)
  | fuel + 1, widest, breaks, c =>
    let c := skipIndent indent (c.rest.length + 1) c
    let widest := max widest c.column
    if indent.all (c.column < ·) && c.isAt '\t' then .error .tab
    else
      match c.peek? with
      | some x =>
        if isBreak x then readEmptyLines indent fuel widest (breaks ++ [x]) c.skip
        else .ok (widest, breaks, c)
      | none => .ok (widest, breaks, c)

/-- What is held back while the lines of a block are read. -/
structure BlockTail where
  /-- The break after the last line. -/
  lineBreak : List Char := []
  /-- The empty lines after it. -/
  emptyLines : List Char := []
  /-- The last line began with a blank. -/
  blank : Bool := false

/-- What comes before the next line of a block: lines that do not begin with a blank are joined in a
folded one. -/
def BlockTail.join (folded nextBlank : Bool) (t : BlockTail) : List Char :=
  if folded && t.lineBreak == ['\n'] && !t.blank && !nextBlank then
    (if t.emptyLines.isEmpty then [' '] else []) ++ t.emptyLines
  else t.lineBreak ++ t.emptyLines

/-- Reads the lines of a block. -/
def readLines (folded : Bool) (indent : Nat) :
    Nat → List Char → BlockTail → Cursor → Result (List Char × BlockTail × Cursor)
  | 0, done, t, c => .ok (done, t, c)
  | fuel + 1, done, t, c =>
    if c.column = indent && !c.atEnd then
      let blank := c.isIn isBlank
      let done := done ++ t.join folded blank
      let (line, c) := c.takeWhile fun x => !isBreak x
      let lineBreak := c.peek?.toList
      match readEmptyLines (some indent) (c.rest.length + 1) 0 [] c.skip with
      | .error e => .error e
      | .ok (_, emptyLines, c) =>
        readLines folded indent fuel (done ++ line) ⟨lineBreak, emptyLines, blank⟩ c
    else .ok (done, t, c)

/-- The column of a block's lines: the one its header gives, or the widest of the empty lines, but
one right of the surrounding indentation at least. -/
def blockIndent (outer : Int) (widest : Nat) : Nat := max (max widest (outer + 1).toNat) 1

/-- A block scalar, from its mark on, within a surrounding indentation. -/
def blockScalar (folded : Bool) (outer : Int) (c : Cursor) : Result (Scalar × Cursor) := do
  let (chomping, step, c) ← readHeader c.skip
  let c ← endLine c
  let given := step.map fun n => (max outer 0).toNat + n
  let (widest, emptyLines, c) ← readEmptyLines given (c.rest.length + 1) 0 [] c
  let indent := given.getD (blockIndent outer widest)
  let (text, t, c) ← readLines folded indent (c.rest.length + 1) [] { emptyLines := emptyLines } c
  let ending := match chomping with
    | .strip => []
    | .clip => t.lineBreak
    | .keep => t.lineBreak ++ t.emptyLines
  return (⟨if folded then .folded else .literal, String.ofList (text ++ ending), none⟩, c)

end StreamOperator.Yaml
