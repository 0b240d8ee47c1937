import StreamOperator.Table
import StreamOperator.Yaml.Lexer

/-!
# Nodes

The content of a document: scalars, sequences and mappings. An anchor gives a node a number, and an
alias holds the number that its name had where the alias stands. What an alias is for is looked up in
the whole document, once that has been read.
-/

set_option autoImplicit false

namespace StreamOperator.Yaml

inductive Node where
  | scalar (content : Scalar)
  | sequence (items : List Node)
  | mapping (entries : List (Node × Node))
  | anchored (number : Nat) (node : Node)
  | alias (number : Nat)

namespace Node

/-- A scalar of which nothing is written. -/
def empty (tag : Option String) : Node := .scalar ⟨.plain, "", tag⟩

/-- What is left of a document, with what was declared in it. -/
structure Source where
  tokens : List Token
  handles : Table String String := []
  /-- The number that a name stands for. -/
  anchors : Table String Nat := []

abbrev Reader := StateT Source Result

/-- The next token; none at the end. -/
def peek : Reader (Option Token) := return (← get).tokens.head?

def skip : Reader Unit := modify fun s => { s with tokens := s.tokens.drop 1 }

/-- The next token is one of a list. -/
def isNext (choices : List Token) : Reader Bool := return (← peek).any choices.contains

/-- Goes over a token if it is the next one. -/
def accept (t : Token) : Reader Bool := do
  let there ← isNext [t]
  if there then skip
  return there

/-! ## Properties -/

/-- The tag and the anchor in front of a node. -/
structure Properties where
  anchor : Option String := none
  tag : Option String := none

/-- The text that a handle stands for. -/
def handleText (handle : String) : Reader String := do
  if handle = "" then return ""
  match Table.get? handle (← get).handles with
  | some text => return text
  | none =>
    if handle = "!" then return "!"
    else if handle = "!!" then return "tag:yaml.org,2002:"
    else throw .tag

def readTag : Reader (Option String) := do
  match ← peek with
  | some (.tag handle suffix) =>
    skip
    return some ((← handleText handle) ++ suffix)
  | _ => return none

def readAnchor : Reader (Option String) := do
  match ← peek with
  | some (.anchor name) =>
    skip
    return some name
  | _ => return none

/-- An anchor and a tag, in either order. -/
def readProperties : Reader Properties := do
  match ← readAnchor with
  | some name => return ⟨some name, ← readTag⟩
  | none =>
    let tag ← readTag
    let anchor ← if tag.isSome then readAnchor else pure none
    return ⟨anchor, tag⟩

/-- A node with its anchor, if it has one. The number of an anchor is that of the names before it, so
that one which gives a name again shares its number with the next new name. -/
def anchor (name : Option String) (content : Reader Node) : Reader Node := do
  match name with
  | some name =>
    let number := (← get).anchors.length
    modify fun s => { s with anchors := Table.set name number s.anchors }
    return anchored number (← content)
  | none => content

def readAlias (name : String) : Reader Node := do
  match Table.get? name (← get).anchors with
  | some number => return .alias number
  | none => throw .unknownAnchor

/-! ## Nodes -/

/-- A node of which nothing but its properties is written. -/
def bare (p : Properties) : Reader Node := do
  if p.anchor.isNone && p.tag.isNone then throw (.expected "node content")
  return empty p.tag

/-- The node that a reader gives, or an empty one if the next token is in a list. -/
def orEmpty (stops : List Token) (content : Reader Node) : Reader Node := do
  if ← isNext stops then return empty none else content

mutual

/-- A node, in a block or in a flow collection; a sequence in a mapping need not be indented. -/
def read (inBlock unindented : Bool) : Nat → Reader Node
  | 0 => throw .unterminated
  | fuel + 1 => do
    if let some (.alias name) ← peek then
      skip
      return ← readAlias name
    let p ← readProperties
    anchor p.anchor do
      match ← peek, inBlock with
      | some (.scalar content), _ =>
        skip
        return scalar { content with tag := p.tag.filter (· ≠ "!") }
      | some .flowSequence, _ =>
        skip
        return sequence (← flowItems true fuel)
      | some .flowMapping, _ =>
        skip
        return mapping (← flowEntries true fuel)
      | some .blockSequence, true =>
        skip
        return sequence (← blockItems fuel)
      | some .blockMapping, true =>
        skip
        return mapping (← blockEntries fuel)
      | some .blockEntry, true =>
        if unindented then return sequence (← unindentedItems fuel) else bare p
      | _, _ => bare p

/-- The items of a sequence in a block of its own. -/
def blockItems : Nat → Reader (List Node)
  | 0 => throw .unterminated
  | fuel + 1 => do
    if ← accept .blockEntry then
      let item ← orEmpty [.blockEntry, .blockEnd] (read true false fuel)
      return item :: (← blockItems fuel)
    if ← accept .blockEnd then return []
    throw (.expected "'-' indicator")

/-- The items of a sequence that ends where the mapping around it goes on. -/
def unindentedItems : Nat → Reader (List Node)
  | 0 => throw .unterminated
  | fuel + 1 => do
    if ← accept .blockEntry then
      let item ← orEmpty [.blockEntry, .key, .value, .blockEnd] (read true false fuel)
      return item :: (← unindentedItems fuel)
    return []

/-- The entries of a mapping in a block. -/
def blockEntries : Nat → Reader (List (Node × Node))
  | 0 => throw .unterminated
  | fuel + 1 => do
    if ← accept .key then
      let key ← orEmpty [.key, .value, .blockEnd] (read true true fuel)
      let value ←
        if ← accept .value then orEmpty [.key, .value, .blockEnd] (read true true fuel)
        else pure (empty none)
      return (key, value) :: (← blockEntries fuel)
    if ← accept .blockEnd then return []
    throw (.expected "key")

/-- The items of a sequence in brackets. When nothing is written of a key that is marked, the token
after the mark is left out. -/
def flowItems (first : Bool) : Nat → Reader (List Node)
  | 0 => throw .unterminated
  | fuel + 1 => do
    if ← accept .flowSequenceEnd then return []
    if !first && !(← accept .flowEntry) then throw (.expected "',' or ']'")
    if ← accept .flowSequenceEnd then return []
    let item ←
      if ← accept .key then do
        let key ←
          if ← isNext [.value, .flowEntry, .flowSequenceEnd] then do
            skip
            pure (empty none)
          else read false false fuel
        let value ←
          if ← accept .value then orEmpty [.flowEntry, .flowSequenceEnd] (read false false fuel)
          else pure (empty none)
        pure (mapping [(key, value)])
      else read false false fuel
    return item :: (← flowItems false fuel)

/-- The entries of a mapping in braces. -/
def flowEntries (first : Bool) : Nat → Reader (List (Node × Node))
  | 0 => throw .unterminated
  | fuel + 1 => do
    if ← accept .flowMappingEnd then return []
    if !first && !(← accept .flowEntry) then throw (.expected "',' or '\x7d'")
    if ← accept .flowMappingEnd then return []
    if ← accept .key then
      let key ← orEmpty [.value, .flowEntry, .flowMappingEnd] (read false false fuel)
      let value ←
        if ← accept .value then orEmpty [.flowEntry, .flowMappingEnd] (read false false fuel)
        else pure (empty none)
      return (key, value) :: (← flowEntries false fuel)
    let key ← read false false fuel
    return (key, empty none) :: (← flowEntries false fuel)

end

/-! ## Documents -/

/-- The directives in front of a document; none when it begins without a mark. -/
def readDirectives : Nat → Option Token → Reader Unit
  | 0, _ => throw .unterminated
  | fuel + 1, version => do
    match ← peek with
    | some (.version major minor) =>
      if version.isSome || major ≠ 1 || (minor ≠ 1 && minor ≠ 2) then throw .directive
      skip
      readDirectives fuel (some (.version major minor))
    | some (.tagHandle handle text) =>
      if Table.contains handle (← get).handles then throw .directive
      skip
      modify fun s => { s with handles := Table.set handle text s.handles }
      readDirectives fuel version
    | _ => return

def isDirective : Token → Bool
  | .version _ _ | .tagHandle _ _ | .documentStart => true
  | _ => false

/-- What a marked document may end with when nothing is written in it. -/
def endsDocument : Option Token → Bool
  | none | some .documentStart | some .documentEnd | some (.version _ _)
  | some (.tagHandle _ _) => true
  | _ => false

/-- The first document; none when there is no document at all. -/
def readDocument (fuel : Nat) : Reader (Option Node) := do
  match ← peek with
  | none => return none
  | some t =>
    if isDirective t then
      readDirectives fuel none
      if !(← accept .documentStart) then throw (.expected "<document start>")
      if endsDocument (← peek) then return some (empty none)
    return some (← read true false fuel)

/-- Nothing but marks may follow a document. -/
def readEnd : Nat → Reader Unit
  | 0 => throw .unterminated
  | fuel + 1 => do
    if ← accept .documentEnd then readEnd fuel
    else if (← peek).isSome then throw .manyDocuments

/-- The only document of a text; none when there is no document. -/
def ofText (text : String) : Result (Option Node) := do
  let tokens ← tokens text
  let fuel := 2 * tokens.length + 2
  let reader : Reader (Option Node) := do
    let node ← readDocument fuel
    readEnd fuel
    return node
  return (← reader.run { tokens := tokens }).1

/-! ## Aliases -/

mutual

/-- The node with the anchor of a number; of several, the one that begins last. -/
def anchored? (number : Nat) : Node → Option Node
  | .anchored n node => anchored? number node <|> if n = number then some node else none
  | .sequence items => anchoredItem? number items
  | .mapping entries => anchoredEntry? number entries
  | .scalar _ | .alias _ => none

def anchoredItem? (number : Nat) : List Node → Option Node
  | [] => none
  | item :: rest => anchoredItem? number rest <|> anchored? number item

def anchoredEntry? (number : Nat) : List (Node × Node) → Option Node
  | [] => none
  | (key, value) :: rest =>
    anchoredEntry? number rest <|> anchored? number value <|> anchored? number key

end

/-- The content of a node that belongs to a document. -/
def contentIn (node document : Node) : Node :=
  match node with
  | .anchored _ content => content
  | .alias number => (anchored? number document).getD (empty none)
  | content => content

end Node

end StreamOperator.Yaml
