import StreamOperator.Json.Printer

/-!
# Writing YAML

Values are written in block style: a field or an item on a line of its own, nested values further to
the right. A text is written plain where it cannot be taken for anything else.
-/

set_option autoImplicit false

namespace StreamOperator.Yaml

/-- Words that would not be read as texts. -/
def isReservedWord (text : String) : Bool :=
  ["null", "Null", "NULL", "~", "true", "True", "TRUE", "false", "False", "FALSE", "y", "n", "yes",
    "no", "on", "off"].contains text

/-- A character that a plain text may begin with. -/
def isPlainStart (c : Char) : Bool := c.isAlpha || c == '/' || c == '_'

/-- A plain text: it begins with a letter or a path mark, and no mark inside it means anything. -/
def isPlainText (text : String) : Bool :=
  let chars := text.toList
  let start := match chars with
    | '.' :: c :: _ => isPlainStart c
    | c :: _ => isPlainStart c
    | [] => false
  start && !isReservedWord text && chars.getLast? != some ' ' && chars.getLast? != some ':'
    && chars.all (fun c => 32 ≤ c.toNat && c.toNat < 127)
    && (chars.zip (chars.drop 1)).all fun pair => pair ≠ (':', ' ') ∧ pair ≠ (' ', '#')

/-- A text on one line: plain, or in quotes. -/
def textOf (text : String) : String :=
  if isPlainText text then text
  else if text.toList.all fun c => 32 ≤ c.toNat then
    "'" ++ String.ofList (text.toList.flatMap fun c => if c = '\'' then ['\'', '\''] else [c]) ++ "'"
  else (Json.str text).render

/-- Moves lines to the right, the first one after a mark. -/
def hang (mark : String) : List String → List String
  | [] => []
  | first :: rest =>
    let indent := String.ofList (List.replicate mark.length ' ')
    (mark ++ first) :: rest.map (indent ++ ·)

mutual

/-- The lines of a value. -/
def linesOf : Json → List String
  | .str s => [textOf s]
  | .arr (item :: rest) => hang "- " (linesOf item) ++ itemLines rest
  | .obj (field :: rest) => fieldLines (field :: rest)
  | value => [value.render]

def itemLines : List Json → List String
  | [] => []
  | item :: rest => hang "- " (linesOf item) ++ itemLines rest

def fieldLines : List (String × Json) → List String
  | [] => []
  | (key, .obj (field :: more)) :: rest =>
    (textOf key ++ ":") :: (fieldLines (field :: more)).map ("  " ++ ·) ++ fieldLines rest
  | (key, .arr (item :: more)) :: rest =>
    (textOf key ++ ":") :: itemLines (item :: more) ++ fieldLines rest
  | (key, value) :: rest => hang (textOf key ++ ": ") (linesOf value) ++ fieldLines rest

end

/-- A document. -/
def render (value : Json) : String := String.join ((linesOf value).map (· ++ "\n"))

end StreamOperator.Yaml
