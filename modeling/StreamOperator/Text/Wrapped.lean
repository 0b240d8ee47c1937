import StreamOperator.Text.Visible

/-!
# Text in lines of limited width

A line that is too wide is broken between words, as late as possible; a word that is too wide by
itself stays whole. What is broken off is indented as far as its line was. Only blanks separate words.
-/

set_option autoImplicit false

namespace StreamOperator.Text

/-- The words of a line, each with the blanks after it; blanks at the beginning are a word. -/
def spacedWords (line : List Char) : List (List Char) :=
  let extend (words : List (List Char)) (c : Char) : List (List Char) :=
    match words with
    | (last :: word) :: rest =>
      if last = ' ' ∧ c ≠ ' ' then [c] :: (last :: word) :: rest else (c :: last :: word) :: rest
    | words => [c] :: words
  ((line.foldl extend []).map List.reverse).reverse

/-- The lines of a text, with the line ends that close them. -/
def closedLines (text : List Char) : List (List Char) :=
  let extend (lines : List (List Char)) (c : Char) : List (List Char) :=
    match lines with
    | (last :: line) :: rest =>
      if last = '\n' then [c] :: (last :: line) :: rest else (c :: last :: line) :: rest
    | lines => [c] :: lines
  ((text.foldl extend []).map List.reverse).reverse

/-- A text without the blanks at its end. -/
def trimEnd (text : List Char) : List Char := (text.reverse.dropWhile isBlank).reverse

def byteSize (text : List Char) : Nat := text.foldl (fun size c => size + c.utf8Size) 0

/-- The number of characters that show; after a control character none does up to the next `m`. -/
def shownWidth (text : List Char) : Nat :=
  let count (state : Nat × Bool) (c : Char) : Nat × Bool :=
    let (width, hidden) := state
    if c.toNat < 0x20 ∨ c.toNat = 0x7F then (width, true)
    else if hidden then (width, c != 'm')
    else (width + 1, false)
  (text.foldl count (0, false)).1

/-- The line that is being broken: what is written in reverse, and how wide its last part is. -/
structure Wrapping where
  written : List (List Char) := []
  width : Nat := 0
  begun : Bool := false

/-- Writes a word, on a line of its own if it does not fit any more. -/
def Wrapping.add (limit : Nat) (lead : List Char) (w : Wrapping) (word : List Char) : Wrapping :=
  let solid := trimEnd word
  let shown := shownWidth solid
  let after := shown + (byteSize word - byteSize solid)
  if w.begun && limit < w.width + shown then
    let before := match w.written with
      | last :: rest => trimEnd last :: rest
      | [] => []
    { w with written := word :: lead :: ['\n'] :: before, width := byteSize lead + after }
  else
    { written := word :: w.written, width := w.width + after, begun := w.begun || 0 < shown }

/-- A text with its lines broken to a width. -/
def wrapped (limit : Nat) (text : List Char) : List Char :=
  let line (line : List Char) : List Char :=
    let words := spacedWords line
    let lead := match words with
      | first :: _ => if first.all isBlank then first else []
      | [] => []
    (words.foldl (Wrapping.add limit lead) {}).written.reverse.flatten
  trimEnd ((closedLines text).flatMap line)

end StreamOperator.Text
