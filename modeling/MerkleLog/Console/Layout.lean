import MerkleLog.Text.Width

/-!
# Layout of console output

Tabs reach to the next stop, and a line that is wider than the console is broken between words.  A
word that is wider than the console is broken where it has to be.
-/

namespace MerkleLog.Console.Layout

open Text (isBlankOrSeparator charWidth width)

/-- How many cells a line of the console has. -/
def lineWidth : Nat := 10000

/-- How many cells there are from one tab stop to the next. -/
def tabWidth : Nat := 8

/-- What follows some cells, with blanks in place of tabs. -/
def expandTabs (column : Nat) : List Char → List Char
  | [] => []
  | '\t' :: rest =>
    let blanks := tabWidth - column % tabWidth
    List.replicate blanks ' ' ++ expandTabs (column + blanks) rest
  | c :: rest => c :: expandTabs (column + charWidth c) rest

/-! ## Breaking lines -/

/-- The words of a line, each with the blanks that follow it, and the first with those before it
too. -/
def words (cs : List Char) : List (List Char) :=
  (cs.splitBy fun a b => !(isBlankOrSeparator a && !isBlankOrSeparator b)).foldr
    (fun word rest => if word.all isBlankOrSeparator then
      match rest with
      | next :: rest => (word ++ next) :: rest
      | [] => [word]
    else word :: rest) []

/-- A word in parts of at most some width, the part last begun with its width. -/
def fold (limit used : Nat) (part : List Char) : List Char → List (List Char)
  | [] => [part.reverse]
  | c :: rest =>
    if limit < used + charWidth c then part.reverse :: fold limit (charWidth c) [c] rest
    else fold limit (used + charWidth c) (c :: part) rest

/-- A word without the blanks that follow it. -/
def bare (word : List Char) : List Char :=
  (word.reverse.dropWhile isBlankOrSeparator).reverse

/-- Lines made of words, where the line last begun holds `line` and is `used` cells wide. -/
def fill (limit : Nat) (line : List Char) (used : Nat) : List (List Char) → List (List Char)
  | [] => [line]
  | word :: rest =>
    if used + width (bare word) ≤ limit then fill limit (line ++ word) (used + width word) rest
    else if limit < width (bare word) then
      let parts := fold limit 0 [] word
      let last := parts.getLast?.getD []
      (if line.isEmpty then [] else [line]) ++ parts.dropLast ++ fill limit last (width last) rest
    else line :: fill limit word (width word) rest

/-- A line without the blanks at its end that are beyond the console. -/
def trimEnd (limit : Nat) (line : List Char) : List Char :=
  let blanks := (line.reverse.takeWhile isBlankOrSeparator).length
  line.take (line.length - min blanks (line.length - limit))

/-- The longest part at the front of a line that fits into some cells. -/
def takeCells (limit : Nat) : List Char → List Char
  | [] => []
  | c :: rest => if charWidth c ≤ limit then c :: takeCells (limit - charWidth c) rest else []

/-- A line cut off at the end of the console.  A blank takes the place of half a character. -/
def crop (limit : Nat) (line : List Char) : List Char :=
  if width line ≤ limit then line
  else
    let front := takeCells limit line
    front ++ List.replicate (limit - width front) ' '

/-- The lines that a line takes up on the console. -/
def wrap (limit : Nat) (line : List Char) : List (List Char) :=
  (fill limit [] 0 (words line)).map fun part => crop limit (trimEnd limit part)

/-- A text as it is laid out on the console. -/
def layOut (cs : List Char) : String :=
  let lines := (cs.splitOn '\n').flatMap fun line => wrap lineWidth (expandTabs 0 line)
  "\n".intercalate (lines.map String.ofList)

end MerkleLog.Console.Layout
