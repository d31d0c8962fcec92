import MerkleLog.Bytes
import MerkleLog.Json
import MerkleLog.Text.Numeral

/-!
# JSON tokens

A text is cut into tokens by a scanner that takes one character at a time.  Two dialects differ in
what they admit beyond the standard, and in how much of it they take.
-/

namespace MerkleLog.Json

/-- What a reader admits.  Every dialect has the numbers `NaN`, `Infinity` and `-Infinity`. -/
structure Dialect where
  /-- Whether an escape may name half of a surrogate pair.  It reads as a replacement character. -/
  loneSurrogates : Bool
  /-- Whether the limit on digits holds for integers alone, and not for other numbers. -/
  longReals : Bool
  /-- How deep containers may be nested. -/
  depth : Nat
  /-- Whether an empty container counts for the depth. -/
  emptyNests : Bool

/-- The dialect of documents. -/
def Dialect.strict : Dialect := ⟨false, false, 200, false⟩

/-- The dialect of files that are only looked into. -/
def Dialect.lenient : Dialect := ⟨true, true, 975, true⟩

/-- A token. -/
inductive Token where
  | beginArray
  | endArray
  | beginObject
  | endObject
  | comma
  | colon
  | null
  | bool (b : Bool)
  | int (n : Int)
  | real (r : Real)
  | str (s : String)
  /-- An integer of more digits than are read. -/
  | overlong (digits : Nat)
  /-- What is no token. -/
  | invalid
deriving DecidableEq

namespace Token

/-! ## Bare words -/

/-- Split off the ASCII digits at the front. -/
def spanDigits (cs : List Char) : List Char × List Char :=
  cs.span Text.isAsciiDigit

/-- The integral part of a number and what follows it.  A zero at the front stands alone. -/
def whole? : List Char → Option (List Char × List Char)
  | '0' :: rest => some (['0'], rest)
  | cs =>
    let (digits, rest) := spanDigits cs
    if digits.isEmpty then none else some (digits, rest)

/-- The digits after a point and what follows them; nothing without a digit after the point. -/
def fraction? : List Char → Option (List Char × List Char)
  | '.' :: rest =>
    let (digits, rest) := spanDigits rest
    if digits.isEmpty then none else some (digits, rest)
  | _ => none

/-- The exponent of a number and what follows it; nothing without a digit in it. -/
def exponent? : List Char → Option (Int × List Char)
  | [] => none
  | e :: rest =>
    if e = 'e' ∨ e = 'E' then
      let (negative, digits) :=
        match rest with
        | '-' :: digits => (true, digits)
        | '+' :: digits => (false, digits)
        | digits => (false, digits)
      let (digits, rest) := spanDigits digits
      if digits.isEmpty then none
      else
        let n : Int := Text.valueOf digits
        some (if negative then -n else n, rest)
    else none

/-- An unsigned number, given a sign.  An integer of too many digits is told whatever follows it. -/
def number (d : Dialect) (negative : Bool) (cs : List Char) : Token :=
  match whole? cs with
  | none => .invalid
  | some (whole, rest) =>
    let long := Text.maxDigits < whole.length
    let (fraction, rest) := (fraction? rest).getD ([], rest)
    let (exponent, rest) :=
      match exponent? rest with
      | some (n, rest) => (some n, rest)
      | none => (none, rest)
    if fraction.isEmpty && exponent.isNone then
      let n : Int := Text.valueOf whole
      if long then .overlong whole.length
      else if !rest.isEmpty then .invalid
      else .int (if negative then -n else n)
    else if !rest.isEmpty || (long && !d.longReals) then .invalid
    else
      .real (.finite negative (Text.valueOf (whole ++ fraction))
        (exponent.getD 0 - fraction.length))

/-- The token that a run of characters without blanks, quotes and punctuation stands for. -/
def ofWord (d : Dialect) (cs : List Char) : Token :=
  match cs with
  | ['n', 'u', 'l', 'l'] => .null
  | ['t', 'r', 'u', 'e'] => .bool true
  | ['f', 'a', 'l', 's', 'e'] => .bool false
  | ['N', 'a', 'N'] => .real .notANumber
  | ['I', 'n', 'f', 'i', 'n', 'i', 't', 'y'] => .real (.infinite false)
  | ['-', 'I', 'n', 'f', 'i', 'n', 'i', 't', 'y'] => .real (.infinite true)
  | '-' :: rest => number d true rest
  | rest => number d false rest

/-! ## Quoted texts -/

/-- A part of a quoted text: a character, or a unit of sixteen bits that an escape names. -/
inductive Piece where
  | char (c : Char)
  | unit (n : Nat)
deriving DecidableEq

/-- The replacement character. -/
def replacement : Char := Char.ofNat 0xfffd

/-- Whether a unit is the first half of a surrogate pair. -/
def isHigh (n : Nat) : Bool := 0xd800 ≤ n && n < 0xdc00

/-- Whether a unit is the second half of a surrogate pair. -/
def isLow (n : Nat) : Bool := 0xdc00 ≤ n && n < 0xe000

/-- The characters that pieces stand for.  Two units that form a surrogate pair are one
character. -/
def join? (d : Dialect) : List Piece → Option (List Char)
  | [] => some []
  | .char c :: rest => (join? d rest).map (c :: ·)
  | .unit high :: .unit low :: rest =>
    if isHigh high && isLow low then
      (join? d rest).map (Char.ofNat (0x10000 + (high - 0xd800) * 0x400 + (low - 0xdc00)) :: ·)
    else if isHigh high || isLow high then
      if d.loneSurrogates then (join? d (.unit low :: rest)).map (replacement :: ·) else none
    else (join? d (.unit low :: rest)).map (Char.ofNat high :: ·)
  | .unit n :: rest =>
    if isHigh n || isLow n then
      if d.loneSurrogates then (join? d rest).map (replacement :: ·) else none
    else (join? d rest).map (Char.ofNat n :: ·)

/-- What a backslash and a character stand for. -/
def escaped? : Char → Option Char
  | '"' => some '"'
  | '\\' => some '\\'
  | '/' => some '/'
  | 'b' => some '\x08'
  | 'f' => some '\x0c'
  | 'n' => some '\n'
  | 'r' => some '\r'
  | 't' => some '\t'
  | _ => none

/-! ## The scanner -/

/-- What the scanner is in the middle of.  Pieces and characters are kept last first. -/
inductive Mode where
  /-- Between tokens. -/
  | between
  /-- In a bare word. -/
  | word (chars : List Char)
  /-- In a quoted text. -/
  | quoted (pieces : List Piece)
  /-- After a backslash in a quoted text. -/
  | escape (pieces : List Piece)
  /-- In the four digits of an escape. -/
  | unit (pieces : List Piece) (digits : List Nat)
deriving DecidableEq

/-- A scanner: its mode, and the tokens found so far, last first. -/
structure Scanner where
  mode : Mode
  tokens : List Token
deriving DecidableEq

/-- The token of a punctuation character. -/
def punctuation? : Char → Option Token
  | '[' => some .beginArray
  | ']' => some .endArray
  | '\x7b' => some .beginObject
  | '\x7d' => some .endObject
  | ',' => some .comma
  | ':' => some .colon
  | _ => none

/-- Whether a character may stand between tokens. -/
def isSpace (c : Char) : Bool :=
  c == ' ' || c == '\t' || c == '\n' || c == '\r'

namespace Scanner

/-- A character between tokens. -/
def start (tokens : List Token) (c : Char) : Scanner :=
  if isSpace c then ⟨.between, tokens⟩
  else if c = '"' then ⟨.quoted [], tokens⟩
  else
    match punctuation? c with
    | some t => ⟨.between, t :: tokens⟩
    | none => ⟨.word [c], tokens⟩

/-- Whether a character ends a bare word. -/
def endsWord (c : Char) : Bool :=
  isSpace c || c == '"' || (punctuation? c).isSome

/-- Take what is no token.  No reader gets beyond it. -/
def giveUp (s : Scanner) : Scanner :=
  ⟨.between, .invalid :: s.tokens⟩

/-- Take one character. -/
def step (d : Dialect) (s : Scanner) (c : Char) : Scanner :=
  match s.mode with
  | .between => start s.tokens c
  | .word chars =>
    if endsWord c then start (ofWord d chars.reverse :: s.tokens) c
    else ⟨.word (c :: chars), s.tokens⟩
  | .quoted pieces =>
    if c = '"' then
      match join? d pieces.reverse with
      | some cs => ⟨.between, .str (String.ofList cs) :: s.tokens⟩
      | none => s.giveUp
    else if c = '\\' then ⟨.escape pieces, s.tokens⟩
    else if c.toNat < 0x20 then s.giveUp
    else ⟨.quoted (.char c :: pieces), s.tokens⟩
  | .escape pieces =>
    if c = 'u' then ⟨.unit pieces [], s.tokens⟩
    else
      match escaped? c with
      | some c => ⟨.quoted (.char c :: pieces), s.tokens⟩
      | none => s.giveUp
  | .unit pieces digits =>
    match Bytes.hexValue? c with
    | none => s.giveUp
    | some n =>
      if digits.length = 3 then
        ⟨.quoted (.unit ((n :: digits).foldr (fun n m => 16 * m + n) 0) :: pieces), s.tokens⟩
      else ⟨.unit pieces (n :: digits), s.tokens⟩

/-- The tokens at the end of the text, first to last. -/
def finish (d : Dialect) (s : Scanner) : List Token :=
  match s.mode with
  | .between => s.tokens.reverse
  | .word chars => (ofWord d chars.reverse :: s.tokens).reverse
  | _ => s.giveUp.tokens.reverse

end Scanner

/-- The tokens of a text. -/
def scan (d : Dialect) (cs : List Char) : List Token :=
  (cs.foldl (Scanner.step d) ⟨.between, []⟩).finish d

end Token

end MerkleLog.Json
