import MerkleLog.Text.Case
import MerkleLog.Text.Numeral
import MerkleLog.Text.Word

/-!
# Literals

The parameters of a tag that names an action are a literal: numbers, texts, bytes and constants, and
tuples, sets and mappings of literals.  A sign may stand before a number, and a complex number is
written as the sum or the difference of a real and an imaginary one.  What a literal stands for does
not matter here, but only whether a text is one.
-/

namespace MerkleLog.Console.Markup.Literal

/-- A token of a literal. -/
inductive Token where
  | number (imaginary : Bool)
  /-- A quoted text, or quoted bytes. -/
  | quoted (bytes : Bool)
  | constant
  /-- The word `set`, which stands for the empty set together with parentheses. -/
  | set
  | newline
  /-- A bracket, comma, colon or sign. -/
  | sign (c : Char)
deriving DecidableEq

/-! ## Numbers -/

/-- What follows digits of a class, with single underscores between two of them; `none` without a
digit at the front. -/
def skipDigits? (isDigit : Char → Bool) : List Char → Option (List Char)
  | [] => none
  | [c] => if isDigit c then some [] else none
  | c :: '_' :: d :: rest =>
    if !isDigit c then none
    else if isDigit d then skipDigits? isDigit (d :: rest)
    else some ('_' :: d :: rest)
  | c :: d :: rest =>
    if !isDigit c then none
    else if isDigit d then skipDigits? isDigit (d :: rest)
    else some (d :: rest)

/-- What follows the digits at the front of a text, if there are any. -/
def skipDigits (cs : List Char) : List Char :=
  (skipDigits? Text.isAsciiDigit cs).getD cs

/-- The class of the digits of a base, by the letter that marks it after a zero. -/
def digitOfBase? (c : Char) : Option (Char → Bool) :=
  if c = 'x' ∨ c = 'X' then
    some fun d => Text.isAsciiDigit d || ('a' ≤ d && d ≤ 'f') || ('A' ≤ d && d ≤ 'F')
  else if c = 'o' ∨ c = 'O' then some fun d => '0' ≤ d && d ≤ '7'
  else if c = 'b' ∨ c = 'B' then some fun d => d == '0' || d == '1'
  else none

/-- What follows a point and the digits after it, if there is a point. -/
def skipFraction : List Char → List Char
  | '.' :: rest => skipDigits rest
  | rest => rest

/-- What follows an exponent, if there is one. -/
def skipExponent (cs : List Char) : List Char :=
  match cs with
  | e :: rest =>
    if e = 'e' ∨ e = 'E' then
      let digits :=
        match rest with
        | '-' :: digits => digits
        | '+' :: digits => digits
        | digits => digits
      (skipDigits? Text.isAsciiDigit digits).getD cs
    else cs
  | [] => []

/-- Whether an integer may be written in these digits: not too many, and without zeros in front. -/
def isInteger (digits : List Char) : Bool :=
  match digits with
  | '0' :: rest => rest.all fun c => c == '0' || c == '_'
  | _ => (digits.filter Text.isAsciiDigit).length ≤ Text.maxDigits

/-- A number at the front of a text: whether it is imaginary, and what follows it. -/
def decimal? (cs : List Char) : Option (Bool × List Char) :=
  let afterWhole := skipDigits cs
  let afterFraction := skipFraction afterWhole
  let rest := skipExponent afterFraction
  match rest with
  | 'j' :: rest => some (true, rest)
  | 'J' :: rest => some (true, rest)
  | rest =>
    if rest.length < afterWhole.length || isInteger (cs.take (cs.length - rest.length)) then
      some (false, rest)
    else none

/-- A number at the front of a text, after which no word may follow at once. -/
def number? (cs : List Char) : Option (Bool × List Char) := do
  let found ←
    match cs with
    | '0' :: c :: rest =>
      match digitOfBase? c with
      | some isDigit =>
        let digits :=
          match rest with
          | '_' :: digits => digits
          | digits => digits
        (skipDigits? isDigit digits).map fun rest => (false, rest)
      | none => decimal? cs
    | _ => decimal? cs
  if found.2.head?.any Text.isWord then none else some found

/-! ## Quoted texts -/

/-- How a quoted text is written. -/
structure Quoting where
  quote : Char
  /-- Whether three quotes open and close it, and it may hold line ends. -/
  tripled : Bool
  /-- Whether backslashes stand for themselves. -/
  raw : Bool
  /-- Whether it holds bytes. -/
  bytes : Bool
deriving DecidableEq

/-- Whether a character is a hexadecimal digit. -/
def isHex (c : Char) : Bool :=
  Text.isAsciiDigit c || ('a' ≤ c && c ≤ 'f') || ('A' ≤ c && c ≤ 'F')

/-- Whether a character may stand in the name of a character. -/
def isNameChar (c : Char) : Bool :=
  Text.isAsciiDigit c || ('a' ≤ c && c ≤ 'z') || ('A' ≤ c && c ≤ 'Z') || c == ' ' || c == '-'

/-- Whether a text starts with a name in braces.  Which names there are is not looked up. -/
def isNamed : List Char → Bool
  | '\x7b' :: rest =>
    match rest.span isNameChar with
    | (name, '\x7d' :: _) => !name.isEmpty
    | _ => false
  | _ => false

/-- Whether what follows a backslash is an escape.  The codes of characters need their digits, and
the names of characters their braces; all else stands for itself. -/
def isEscape (bytes : Bool) : List Char → Bool
  | 'x' :: rest => (rest.take 2).length == 2 && (rest.take 2).all isHex
  | 'u' :: rest => bytes || ((rest.take 4).length == 4 && (rest.take 4).all isHex)
  | 'U' :: rest =>
    bytes || ((rest.take 8).length == 8 && (rest.take 8).all isHex
      && (rest.take 2 == ['0', '0'])
      && ((rest.drop 2).head? == some '0' || (rest.drop 2).take 2 == ['1', '0']))
  | 'N' :: rest => bytes || isNamed rest
  | _ :: _ => true
  | [] => false

/-- What follows the end of a quoted text. -/
def skipQuoted? (q : Quoting) : List Char → Option (List Char)
  | [] => none
  | '\\' :: c :: rest =>
    if (q.raw || isEscape q.bytes (c :: rest)) && (!q.bytes || c.toNat < 128) then
      skipQuoted? q rest
    else none
  | c :: rest =>
    if c = q.quote then
      if !q.tripled then some rest
      else if rest.take 2 == [q.quote, q.quote] then some (rest.drop 2)
      else skipQuoted? q rest
    else if (c == '\n' || c == '\r') && !q.tripled then none
    else if q.bytes && 128 ≤ c.toNat then none
    else skipQuoted? q rest

/-- A quoted text after its opening letters, as a token with what follows it. -/
def quoted? (raw bytes : Bool) : List Char → Option (Token × List Char)
  | c :: rest =>
    if c = '\'' ∨ c = '"' then
      let tripled := rest.take 2 == [c, c]
      let body := if tripled then rest.drop 2 else rest
      (skipQuoted? ⟨c, tripled, raw, bytes⟩ body).map fun rest => (.quoted bytes, rest)
    else none
  | [] => none

/-! ## Tokens -/

/-- A word, or the quoted text that it opens. -/
def word? (cs : List Char) : Option (Token × List Char) :=
  let (word, rest) := cs.span Text.isWord
  match String.ofList word with
  | "True" | "False" | "None" => some (.constant, rest)
  | "set" => some (.set, rest)
  | name =>
    match Text.lowerAscii name with
    | "u" => quoted? false false rest
    | "r" => quoted? true false rest
    | "b" => quoted? false true rest
    | "br" | "rb" => quoted? true true rest
    | _ => none

/-- The token at the front of a text that does not start with a blank. -/
def token? : List Char → Option (Token × List Char)
  | [] => none
  | '.' :: '.' :: '.' :: rest => some (.constant, rest)
  | c :: rest =>
    if ['(', ')', '\x7b', '\x7d', ',', ':', '+', '-'].contains c then some (.sign c, rest)
    else if c = '\'' ∨ c = '"' then quoted? false false (c :: rest)
    else if Text.isAsciiDigit c || (c == '.' && rest.head?.any Text.isAsciiDigit) then
      (number? (c :: rest)).map fun (imaginary, rest) => (.number imaginary, rest)
    else if Text.isWord c then word? (c :: rest)
    else none

/-- The tokens of a text, of which no more than `count` steps are taken.  Blanks and comments are
left out. -/
def tokensIn : Nat → List Char → Option (List Token)
  | 0, _ => none
  | _ + 1, [] => some []
  | count + 1, c :: rest =>
    if c = ' ' ∨ c = '\t' ∨ c = '\x0c' then tokensIn count rest
    else if c = '\n' ∨ c = '\r' then (tokensIn count rest).map (.newline :: ·)
    else if c = '#' then tokensIn count (rest.dropWhile fun c => c != '\n' && c != '\r')
    else
      match c, rest with
      | '\\', '\n' :: rest => tokensIn count rest
      | _, _ =>
        match token? (c :: rest) with
        | some (t, rest) => (tokensIn count rest).map (t :: ·)
        | none => none

/-- The tokens of a text. -/
def tokens? (cs : List Char) : Option (List Token) :=
  if cs.contains '\x00' then none else tokensIn (cs.length + 1) cs

/-! ## Grammar -/

/-- What a literal is to those that it is part of. -/
inductive Kind where
  | real
  | imaginary
  /-- A real number with a sign. -/
  | signed
  | other
  /-- A set or a mapping, which is no part of a set and no key of a mapping. -/
  | changeable
deriving DecidableEq

/-- The tokens after line ends. -/
def skipLines (ts : List Token) : List Token :=
  ts.dropWhile (· == .newline)

/-- The kind of a tuple. -/
def Kind.ofTuple (items : List Kind) : Kind :=
  if items.contains .changeable then .changeable else .other

mutual

/-- A literal, and the tokens that follow it.  `depth` bounds how deep literals are nested. -/
def literal? (depth : Nat) (ts : List Token) : Option (Kind × List Token) :=
  match depth with
  | 0 => none
  | depth + 1 =>
    match operand? depth ts with
    | none => none
    | some (kind, rest) =>
      match rest with
      | .sign c :: right =>
        if c = '+' ∨ c = '-' then
          if kind = .real ∨ kind = .signed then
            match operand? depth right with
            | some (.imaginary, rest) => some (.other, rest)
            | _ => none
          else none
        else some (kind, rest)
      | _ => some (kind, rest)

/-- A literal without a sum, and the tokens that follow it. -/
def operand? (depth : Nat) (ts : List Token) : Option (Kind × List Token) :=
  match depth with
  | 0 => none
  | depth + 1 =>
    match ts with
    | .sign '+' :: rest | .sign '-' :: rest =>
      match atom? depth rest with
      | some (.real, rest) => some (.signed, rest)
      | some (.imaginary, rest) => some (.other, rest)
      | _ => none
    | _ => atom? depth ts

/-- A literal without a sign, and the tokens that follow it. -/
def atom? (depth : Nat) (ts : List Token) : Option (Kind × List Token) :=
  match depth with
  | 0 => none
  | depth + 1 =>
    match ts with
    | .number imaginary :: rest => some (if imaginary then .imaginary else .real, rest)
    | .quoted bytes :: rest =>
      match rest.dropWhile (· == .quoted bytes) with
      | .quoted _ :: _ => none
      | rest => some (.other, rest)
    | .constant :: rest => some (.other, rest)
    | .set :: .sign '(' :: rest =>
      match rest with
      | .sign ')' :: rest => some (.changeable, rest)
      | _ => none
    | .sign '(' :: rest =>
      match items depth rest with
      | ([kind], false, .sign ')' :: rest) => some (kind, rest)
      | (kinds, _, .sign ')' :: rest) => some (.ofTuple kinds, rest)
      | _ => none
    | .sign '\x7b' :: rest =>
      match items depth rest with
      | ([], _, .sign '\x7d' :: rest) => some (.changeable, rest)
      | (kinds, _, .sign '\x7d' :: rest) =>
        if kinds.contains .changeable then none else some (.changeable, rest)
      | _ => (entries depth rest).map fun rest => (.changeable, rest)
    | _ => none

/-- Literals with commas between them, whether there is a comma among them, and the tokens that
follow them. -/
def items (depth : Nat) (ts : List Token) : List Kind × Bool × List Token :=
  match depth with
  | 0 => ([], false, ts)
  | depth + 1 =>
    match literal? depth ts with
    | none => ([], false, ts)
    | some (kind, rest) =>
      match rest with
      | .sign ',' :: rest =>
        let (kinds, _, rest) := items depth rest
        (kind :: kinds, true, rest)
      | rest => ([kind], false, rest)

/-- The tokens that follow the entries of a mapping and its closing brace. -/
def entries (depth : Nat) (ts : List Token) : Option (List Token) :=
  match depth with
  | 0 => none
  | depth + 1 =>
    match literal? depth ts with
    | none => none
    | some (key, rest) =>
      match key, rest with
      | .changeable, _ => none
      | _, .sign ':' :: rest =>
        match literal? depth rest with
        | none => none
        | some (_, rest) =>
          match rest with
          | .sign '\x7d' :: rest => some rest
          | .sign ',' :: rest =>
            match rest with
            | .sign '\x7d' :: rest => some rest
            | rest => entries depth rest
          | _ => none
      | _, _ => none

end

/-- The tokens of one line, with the line ends within brackets left out.  `depth` brackets are
open. -/
def joined (depth : Nat) : List Token → List Token
  | [] => []
  | .newline :: rest => if 0 < depth then joined depth rest else .newline :: joined depth rest
  | .sign c :: rest =>
    let inner :=
      if c = '(' ∨ c = '\x7b' then depth + 1
      else if c = ')' ∨ c = '\x7d' then depth - 1
      else depth
    .sign c :: joined inner rest
  | t :: rest => t :: joined depth rest

/-- How many brackets may be open at once. -/
def maxOpen : Nat := 200

/-- Whether no more brackets than allowed are ever open at once.  `depth` brackets are open. -/
def isShallow (depth : Nat) : List Token → Bool
  | [] => true
  | .sign c :: rest =>
    if c = '(' ∨ c = '\x7b' then depth < maxOpen && isShallow (depth + 1) rest
    else if c = ')' ∨ c = '\x7d' then isShallow (depth - 1) rest
    else isShallow depth rest
  | _ :: rest => isShallow depth rest

/-- Whether a text is a literal, or several with commas between them. -/
def isLiteral (cs : List Char) : Bool :=
  match tokens? cs with
  | none => false
  | some ts =>
    if !isShallow 0 ts then false else
    match items (4 * ts.length + 4) (skipLines (joined 0 ts)) with
    | (_ :: _, _, rest) => (skipLines rest).isEmpty
    | _ => false

end MerkleLog.Console.Markup.Literal
