import MerkleLog.Json.Display
import MerkleLog.Text.Numeral

/-!
# Templates

A template is a text with places for arguments.  A place starts with a percent sign and says which
argument it takes, how wide it is, and in what form the argument is written there; two percent signs
stand for one.
-/

namespace MerkleLog

/-- Why a template cannot be filled. -/
inductive Template.Fault where
  /-- The text ends within a place. -/
  | incomplete
  /-- The text ends within the name of an argument. -/
  | incompleteKey
  /-- A place ends in a character at some position that denotes no form. -/
  | unknownForm (form : Char) (position : Nat)
  /-- A width is too large. -/
  | widthTooBig
  /-- A precision is too large. -/
  | precisionTooBig
  /-- What is no number is to be written as an integer. -/
  | notANumber
  /-- There are fewer arguments than places. -/
  | tooFew
  /-- There are more arguments than places. -/
  | tooMany
  /-- An argument is asked for by name, but arguments have no names. -/
  | unnamed
  /-- No argument has the name that is asked for. -/
  | unknownName
  /-- An argument does not fit the form. -/
  | unfit
  /-- A number is out of the range of the form. -/
  | outOfRange
  /-- The text would be too long to be held. -/
  | tooLong
deriving DecidableEq

namespace Template

/-! ## Parts of a template -/

/-- How an argument is asked for by name. -/
inductive Key where
  | named (name : String)
  | unclosed
deriving DecidableEq

/-- A width or a precision: given in the template, or taken from an argument. -/
inductive Measure where
  | given (n : Nat)
  | argument
deriving DecidableEq

/-- A place for an argument. -/
structure Place where
  key : Option Key
  /-- The flags: `-` for alignment to the left, `0` for zeros in front, `+` and a blank for the sign
  of a number that is not negative, `#` for the alternate form. -/
  flags : List Char
  width : Option Measure
  precision : Option Measure
  /-- The form with its position in the template; nothing if the text ends before. -/
  form : Option (Char × Nat)
deriving DecidableEq

/-- A part of a template. -/
inductive Part where
  | char (c : Char)
  | place (p : Place)
deriving DecidableEq

/-- A name up to the parenthesis that closes it, with those within it in pairs, and what follows.
`depth` parentheses are open within the name, which is kept last character first. -/
def key (depth : Nat) (name : List Char) : List Char → Key × List Char
  | [] => (.unclosed, [])
  | ')' :: rest =>
    match depth with
    | 0 => (.named (String.ofList name.reverse), rest)
    | depth + 1 => key depth (')' :: name) rest
  | '(' :: rest => key (depth + 1) ('(' :: name) rest
  | c :: rest => key depth (c :: name) rest

/-- A name in parentheses, if there is one, and what follows it. -/
def key? : List Char → Option Key × List Char
  | '(' :: rest =>
    let (k, rest) := key 0 [] rest
    (some k, rest)
  | rest => (none, rest)

/-- A measure, if there is one, and what follows it. -/
def measure? : List Char → Option Measure × List Char
  | '*' :: rest => (some .argument, rest)
  | cs =>
    let (digits, rest) := cs.span Text.isAsciiDigit
    (if digits.isEmpty then none else some (.given (Text.valueOf digits)), rest)

/-- A precision, if there is one, and what follows it.  A point alone stands for zero. -/
def precision? : List Char → Option Measure × List Char
  | '.' :: rest =>
    let (m, rest) := measure? rest
    (some (m.getD (.given 0)), rest)
  | rest => (none, rest)

/-- What follows a letter that tells the size of a number, which does not count here. -/
def skipSize : List Char → List Char
  | c :: rest => if c = 'h' ∨ c = 'l' ∨ c = 'L' then rest else c :: rest
  | [] => []

/-- A place, read after the percent sign, and what follows it, in a template of some length. -/
def place (length : Nat) (cs : List Char) : Place × List Char :=
  let (key, cs) := key? cs
  let (flags, cs) := cs.span fun c => ['-', '+', ' ', '#', '0'].contains c
  let (width, cs) := measure? cs
  let (precision, cs) := precision? cs
  match skipSize cs with
  | [] => (⟨key, flags, width, precision, none⟩, [])
  | form :: rest => (⟨key, flags, width, precision, some (form, length - rest.length - 1)⟩, rest)

/-- The parts of what is left of a template of some length.  `count` bounds the number of parts. -/
def partsIn (length : Nat) : Nat → List Char → List Part
  | 0, _ => []
  | _ + 1, [] => []
  | count + 1, '%' :: '%' :: rest => .char '%' :: partsIn length count rest
  | count + 1, '%' :: rest =>
    let (p, rest) := place length rest
    .place p :: partsIn length count rest
  | count + 1, c :: rest => .char c :: partsIn length count rest

/-- The parts of a template. -/
def parts (cs : List Char) : List Part :=
  partsIn cs.length cs.length cs

/-! ## Arguments -/

/-- What fills a template: values in order, or values by name. -/
inductive Arguments where
  | inOrder (values : List Json)
  | byName (members : List (String × Json))

/-- Where the next argument comes from. -/
inductive Supply where
  | list (values : List Json)
  | single (value : Json)
  | spent

namespace Arguments

/-- The arguments that a list of values stands for: a single object that is not empty names them. -/
def ofList : List Json → Arguments
  | [.obj (m :: ms)] => .byName (m :: ms)
  | values => .inOrder values

/-- Where the first argument comes from.  Named values are one argument together. -/
def supply : Arguments → Supply
  | inOrder values => .list values
  | byName members => .single (.obj members)

/-- The value of a name. -/
def named (a : Arguments) (k : Key) : Except Fault Json :=
  match a, k with
  | inOrder _, _ => .error .unnamed
  | byName _, .unclosed => .error .incompleteKey
  | byName members, .named name =>
    match members.lookup name with
    | some v => .ok v
    | none => .error .unknownName

end Arguments

/-- The next argument and where those after it come from. -/
def Supply.next : Supply → Except Fault (Json × Supply)
  | list (v :: rest) => .ok (v, .list rest)
  | list [] => .error .tooFew
  | single v => .ok (v, .spent)
  | spent => .error .tooFew

/-! ## Written arguments -/

/-- A place whose measures are known. -/
structure Field where
  flags : List Char
  width : Nat
  precision : Option Nat

namespace Field

/-- Whether a flag is set. -/
def has (f : Field) (flag : Char) : Bool := f.flags.contains flag

/-- A text, filled up with blanks. -/
def fill (f : Field) (cs : List Char) : List Char :=
  let blanks := List.replicate (f.width - cs.length) ' '
  if f.has '-' then cs ++ blanks else blanks ++ cs

/-- A text, cut off at the precision. -/
def text (f : Field) (cs : List Char) : List Char :=
  match f.precision with
  | some n => f.fill (cs.take n)
  | none => f.fill cs

/-- A number: its sign, the mark of its base, and its digits. -/
def number (f : Field) (negative : Bool) (mark digits : List Char) : List Char :=
  let sign :=
    if negative then ['-'] else if f.has '+' then ['+'] else if f.has ' ' then [' '] else []
  let lead := sign ++ mark
  if f.has '0' && !f.has '-' then lead ++ Number.zeroFilled (f.width - lead.length) digits
  else f.fill (lead ++ digits)

/-- An integer in some base.  The alternate form marks the base. -/
def integer (f : Field) (base : Nat) (mark : List Char) (n : Int) : List Char :=
  let digits := Nat.toDigits base n.natAbs
  f.number (n < 0) (if f.has '#' then mark else [])
    (match f.precision with
    | some least => Number.zeroFilled least digits
    | none => digits)

/-- An integer in base sixteen with capital letters. -/
def capitalHex (f : Field) (n : Int) : List Char :=
  let digits := (Nat.toDigits 16 n.natAbs).map Char.toUpper
  f.number (n < 0) (if f.has '#' then ['0', 'X'] else [])
    (match f.precision with
    | some least => Number.zeroFilled least digits
    | none => digits)

/-- Digits before and after a point, which the alternate form always shows. -/
def pointed (f : Field) (whole fraction : List Char) : List Char :=
  if f.has '#' then whole ++ '.' :: fraction else Number.pointed whole fraction

/-- The first digits of a number and the exponent of the first of them. -/
def significant (count : Nat) (b : Number.Binary) : List Char × Int :=
  if b.significand = 0 then (List.replicate count '0', 0)
  else
    let d := Number.Decimal.withDigits count b
    (d.text, d.order)

/-- A magnitude with a fixed number of digits after the point. -/
def fixed (f : Field) (places : Nat) (b : Number.Binary) : List Char :=
  let digits := Number.zeroFilled (places + 1) (Number.Decimal.roundedTo (-places) b).text
  let length := digits.length - places
  f.pointed (digits.take length) (digits.drop length)

/-- A magnitude with an exponent. -/
def scientific (f : Field) (places : Nat) (b : Number.Binary) : List Char :=
  let (digits, order) := significant (places + 1) b
  f.pointed (digits.take 1) (digits.drop 1) ++ Number.exponentPart 'e' 2 order

/-- The digits after a point that count: in the alternate form all, and else those up to the last
that is not zero. -/
def counting (f : Field) (fraction : List Char) : List Char :=
  if f.has '#' then fraction else (fraction.reverse.dropWhile (· = '0')).reverse

/-- A magnitude with so many digits, with an exponent if it is very large or very small. -/
def general (f : Field) (precision : Nat) (b : Number.Binary) : List Char :=
  let count := max precision 1
  let (digits, order) := significant count b
  if order < -4 ∨ count ≤ order then
    f.pointed (digits.take 1) (f.counting (digits.drop 1)) ++ Number.exponentPart 'e' 2 order
  else if order < 0 then
    let zeros := List.replicate (-order - 1).toNat '0'
    f.pointed ['0'] (f.counting (zeros ++ digits))
  else
    let length := order.toNat + 1
    f.pointed (digits.take length) (f.counting (digits.drop length))

/-- A number with a point or an exponent, in one of the forms `e`, `f` and `g`. -/
def real (f : Field) (form : Char) : Number.Double → List Char
  | .finite negative b =>
    let precision := f.precision.getD 6
    let magnitude :=
      if form = 'e' then f.scientific precision b
      else if form = 'f' then f.fixed precision b
      else f.general precision b
    f.number negative [] magnitude
  | .infinite negative => f.number negative [] "inf".toList
  | .notANumber => f.number false [] "nan".toList

end Field

/-- A value as it stands in a message: a text without quotes, all else as it is shown. -/
def plainText : Json → List Char
  | .str s => s.toList
  | v => v.shownChars false

/-- The integer that a value is, without regard to a fraction. -/
def toInteger : Json → Except Fault Int
  | .int n => .ok n
  | .bool b => .ok (if b then 1 else 0)
  | .real r =>
    match r.toDouble with
    | .finite negative b => .ok (if negative then -(b.truncate : Int) else b.truncate)
    | .infinite _ => .error .outOfRange
    | .notANumber => .error .notANumber
  | _ => .error .unfit

/-- The integer that a value is, if it is one as it stands. -/
def toExactInteger : Json → Except Fault Int
  | .int n => .ok n
  | .bool b => .ok (if b then 1 else 0)
  | _ => .error .unfit

/-- The binary number that a value is. -/
def toDouble : Json → Except Fault Number.Double
  | .real r => .ok r.toDouble
  | v => do
    let n ← toExactInteger v
    match Number.Binary.ofDecimal? n.natAbs 0 with
    | some b => return .finite (n < 0) b
    | none => throw .outOfRange

/-- The character that a value is: a text of one character, or a code point.  The code point of half
a surrogate pair stands for the replacement character. -/
def toChar : Json → Except Fault Char
  | .str s =>
    match s.toList with
    | [c] => .ok c
    | _ => .error .unfit
  | v => do
    let n ← toExactInteger v
    if n < 0 ∨ 0x110000 ≤ n then throw .outOfRange
    return if n.toNat.isValidChar then Char.ofNat n.toNat else Char.ofNat 0xfffd

/-- A value in a form that stands at some position. -/
def write (f : Field) (form : Char) (position : Nat) (v : Json) : Except Fault (List Char) :=
  match form with
  | 's' => .ok (f.text (plainText v))
  | 'r' => .ok (f.text (v.shownChars false))
  | 'a' => .ok (f.text (v.shownChars true))
  | 'd' | 'i' | 'u' => (toInteger v).map (f.integer 10 [])
  | 'o' => (toExactInteger v).map (f.integer 8 ['0', 'o'])
  | 'x' => (toExactInteger v).map (f.integer 16 ['0', 'x'])
  | 'X' => (toExactInteger v).map f.capitalHex
  | 'e' | 'f' | 'g' => (toDouble v).map (f.real form)
  | 'E' | 'F' | 'G' => (toDouble v).map fun d => (f.real form.toLower d).map Char.toUpper
  | 'c' => (toChar v).map fun c => f.fill [c]
  | _ => .error (.unknownForm form position)

/-! ## Filling -/

/-- A measure of at most some size: its value, and where the arguments after it come from.  One that
is taken from an argument is any integer of that size. -/
def measured (most : Nat) (tooBig : Fault) (m : Option Measure) (supply : Supply) :
    Except Fault (Option Int × Supply) := do
  match m with
  | none => return (none, supply)
  | some (.given n) => if most < n then throw tooBig else return (some n, supply)
  | some .argument =>
    let (v, supply) ← supply.next
    let n ← toExactInteger v
    if most < n ∨ n < -most - 1 then throw .outOfRange
    return (some n, supply)

/-- The longest text that is held. -/
def maxLength : Nat := 2 ^ (31 : Nat)

/-- Fill a place.  A negative width aligns to the left, and a negative precision counts as zero. -/
def Place.fill (p : Place) (args : Arguments) (supply : Supply) :
    Except Fault (List Char × Supply) := do
  let supply ←
    match p.key with
    | none => pure supply
    | some key => pure (.single (← args.named key))
  let (width, supply) ← measured (2 ^ (63 : Nat) - 1) .widthTooBig p.width supply
  let (precision, supply) ← measured (2 ^ (31 : Nat) - 1) .precisionTooBig p.precision supply
  let width := width.getD 0
  match p.form with
  | none => throw .incomplete
  | some (form, position) =>
    let (v, supply) ← supply.next
    let flags := if width < 0 then '-' :: p.flags else p.flags
    let f : Field := ⟨flags, width.natAbs, precision.map Int.toNat⟩
    let isLong := maxLength < f.width
    let written ← write (if isLong then { f with width := 0 } else f) form position v
    if isLong then throw .tooLong
    return (written, supply)

/-- Fill the parts of a template. -/
def fillParts (args : Arguments) (supply : Supply) : List Part → Except Fault (List Char)
  | [] =>
    match supply with
    | .list (_ :: _) => .error .tooMany
    | _ => .ok []
  | .char c :: rest => (fillParts args supply rest).map (c :: ·)
  | .place p :: rest => do
    let (written, supply) ← p.fill args supply
    return written ++ (← fillParts args supply rest)

/-- Fill a template. -/
def fill (template : String) (args : Arguments) : Except Fault String :=
  (fillParts args args.supply (parts template.toList)).map String.ofList

/-- The wording of a fault, as far as it has one. -/
def Fault.message? : Fault → Option String
  | incomplete => some "incomplete format"
  | incompleteKey => some "incomplete format key"
  | unknownForm form position =>
    let seen := if 31 ≤ form.toNat ∧ form.toNat ≤ 126 then form else '?'
    let code := String.ofList (Nat.toDigits 16 form.toNat)
    some s!"unsupported format character '{seen}' (0x{code}) at index {position}"
  | widthTooBig => some "width too big"
  | precisionTooBig => some "precision too big"
  | notANumber => some "cannot convert float NaN to integer"
  | _ => none

end Template

end MerkleLog
