import MerkleLog.Text.Character

/-!
# Dotenv files

A dotenv file binds names to values, one binding a line.  Names and values may be quoted, a comment
starts at a number sign, and a value may refer to other names.  A line that is no binding is
skipped.
-/

namespace MerkleLog.Dotenv

open Text (isBlankOrSeparator)

/-- A name with its value, if it has one. -/
structure Binding where
  name : String
  value : Option String
deriving DecidableEq

/-! ## Parts of a line -/

/-- Whether a character is a blank within a line. -/
def isInnerBlank (c : Char) : Bool :=
  isBlankOrSeparator c && c != '\n' && c != '\r'

/-- What follows the blanks at the front of a line. -/
def skipBlanks (cs : List Char) : List Char :=
  cs.dropWhile isInnerBlank

/-- What follows the line, its end included. -/
def skipLine (cs : List Char) : List Char :=
  match cs.dropWhile fun c => c != '\n' && c != '\r' with
  | '\r' :: rest => rest
  | '\n' :: rest => rest
  | rest => rest

/-- What follows a line of which only blanks are left. -/
def endLine? (cs : List Char) : Option (List Char) :=
  match skipBlanks cs with
  | [] => some []
  | '\r' :: '\n' :: rest => some rest
  | '\r' :: rest => some rest
  | '\n' :: rest => some rest
  | _ => none

/-- What follows a comment, if there is one. -/
def skipComment (cs : List Char) : List Char :=
  match skipBlanks cs with
  | '#' :: rest => rest.dropWhile fun c => c != '\n' && c != '\r'
  | _ => cs

/-- What follows the word `export` and blanks, if they are there. -/
def skipExport (cs : List Char) : List Char :=
  match cs with
  | 'e' :: 'x' :: 'p' :: 'o' :: 'r' :: 't' :: rest =>
    if (rest.head?.map isInnerBlank).getD false then skipBlanks rest else cs
  | _ => cs

/-- A name and what follows it. -/
def name? : List Char → Option (List Char × List Char)
  | '\'' :: rest =>
    match rest.span (· != '\'') with
    | (name, _ :: rest) => if name.isEmpty then none else some (name, rest)
    | _ => none
  | cs =>
    let (name, rest) := cs.span fun c => c != '=' && c != '#' && !isBlankOrSeparator c
    if name.isEmpty then none else some (name, rest)

/-- The text up to a closing quote and what follows the quote.  A character after a backslash does
not close the text. -/
def upToQuote? (quote : Char) : List Char → Option (List Char × List Char)
  | [] => none
  | '\\' :: c :: rest => (upToQuote? quote rest).map fun (text, rest) => ('\\' :: c :: text, rest)
  | c :: rest =>
    if c = quote then some ([], rest)
    else (upToQuote? quote rest).map fun (text, rest) => (c :: text, rest)

/-- What a backslash and a character stand for in single quotes. -/
def singleEscape? : Char → Option Char
  | '\\' => some '\\'
  | '\'' => some '\''
  | _ => none

/-- What a backslash and a character stand for in double quotes. -/
def doubleEscape? : Char → Option Char
  | '\\' => some '\\'
  | '\'' => some '\''
  | '"' => some '"'
  | 'a' => some '\x07'
  | 'b' => some '\x08'
  | 'f' => some '\x0c'
  | 'n' => some '\n'
  | 'r' => some '\r'
  | 't' => some '\t'
  | 'v' => some '\x0b'
  | _ => none

/-- A text with its escapes replaced. -/
def unescape (escape? : Char → Option Char) : List Char → List Char
  | [] => []
  | '\\' :: c :: rest =>
    match escape? c with
    | some e => e :: unescape escape? rest
    | none => '\\' :: unescape escape? (c :: rest)
  | c :: rest => c :: unescape escape? rest

/-- A value without quotes up to a comment, which starts at a number sign after a blank. -/
def upToComment : List Char → List Char
  | [] => []
  | c :: '#' :: rest => if isBlankOrSeparator c then [] else c :: upToComment ('#' :: rest)
  | c :: rest => c :: upToComment rest

/-- A value and what follows it, read after the equals sign.  Fails with the quoted text that does
not end. -/
def value (cs : List Char) : Except (List Char) (List Char × List Char) :=
  match skipBlanks cs with
  | '\'' :: rest =>
    match upToQuote? '\'' rest with
    | some (text, rest) => .ok (unescape singleEscape? text, rest)
    | none => .error ('\'' :: rest)
  | '"' :: rest =>
    match upToQuote? '"' rest with
    | some (text, rest) => .ok (unescape doubleEscape? text, rest)
    | none => .error ('"' :: rest)
  | _ =>
    let (text, rest) := cs.span fun c => c != '\n' && c != '\r'
    .ok (Text.trim isBlankOrSeparator (upToComment text), rest)

/-! ## Bindings -/

/-- A line, whose first character is no blank: its binding, if it has one, and what follows it.  A
malformed line fails with what is left of the text where reading gets stuck. -/
def line (cs : List Char) : Except (List Char) (Option Binding × List Char) := do
  let cs := skipExport cs
  let (name, cs) ←
    match cs, name? cs with
    | '#' :: _, _ => .ok (none, cs)
    | _, some (name, rest) => .ok (some (String.ofList name), rest)
    | _, none => .error cs
  let (value, cs) ←
    match skipBlanks cs with
    | '=' :: rest => (value rest).map fun (value, rest) => (some (String.ofList value), rest)
    | rest => .ok (none, rest)
  match endLine? (skipComment cs) with
  | some rest => return (name.map fun name => ⟨name, value⟩, rest)
  | none => .error cs

/-- The first of a number of lines and the bindings in them. -/
def bindingsIn : Nat → List Char → List Binding
  | 0, _ => []
  | count + 1, cs =>
    match cs.dropWhile isBlankOrSeparator with
    | [] => []
    | cs =>
      match line cs with
      | .ok (some binding, rest) => binding :: bindingsIn count rest
      | .ok (none, rest) => bindingsIn count rest
      | .error rest => bindingsIn count (skipLine rest)

/-- The bindings of a text, in order.  There are no more lines than characters. -/
def bindings (text : String) : List Binding :=
  let cs := Text.unifyLineEnds text.toList
  bindingsIn cs.length cs

/-! ## References -/

/-- A reference `name}` or `name:-default}`, read after `$\x7b`, and what follows it. -/
def reference? (cs : List Char) : Option (String × String × List Char) :=
  match cs.span fun c => c != '\x7d' && c != ':' with
  | (name, '\x7d' :: rest) => some (String.ofList name, "", rest)
  | (name, ':' :: '-' :: rest) =>
    match rest.span (· != '\x7d') with
    | (default, _ :: rest) => some (String.ofList name, String.ofList default, rest)
    | _ => none
  | _ => none

/-- A value with its references replaced.  `count` bounds the number of characters looked at. -/
def expandIn (lookup : String → Option (Option String)) : Nat → List Char → List Char
  | 0, _ => []
  | _ + 1, [] => []
  | count + 1, '$' :: '\x7b' :: rest =>
    match reference? rest with
    | some (name, default, rest) =>
      let text :=
        match lookup name with
        | some value => value.getD ""
        | none => default
      text.toList ++ expandIn lookup count rest
    | none => '$' :: expandIn lookup count ('\x7b' :: rest)
  | count + 1, c :: rest => c :: expandIn lookup count rest

/-- A value with its references replaced. -/
def expand (lookup : String → Option (Option String)) (value : String) : String :=
  String.ofList (expandIn lookup value.length value.toList)

/-- Set the value of a name, in place of an earlier one. -/
def assign (name : String) (value : Option String) :
    List (String × Option String) → List (String × Option String)
  | [] => [(name, value)]
  | (n, v) :: rest => if n = name then (name, value) :: rest else (n, v) :: assign name value rest

/-- The values of names in a text, where a reference goes to an earlier binding or else to the
environment. -/
def values (environment : List (String × String)) (text : String) : List (String × Option String) :=
  (bindings text).foldl
    (fun known binding =>
      let lookup name :=
        match known.lookup name with
        | some value => some value
        | none => (environment.lookup name).map some
      assign binding.name (binding.value.map (expand lookup)) known)
    []

end MerkleLog.Dotenv
