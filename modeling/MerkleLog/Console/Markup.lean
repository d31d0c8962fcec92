import MerkleLog.Console.Markup.Emoji
import MerkleLog.Console.Markup.Literal
import MerkleLog.Console.Markup.Style

/-!
# Markup of console output

Text in square brackets is a tag that styles what follows, up to the closing tag.  On a plain
console tags leave no trace.  A backslash before a tag makes it text.
-/

namespace MerkleLog.Console.Markup

/-! ## Pieces -/

/-- A tag: its name, and the parameters after an equals sign. -/
structure Tag where
  name : List Char
  parameters : Option (List Char)
deriving DecidableEq

/-- A piece of marked-up text. -/
inductive Piece where
  | text (s : List Char)
  | tag (t : Tag)
deriving DecidableEq

/-- Whether a character may start a tag. -/
def startsTag (c : Char) : Bool :=
  ('a' ≤ c && c ≤ 'z') || c = '#' || c = '/' || c = '@'

/-- What stands between brackets and what follows them, read after the opening bracket.  A tag holds
no further opening bracket. -/
def tag? : List Char → Option (List Char × List Char)
  | c :: rest =>
    if startsTag c then
      match rest.span fun c => c != '[' && c != ']' with
      | (inner, ']' :: rest) => some (c :: inner, rest)
      | _ => none
    else none
  | [] => none

/-- The tag of what stands between brackets. -/
def Tag.ofInner (cs : List Char) : Tag :=
  match cs.span (· ≠ '=') with
  | (name, _ :: parameters) => ⟨name, some parameters⟩
  | (name, []) => ⟨name, none⟩

/-- A text in which a backslash before an opening bracket is left out. -/
def unescape : List Char → List Char
  | [] => []
  | '\\' :: '[' :: rest => '[' :: unescape rest
  | c :: rest => c :: unescape rest

/-- The pieces of a text.  `escapes` counts the backslashes just read, and `text` holds the
characters before them, last first.  `count` bounds the number of steps. -/
def piecesIn : Nat → Nat → List Char → List Char → List Piece
  | 0, escapes, text, rest => [.text (text.reverse ++ List.replicate escapes '\\' ++ rest)]
  | _ + 1, escapes, text, [] => [.text (unescape (text.reverse ++ List.replicate escapes '\\'))]
  | count + 1, escapes, text, '\\' :: rest => piecesIn count (escapes + 1) text rest
  | count + 1, escapes, text, '[' :: rest =>
    match tag? rest with
    | none => piecesIn count 0 ('[' :: List.replicate escapes '\\' ++ text) rest
    | some (inner, after) =>
      let before := [.text (unescape text.reverse), .text (List.replicate (escapes / 2) '\\')]
      let here := if escapes % 2 = 1 then .text ('[' :: inner ++ [']']) else .tag (.ofInner inner)
      before ++ here :: piecesIn count 0 [] after
  | count + 1, escapes, text, c :: rest =>
    piecesIn count 0 (c :: List.replicate escapes '\\' ++ text) rest

/-- The pieces of a text. -/
def pieces (cs : List Char) : List Piece :=
  piecesIn (cs.length + 1) 0 [] cs

/-! ## What is seen -/

/-- Why a marked-up text is not shown. -/
inductive Fault where
  /-- A tag closes nothing. -/
  | unopened
  /-- The parameters of an action are no literal. -/
  | notLiteral
  /-- The definition of a style is faulty. -/
  | style (cause : Style.Fault)
deriving DecidableEq

/-- A tag that is open: the normal form of its name, and its parameters. -/
structure Opened where
  name : String
  parameters : Option (List Char)
deriving DecidableEq

/-- The definition of the style of a tag: its name and its parameters. -/
def Opened.definition (o : Opened) : List Char :=
  match o.parameters with
  | some cs => o.name.toList ++ ' ' :: cs
  | none => o.name.toList

/-- Whether a tag names an action instead of a style. -/
def Opened.isAction (o : Opened) : Bool :=
  o.name.startsWith "@"

/-- Take out the tag that was opened last under a name; without a name, the one that was opened
last. -/
def close (name : Option String) : List Opened → Option (Opened × List Opened)
  | [] => none
  | o :: rest =>
    if name.all (· = o.name) then some (o, rest)
    else (close name rest).map fun (found, rest) => (found, o :: rest)

/-- The part of the parameters of an action that is to be a literal.  After the name of a function,
only its arguments are. -/
def literalPart (cs : List Char) : List Char :=
  let cs := Text.trim Text.isBlankOrSeparator cs
  match cs.span fun c => Text.isWord c || c == '.' with
  | (_, []) => ['(', ')']
  | (_, '(' :: rest) =>
    if rest.getLast? = some ')' && !rest.contains '\n' then '(' :: rest else cs
  | _ => cs

/-- Check the parameters of a tag that is closed. -/
def checkAction (o : Opened) : Except Fault Unit :=
  match o.parameters with
  | some (c :: cs) =>
    if o.isAction && !Literal.isLiteral (literalPart (c :: cs)) then .error .notLiteral else .ok ()
  | _ => .ok ()

/-- The normal form of a name. -/
def nameOf (cs : List Char) : Except Fault String :=
  (Style.normalize cs).mapError .style

/-- The name in a closing tag; none in one that closes whatever was opened last. -/
def closingName (cs : List Char) : Except Fault (Option String) :=
  let cs := Text.trim Text.isBlankOrSeparator cs
  if cs.isEmpty then .ok none else (nameOf cs).map some

/-- The text that is seen of some pieces, and the tags whose styles it has.  `opened` are the tags
that are open, last first. -/
def collect (opened : List Opened) : List Piece → Except Fault (List Char × List Opened)
  | [] => .ok ([], opened.filter (!·.definition.isEmpty))
  | .text s :: rest => do
    let (cs, styles) ← collect opened rest
    return (Emoji.replace s ++ cs, styles)
  | .tag ⟨'/' :: name, _⟩ :: rest => do
    match close (← closingName name) opened with
    | none => throw .unopened
    | some (o, opened) =>
      checkAction o
      let (cs, styles) ← collect opened rest
      return (cs, if o.isAction then styles else o :: styles)
  | .tag ⟨name, parameters⟩ :: rest => do
    collect (⟨← nameOf name, parameters⟩ :: opened) rest

/-- Check the definition of a style.  One without meaning has no effect. -/
def checkStyle (o : Opened) : Except Fault Unit :=
  match Style.ofDefinition o.definition with
  | .ok _ | .error .meaningless => .ok ()
  | .error cause => .error (.style cause)

/-- Whether a character would ring the bell or move the cursor: bell, backspace, vertical tab, form
feed and carriage return. -/
def isControl (c : Char) : Bool :=
  c.toNat ∈ [7, 8, 11, 12, 13]

/-- What is seen of a marked-up text, without control characters. -/
def render (markup : String) : Except Fault (List Char) := do
  let (cs, styles) ← collect [] (pieces markup.toList)
  styles.forM checkStyle
  return cs.filter fun c => !isControl c

end MerkleLog.Console.Markup
