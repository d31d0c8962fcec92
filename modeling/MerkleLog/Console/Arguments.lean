import MerkleLog.Text.Numeral

/-!
# The arguments of the command line

The words of a command line hold options of the program, the name of a command, and the options and
operands of that command in any order.  A word that starts with a dash is an option, unless it is a
single dash or follows a double dash.
-/

namespace MerkleLog.Console

/-- What the program is asked to do. -/
inductive Command where
  /-- Append the lines of a file to the log of a store. -/
  | accumulate (leaves store : String) (hex : Bool)
  /-- Show the size and the root of the log of a store. -/
  | root (store : String)
  /-- Prove that a log of some size holds a leaf. -/
  | prove (index size : Int) (root : Option String) (store : String) (out : Option String)
  /-- Check a proof. -/
  | verify (path : String)
deriving DecidableEq

/-- What the words after the name of a command ask for. -/
inductive Errand where
  | help
  | run (command : Command)
deriving DecidableEq

/-- The names of the commands. -/
inductive CommandName where
  | accumulate
  | root
  | prove
  | verify
deriving DecidableEq

/-- What a command line asks for.  The words after the name of a command are looked at later. -/
inductive Request where
  | help
  | invoke (verbose : Bool) (name : CommandName) (words : List String)
deriving DecidableEq

/-! ## Words -/

/-- Options and operands.  Options that take no value have the empty value. -/
structure Words where
  options : List (String × String)
  operands : List String
deriving DecidableEq

namespace Words

/-- The last value given for an option. -/
def value? (w : Words) (name : String) : Option String :=
  w.options.reverse.lookup name

/-- Whether an option is given. -/
def has (w : Words) (name : String) : Bool :=
  (w.value? name).isSome

/-- Put an option in front. -/
def addOption (name value : String) (w : Words) : Words :=
  { w with options := (name, value) :: w.options }

/-- Put an operand in front. -/
def addOperand (word : String) (w : Words) : Words :=
  { w with operands := word :: w.operands }

end Words

/-- Whether a word is an option. -/
def isOption (word : String) : Bool :=
  word.startsWith "-" && word ≠ "-"

/-- The name and the value of an option in one word. -/
def splitOption (word : String) : String × Option String :=
  match word.toList.span (· ≠ '=') with
  | (name, _ :: value) => (String.ofList name, some (String.ofList value))
  | (_, []) => (word, none)

/-- Sort words into options and operands, given which options take a value and which do not.
`pending` is an option that waits for its value; the value is the next word, whatever it looks
like. -/
def words? (valued plain : List String) (pending : Option String) : List String → Option Words
  | [] => if pending.isSome then none else some ⟨[], []⟩
  | word :: rest =>
    match pending with
    | some name => (words? valued plain none rest).map (·.addOption name word)
    | none =>
      if word = "--" then some ⟨[], rest⟩
      else if isOption word then
        match splitOption word with
        | (name, some value) =>
          if valued.contains name then
            (words? valued plain none rest).map (·.addOption name value)
          else none
        | (name, none) =>
          if valued.contains name then words? valued plain (some name) rest
          else if plain.contains name then
            (words? valued plain none rest).map (·.addOption name "")
          else none
      else (words? valued plain none rest).map (·.addOperand word)

/-! ## Commands -/

/-- The store that is used where none is named. -/
def defaultStore : String := "./outbox-store.json"

/-- The store that words name. -/
def Words.store (w : Words) : String :=
  (w.value? "--store").getD defaultStore

/-- What words ask for, given what to make of them.  All options are checked even where help is
asked for. -/
def errand? (valued plain : List String) (command? : Words → Option Command)
    (args : List String) : Option Errand := do
  let w ← words? valued ("--help" :: plain) none args
  if w.has "--help" then return .help
  return .run (← command? w)

namespace CommandName

/-- The command of a name. -/
def ofString? : String → Option CommandName
  | "accumulate" => some accumulate
  | "root" => some root
  | "prove" => some prove
  | "verify" => some verify
  | _ => none

/-- What the words after the name of a command ask for; nothing if they are malformed. -/
def errand? : CommandName → List String → Option Errand
  | accumulate =>
    Console.errand? ["--store"] ["--hex"] fun w =>
      match w.operands with
      | [leaves] => some (.accumulate leaves w.store (w.has "--hex"))
      | _ => none
  | root =>
    Console.errand? ["--store"] [] fun w =>
      match w.operands with
      | [] => some (.root w.store)
      | _ => none
  | prove =>
    Console.errand? ["--tree-size", "--root-b64", "--store", "--out"] [] fun w => do
      let size ← Text.Numeral.value? (← w.value? "--tree-size")
      match w.operands with
      | [index] =>
        let index ← Text.Numeral.value? index
        return .prove index size (w.value? "--root-b64") w.store (w.value? "--out")
      | _ => none
  | verify =>
    Console.errand? [] [] fun w =>
      match w.operands with
      | [path] => some (.verify path)
      | _ => none

end CommandName

/-! ## The whole line -/

/-- Whether a word asks for a verbose journal, with one letter or more after one dash. -/
def isVerbose (word : String) : Bool :=
  word = "--verbose" ||
    match word.toList with
    | '-' :: letter :: letters => (letter :: letters).all (· = 'v')
    | _ => false

/-- The request of the name of a command and the words after it. -/
def requestOf? (verbose : Bool) : List String → Option Request
  | [] => none
  | name :: words => (CommandName.ofString? name).map (.invoke verbose · words)

/-- The request of a command line after some of its options. -/
def requestAfter? (verbose help : Bool) : List String → Option Request
  | [] => if help then some .help else none
  | word :: rest =>
    if word = "--" then
      if help then some .help else requestOf? verbose rest
    else if isVerbose word then requestAfter? true help rest
    else if word = "--help" then requestAfter? verbose true rest
    else if isOption word then none
    else if help then some .help
    else requestOf? verbose (word :: rest)

/-- The request of a command line; nothing if the line is malformed. -/
def Request.ofArguments? (args : List String) : Option Request :=
  requestAfter? false false args

end MerkleLog.Console
