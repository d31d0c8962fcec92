import MerkleLog.Text.Quoted

/-!
# Levels

A level is a number that tells how much a record matters.  Some levels have names.
-/

namespace MerkleLog

/-- How much a record matters. -/
structure Level where
  rank : Int
deriving DecidableEq

namespace Level

/-- The level of what has no level of its own. -/
def unset : Level := ⟨0⟩

/-- The level of what helps to find faults. -/
def debug : Level := ⟨10⟩

/-- The level of what is as expected. -/
def info : Level := ⟨20⟩

/-- The level of what is not as expected. -/
def warning : Level := ⟨30⟩

/-- The level of what failed. -/
def error : Level := ⟨40⟩

/-- The level of what ends all. -/
def critical : Level := ⟨50⟩

/-- The levels that have names, by their names. -/
def named : List (String × Level) :=
  [("NOTSET", unset), ("DEBUG", debug), ("INFO", info), ("WARNING", warning), ("ERROR", error),
   ("CRITICAL", critical)]

/-- Second names of levels. -/
def aliases : List (String × Level) :=
  [("WARN", warning), ("FATAL", critical)]

/-- The name of a level. -/
def name (l : Level) : String :=
  match named.find? fun (_, level) => level == l with
  | some (name, _) => name
  | none => s!"Level {l.rank}"

/-- The level of a name. -/
def ofName? (name : String) : Option Level :=
  (named ++ aliases).lookup name

/-! ## Levels from settings -/

/-- Why a setting makes no level. -/
inductive Fault where
  /-- No level has the name. -/
  | unknown (name : String)
  /-- What is named is neither a level nor the name of one. -/
  | neither
deriving DecidableEq

/-- The wording of a fault. -/
def Fault.message : Fault → String
  | unknown name => "Unknown level: " ++ String.ofList (Text.inQuotes false name.toList)
  | neither => "Level not an integer or a valid string"

/-- The upper-case form of a character, where it is made of ASCII letters.  Besides the ASCII
letters themselves, dotless i, long s, sharp s and seven ligatures have such forms. -/
def upper (c : Char) : List Char :=
  match c with
  | 'ı' => ['I']
  | 'ſ' => ['S']
  | 'ß' => ['S', 'S']
  | 'ﬀ' => ['F', 'F']
  | 'ﬁ' => ['F', 'I']
  | 'ﬂ' => ['F', 'L']
  | 'ﬃ' => ['F', 'F', 'I']
  | 'ﬄ' => ['F', 'F', 'L']
  | 'ﬅ' | 'ﬆ' => ['S', 'T']
  | c => [c.toUpper]

/-- The level that a setting names in letters of either case; unknown names stand for `info`.  Two
names are those of other things: of the form of a line, which is taken for the name of a level, and
of the styles of such forms. -/
def ofSetting (s : String) : Except Fault Level :=
  let name := String.ofList (s.toList.flatMap upper)
  if name = "BASIC_FORMAT" then .error (.unknown "%(levelname)s:%(name)s:%(message)s")
  else if name = "_STYLES" then .error .neither
  else .ok ((ofName? name).getD info)

end Level

end MerkleLog
