import MerkleLog.Hash.Algorithm
import MerkleLog.Schema.Check
import MerkleLog.Settings.Dotenv
import MerkleLog.Text.Case

/-!
# Settings

The settings come from the environment and from a dotenv file, of which the environment counts
first.  Names count in letters of either case.
-/

namespace MerkleLog

/-- The settings of the log. -/
structure Settings where
  /-- The name of the hash algorithm. -/
  hashAlgorithm : String
  /-- The name of the level from which records are logged. -/
  logLevel : String
  /-- Whether digests are cut down in the log. -/
  abbreviateDigests : Bool
deriving DecidableEq

namespace Settings

/-- The settings where nothing is set. -/
def default : Settings := ⟨"sha256", "INFO", true⟩

/-- The variable with the name of the hash algorithm. -/
def hashVariable : String := "OUTBOX_HASH_ALGORITHM"

/-- The variable with the name of the log level. -/
def levelVariable : String := "OUTBOX_LOG_LEVEL"

/-- The variable that tells whether digests are cut down in the log. -/
def abbreviateVariable : String := "OUTBOX_ABBREVIATE_DIGESTS"

/-- All variables that are read. -/
def allVariables : List String := [hashVariable, levelVariable, abbreviateVariable]

/-- Names in lower case with their values.  Of two names that differ only in case, the later value
counts, in the place of the earlier. -/
def foldCase (values : List (String × Option String)) : List (String × Option String) :=
  values.foldl (fun known (name, value) => Dotenv.assign (Text.lower name) value known) []

/-- The name of a hash algorithm whose digests have thirty-two bytes. -/
def checkAlgorithm (name : String) : Checked String :=
  match Algorithm.ofName? name with
  | none => Checked.fail (.str name) (.unknownAlgorithm name)
  | some a =>
    if a.size = 32 then .ok name else Checked.fail (.str name) (.unfitAlgorithm name a.size)

/-- A truth value, in ASCII letters of either case. -/
def checkBoolean (s : String) : Checked Bool :=
  let word := Text.lowerAscii s
  if ["1", "on", "t", "true", "y", "yes"].contains word then .ok true
  else if ["0", "off", "f", "false", "n", "no"].contains word then .ok false
  else Checked.fail (.str s) .unreadableBoolean

/-- Why no settings are made. -/
inductive Refusal where
  /-- Some values do not fit. -/
  | faults (faults : List Fault)
  /-- The name of the hash algorithm holds a null character. -/
  | nullInName
deriving DecidableEq

/-- The values of variables: those of the environment, and else those of the dotenv file. -/
structure Values where
  environment : List (String × Option String)
  file : List (String × Option String)

namespace Values

/-- Values by the names of variables in lower case. -/
def collect (environment : List (String × String)) (dotenv : Option String) : Values :=
  ⟨foldCase (environment.map fun (name, value) => (name, some value)),
    foldCase ((dotenv.map (Dotenv.values environment)).getD [])⟩

/-- The value of a variable, if it is set. -/
def get? (v : Values) (name : String) : Option String :=
  let key := Text.lower name
  ((v.environment.lookup key).join).or ((v.file.lookup key).join)

/-- The value of a variable, checked, or the default where it is not set. -/
def read {α : Type} (v : Values) (name : String) (default : α) (check : String → Checked α) :
    Checked α :=
  match v.get? name with
  | none => .ok default
  | some value => (check value).under (.field name)

/-- Names of the dotenv file that are no variables and have a value are faults. -/
def checkNames (v : Values) : Checked Unit :=
  let faults := v.file.filterMap fun (name, value) =>
    let text := value.getD ""
    if (allVariables.map Text.lower).contains name || text == "" then none
    else some ⟨[.field name], .unexpected, .str text⟩
  if faults.isEmpty then .ok () else .error faults

end Values

/-- The settings that an environment and a dotenv file make. -/
def load (environment : List (String × String)) (dotenv : Option String) :
    Except Refusal Settings :=
  let values := Values.collect environment dotenv
  let checked :=
    (values.read hashVariable default.hashAlgorithm checkAlgorithm).both <|
    (values.read levelVariable default.logLevel .ok).both <|
    (values.read abbreviateVariable default.abbreviateDigests checkBoolean).both <|
    values.checkNames
  if (values.get? hashVariable).any fun name => name.toList.contains '\x00' then
    .error .nullInName
  else
    match checked with
    | .ok (hashAlgorithm, logLevel, abbreviateDigests, _) =>
      .ok ⟨hashAlgorithm, logLevel, abbreviateDigests⟩
    | .error faults => .error (.faults faults)

/-- The hash function of the settings, where the library has it. -/
def hash? (s : Settings) : Option Hash := Hash.ofName? s.hashAlgorithm

end Settings

end MerkleLog
