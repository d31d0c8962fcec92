import MerkleLog.Json.Display

/-!
# Faults of a document

A document that is checked against a schema yields a list of faults, in the order of the schema's
fields.  A fault says where in the document it lies, what is wrong there, and what was found.
-/

namespace MerkleLog

/-- Where a document comes from: a value at hand, or a text that was read. -/
inductive Source where
  | value
  | text
deriving DecidableEq

/-- A step from a document to one of its parts. -/
inductive Step where
  | field (name : String)
  | index (position : Nat)
deriving DecidableEq

/-- What can be wrong with a part of a document. -/
inductive Cause where
  /-- A required field is absent. -/
  | missing
  /-- Not a text. -/
  | notText
  /-- Not a list. -/
  | notList (source : Source)
  /-- Not an object, where the named record is expected. -/
  | notRecord (source : Source) (record : String)
  /-- Nothing that can stand for an integer. -/
  | notInteger
  /-- A text that does not read as an integer. -/
  | unreadableInteger
  /-- A number with a fractional part. -/
  | fractional
  /-- A number too large to be taken for an integer. -/
  | oversized
  /-- A number that is not finite. -/
  | notFinite
  /-- An integer below the least allowed one. -/
  | less (least : Int)
  /-- An integer that does not exceed a bound. -/
  | notGreater (bound : Int)
  /-- An integer that is not below a bound. -/
  | notLess (bound : Int)
  /-- A text that does not read as a truth value. -/
  | unreadableBoolean
  /-- A text that is not base64. -/
  | notBase64
  /-- A text that decodes to another number of bytes than a digest has. -/
  | notDigest
  /-- The name of no hash algorithm. -/
  | unknownAlgorithm (name : String)
  /-- The name of a hash algorithm whose digests do not have thirty-two bytes. -/
  | unfitAlgorithm (name : String) (size : Nat)
  /-- A field that the schema does not know. -/
  | unexpected
  /-- The whole text is not JSON. -/
  | notJson
deriving DecidableEq

namespace Cause

/-- The short name of a cause, by which programs tell causes apart. -/
def code : Cause → String
  | missing => "missing"
  | notText => "string_type"
  | notList _ => "list_type"
  | notRecord _ _ => "model_type"
  | notInteger => "int_type"
  | unreadableInteger => "int_parsing"
  | fractional => "int_from_float"
  | oversized => "int_parsing_size"
  | notFinite => "finite_number"
  | less _ => "greater_than_equal"
  | notGreater _ => "greater_than"
  | notLess _ => "less_than"
  | unreadableBoolean => "bool_parsing"
  | notBase64 | notDigest | unknownAlgorithm _ | unfitAlgorithm _ _ => "value_error"
  | unexpected => "extra_forbidden"
  | notJson => "json_invalid"

/-- The wording of a cause.  A text that is not JSON has none: where and how it goes wrong is not
told. -/
def message? : Cause → Option String
  | missing => some "Field required"
  | notText => some "Input should be a valid string"
  | notList .value => some "Input should be a valid list"
  | notList .text => some "Input should be a valid array"
  | notRecord .value record =>
    some ("Input should be a valid dictionary or instance of " ++ record)
  | notRecord .text _ => some "Input should be an object"
  | notInteger => some "Input should be a valid integer"
  | unreadableInteger =>
    some "Input should be a valid integer, unable to parse string as an integer"
  | fractional => some "Input should be a valid integer, got a number with a fractional part"
  | oversized => some "Unable to parse input string as an integer, exceeded maximum size"
  | notFinite => some "Input should be a finite number"
  | less least => some s!"Input should be greater than or equal to {least}"
  | notGreater bound => some s!"Input should be greater than {bound}"
  | notLess bound => some s!"Input should be less than {bound}"
  | unreadableBoolean => some "Input should be a valid boolean, unable to interpret input"
  | notBase64 => some "Value error, invalid base64"
  | notDigest => some "Value error, digest must decode to 32 bytes"
  | unknownAlgorithm name => some s!"Value error, unknown hash algorithm: {name}"
  | unfitAlgorithm name size =>
    some s!"Value error, {name} produces {size}-byte digests; 32 required"
  | unexpected => some "Extra inputs are not permitted"
  | notJson => none

end Cause

/-- A cause at a place in a document; the empty path is the whole document. -/
structure Fault where
  /-- The steps from the whole document to the part at fault. -/
  path : List Step
  /-- What is wrong there. -/
  cause : Cause
  /-- What was found there. -/
  found : Json
deriving DecidableEq

namespace Step

/-- A step as it is named in a report. -/
def label : Step → String
  | field name => name
  | index position => toString position

end Step

namespace Fault

/-- The same fault, seen from one step further out. -/
def under (step : Step) (fault : Fault) : Fault :=
  { fault with path := step :: fault.path }

/-- The first line of a report of faults in a record. -/
def headline (record : String) (faults : List Fault) : String :=
  let count := faults.length
  let noun := if count = 1 then "validation error" else "validation errors"
  s!"{count} {noun} for {record}"

/-- The lines of a report about one fault: where it lies, unless it is the whole document, and what
is wrong there. -/
def lines (fault : Fault) : List String :=
  let place := if fault.path.isEmpty then [] else [".".intercalate (fault.path.map Step.label)]
  let wording := fault.cause.message?.getD "Invalid JSON"
  place ++ ["  " ++ wording ++ " [type=" ++ fault.cause.code ++ ", input_value="
    ++ fault.found.excerpt ++ ", input_type=" ++ fault.found.kindName ++ "]"]

/-- A report of faults in a record. -/
def report (record : String) (faults : List Fault) : String :=
  "\n".intercalate (headline record faults :: faults.flatMap lines)

end Fault

end MerkleLog
