namespace PgMetrics

/-- A place in a text: characters before it, lines before it, characters before it in its line. Messages count from
one. -/
structure Mark where
  index : Nat
  line : Nat
  column : Nat
  deriving DecidableEq, Repr

namespace Mark

def start : Mark := ⟨0, 0, 0⟩

/-- The very first character has no line and column of its own in messages. -/
def isStart (m : Mark) : Bool :=
  m.line == 0 && m.column == 0

def text (m : Mark) : String :=
  if m.isStart then "position " ++ m.index.repr
  else "line " ++ (m.line + 1).repr ++ " column " ++ (m.column + 1).repr

end Mark

/-- What a value in a document should have been. -/
inductive Expected where
  | view
  | column
  | role
  | map
  | sequence
  | text
  | unit
  | null
  deriving DecidableEq, Repr

def Expected.message : Expected → String
  | view => "struct ExtensionNamespace"
  | column => "struct ExtensionColumn"
  | role => "a YAML tag starting with '!'"
  | map => "a map"
  | sequence => "a sequence"
  | text => "a string"
  | unit => "unit"
  | null => "null"

/-- Why well-formed YAML does not describe the wanted value. -/
inductive ShapeError where
  | wrongKind (found : String) (expected : Expected)
  | wrongValue (found : String) (expected : Expected)
  | unknownField (name expected : String)
  | unknownVariant (name expected : String)
  | missingField (name : String)
  | duplicateField (name : String)
  deriving DecidableEq, Repr

def ShapeError.message : ShapeError → String
  | wrongKind found expected => "invalid type: " ++ found ++ ", expected " ++ expected.message
  | wrongValue found expected =>
    "invalid value: string \"" ++ found ++ "\", expected " ++ expected.message
  | unknownField name expected => "unknown field `" ++ name ++ "`, expected " ++ expected
  | unknownVariant name expected => "unknown variant `" ++ name ++ "`, expected " ++ expected
  | missingField name => "missing field `" ++ name ++ "`"
  | duplicateField name => "duplicate field `" ++ name ++ "`"

/-- Why a YAML text could not be read. -/
inductive YamlError where
  /-- The text breaks the grammar, perhaps while something opened earlier was read. -/
  | malformed (problem : String) (mark : Mark) (context : Option (String × Mark))
  /-- The text holds a character that YAML does not allow, at an offset in bytes. -/
  | forbidden (offset : Nat)
  /-- A value has the wrong shape; the path leads to it from the whole document. -/
  | shape (error : ShapeError) (path : String) (mark : Mark)
  | unknownAnchor (mark : Mark)
  | tooManyRepetitions
  | severalDocuments
  | noDocument
  deriving DecidableEq, Repr

namespace YamlError

def placed (text : String) (mark : Mark) : String :=
  if mark.isStart then text else text ++ " at " ++ mark.text

def message : YamlError → String
  | malformed problem mark none => placed problem mark
  | malformed problem mark (some (context, opened)) =>
    placed problem mark ++ ", " ++
      (if opened.line = mark.line ∧ opened.column = mark.column then context
        else placed context opened)
  | forbidden offset =>
    "control characters are not allowed" ++ (if offset = 0 then "" else " at position " ++ offset.repr)
  | shape error path mark =>
    placed ((if path = "." then "" else path ++ ": ") ++ error.message) mark
  | unknownAnchor mark => placed "unknown anchor" mark
  | tooManyRepetitions => "repetition limit exceeded"
  | severalDocuments =>
    "deserializing from YAML containing more than one document is not supported"
  | noDocument => "EOF while parsing a value"

end YamlError

end PgMetrics
