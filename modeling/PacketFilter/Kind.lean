/-
This file holds the nine kinds that a filter expression can mention, their numbering and
their names. Six kinds have values; a field reference, a sliced field and a test exist only
inside an expression. A word that names no kind is refused and kept, so that the refusal can quote
it; words for other things are refused alike.
-/

namespace PacketFilter

/-- A word that names nothing of the sort that was asked for. -/
inductive UnknownName where
  | kind (word : String)
  | comparison (word : String)
  | localTimePolicy (word : String)
  deriving DecidableEq

/-- The refusal in words. Only the policies are few enough to be listed. -/
def UnknownName.message : UnknownName → String
  | .kind word => "unknown value kind '" ++ word ++ "'"
  | .comparison word => "unknown comparison operator '" ++ word ++ "'"
  | .localTimePolicy word =>
    "unknown local time policy '" ++ word ++ "' (expected reject, earliest or latest)"

/-- What a value or a node of an expression is. -/
inductive Kind where
  | integer
  | double
  | string
  | bytes
  | absoluteTime
  | relativeTime
  | pointer
  | range
  | test
  deriving DecidableEq

namespace Kind

/-- Every kind once, in the order of their numbers. -/
def all : List Kind :=
  [.integer, .double, .string, .bytes, .absoluteTime, .relativeTime, .pointer, .range, .test]

/-- The number of a kind, its place in the list of all kinds. -/
def index : Kind → Nat
  | .integer => 0
  | .double => 1
  | .string => 2
  | .bytes => 3
  | .absoluteTime => 4
  | .relativeTime => 5
  | .pointer => 6
  | .range => 7
  | .test => 8

/-- The kind with a given number. -/
def ofIndex? (index : Nat) : Option Kind :=
  all[index]?

theorem ofIndex?_index (kind : Kind) : ofIndex? kind.index = some kind := by
  cases kind <;> rfl

theorem mem_all (kind : Kind) : kind ∈ all := by
  cases kind <;> decide

/-- The name that messages and registries use. -/
def name : Kind → String
  | .integer => "INTEGER"
  | .double => "DOUBLE"
  | .string => "STRING"
  | .bytes => "BYTES"
  | .absoluteTime => "ABSOLUTE_TIME"
  | .relativeTime => "RELATIVE_TIME"
  | .pointer => "POINTER"
  | .range => "RANGE"
  | .test => "TEST"

/-- The name that a person reads. -/
def prettyName : Kind → String
  | .integer => "unsigned integer"
  | .double => "floating point"
  | .string => "character string"
  | .bytes => "byte string"
  | .absoluteTime => "date/time"
  | .relativeTime => "time offset"
  | .pointer => "field reference"
  | .range => "field range"
  | .test => "test"

/-- The name under which structured output lists a kind. -/
def key : Kind → String
  | .integer => "integer"
  | .double => "double"
  | .string => "string"
  | .bytes => "bytes"
  | .absoluteTime => "absolute_time"
  | .relativeTime => "relative_time"
  | .pointer => "pointer"
  | .range => "range"
  | .test => "test"

/-- The words that name a kind on a command line, in lower case and with hyphens. -/
def spellings : Kind → List String
  | .integer => ["integer", "int", "uint", "uint32"]
  | .double => ["double", "float"]
  | .string => ["string", "str"]
  | .bytes => ["bytes", "ether"]
  | .absoluteTime => ["absolute-time", "abs-time", "abstime"]
  | .relativeTime => ["relative-time", "rel-time", "reltime"]
  | .pointer => ["pointer", "field"]
  | .range => ["range"]
  | .test => ["test"]

/-- A word as the spellings write it: ASCII letters in lower case, hyphens for underscores. -/
def normalizeWord (word : String) : String :=
  word.map fun letter => if letter = '_' then '-' else letter.toLower

/-- The kind that a word names, whatever the case of its letters. -/
def ofName (word : String) : Except UnknownName Kind :=
  match all.find? fun kind => kind.spellings.contains (normalizeWord word) with
  | some kind => .ok kind
  | none => .error (.kind word)

/-- Whether values of the kind exist, and with them literals. -/
def hasValues : Kind → Bool
  | .integer | .double | .string | .bytes | .absoluteTime | .relativeTime => true
  | .pointer | .range | .test => false

end Kind

end PacketFilter
