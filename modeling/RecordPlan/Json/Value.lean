/-!
# Writing JSON

What the program answers in JSON is built as a `Json.Value` and written in
one of two ways: `compact`, without any blanks, or `pretty`, one member a
line with two spaces for each level. Members keep their order.
-/

namespace RecordPlan.Json

/-- A JSON value, as far as it is written. -/
inductive Value where
  /-- `null` -/
  | null
  /-- A truth value. -/
  | bool (value : Bool)
  /-- A natural number. -/
  | nat (value : Nat)
  /-- A text. -/
  | text (value : String)
  /-- A sequence of values. -/
  | array (items : List Value)
  /-- Values with their keys. -/
  | object (members : List (String × Value))

/-- A character in a JSON string. -/
def escape (c : Char) : List Char :=
  match c with
  | '"' => ['\\', '"']
  | '\\' => ['\\', '\\']
  | '\x08' => ['\\', 'b']
  | '\t' => ['\\', 't']
  | '\n' => ['\\', 'n']
  | '\x0c' => ['\\', 'f']
  | '\r' => ['\\', 'r']
  | c =>
    if c.toNat < 0x20 then
      ['\\', 'u', '0', '0', Nat.digitChar (c.toNat / 16), Nat.digitChar (c.toNat % 16)]
    else [c]

/-- A text as a JSON string. -/
def quoted (text : String) : List Char := '"' :: text.toList.flatMap escape ++ ['"']

/-- A value that has no parts. -/
def scalar : Value → List Char
  | .null => ['n', 'u', 'l', 'l']
  | .bool true => ['t', 'r', 'u', 'e']
  | .bool false => ['f', 'a', 'l', 's', 'e']
  | .nat n => Nat.toDigits 10 n
  | .text t => quoted t
  | .array _ => ['[', ']']
  | .object _ => ['\x7b', '\x7d']

mutual

/-- **A value without blanks.** -/
def compact : Value → List Char
  | .array (item :: items) => '[' :: compact item ++ compactItems items
  | .object ((key, value) :: members) =>
    '\x7b' :: quoted key ++ ':' :: compact value ++ compactMembers members
  | value => scalar value

/-- The items of an array after the first one, and its end. -/
def compactItems : List Value → List Char
  | [] => [']']
  | item :: items => ',' :: compact item ++ compactItems items

/-- The members of an object after the first one, and its end. -/
def compactMembers : List (String × Value) → List Char
  | [] => ['\x7d']
  | (key, value) :: members =>
    ',' :: quoted key ++ ':' :: compact value ++ compactMembers members

end

/-- A new line at a level. -/
def newLine (level : Nat) : List Char := '\n' :: List.replicate (2 * level) ' '

mutual

/-- **A value with one member a line**, at a level. -/
def pretty (level : Nat) : Value → List Char
  | .array (item :: items) =>
    '[' :: newLine (level + 1) ++ pretty (level + 1) item ++ prettyItems level items
  | .object ((key, value) :: members) =>
    '\x7b' :: newLine (level + 1) ++ quoted key ++ ':' :: ' ' :: pretty (level + 1) value ++
      prettyMembers level members
  | value => scalar value

/-- The items of an array after the first one, and its end. -/
def prettyItems (level : Nat) : List Value → List Char
  | [] => newLine level ++ [']']
  | item :: items =>
    ',' :: newLine (level + 1) ++ pretty (level + 1) item ++ prettyItems level items

/-- The members of an object after the first one, and its end. -/
def prettyMembers (level : Nat) : List (String × Value) → List Char
  | [] => newLine level ++ ['\x7d']
  | (key, value) :: members =>
    ',' :: newLine (level + 1) ++ quoted key ++ ':' :: ' ' :: pretty (level + 1) value ++
      prettyMembers level members

end

namespace Value

/-- The text of a value without blanks. -/
def toText (v : Value) : String := String.ofList (compact v)

/-- The text of a value with one member a line. -/
def toPrettyText (v : Value) : String := String.ofList (pretty 0 v)

end Value

end RecordPlan.Json
