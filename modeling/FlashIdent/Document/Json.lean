import FlashIdent.Text.Hex

/-!
# JSON documents

A JSON value and its layout on several lines: two blanks per level, one item or field on a line, `[]` and a pair
of braces for what is empty.  Strings keep every character except quotes, backslashes and the characters below
the blank, which are escaped.  Fields are written in the order in which they stand in the object.
-/

namespace FlashIdent.Document

/-- A JSON value. -/
inductive Json where
  | null
  | number (n : Nat)
  | string (s : String)
  | array (items : List Json)
  | object (fields : List (String × Json))

namespace Json

/-- A character as it stands inside a JSON string. -/
def escape (c : Char) : List Char :=
  if c = '"' then ['\\', '"']
  else if c = '\\' then ['\\', '\\']
  else if c = '\n' then ['\\', 'n']
  else if c = '\r' then ['\\', 'r']
  else if c = '\t' then ['\\', 't']
  else if c = Char.ofNat 8 then ['\\', 'b']
  else if c = Char.ofNat 12 then ['\\', 'f']
  else if c.toNat < 32 then ['\\', 'u'] ++ Text.Hex.fixed .small 4 c.toNat
  else [c]

def quote (s : List Char) : List Char := '"' :: s.flatMap escape ++ ['"']

/-- A line end and the blanks of a nesting depth. -/
def lineBreak (depth : Nat) : List Char := '\n' :: List.replicate (2 * depth) ' '

mutual

/-- The text of a value that stands at a nesting depth. -/
def layout (depth : Nat) : Json → List Char
  | null => ['n', 'u', 'l', 'l']
  | number n => (toString n).toList
  | string s => quote s.toList
  | array [] => ['[', ']']
  | array (item :: items) =>
    '[' :: lineBreak (depth + 1) ++ layout (depth + 1) item ++ layoutItems depth items
  | object [] => ['\x7b', '\x7d']
  | object ((key, value) :: fields) =>
    '\x7b' :: lineBreak (depth + 1) ++ quote key.toList ++ [':', ' '] ++ layout (depth + 1) value ++
      layoutFields depth fields

/-- The items after the first one, and the closing bracket. -/
def layoutItems (depth : Nat) : List Json → List Char
  | [] => lineBreak depth ++ [']']
  | item :: items =>
    ',' :: lineBreak (depth + 1) ++ layout (depth + 1) item ++ layoutItems depth items

/-- The fields after the first one, and the closing brace. -/
def layoutFields (depth : Nat) : List (String × Json) → List Char
  | [] => lineBreak depth ++ ['\x7d']
  | (key, value) :: fields =>
    ',' :: lineBreak (depth + 1) ++ quote key.toList ++ [':', ' '] ++ layout (depth + 1) value ++
      layoutFields depth fields

end

def render (value : Json) : String := String.ofList (value.layout 0 ++ ['\n'])

end Json

end FlashIdent.Document
