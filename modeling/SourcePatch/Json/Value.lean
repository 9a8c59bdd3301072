/-!
# JSON values and their text

Values are written over several lines, two blanks for each level. In strings, only quotes,
backslashes and control characters are escaped.

## Main definitions

* `Json.Value`, with the fields of an object in order.
* `Json.Value.pretty`: the text of a value.
-/

namespace SourcePatch.Json

inductive Value
  | bool (b : Bool)
  | number (n : Nat)
  | string (s : String)
  | array (items : List Value)
  | object (fields : List (String × Value))

/-! ## Strings -/

def hexDigit (n : Nat) : Char := if n < 10 then Char.ofNat (0x30 + n) else Char.ofNat (0x57 + n)

/-- A character as it stands in a string. -/
def escapeChar (c : Char) : List Char :=
  if c = '"' then ['\\', '"']
  else if c = '\\' then ['\\', '\\']
  else if c = '\x08' then ['\\', 'b']
  else if c = '\t' then ['\\', 't']
  else if c = '\n' then ['\\', 'n']
  else if c = '\x0C' then ['\\', 'f']
  else if c = '\r' then ['\\', 'r']
  else if c.toNat < 0x20 then
    ['\\', 'u', '0', '0', hexDigit (c.toNat / 16), hexDigit (c.toNat % 16)]
  else [c]

def quoted (s : String) : List Char := '"' :: s.toList.flatMap escapeChar ++ ['"']

/-! ## Values -/

def newline (depth : Nat) : List Char := '\n' :: List.replicate (2 * depth) ' '

mutual

/-- The text of a value whose own lines are indented by `depth` levels. -/
def Value.render (depth : Nat) : Value → List Char
  | .bool b => (if b then "true" else "false").toList
  | .number n => Nat.toDigits 10 n
  | .string s => quoted s
  | .array [] => ['[', ']']
  | .array (v :: rest) =>
    '[' :: newline (depth + 1) ++ v.render (depth + 1) ++ renderItems (depth + 1) rest
      ++ newline depth ++ [']']
  | .object [] => ['{', '}']
  | .object ((key, v) :: rest) =>
    '{' :: newline (depth + 1) ++ quoted key ++ [':', ' '] ++ v.render (depth + 1)
      ++ renderFields (depth + 1) rest ++ newline depth ++ ['}']

/-- Further items, each behind a comma on a line of its own. -/
def renderItems (depth : Nat) : List Value → List Char
  | [] => []
  | v :: rest => ',' :: newline depth ++ v.render depth ++ renderItems depth rest

/-- Further fields, each behind a comma on a line of its own. -/
def renderFields (depth : Nat) : List (String × Value) → List Char
  | [] => []
  | (key, v) :: rest =>
    ',' :: newline depth ++ quoted key ++ [':', ' '] ++ v.render depth ++ renderFields depth rest

end

/-- The text of a value. -/
def Value.pretty (v : Value) : String := .ofList (v.render 0)

end SourcePatch.Json
