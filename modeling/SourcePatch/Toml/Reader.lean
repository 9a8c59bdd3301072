import SourcePatch.Toml.Scalar
import SourcePatch.Toml.Text

/-!
# Reading documents

A document is a sequence of lines that set a key, open a table or add a table to an array. A line
may end with a comment, and a value in brackets or braces may go over several lines.

## Main definitions

* `Toml.read?`: the entries of a document, in order.
-/

namespace SourcePatch.Toml

/-! ## Blanks, line ends and comments -/

def skipBlankChars (text : List Char) : List Char := text.dropWhile isBlankChar

/-- Drops blanks, line ends and comments. -/
def skipLines? : (inComment : Bool) → List Char → Option (List Char)
  | _, [] => some []
  | _, '\n' :: rest | _, '\r' :: '\n' :: rest => skipLines? false rest
  | true, c :: rest => if isPlain c then skipLines? true rest else none
  | false, '#' :: rest => skipLines? true rest
  | false, c :: rest => if isBlankChar c then skipLines? false rest else some (c :: rest)

/-- Drops what may stand behind a line's content: blanks and a comment, up to the line end. -/
def endLine? (text : List Char) : Option (List Char) :=
  match skipBlankChars text with
  | [] => some []
  | '\n' :: rest | '\r' :: '\n' :: rest => some rest
  | '#' :: rest =>
    match rest.dropWhile isPlain with
    | [] => some []
    | '\n' :: rest | '\r' :: '\n' :: rest => some rest
    | _ => none
  | _ => none

/-! ## Keys -/

def isBareKeyChar (c : Char) : Bool := c.isAlphanum || c == '_' || c == '-'

/-- One part of a key. -/
def keyPart? (text : List Char) : Option (String × List Char) :=
  match text with
  | '"' :: rest => (quotedLine? rest).map fun (s, rest) => (.ofList s, rest)
  | '\'' :: rest => (literalLine? rest).map fun (s, rest) => (.ofList s, rest)
  | _ =>
    let part := text.takeWhile isBareKeyChar
    if part.isEmpty then none else some (.ofList part, text.dropWhile isBareKeyChar)

/-- The most parts that a key may have, and the most brackets around a value. -/
def nestingLimit : Nat := 80

/-- The parts of a key, with dots between them, and the text behind. A key has at most `fuel`
parts. -/
def key? : (fuel : Nat) → List Char → Option (List String × List Char)
  | 0, _ => none
  | fuel + 1, text => do
    let (part, rest) ← keyPart? (skipBlankChars text)
    match skipBlankChars rest with
    | '.' :: rest =>
      let (parts, rest) ← key? fuel rest
      some (part :: parts, rest)
    | rest => some ([part], rest)

/-! ## Values -/

def isWordChar (c : Char) : Bool :=
  c.isAlphanum || c == '_' || c == '+' || c == '-' || c == '.' || c == ':'

/-- The word at the start of a text. A date and a time may have a blank between them. -/
def word (text : List Char) : List Char × List Char :=
  let first := text.takeWhile isWordChar
  match text.dropWhile isWordChar with
  | ' ' :: c :: rest =>
    if isDate first && c.isDigit then
      (first ++ ' ' :: (c :: rest).takeWhile isWordChar, (c :: rest).dropWhile isWordChar)
    else (first, ' ' :: c :: rest)
  | rest => (first, rest)

/-- A function that takes a value from the start of a text. -/
abbrev ValueReader := List Char → Option (Value × List Char)

/-- The items of an array up to its closing bracket. Every step takes a character, so `fuel` need
not exceed the length of the text. -/
def arrayItems? (value? : ValueReader) : (fuel : Nat) → List Char → Option (List Value × List Char)
  | 0, _ => none
  | fuel + 1, text => do
    match ← skipLines? false text with
    | ']' :: rest => some ([], rest)
    | text =>
      let (v, rest) ← value? text
      match ← skipLines? false rest with
      | ',' :: rest => (arrayItems? value? fuel rest).map fun (vs, rest) => (v :: vs, rest)
      | ']' :: rest => some ([v], rest)
      | _ => none

/-- A key, an equals sign and a value. -/
def pair? (value? : ValueReader) (text : List Char) : Option (List String × Value × List Char) := do
  let (key, rest) ← key? nestingLimit text
  match rest with
  | '=' :: rest =>
    let (v, rest) ← value? (skipBlankChars rest)
    some (key, v, rest)
  | _ => none

/-- The entries of a table in braces, added to those in `es`. -/
def braceEntries? (value? : ValueReader) :
    (fuel : Nat) → Entries → List Char → Option (Entries × List Char)
  | 0, _, _ => none
  | fuel + 1, es, text => do
    match ← skipLines? false text with
    | '}' :: rest => some (es, rest)
    | text =>
      let (key, v, rest) ← pair? value? text
      let es ← assign v true es key
      match ← skipLines? false rest with
      | ',' :: rest => braceEntries? value? fuel es rest
      | '}' :: rest => some (es, rest)
      | _ => none

/-- A value with at most `depth` brackets around what is inside. -/
def value? : (depth : Nat) → ValueReader
  | depth, text =>
    match text with
    | '"' :: _ | '\'' :: _ => (string? text).map fun (s, rest) => (.string (.ofList s), rest)
    | '[' :: rest =>
      match depth with
      | 0 => none
      | depth + 1 =>
        (arrayItems? (value? depth) (rest.length + 1) rest).map fun (vs, rest) =>
          (.array false vs, rest)
    | '{' :: rest =>
      match depth with
      | 0 => none
      | depth + 1 =>
        (braceEntries? (value? depth) (rest.length + 1) [] rest).map fun (es, rest) =>
          (.table .braces es, rest)
    | _ => do
      let (w, rest) := word text
      some (← scalar? w, rest)

/-! ## Lines -/

/-- Does something with the last part of a key in the table that the other parts lead to. -/
def atHeader (act : String → Entries → Option Entries) (root : Entries) (key : List String) :
    Option Entries := do
  within (act (← key.getLast?)) root key.dropLast

/-- Reads on line by line, where `header` leads to the table that keys are added to. Every line
takes a character, so `fuel` need not exceed the length of the text. -/
def lines? : (fuel : Nat) → (root : Entries) → (header : List String) → List Char → Option Entries
  | 0, _, _, _ => none
  | fuel + 1, root, header, text => do
    match ← skipLines? false text with
    | [] => some root
    | '[' :: '[' :: rest =>
      let (key, rest) ← key? nestingLimit rest
      let ']' :: ']' :: rest := rest | none
      lines? fuel (← atHeader openElement root key) key (← endLine? rest)
    | '[' :: rest =>
      let (key, rest) ← key? nestingLimit rest
      let ']' :: rest := rest | none
      lines? fuel (← atHeader openTable root key) key (← endLine? rest)
    | text =>
      let (key, v, rest) ← pair? (value? nestingLimit) text
      let root ← within (assign v true · key) root header
      lines? fuel root header (← endLine? rest)

/-- The entries of a document. A byte order mark in front is passed over. -/
def read? (text : List Char) : Option Entries :=
  let text := match text with
    | '\uFEFF' :: rest => rest
    | _ => text
  lines? (text.length + 1) [] [] text

end SourcePatch.Toml
