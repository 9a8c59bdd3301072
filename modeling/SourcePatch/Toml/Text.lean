import SourcePatch.Text.Hex

/-!
# Strings in documents

A string is written in quotes or in apostrophes, single for one line or three of them for several.
Between quotes a backslash begins an escape; between apostrophes every character stands for itself.
-/

namespace SourcePatch.Toml

/-- Whether a character may stand in a string or a comment: a tab may, other control characters may
not. -/
def isPlain (c : Char) : Bool := c == '\t' || (0x20 ≤ c.toNat && c.toNat != 0x7F)

def isBlankChar (c : Char) : Bool := c == ' ' || c == '\t'

/-- What a letter behind a backslash stands for. -/
def escaped? : Char → Option Char
  | 'b' => some '\x08'
  | 't' => some '\t'
  | 'n' => some '\n'
  | 'f' => some '\x0C'
  | 'r' => some '\r'
  | 'e' => some '\x1B'
  | '"' => some '"'
  | '\\' => some '\\'
  | _ => none

/-- A line of a string and the text behind the closing quote. -/
def quotedLine? : List Char → Option (List Char × List Char)
  | [] => none
  | '"' :: rest => some ([], rest)
  | '\\' :: 'x' :: a :: b :: rest => do
    let c ← charOfHex? [a, b]
    (quotedLine? rest).map fun (s, rest) => (c :: s, rest)
  | '\\' :: 'u' :: a :: b :: c :: d :: rest => do
    let c ← charOfHex? [a, b, c, d]
    (quotedLine? rest).map fun (s, rest) => (c :: s, rest)
  | '\\' :: 'U' :: a :: b :: c :: d :: e :: f :: g :: h :: rest => do
    let c ← charOfHex? [a, b, c, d, e, f, g, h]
    (quotedLine? rest).map fun (s, rest) => (c :: s, rest)
  | '\\' :: c :: rest => do
    let c ← escaped? c
    (quotedLine? rest).map fun (s, rest) => (c :: s, rest)
  | c :: rest =>
    if c != '\\' && isPlain c then (quotedLine? rest).map fun (s, rest) => (c :: s, rest) else none

/-- A line in apostrophes and the text behind the closing one. -/
def literalLine? : List Char → Option (List Char × List Char)
  | [] => none
  | '\'' :: rest => some ([], rest)
  | c :: rest => if isPlain c then (literalLine? rest).map fun (s, rest) => (c :: s, rest) else none

/-- Whether a text goes on, after blanks, with the end of a line. -/
def endsLineAfterBlanks (text : List Char) : Bool :=
  match text.dropWhile isBlankChar with
  | '\n' :: _ | '\r' :: '\n' :: _ => true
  | _ => false

/-- Several lines in quotes; up to two quotes may stand right before the closing ones. Behind a
backslash at the end of a line, `joining` blanks and line ends are passed over. -/
def quotedLines? : (joining : Bool) → List Char → Option (List Char × List Char)
  | _, [] => none
  | true, ' ' :: rest | true, '\t' :: rest | true, '\n' :: rest | true, '\r' :: '\n' :: rest =>
    quotedLines? true rest
  | _, '"' :: '"' :: '"' :: rest =>
    match rest with
    | '"' :: '"' :: rest => some (['"', '"'], rest)
    | '"' :: rest => some (['"'], rest)
    | rest => some ([], rest)
  | _, '\r' :: '\n' :: rest =>
    (quotedLines? false rest).map fun (s, rest) => ('\r' :: '\n' :: s, rest)
  | _, '\n' :: rest => (quotedLines? false rest).map fun (s, rest) => ('\n' :: s, rest)
  | _, '\\' :: 'x' :: a :: b :: rest => do
    let c ← charOfHex? [a, b]
    (quotedLines? false rest).map fun (s, rest) => (c :: s, rest)
  | _, '\\' :: 'u' :: a :: b :: c :: d :: rest => do
    let c ← charOfHex? [a, b, c, d]
    (quotedLines? false rest).map fun (s, rest) => (c :: s, rest)
  | _, '\\' :: 'U' :: a :: b :: c :: d :: e :: f :: g :: h :: rest => do
    let c ← charOfHex? [a, b, c, d, e, f, g, h]
    (quotedLines? false rest).map fun (s, rest) => (c :: s, rest)
  | _, '\\' :: c :: rest =>
    if endsLineAfterBlanks (c :: rest) then quotedLines? true (c :: rest)
    else do
      let c ← escaped? c
      (quotedLines? false rest).map fun (s, rest) => (c :: s, rest)
  | _, c :: rest =>
    if c != '\\' && isPlain c then (quotedLines? false rest).map fun (s, rest) => (c :: s, rest)
    else none

/-- Several lines in apostrophes, of which up to two may stand right before the closing ones. -/
def literalLines? : List Char → Option (List Char × List Char)
  | [] => none
  | '\'' :: '\'' :: '\'' :: rest =>
    match rest with
    | '\'' :: '\'' :: rest => some (['\'', '\''], rest)
    | '\'' :: rest => some (['\''], rest)
    | rest => some ([], rest)
  | '\r' :: '\n' :: rest => (literalLines? rest).map fun (s, rest) => ('\r' :: '\n' :: s, rest)
  | '\n' :: rest => (literalLines? rest).map fun (s, rest) => ('\n' :: s, rest)
  | c :: rest =>
    if isPlain c then (literalLines? rest).map fun (s, rest) => (c :: s, rest) else none

/-- Drops a line end that stands right behind opening quotes. -/
def dropLineEnd : List Char → List Char
  | '\r' :: '\n' :: rest | '\n' :: rest => rest
  | text => text

/-- A string of any kind, if the text begins with one. -/
def string? : List Char → Option (List Char × List Char)
  | '"' :: '"' :: '"' :: rest => quotedLines? false (dropLineEnd rest)
  | '"' :: rest => quotedLine? rest
  | '\'' :: '\'' :: '\'' :: rest => literalLines? (dropLineEnd rest)
  | '\'' :: rest => literalLine? rest
  | _ => none

end SourcePatch.Toml
