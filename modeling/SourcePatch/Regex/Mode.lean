import SourcePatch.Regex.Form
import SourcePatch.Unicode.CaseFolding
import SourcePatch.Unicode.Property

/-!
# Modes

The modes in force decide what a letter, a dot, an anchor or a class stands for. In the ASCII mode
classes know ASCII characters alone, and what would have to match parts of a character is refused.

## Main definitions

* `Mode`: the modes, which `(?…)` switches.
* `Mode.letter?`, `Mode.dot?`, `Mode.perl?`, `Mode.property?`, `Mode.posix?`: sets of characters.
* `Mode.close?`: a set with case ignored and complemented, as the modes ask.
-/

namespace SourcePatch.Regex

structure Mode where
  ignoreCase : Bool
  multiLine : Bool
  dotMatchesNewline : Bool
  swapGreed : Bool
  unicode : Bool
  crLf : Bool
  ignoreSpace : Bool
  deriving DecidableEq

namespace Mode

def initial : Mode := ⟨false, false, false, false, true, false, false⟩

/-- Switches the mode with a letter on or off, if there is one. -/
def switch? (m : Mode) (letter : Char) (on : Bool) : Option Mode :=
  match letter with
  | 'i' => some { m with ignoreCase := on }
  | 'm' => some { m with multiLine := on }
  | 's' => some { m with dotMatchesNewline := on }
  | 'U' => some { m with swapGreed := on }
  | 'u' => some { m with unicode := on }
  | 'R' => some { m with crLf := on }
  | 'x' => some { m with ignoreSpace := on }
  | _ => none

/-! ## Sets -/

/-- The other case of the ASCII letters in `s`. -/
def foldAsciiCase (s : CharSet) : CharSet :=
  let shift (lo hi : Nat) (move : Nat → Nat) : List (Nat × Nat) :=
    (s.intersection (.range lo hi)).ranges.map fun r => (move r.1, move r.2)
  .ofRanges (s.ranges ++ shift 0x41 0x5A (· + 0x20) ++ shift 0x61 0x7A (· - 0x20))

/-- Brings in the other case of every member, if case is ignored. -/
def fold (m : Mode) (s : CharSet) : CharSet :=
  if m.ignoreCase then if m.unicode then s.foldCase else foldAsciiCase s else s

/-- A set with case ignored and then complemented, as asked; the complement of an ASCII set holds
parts of characters and is refused. -/
def close? (m : Mode) (negated : Bool) (s : CharSet) : Option CharSet :=
  if negated then if m.unicode then some (m.fold s).complement else none else some (m.fold s)

/-- The characters that a literal `c` matches. -/
def letter (m : Mode) (c : Char) : CharSet := m.fold (.singleton c)

def dot? (m : Mode) : Option CharSet :=
  if !m.unicode then none
  else if m.dotMatchesNewline then some .full
  else if m.crLf then some (CharSet.complement (.ofRanges [(0xA, 0xA), (0xD, 0xD)]))
  else some (CharSet.complement (.singleton '\n'))

def asciiDigits : CharSet := .range 0x30 0x39

def asciiSpace : CharSet := .ofRanges [(0x9, 0xD), (0x20, 0x20)]

def asciiWord : CharSet := .ofRanges [(0x30, 0x39), (0x41, 0x5A), (0x5F, 0x5F), (0x61, 0x7A)]

/-- What words are made of. -/
def word (m : Mode) : CharSet := if m.unicode then Unicode.wordChars else asciiWord

/-- The classes of digits, blanks and word characters; a capital letter stands for the
complement. -/
def perl? (m : Mode) (letter : Char) : Option CharSet := do
  let s ← match letter.toLower with
    | 'd' => some (if m.unicode then Unicode.digits else asciiDigits)
    | 's' => some (if m.unicode then CharSet.whiteSpace else asciiSpace)
    | 'w' => some m.word
    | _ => none
  if letter.isUpper then if m.unicode then some s.complement else none else some s

/-- A class by the name of a property, of which `name=value`, `name:value` and `name!=value` ask for
one value. The last form does not negate the class. -/
def property? (m : Mode) (negated : Bool) (name : List Char) : Option CharSet := do
  guard m.unicode
  m.close? negated (← find name)
where
  find (name : List Char) : Option CharSet :=
    match cutAt ['!', '='] name <|> cutAt [':'] name <|> cutAt ['='] name with
    | some (property, value) => Unicode.valued? (.ofList property) (.ofList value)
    | none => Unicode.named? (.ofList name)
  cutAt (mark : List Char) : List Char → Option (List Char × List Char)
    | [] => none
    | c :: rest =>
      if mark.isPrefixOf (c :: rest) then some ([], rest.drop (mark.length - 1))
      else (cutAt mark rest).map fun (a, b) => (c :: a, b)

/-- The classes of ASCII characters by name. -/
def posix? (name : List Char) : Option CharSet :=
  match String.ofList name with
  | "alnum" => some (.ofRanges [(0x30, 0x39), (0x41, 0x5A), (0x61, 0x7A)])
  | "alpha" => some (.ofRanges [(0x41, 0x5A), (0x61, 0x7A)])
  | "ascii" => some (.range 0x0 0x7F)
  | "blank" => some (.ofRanges [(0x9, 0x9), (0x20, 0x20)])
  | "cntrl" => some (.ofRanges [(0x0, 0x1F), (0x7F, 0x7F)])
  | "digit" => some asciiDigits
  | "graph" => some (.range 0x21 0x7E)
  | "lower" => some (.range 0x61 0x7A)
  | "print" => some (.range 0x20 0x7E)
  | "punct" => some (.ofRanges [(0x21, 0x2F), (0x3A, 0x40), (0x5B, 0x60), (0x7B, 0x7E)])
  | "space" => some asciiSpace
  | "upper" => some (.range 0x41 0x5A)
  | "word" => some asciiWord
  | "xdigit" => some (.ofRanges [(0x30, 0x39), (0x41, 0x46), (0x61, 0x66)])
  | _ => none

/-! ## Anchors -/

def lineStart (m : Mode) : Look :=
  if m.multiLine then if m.crLf then .lineStartCrLf else .lineStart else .textStart

def lineEnd (m : Mode) : Look :=
  if m.multiLine then if m.crLf then .lineEndCrLf else .lineEnd else .textEnd

end Mode

end SourcePatch.Regex
