import SourcePatch.Regex.Mode
import SourcePatch.Text.Blank

/-!
# Reading regular expressions

A regular expression is read from left to right. The groups that are open form a stack of levels;
each level holds the branches and the items that are complete, and the modes in force. Any fault,
as well as nesting deeper than `heightLimit`, makes the whole text unreadable.

## Main definitions

* `escape?`: what a backslash stands for.
* `bracket?`: a class in brackets.
* `read?`: the form of a whole text, and its named groups.
-/

namespace SourcePatch.Regex

/-! ## Blanks and comments -/

/-- Drops blanks, and comments from `#` to the end of the line. -/
def skipBlanks : (inComment : Bool) → List Char → List Char
  | _, [] => []
  | true, c :: rest => skipBlanks (c != '\n') rest
  | false, c :: rest =>
    if isWhite c then skipBlanks false rest
    else if c = '#' then skipBlanks true rest
    else c :: rest

/-- Drops blanks and comments where the mode ignores them. -/
def Mode.skip (m : Mode) (text : List Char) : List Char :=
  if m.ignoreSpace then skipBlanks false text else text

/-- The longest run of characters that satisfy `p`, ignored blanks left out, and the rest. -/
def Mode.run (m : Mode) (p : Char → Bool) : (inComment : Bool) → List Char → List Char × List Char
  | _, [] => ([], [])
  | true, c :: rest => m.run p (c != '\n') rest
  | false, c :: rest =>
    if m.ignoreSpace && isWhite c then m.run p false rest
    else if m.ignoreSpace && c == '#' then m.run p true rest
    else if p c then
      let (taken, rest) := m.run p false rest
      (c :: taken, rest)
    else ([], c :: rest)

/-- What stands before the next closing brace, and the text behind the brace. -/
def Mode.braced? (m : Mode) (text : List Char) : Option (List Char × List Char) :=
  match m.run (· != '}') false text with
  | (inside, _ :: rest) => some (inside, rest)
  | (_, []) => none

/-! ## Escapes -/

/-- The smallest parts of a regular expression. -/
inductive Atom
  | letter (c : Char)
  | set (chars : CharSet)
  | look (look : Look)

/-- Takes `n` hexadecimal digits. -/
def hexDigits? (m : Mode) : Nat → List Char → Option (List Char × List Char)
  | 0, text => some ([], text)
  | _ + 1, [] => none
  | n + 1, c :: rest =>
    if isHexDigit c then
      (hexDigits? m n (m.skip rest)).map fun (digits, rest) => (c :: digits, rest)
    else none

/-- A character by its code: `width` digits, or any number of them in braces. In the ASCII mode two
digits are a byte, which has to be an ASCII character. -/
def hex? (m : Mode) (width : Nat) (text : List Char) : Option (Atom × List Char) :=
  match m.skip text with
  | '{' :: rest => do
    let (digits, rest) ← m.braced? rest
    some (.letter (← charOfHex? digits), m.skip rest)
  | text => do
    let (digits, rest) ← hexDigits? m width text
    let c ← charOfHex? digits
    guard (m.unicode || width != 2 || c.toNat < 0x80)
    some (.letter c, rest)

/-- A class by the name of a property, in braces or of one letter. -/
def property? (m : Mode) (negated : Bool) (text : List Char) : Option (Atom × List Char) :=
  match m.skip text with
  | '{' :: rest => do
    let (name, rest) ← m.braced? rest
    some (.set (← m.property? negated name), rest)
  | c :: rest => do
    guard (c != '\\')
    some (.set (← m.property? negated [c]), m.skip rest)
  | [] => none

/-- A word boundary; `start`, `end` and their halves may follow in braces. Braces that begin with
something else belong to a repetition. -/
def boundary? (m : Mode) (text : List Char) : Option (Atom × List Char) :=
  let isNameChar (c : Char) : Bool := c.isAlpha || c == '-'
  match text with
  | '{' :: rest =>
    match m.skip rest with
    | [] => none
    | c :: _ =>
      if isNameChar c then do
        let (name, rest) ← m.braced? rest
        let kind ← match String.ofList name with
          | "start" => some Look.wordStart
          | "end" => some Look.wordEnd
          | "start-half" => some Look.wordStartHalf
          | "end-half" => some Look.wordEndHalf
          | _ => none
        some (.look (kind m.word), rest)
      else some (.look (.wordBoundary m.word), text)
  | _ => some (.look (.wordBoundary m.word), text)

/-- Whether a backslash makes a literal of `c`. -/
def isEscapable (c : Char) : Bool :=
  c.toNat < 0x80 && !c.isAlphanum && c != '<' && c != '>'

/-- What stands behind a backslash. -/
def escape? (m : Mode) : List Char → Option (Atom × List Char)
  | [] => none
  | c :: rest =>
    let letter (c : Char) : Option (Atom × List Char) := some (.letter c, rest)
    let look (l : Look) : Option (Atom × List Char) := some (.look l, rest)
    if isEscapable c then letter c
    else match c with
      | 'x' => hex? m 2 rest
      | 'u' => hex? m 4 rest
      | 'U' => hex? m 8 rest
      | 'p' => property? m false rest
      | 'P' => property? m true rest
      | 'd' | 's' | 'w' | 'D' | 'S' | 'W' => do some (.set (← m.perl? c), rest)
      | 'a' => letter '\x07'
      | 'f' => letter '\x0C'
      | 't' => letter '\t'
      | 'n' => letter '\n'
      | 'r' => letter '\r'
      | 'v' => letter '\x0B'
      | 'A' => look .textStart
      | 'z' => look .textEnd
      | 'b' => boundary? m rest
      | 'B' => look (.noWordBoundary m.word)
      | '<' => look (.wordStart m.word)
      | '>' => look (.wordEnd m.word)
      | _ => none

/-! ## Classes -/

/-- A set with the height of its expression. -/
structure Part where
  chars : CharSet
  height : Nat

inductive SetOperator
  | intersection
  | difference
  | symmetricDifference

def SetOperator.apply : SetOperator → CharSet → CharSet → CharSet
  | intersection => CharSet.intersection
  | difference => CharSet.difference
  | symmetricDifference => CharSet.symmetricDifference

/-- An open bracket: the operand read so far, and an operator with its left operand. -/
structure Bracket where
  negated : Bool
  pending : Option (SetOperator × Part)
  items : List Part

namespace Bracket

def push (b : Bracket) (p : Part) : Bracket := { b with items := p :: b.items }

/-- All that has been read since the last operator. -/
def operand (b : Bracket) : Part :=
  match b.items with
  | [] => ⟨.empty, 0⟩
  | [p] => p
  | ps => ⟨.unions (ps.map (·.chars)), (ps.map (·.height)).foldl max 0 + 1⟩

/-- The operators are applied from the left; all bind alike. -/
def combined (b : Bracket) (m : Mode) : Part :=
  match b.pending with
  | none => b.operand
  | some (op, left) =>
    ⟨op.apply (m.fold left.chars) (m.fold b.operand.chars), max left.height b.operand.height + 1⟩

def operator (b : Bracket) (m : Mode) (op : SetOperator) : Bracket :=
  { b with pending := some (op, b.combined m), items := [] }

def close? (b : Bracket) (m : Mode) : Option Part := do
  let p := b.combined m
  some ⟨← m.close? b.negated p.chars, p.height + 1⟩

end Bracket

/-- The character set of an item that is no range. -/
def Atom.item? (m : Mode) : Atom → Option Part
  | .letter c => do
    guard (m.unicode || c.toNat < 0x80)
    some ⟨.singleton c, 0⟩
  | .set chars => some ⟨chars, 0⟩
  | .look _ => none

/-- One end of a range. -/
def Atom.bound? (m : Mode) : Atom → Option Char
  | .letter c => do
    guard (m.unicode || c.toNat < 0x80)
    some c
  | _ => none

/-- Opens a bracket, behind which `^` complements; hyphens come next, and a closing bracket that is
the very first item stands for itself. -/
def openBracket (m : Mode) (text : List Char) : Bracket × List Char :=
  let (negated, text) := match m.skip text with
    | '^' :: rest => (true, m.skip rest)
    | rest => (false, rest)
  let (hyphens, text) := m.run (· == '-') false text
  let literal (c : Char) : Part := ⟨.singleton c, 0⟩
  match hyphens, text with
  | [], ']' :: rest => (⟨negated, none, [literal ']']⟩, m.skip rest)
  | _, _ => (⟨negated, none, hyphens.map literal⟩, text)

/-- A class such as `[:alpha:]`, behind its opening bracket. -/
def posix? : List Char → Option (Bool × CharSet × List Char)
  | ':' :: text => do
    let (negated, text) := match text with
      | '^' :: rest => (true, rest)
      | _ => (false, text)
    match text.dropWhile (· != ':') with
    | ':' :: ']' :: rest =>
      some (negated, ← Mode.posix? (text.takeWhile (· != ':')), rest)
    | _ => none
  | _ => none

/-- The character that decides whether a hyphen makes a range: the one behind it. Where blanks are
ignored, so is one `#` before that character. -/
def behindHyphen (m : Mode) (text : List Char) : Option Char :=
  if m.ignoreSpace then
    match text.filter (!isWhite ·) with
    | '#' :: c :: _ => some c
    | '#' :: [] | [] => text.head?
    | c :: _ => some c
  else text.head?

def atom? (m : Mode) : List Char → Option (Atom × List Char)
  | [] => none
  | '\\' :: rest => escape? m rest
  | c :: rest => some (.letter c, rest)

/-- An item of a class: a character, a class or a range. -/
def classItem? (m : Mode) (text : List Char) : Option (Part × List Char) := do
  let (first, rest) ← atom? m text
  match m.skip rest with
  | [] => none
  | '-' :: rest =>
    let next := behindHyphen m rest
    if next == some ']' || next == some '-' then some (← first.item? m, '-' :: rest)
    else do
      let (last, rest) ← atom? m (m.skip rest)
      let lo ← first.bound? m
      let hi ← last.bound? m
      guard (lo ≤ hi)
      some (⟨.range lo.toNat hi.toNat, 0⟩, rest)
  | rest => some (← first.item? m, rest)

/-- Reads on in the innermost open bracket `b`; the others are `outer`. Every step takes a
character, so `fuel` need not exceed the length of the text. -/
def bracketItems (m : Mode) :
    (fuel : Nat) → List Bracket → Bracket → List Char → Option (Part × List Char)
  | 0, _, _, _ => none
  | fuel + 1, outer, b, text =>
    match m.skip text with
    | [] => none
    | '[' :: rest =>
      match posix? rest with
      | some (negated, chars, rest) => do
        bracketItems m fuel outer (b.push ⟨← m.close? negated chars, 0⟩) rest
      | none =>
        let (inner, rest) := openBracket m rest
        bracketItems m fuel (b :: outer) inner rest
    | ']' :: rest => do
      let p ← b.close? m
      match outer with
      | [] => some (p, rest)
      | b :: outer => bracketItems m fuel outer (b.push p) rest
    | '&' :: '&' :: rest => bracketItems m fuel outer (b.operator m .intersection) rest
    | '-' :: '-' :: rest => bracketItems m fuel outer (b.operator m .difference) rest
    | '~' :: '~' :: rest => bracketItems m fuel outer (b.operator m .symmetricDifference) rest
    | text => do
      let (p, rest) ← classItem? m text
      bracketItems m fuel outer (b.push p) rest

/-- A class in brackets, behind its opening bracket. -/
def bracket? (m : Mode) (text : List Char) : Option (Part × List Char) :=
  let (b, rest) := openBracket m text
  bracketItems m (text.length + 1) [] b rest

/-! ## Repetitions -/

/-- The largest count of a repetition. -/
def countLimit : Nat := 4294967295

/-- A decimal number with blanks around it. -/
def count? (m : Mode) (text : List Char) : Option Nat × List Char :=
  let (digits, rest) := m.run Char.isDigit false (text.dropWhile isWhite)
  let n := digits.foldl (fun n c => 10 * n + (c.toNat - '0'.toNat)) 0
  (if digits.isEmpty || countLimit < n then none else some n, rest.dropWhile isWhite)

/-- The bounds of a counted repetition, behind its opening brace. -/
def counts? (m : Mode) (text : List Char) : Option (Nat × Option Nat × List Char) := do
  let (first, rest) := count? m (m.skip text)
  let least ← first
  match rest with
  | ',' :: rest =>
    match m.skip rest with
    | '}' :: rest => some (least, none, rest)
    | rest =>
      let (second, rest) := count? m rest
      let most ← second
      guard (least ≤ most)
      match rest with
      | '}' :: rest => some (least, some most, rest)
      | _ => none
  | '}' :: rest => some (least, some least, rest)
  | _ => none

/-! ## Groups -/

/-- A part of the expression with its height. Switches of modes cannot be repeated. -/
structure Item where
  form : Form
  height : Nat
  repeatable : Bool

/-- What has been read between the ends of a group: complete branches, the items of the current
branch, both from last to first, and the modes in force. -/
structure Level where
  mode : Mode
  items : List Item
  branches : List Item

namespace Level

def empty (m : Mode) : Level := ⟨m, [], []⟩

def push (l : Level) (i : Item) : Level := { l with items := i :: l.items }

/-- The current branch as one item. -/
def branch (l : Level) : Item :=
  match l.items with
  | [] => ⟨.empty, 0, false⟩
  | [i] => i
  | items => ⟨.allOf (items.reverse.map (·.form)), (items.map (·.height)).foldl max 0 + 1, true⟩

def nextBranch (l : Level) : Level := { l with items := [], branches := l.branch :: l.branches }

/-- All branches as one item. -/
def whole (l : Level) : Item :=
  match l.branches with
  | [] => l.branch
  | branches =>
    let all := l.branch :: branches
    ⟨.anyOf (all.reverse.map (·.form)), (all.map (·.height)).foldl max 0 + 1, true⟩

/-- Repeats the last item. -/
def repeatLast? (l : Level) (least : Nat) (most : Option Nat) (lazy : Bool) : Option Level :=
  match l.items with
  | i :: items =>
    if i.repeatable then
      let form := Form.repeated least most (lazy == l.mode.swapGreed) i.form
      some { l with items := ⟨form, i.height + 1, true⟩ :: items }
    else none
  | [] => none

end Level

/-- The state of reading: the innermost level, and those around it with the slots of the groups in
between. -/
structure Reading where
  level : Level
  outer : List (Level × Option Nat)
  groups : Nat
  names : List (String × Nat)

namespace Reading

def start : Reading := ⟨.empty .initial, [], 0, []⟩

def push (r : Reading) (form : Form) (height : Nat) : Reading :=
  { r with level := r.level.push ⟨form, height, true⟩ }

/-- Opens a group without a slot, in mode `m`. -/
def openPlain (r : Reading) (m : Mode) : Reading :=
  { r with level := .empty m, outer := (r.level, none) :: r.outer }

/-- Opens a group with the next free slot. -/
def openSlot (r : Reading) : Reading :=
  { r with
    level := .empty r.level.mode
    outer := (r.level, some (r.groups + 1)) :: r.outer
    groups := r.groups + 1 }

/-- Closes the innermost group, and with it the modes that were switched inside. -/
def close? (r : Reading) : Option Reading :=
  match r.outer with
  | [] => none
  | (level, slot) :: outer =>
    let i := r.level.whole
    let form := match slot with
      | some n => .group n i.form
      | none => i.form
    some { r with level := level.push ⟨form, i.height + 1, true⟩, outer }

end Reading

/-- A group's name, behind `<`, and the text behind `>`. -/
def groupName? (text : List Char) : Option (String × List Char) :=
  let name := text.takeWhile (· != '>')
  let isStart (c : Char) : Bool := c == '_' || Unicode.alphabetic.contains c
  let isInner (c : Char) : Bool :=
    isStart c || c == '.' || c == '[' || c == ']' || Unicode.numeric.contains c
  match name, text.dropWhile (· != '>') with
  | first :: more, _ :: rest =>
    if isStart first && more.all isInner then some (.ofList name, rest) else none
  | _, _ => none

/-- Reads switches of modes up to a colon or a closing parenthesis; the result also says which. Each
letter may come once, and so may the hyphen, which must not be last. -/
def modes? (on : Bool) (letters : List Char) (hyphenLast : Bool) :
    Mode → List Char → Option (Mode × Bool × List Char)
  | _, [] => none
  | m, ':' :: rest => if hyphenLast then none else some (m, true, rest)
  | m, ')' :: rest => if hyphenLast || (on && letters.isEmpty) then none else some (m, false, rest)
  | m, '-' :: rest => if on then modes? false letters true m rest else none
  | m, c :: rest => do
    guard (!letters.contains c)
    modes? on (c :: letters) false (← m.switch? c on) rest

/-- Opens a group or switches modes, behind the opening parenthesis. -/
def group? (r : Reading) (text : List Char) : Option (Reading × List Char) :=
  match r.level.mode.skip text with
  | '?' :: '=' :: _ | '?' :: '!' :: _ | '?' :: '<' :: '=' :: _ | '?' :: '<' :: '!' :: _ => none
  | '?' :: 'P' :: '<' :: rest | '?' :: '<' :: rest => do
    let (name, rest) ← groupName? rest
    guard (!r.names.any (·.1 == name))
    some ({ r.openSlot with names := (name, r.groups + 1) :: r.names }, rest)
  | '?' :: rest => do
    let (m, opens, rest) ← modes? true [] false r.level.mode rest
    if opens then some (r.openPlain m, rest)
    else
      let level := r.level.push ⟨.empty, 0, false⟩
      some ({ r with level := { level with mode := m } }, rest)
  | rest => some (r.openSlot, rest)

/-! ## The whole expression -/

/-- Reads what `c` begins. -/
def step? (r : Reading) (c : Char) (rest : List Char) : Option (Reading × List Char) :=
  let m := r.level.mode
  let repeated (least : Nat) (most : Option Nat) (rest : List Char) :
      Option (Reading × List Char) :=
    match rest with
    | '?' :: rest => do some ({ r with level := ← r.level.repeatLast? least most true }, rest)
    | rest => do some ({ r with level := ← r.level.repeatLast? least most false }, rest)
  match c with
  | '(' => group? r rest
  | ')' => do some (← r.close?, rest)
  | '|' => some ({ r with level := r.level.nextBranch }, rest)
  | '[' => do
    let (p, rest) ← bracket? m rest
    some (r.push (.set p.chars) p.height, rest)
  | '?' => repeated 0 (some 1) rest
  | '*' => repeated 0 none rest
  | '+' => repeated 1 none rest
  | '{' => do
    let (least, most, rest) ← counts? m rest
    repeated least most (m.skip rest)
  | '.' => do some (r.push (.set (← m.dot?)) 0, rest)
  | '^' => some (r.push (.look m.lineStart) 0, rest)
  | '$' => some (r.push (.look m.lineEnd) 0, rest)
  | c => do
    let (atom, rest) ← atom? m (c :: rest)
    let form := match atom with
      | .letter c => .set (m.letter c)
      | .set chars => .set chars
      | .look l => .look l
    some (r.push form 0, rest)

/-- Reads on to the end of the text. Every step takes a character, so `fuel` need not exceed the
length of the text. -/
def readOn : (fuel : Nat) → Reading → List Char → Option Reading
  | 0, _, _ => none
  | fuel + 1, r, text =>
    match r.level.mode.skip text with
    | [] => some r
    | c :: rest => do
      let (r, rest) ← step? r c rest
      readOn fuel r rest

/-- How deep an expression may be nested. -/
def heightLimit : Nat := 250

/-- The form of a regular expression, and the slots of its named groups. -/
def read? (text : List Char) : Option (Form × List (String × Nat)) := do
  let r ← readOn (text.length + 1) .start text
  guard r.outer.isEmpty
  guard (r.level.whole.height ≤ heightLimit)
  some (r.level.whole.form, r.names)

end SourcePatch.Regex
