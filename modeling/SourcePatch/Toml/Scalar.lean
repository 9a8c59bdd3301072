import SourcePatch.Toml.Value

/-!
# Values without quotes

Numbers, truth values, dates and times are written without quotes or brackets.

## Main definitions

* `Toml.scalar?`: the value of a word.
* `Toml.isDate`, `Toml.isTime`: whether a word is a date or a time.
-/

namespace SourcePatch.Toml

/-! ## Numbers -/

/-- Drops the underscores of a number; each must stand between two digits. -/
def joinDigits? (isDigit : Char → Bool) : List Char → Option (List Char)
  | [] => none
  | [c] => if isDigit c then some [c] else none
  | c :: '_' :: d :: rest =>
    if isDigit c && isDigit d then (joinDigits? isDigit (d :: rest)).map (c :: ·) else none
  | c :: d :: rest => if isDigit c then (joinDigits? isDigit (d :: rest)).map (c :: ·) else none

def digitValue (c : Char) : Nat :=
  if c.isDigit then c.toNat - '0'.toNat else c.toLower.toNat - 'a'.toNat + 10

def numeral (base : Nat) (digits : List Char) : Nat :=
  digits.foldl (fun n c => base * n + digitValue c) 0

/-- Decimal digits that do not start with a superfluous zero. -/
def decimal? (word : List Char) : Option (List Char) := do
  let digits ← joinDigits? Char.isDigit word
  guard (digits.length = 1 || digits.head? != some '0')
  some digits

/-- The sign in front of a number, and the number; `true` stands for minus. -/
def splitSign : List Char → Bool × List Char
  | '-' :: rest => (true, rest)
  | '+' :: rest => (false, rest)
  | word => (false, word)

def isBinaryDigit (c : Char) : Bool := c == '0' || c == '1'

def isOctalDigit (c : Char) : Bool := '0' ≤ c && c ≤ '7'

def isHexadecimalDigit (c : Char) : Bool :=
  c.isDigit || ('a' ≤ c && c ≤ 'f') || ('A' ≤ c && c ≤ 'F')

/-- The least number that is too large. -/
def integerLimit : Nat := 1 <<< 63

/-- An integer of 64 bits. Only decimal ones have a sign. -/
def integer? (word : List Char) : Option Value := do
  let unsigned (base : Nat) (isDigit : Char → Bool) (digits : List Char) : Option Value := do
    let n := numeral base (← joinDigits? isDigit digits)
    guard (n < integerLimit)
    some (.integer n)
  match word with
  | '0' :: 'x' :: digits => unsigned 16 isHexadecimalDigit digits
  | '0' :: 'o' :: digits => unsigned 8 isOctalDigit digits
  | '0' :: 'b' :: digits => unsigned 2 isBinaryDigit digits
  | _ =>
    let (negative, word) := splitSign word
    let n := numeral 10 (← decimal? word)
    if negative then
      guard (n ≤ integerLimit)
      some (.integer (-n))
    else
      guard (n < integerLimit)
      some (.integer n)

/-- The exponent of a floating point number, with its sign. -/
def exponent? (word : List Char) : Option Int := do
  let (negative, word) := splitSign word
  let n := numeral 10 (← joinDigits? Char.isDigit word)
  some (if negative then -n else n)

/-- A floating point number. It has a fraction or an exponent, and is not too large. -/
def float? (word : List Char) : Option Value := do
  let (negative, word) := splitSign word
  match String.ofList word with
  | "inf" => some (.float (.infinity negative))
  | "nan" => some (.float .nan)
  | _ =>
    let isMark (c : Char) : Bool := c == 'e' || c == 'E'
    let mantissa := word.takeWhile (!isMark ·)
    let whole := mantissa.takeWhile (· != '.')
    let wholeDigits ← decimal? whole
    let fraction ← match mantissa.dropWhile (· != '.') with
      | [] => some []
      | _ :: fraction => joinDigits? Char.isDigit fraction
    let exponent ← match word.dropWhile (!isMark ·) with
      | [] => some 0
      | _ :: exponent => exponent? exponent
    guard (whole.length < word.length)
    let x ← Binary64.ofDecimal (numeral 10 (wholeDigits ++ fraction)) (exponent - fraction.length)
    some (.float (.finite negative x))

/-! ## Dates and times -/

/-- The value of exactly `n` digits at the start of a word, and the rest. -/
def fixedDigits? (n : Nat) (word : List Char) : Option (Nat × List Char) :=
  let digits := word.take n
  if digits.length = n && digits.all Char.isDigit then some (numeral 10 digits, word.drop n)
  else none

def daysIn (year month : Nat) : Nat :=
  if month = 2 then
    if year % 4 = 0 ∧ (year % 100 ≠ 0 ∨ year % 400 = 0) then 29 else 28
  else if [4, 6, 9, 11].contains month then 30 else 31

/-- Takes a date from a word. -/
def date? (word : List Char) : Option (List Char) := do
  let (year, word) ← fixedDigits? 4 word
  let '-' :: word := word | none
  let (month, word) ← fixedDigits? 2 word
  let '-' :: word := word | none
  let (day, word) ← fixedDigits? 2 word
  guard (1 ≤ month && month ≤ 12 && 1 ≤ day && day ≤ daysIn year month)
  some word

/-- Takes a time of the day from a word. The seconds may be left out, or have a fraction; a minute
may have a leap second. -/
def time? (word : List Char) : Option (List Char) := do
  let (hour, word) ← fixedDigits? 2 word
  let ':' :: word := word | none
  let (minute, word) ← fixedDigits? 2 word
  guard (hour ≤ 23 && minute ≤ 59)
  match word with
  | ':' :: word => do
    let (second, word) ← fixedDigits? 2 word
    guard (second ≤ 60)
    match word with
    | '.' :: word => do
      guard ((word.head?.map Char.isDigit).getD false)
      some (word.dropWhile Char.isDigit)
    | word => some word
  | word => some word

/-- Whether a word is the distance from universal time. -/
def isOffset (word : List Char) : Bool :=
  match word with
  | ['Z'] | ['z'] => true
  | sign :: word =>
    if sign = '+' ∨ sign = '-' then
      match fixedDigits? 2 word with
      | some (hour, ':' :: word) =>
        match fixedDigits? 2 word with
        | some (minute, []) => hour ≤ 23 && minute ≤ 59
        | _ => false
      | _ => false
    else false
  | [] => false

def isTime (word : List Char) : Bool := time? word == some []

/-- Whether a word is a time with or without an offset. -/
def isTimeWithOffset (word : List Char) : Bool :=
  match time? word with
  | some [] => true
  | some offset => isOffset offset
  | none => false

def isDate (word : List Char) : Bool := date? word == some []

/-- Whether a word is a date, a time, or a date and a time. -/
def isDatetime (word : List Char) : Bool :=
  isTime word || match date? word with
    | some [] => true
    | some (c :: time) => (c == 'T' || c == 't' || c == ' ') && isTimeWithOffset time
    | none => false

/-! ## All of them -/

/-- The value of a word. -/
def scalar? (word : List Char) : Option Value :=
  match String.ofList word with
  | "true" => some (.boolean true)
  | "false" => some (.boolean false)
  | _ => integer? word <|> float? word <|> if isDatetime word then some .datetime else none

end SourcePatch.Toml
