import SourcePatch.Regex.Pattern

/-!
# Regular expressions as written

A form still counts its repetitions instead of spelling them out. It is turned into a pattern only
if the pattern stays within a size limit, which is why its size is worked out on the form.

## Main definitions

* `Form.cost`: the bytes that a compiled form takes.
* `Form.toPattern`: the pattern in which counted repetitions are spelled out.
-/

namespace SourcePatch.Regex

inductive Form
  | empty
  | set (chars : CharSet)
  | look (look : Look)
  | group (slot : Nat) (body : Form)
  | seq (first second : Form)
  | alt (left right : Form)
  /-- At least `least` rounds and at most `most`, if there is a bound. -/
  | rep (least : Nat) (most : Option Nat) (greedy : Bool) (body : Form)

namespace Form

/-- Whether the form takes no character in any match. -/
def takesNothing : Form → Bool
  | .empty | .look _ => true
  | .set _ => false
  | .group _ body => body.takesNothing
  | .seq first second => first.takesNothing && second.takesNothing
  | .alt left right => left.takesNothing && right.takesNothing
  | .rep _ most _ body => most == some 0 || body.takesNothing

/-- A repetition; rounds that take nothing are not worth repeating. -/
def repeated (least : Nat) (most : Option Nat) (greedy : Bool) (body : Form) : Form :=
  let (least, most) :=
    if body.takesNothing then (min least 1, some (min (most.getD 1) 1)) else (least, most)
  if most = some 0 then .empty
  else if least = 1 ∧ most = some 1 then body
  else .rep least most greedy body

/-- A choice between several forms, which is a set if all of them are. -/
def anyOf : List Form → Form
  | [] => .empty
  | [form] => form
  | form :: rest =>
    match form, anyOf rest with
    | .set a, .set b => .set (a.union b)
    | left, right => .alt left right

/-- Forms one behind the other; an empty form adds nothing. -/
def allOf : List Form → Form
  | [] => .empty
  | .empty :: rest => allOf rest
  | form :: rest =>
    match allOf rest with
    | .empty => form
    | second => .seq form second

/-! ## Size -/

/-- The number of bytes in the encoding of a code point. -/
def encodedLength (n : Nat) : Nat :=
  if n < 0x80 then 1 else if n < 0x800 then 2 else if n < 0x10000 then 3 else 4

/-- The bytes of a code point's encoding. -/
def encoded (n : Nat) : List Nat :=
  let tail (shift : Nat) := 0x80 + (n >>> shift) % 64
  match encodedLength n with
  | 1 => [n]
  | 2 => [0xC0 + n / 64, tail 0]
  | 3 => [0xE0 + n / 4096, tail 6, tail 0]
  | _ => [0xF0 + n / 262144, tail 12, tail 6, tail 0]

/-- Cuts a range of code points into ranges whose encodings are products of byte ranges. -/
def byteRanges : Nat → Nat → Nat → List (List (Nat × Nat))
  | 0, _, _ => []
  | fuel + 1, lo, hi =>
    if hi < lo then []
    else
      let cut (last : Nat) := byteRanges fuel lo last ++ byteRanges fuel (last + 1) hi
      match [0x7F, 0x7FF, 0xFFFF].find? (fun m => lo ≤ m ∧ m < hi) with
      | some m => cut m
      | none =>
        if hi ≤ 0x7F then [[(lo, hi)]]
        else
          let split := [6, 12, 18].findSome? fun shift =>
            let m := 1 <<< shift - 1
            if lo / (m + 1) = hi / (m + 1) then none
            else if lo % (m + 1) ≠ 0 then some (lo / (m + 1) * (m + 1) + m)
            else if hi % (m + 1) ≠ m then some (hi / (m + 1) * (m + 1) - 1)
            else none
          match split with
          | some m => cut m
          | none => [(encoded lo).zip (encoded hi)]

/-- The byte ranges of a range of characters, which has no surrogates. -/
def charByteRanges (r : Nat × Nat) : List (List (Nat × Nat)) :=
  byteRanges 64 r.1 (min r.2 0xD7FF) ++ byteRanges 64 (max r.1 0xE000) r.2

def commonPrefix : List (Nat × Nat) → List (Nat × Nat) → Nat
  | a :: as, b :: bs => if a = b then commonPrefix as bs + 1 else 0
  | _, _ => 0

/-- The steps that sequences add to the ones before them, with which they share a beginning. -/
def newSteps (before : List (Nat × Nat)) : List (List (Nat × Nat)) → Nat
  | [] => 0
  | s :: rest => s.length - commonPrefix before s + newSteps s rest

/-- The bytes that one step of a compiled form takes. -/
def stepCost : Nat := 32

/-- The bytes that a set takes: one step for a single byte range; otherwise a choice between
encodings, which share their beginnings. -/
def setCost (chars : CharSet) : Nat :=
  match chars.ranges with
  | [] => stepCost
  | [(lo, hi)] =>
    if lo = hi then stepCost * encodedLength lo
    else if hi ≤ 0x7F then stepCost
    else
      let sequences := charByteRanges (lo, hi)
      2 * stepCost + 4 * sequences.length + stepCost * newSteps [] sequences
  | ranges =>
    if chars.isAscii then 2 * stepCost + 8 * ranges.length
    else
      let sequences := ranges.flatMap charByteRanges
      2 * stepCost + 4 * sequences.length + stepCost * newSteps [] sequences

/-- The bytes that a compiled form takes. -/
def cost : Form → Nat
  | .empty => stepCost
  | .set chars => setCost chars
  | .look _ => stepCost
  | .group _ body => 2 * stepCost + body.cost
  | .seq first second => first.cost + second.cost
  | .alt left right =>
    left.cost + right.cost + match right with
      | .alt .. => 4
      | _ => 2 * stepCost + 8
  | .rep least most _ body =>
    match most with
    | none => max least 1 * body.cost + stepCost + 8
    | some most => least * body.cost + (most - least) * (body.cost + stepCost + 8) + stepCost

/-- The most bytes that a compiled form may take. -/
def costLimit : Nat := 10 <<< 20

/-! ## Spelling out -/

/-- A choice between going through `body` and passing it by. -/
def optional (greedy : Bool) (body : Pattern Unit) : Pattern Unit :=
  if greedy then .alt none body .empty else .alt none .empty body

/-- `body` repeated `n` times, with `last` behind it. -/
def times (body last : Pattern Unit) : Nat → Pattern Unit
  | 0 => last
  | n + 1 => .seq body (times body last n)

/-- Up to `n` rounds, each of which may be the last. -/
def upTo (greedy : Bool) (body : Pattern Unit) : Nat → Pattern Unit
  | 0 => .empty
  | 1 => optional greedy body
  | n + 2 => optional greedy (.seq body (upTo greedy body (n + 1)))

/-- Any number of rounds. A round that may take nothing is tried once before the loop is left. -/
def anyNumber (greedy : Bool) (body : Pattern Unit) : Pattern Unit :=
  if body.nullable then optional greedy (.plus none greedy body) else .star none greedy body

def spelledOut : Form → Pattern Unit
  | .empty => .empty
  | .set chars => .set chars ()
  | .look l => .look l
  | .group slot body => .group slot body.spelledOut
  | .seq first second => .seq first.spelledOut second.spelledOut
  | .alt left right => .alt none left.spelledOut right.spelledOut
  | .rep least most greedy body =>
    let body := body.spelledOut
    match least, most with
    | 0, none => anyNumber greedy body
    | n + 1, none => times body (.plus none greedy body) n
    | 0, some most => upTo greedy body most
    | n + 1, some most =>
      if most = n + 1 then times body body n
      else times body (upTo greedy body (most - (n + 1))) (n + 1)

/-- The pattern that a form stands for. -/
def toPattern (form : Form) : Pattern Unit := form.spelledOut.numbered

end Form

end SourcePatch.Regex
