import SourcePatch.Regex.Look
import SourcePatch.Text.Occurrence

/-!
# Patterns and how they match

A pattern is tried at a place in the order of its alternatives, and the first way that succeeds is
the match: the left branch of a choice before the right one, another round of a greedy loop before
leaving it, and the other way round for a lazy loop.

The text is read once, from its end to its start. At each place, every character leaf of the
pattern holds the outcome of what follows the leaf there; the outcome of the whole pattern at the
place before is found from these without looking further. So the work per character is bounded by
the pattern alone.

Choices that can be reached twice at one place carry a number. The second time they fail, because
the first time has settled what follows them.

## Main definitions

* `Pattern.enter`: the outcome at one place, from the leaves' outcomes at the next.
* `Pattern.advance`: the leaves' outcomes at one place, from those at the next.
* `Pattern.outcomes`: the outcome at each place of a text.
-/

namespace SourcePatch.Regex

/-- One end of a group: how many characters were left where the group began or ended. -/
structure Edge where
  opens : Bool
  slot : Nat
  left : Nat
  deriving Repr

/-- A way through a pattern: the characters left where it stops, and the groups it passes. -/
structure Trail where
  left : Nat
  edges : List Edge
  deriving Repr

/-- `none` means that no way succeeds. -/
abbrev Outcome := Option Trail

/-- Passes one end of a group before going on. -/
def Outcome.pass (o : Outcome) (e : Edge) : Outcome :=
  o.map fun t => { t with edges := e :: t.edges }

/-- A pattern whose character leaves hold a value. -/
inductive Pattern (α : Type)
  | empty
  | set (chars : CharSet) (value : α)
  | look (look : Look)
  | group (slot : Nat) (body : Pattern α)
  | seq (first second : Pattern α)
  | alt (number : Option Nat) (left right : Pattern α)
  /-- Any number of rounds, none included. -/
  | star (number : Option Nat) (greedy : Bool) (body : Pattern α)
  /-- One round, then any number of further ones. -/
  | plus (number : Option Nat) (greedy : Bool) (body : Pattern α)

/-- The numbers of the choices that were reached at the current place. -/
abbrev Reached := List Nat

/-- What is left to do at a place, given the choices reached there. -/
abbrev Continuation := Reached → Outcome × Reached

namespace Continuation

def fail : Continuation := fun reached => (none, reached)

/-- Runs `first`, and `second` if it fails. -/
def orElse (first second : Continuation) : Continuation := fun reached =>
  match first reached with
  | (some t, reached) => (some t, reached)
  | (none, reached) => second reached

/-- Runs a choice unless it was reached before. -/
def once (number : Option Nat) (choice : Continuation) : Continuation := fun reached =>
  match number with
  | none => choice reached
  | some n => if reached.contains n then (none, reached) else choice (n :: reached)

def pass (e : Edge) (next : Continuation) : Continuation := fun reached =>
  let (o, reached) := next reached
  (o.pass e, reached)

/-- The outcome at a place where no choice has been reached. -/
def outcome (next : Continuation) : Outcome := (next []).1

/-- Another round of a loop, or leaving it. -/
def round (number : Option Nat) (greedy : Bool) (body next : Continuation) : Continuation :=
  once number (if greedy then body.orElse next else next.orElse body)

end Continuation

namespace Pattern

open Continuation

/-- The outcome of a pattern and of `next` behind it, where the leaves hold the outcomes that follow
them at the next place. A further round of a loop takes a character. -/
def enter (here : Place) : Pattern Outcome → Continuation → Continuation
  | .empty, next => next
  | .set chars value, _ => fun reached =>
    (if here.after.any chars.contains then value else none, reached)
  | .look l, next => if l.holds here then next else fail
  | .group slot body, next =>
    .pass ⟨true, slot, here.left⟩ (body.enter here (next.pass ⟨false, slot, here.left⟩))
  | .seq first second, next => first.enter here (second.enter here next)
  | .alt number left right, next =>
    once number ((left.enter here next).orElse (right.enter here next))
  | .star number greedy body, next => round number greedy (body.enter here fail) next
  | .plus number greedy body, next =>
    body.enter here (round number greedy (body.enter here fail) next)

/-- Gives each leaf the outcome of what follows it at this place. -/
def advance (here : Place) : Pattern Outcome → Continuation → Pattern Outcome
  | .empty, _ => .empty
  | .set chars _, next => .set chars next.outcome
  | .look l, _ => .look l
  | .group slot body, next => .group slot (body.advance here (next.pass ⟨false, slot, here.left⟩))
  | .seq first second, next =>
    .seq (first.advance here (second.enter here next)) (second.advance here next)
  | .alt number left right, next =>
    .alt number (left.advance here next) (right.advance here next)
  | .star number greedy body, next =>
    .star number greedy (body.advance here (round number greedy (body.enter here fail) next))
  | .plus number greedy body, next =>
    .plus number greedy (body.advance here (round number greedy (body.enter here fail) next))

/-- The pattern at the end of a text, where nothing follows any leaf. -/
def atEnd {α : Type} : Pattern α → Pattern Outcome
  | .empty => .empty
  | .set chars _ => .set chars none
  | .look l => .look l
  | .group slot body => .group slot body.atEnd
  | .seq first second => .seq first.atEnd second.atEnd
  | .alt number left right => .alt number left.atEnd right.atEnd
  | .star number greedy body => .star number greedy body.atEnd
  | .plus number greedy body => .plus number greedy body.atEnd

/-- A match ends here. -/
def accept (here : Place) : Continuation := fun reached => (some ⟨here.left, []⟩, reached)

/-- What is known of a text and all places in it. -/
structure Sweep where
  pattern : Pattern Outcome
  left : Nat
  outcomes : List Outcome

/-- Reads a text from its end; `before` stands in front of it. -/
def sweep (p : Pattern Unit) : Option Char → List Char → Sweep
  | before, [] =>
    let here : Place := ⟨before, none, 0⟩
    let leaves := p.atEnd
    ⟨leaves.advance here (accept here), 0, [(leaves.enter here (accept here)).outcome]⟩
  | before, c :: text =>
    let later := p.sweep (some c) text
    let here : Place := ⟨before, some c, later.left + 1⟩
    ⟨later.pattern.advance here (accept here), later.left + 1,
      (later.pattern.enter here (accept here)).outcome :: later.outcomes⟩

/-- The outcome at each place of `text`. -/
def outcomes (p : Pattern Unit) (text : List Char) : List Outcome := (p.sweep none text).outcomes

/-! ## Numbers for the choices -/

/-- Whether the pattern can match without taking a character, looks taken for granted. -/
def nullable {α : Type} : Pattern α → Bool
  | .empty => true
  | .set .. => false
  | .look _ => true
  | .group _ body => body.nullable
  | .seq first second => first.nullable && second.nullable
  | .alt _ left right => left.nullable || right.nullable
  | .star .. => true
  | .plus _ _ body => body.nullable

/-- Whether some choice can be reached twice at one place. -/
def ambiguous {α : Type} : Pattern α → Bool
  | .empty | .set .. | .look _ => false
  | .group _ body => body.ambiguous
  | .seq first second => first.ambiguous || second.ambiguous
  | .alt _ left right =>
    (left.nullable && right.nullable) || left.ambiguous || right.ambiguous
  | .star _ _ body | .plus _ _ body => body.nullable || body.ambiguous

/-- Numbers the choices from `n` on, and the first number that is free afterwards. -/
def numberFrom {α : Type} (n : Nat) : Pattern α → Pattern α × Nat
  | .empty => (.empty, n)
  | .set chars value => (.set chars value, n)
  | .look l => (.look l, n)
  | .group slot body => let (body, n) := body.numberFrom n; (.group slot body, n)
  | .seq first second =>
    let (first, n) := first.numberFrom n
    let (second, n) := second.numberFrom n
    (.seq first second, n)
  | .alt _ left right =>
    let (left, m) := left.numberFrom (n + 1)
    let (right, m) := right.numberFrom m
    (.alt (some n) left right, m)
  | .star _ greedy body =>
    let (body, m) := body.numberFrom (n + 1)
    (.star (some n) greedy body, m)
  | .plus _ greedy body =>
    let (body, m) := body.numberFrom (n + 1)
    (.plus (some n) greedy body, m)

/-- The pattern with its choices numbered where that is needed. -/
def numbered {α : Type} (p : Pattern α) : Pattern α :=
  if p.ambiguous then (p.numberFrom 0).1 else p

end Pattern

end SourcePatch.Regex
