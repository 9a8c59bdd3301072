import Mathlib.Data.List.Infix
import SourcePatch.Regex.Basic

/-!
# Ways through a pattern

A way through a pattern takes some characters from the front of a text and leaves the rest. The ways
have an order: those of the left branch of a choice come before those of the right one, and a greedy
loop goes on before it stops. A match is the first way.

This is said here without places, outcomes and leaves, for patterns without looks and groups in
which no choice can be reached twice. For these, the sweep from the end of a text finds the first
way at every place.

## Main definitions

* `Pattern.ways`: what the ways through a pattern leave of a text, the first way first.
* `Pattern.first`: the outcome of the first way from which it goes on.

## Main statements

* `Pattern.enter_leaves`: the outcome at a place is that of the first way.
* `Pattern.outcomes_eq`: so are the outcomes at all places of a text.
-/

namespace SourcePatch.Regex

/-! ## Ways -/

/-- What is left of `text` after any number of rounds, each of which takes something. -/
def rounds (greedy : Bool) (step : List Char → List (List Char)) (text : List Char) :
    List (List Char) :=
  let more := (step text).flatMap fun rest =>
    if rest.length < text.length then rounds greedy step rest else []
  if greedy then more ++ [text] else text :: more
termination_by text.length

namespace Pattern

/-- Whether there are no looks, groups and numbered choices. -/
def isPlain {α : Type} : Pattern α → Bool
  | .empty | .set .. => true
  | .look _ | .group .. => false
  | .seq first second => first.isPlain && second.isPlain
  | .alt number left right => number.isNone && left.isPlain && right.isPlain
  | .star number _ body | .plus number _ body => number.isNone && body.isPlain

/-- What the ways through a plain pattern leave of a text. -/
def ways : Pattern Unit → List Char → List (List Char)
  | .empty, text => [text]
  | .set _ _, [] => []
  | .set chars _, c :: text => if chars.contains c then [text] else []
  | .look _, _ | .group .., _ => []
  | .seq first second, text => (first.ways text).flatMap second.ways
  | .alt _ left right, text => left.ways text ++ right.ways text
  | .star _ greedy body, text => rounds greedy body.ways text
  | .plus _ greedy body, text => (body.ways text).flatMap (rounds greedy body.ways)

/-- The outcome of the first way that `next` can go on from. -/
def first (p : Pattern Unit) (next : List Char → Outcome) (text : List Char) : Outcome :=
  (p.ways text).findSome? next

end Pattern

theorem isSuffix_of_mem_rounds {greedy : Bool} {step : List Char → List (List Char)}
    (h : ∀ text, ∀ rest ∈ step text, rest <:+ text) {text rest : List Char}
    (hrest : rest ∈ rounds greedy step text) : rest <:+ text := by
  induction hn : text.length using Nat.strongRecOn generalizing text with
  | _ n ih =>
    subst hn
    have hcases : rest = text ∨ rest ∈ (step text).flatMap fun rest =>
        if rest.length < text.length then rounds greedy step rest else [] := by
      rw [rounds] at hrest
      cases greedy <;> simp_all [or_comm]
    obtain rfl | hmore := hcases
    · exact List.suffix_refl _
    · obtain ⟨mid, hmid, hin⟩ := List.mem_flatMap.1 hmore
      split at hin
      · next hlt => exact (ih _ hlt hin rfl).trans (h text mid hmid)
      · cases hin

theorem findSome?_flatMap {α β γ : Type} (f : α → List β) (g : β → Option γ) (l : List α) :
    (l.flatMap f).findSome? g = l.findSome? fun a => (f a).findSome? g := by
  induction l with
  | nil => rfl
  | cons a l ih =>
    rw [List.flatMap_cons, List.findSome?_append, ih, List.findSome?_cons]
    cases (f a).findSome? g <;> rfl

theorem findSome?_congr {α β : Type} {f g : α → Option β} {l : List α} (h : ∀ a ∈ l, f a = g a) :
    l.findSome? f = l.findSome? g := by
  induction l with
  | nil => rfl
  | cons a l ih =>
    rw [List.findSome?_cons, List.findSome?_cons, h a (by simp), ih fun b hb => h b (by simp [hb])]

namespace Pattern

variable {p : Pattern Unit} {next : List Char → Outcome} {text rest : List Char}

theorem isSuffix_of_mem_ways (h : rest ∈ p.ways text) : rest <:+ text := by
  induction p generalizing text rest with
  | empty => simp_all [ways]
  | set chars value =>
    cases text with
    | nil => cases h
    | cons c text =>
      rw [ways] at h
      split at h
      · rw [List.mem_singleton.1 h]
        exact List.suffix_cons c text
      · cases h
  | look l => cases h
  | group slot body => cases h
  | seq first second ih ih' =>
    obtain ⟨mid, hmid, hrest⟩ := List.mem_flatMap.1 h
    exact (ih' hrest).trans (ih hmid)
  | alt number left right ih ih' => exact (List.mem_append.1 h).elim ih ih'
  | star number greedy body ih => exact isSuffix_of_mem_rounds (fun _ _ => ih) h
  | plus number greedy body ih =>
    obtain ⟨mid, hmid, hrest⟩ := List.mem_flatMap.1 h
    exact (isSuffix_of_mem_rounds (fun _ _ => ih) hrest).trans (ih hmid)

end Pattern

/-! ## One place of a text -/

namespace Continuation

/-- Goes on with a fixed outcome, whichever choices were reached. -/
def give (o : Outcome) : Continuation := fun reached => (o, reached)

theorem orElse_give (o o' : Outcome) : (give o).orElse (give o') = give (o.or o') := by
  funext reached
  cases o <;> rfl

theorem round_give (greedy : Bool) (more stop : Outcome) :
    round none greedy (give more) (give stop) =
      give (if greedy then more.or stop else stop.or more) := by
  cases greedy with
  | true => exact orElse_give more stop
  | false => exact orElse_give stop more

end Continuation

namespace Pattern

open Continuation

variable {text rest : List Char}

/-- The pattern in which every leaf holds what `value` makes of what follows it. -/
def leaves (value : (List Char → Outcome) → Outcome) :
    Pattern Unit → (List Char → Outcome) → Pattern Outcome
  | .empty, _ => .empty
  | .set chars _, next => .set chars (value next)
  | .look l, _ => .look l
  | .group slot body, next => .group slot (body.leaves value next)
  | .seq a b, next => .seq (a.leaves value (b.first next)) (b.leaves value next)
  | .alt number left right, next => .alt number (left.leaves value next) (right.leaves value next)
  | .star number greedy body, next =>
    .star number greedy (body.leaves value fun t => (rounds greedy body.ways t).findSome? next)
  | .plus number greedy body, next =>
    .plus number greedy (body.leaves value fun t => (rounds greedy body.ways t).findSome? next)

/-- What follows at the place behind the first character, if there is one. -/
def behind (text : List Char) (next : List Char → Outcome) : Outcome :=
  match text with
  | [] => none
  | _ :: rest => next rest

/-- Goes on with `next` if something was taken from `text`, and with `o` if not. -/
def unlessAt (text : List Char) (o : Outcome) (next : List Char → Outcome) (rest : List Char) :
    Outcome :=
  if rest.length < text.length then next rest else o

theorem findSome?_unlessAt {l : List (List Char)} (hlt : rest.length < text.length)
    (hl : ∀ t ∈ l, t <:+ rest) (o : Outcome) (next : List Char → Outcome) :
    l.findSome? (unlessAt text o next) = l.findSome? next :=
  findSome?_congr fun t ht => if_pos (Nat.lt_of_le_of_lt (hl t ht).length_le hlt)

/-- Where a text is entered and nothing was taken from it, one is at its front. -/
theorem unlessAt_self {l : List (List Char)} (hl : ∀ t ∈ l, t <:+ text)
    (next : List Char → Outcome) :
    l.findSome? (unlessAt text (next text) next) = l.findSome? next :=
  findSome?_congr fun t ht => by
    rw [unlessAt]
    split
    · rfl
    · next hle => rw [(hl t ht).eq_of_length_le (by omega)]

theorem findSome?_rounds (greedy : Bool) (step : List Char → List (List Char))
    (text : List Char) (f : List Char → Outcome) :
    (rounds greedy step text).findSome? f =
      let more := (step text).findSome?
        (unlessAt text none fun rest => (rounds greedy step rest).findSome? f)
      if greedy then more.or (f text) else (f text).or more := by
  have hmore : ((step text).flatMap fun rest =>
      if rest.length < text.length then rounds greedy step rest else []).findSome? f =
      (step text).findSome? (unlessAt text none fun rest =>
        (rounds greedy step rest).findSome? f) := by
    rw [findSome?_flatMap]
    refine findSome?_congr fun rest _ => ?_
    rw [unlessAt]
    split <;> rfl
  rw [rounds]
  cases greedy with
  | true => simp [List.findSome?_append, hmore]
  | false => cases h : f text <;> simp [hmore, h]

variable {p : Pattern Unit} {next : List Char → Outcome} {here : Place}

/-- One part behind another: where the first takes nothing, the second is entered at the front. -/
theorem findSome?_unlessAt_behind {l : List (List Char)} {f : List Char → List (List Char)}
    (hl : ∀ t ∈ l, t <:+ text) (hf : ∀ t, ∀ t' ∈ f t, t' <:+ t) (o : Outcome)
    (next : List Char → Outcome) :
    l.findSome? (unlessAt text ((f text).findSome? (unlessAt text o next))
        fun t => (f t).findSome? next) =
      l.findSome? fun t => (f t).findSome? (unlessAt text o next) := by
  refine findSome?_congr fun t ht => ?_
  rw [unlessAt]
  split
  · next hlt => exact (findSome?_unlessAt hlt (hf t) o next).symm
  · next hle => rw [(hl t ht).eq_of_length_le (by omega)]

/-- A loop at a place, where its body comes to the outcomes of its own ways. -/
theorem round_enter {greedy : Bool} {body : Pattern Unit} {inner : Pattern Outcome}
    (h : inner.enter here fail = give ((body.ways text).findSome?
      (unlessAt text none fun t => (rounds greedy body.ways t).findSome? next))) (o : Outcome) :
    round none greedy (inner.enter here fail) (give o) =
      give ((rounds greedy body.ways text).findSome? (unlessAt text o next)) := by
  have hsame : (unlessAt text none fun t =>
      (rounds greedy body.ways t).findSome? (unlessAt text o next)) =
      unlessAt text none fun t => (rounds greedy body.ways t).findSome? next := by
    funext t
    rw [unlessAt, unlessAt]
    split
    · next hlt =>
      exact findSome?_unlessAt hlt
        (fun t' => isSuffix_of_mem_rounds fun _ _ => isSuffix_of_mem_ways) o next
    · rfl
  have hstop : unlessAt text o next text = o := if_neg (Nat.lt_irrefl _)
  rw [h, round_give, findSome?_rounds, hsame, hstop]

/-- A pattern that is entered at a place comes to the outcome of its first way. Where that takes
nothing, it goes on with `o`. -/
theorem enter_leaves (hp : p.isPlain = true) (hafter : here.after = text.head?) (o : Outcome) :
    (p.leaves (behind text) next).enter here (give o) =
      give ((p.ways text).findSome? (unlessAt text o next)) := by
  induction p generalizing next o with
  | empty => simp [leaves, enter, ways, unlessAt]
  | set chars value =>
    funext reached
    cases text with
    | nil => simp [leaves, enter, ways, give, hafter]
    | cons c text =>
      simp only [leaves, enter, ways, give, hafter, behind, List.head?_cons, Option.any_some]
      split <;> simp [unlessAt]
  | look l => cases hp
  | group slot body => cases hp
  | seq a b ih ih' =>
    simp only [isPlain, Bool.and_eq_true] at hp
    rw [leaves, enter, ih' hp.2, ih hp.1, ways, findSome?_flatMap]
    exact congrArg give (findSome?_unlessAt_behind (fun _ => isSuffix_of_mem_ways)
      (fun _ _ => isSuffix_of_mem_ways) o next)
  | alt number left right ih ih' =>
    simp only [isPlain, Bool.and_eq_true, Option.isNone_iff_eq_none] at hp
    obtain ⟨⟨rfl, hl⟩, hr⟩ := hp
    rw [leaves, enter, ih hl, ih' hr, orElse_give, ways, List.findSome?_append]
    rfl
  | star number greedy body ih =>
    simp only [isPlain, Bool.and_eq_true, Option.isNone_iff_eq_none] at hp
    obtain ⟨rfl, hbody⟩ := hp
    exact round_enter (ih hbody none) o
  | plus number greedy body ih =>
    simp only [isPlain, Bool.and_eq_true, Option.isNone_iff_eq_none] at hp
    obtain ⟨rfl, hbody⟩ := hp
    rw [leaves, enter, round_enter (ih hbody none), ih hbody, ways, findSome?_flatMap]
    exact congrArg give (findSome?_unlessAt_behind (fun _ => isSuffix_of_mem_ways)
      (fun _ _ => isSuffix_of_mem_rounds fun _ _ => isSuffix_of_mem_ways) o next)

theorem enter_leaves_self (hp : p.isPlain = true) (next : List Char → Outcome)
    (hafter : here.after = text.head?) :
    (p.leaves (behind text) next).enter here (give (next text)) = give (p.first next text) := by
  rw [enter_leaves hp hafter, unlessAt_self fun _ => isSuffix_of_mem_ways, first]

/-- Going on by one place, every leaf comes to hold what follows it there. -/
theorem advance_leaves (hp : p.isPlain = true) (next : List Char → Outcome)
    (hafter : here.after = text.head?) :
    (p.leaves (behind text) next).advance here (give (next text)) =
      p.leaves (fun k => k text) next := by
  induction p generalizing next with
  | empty => rfl
  | set chars value => rfl
  | look l => cases hp
  | group slot body => cases hp
  | seq a b ih ih' =>
    simp only [isPlain, Bool.and_eq_true] at hp
    rw [leaves, advance, enter_leaves_self hp.2 next hafter, ih hp.1, ih' hp.2, leaves]
  | alt number left right ih ih' =>
    simp only [isPlain, Bool.and_eq_true] at hp
    rw [leaves, advance, ih hp.1.2, ih' hp.2, leaves]
  | star number greedy body ih =>
    have hstar := enter_leaves_self (p := .star number greedy body) hp next hafter
    simp only [isPlain, Bool.and_eq_true] at hp
    rw [leaves, enter] at hstar
    rw [leaves, advance, hstar, leaves]
    exact congrArg (Pattern.star number greedy) (ih hp.2 _)
  | plus number greedy body ih =>
    have hstar := enter_leaves_self (p := .star number greedy body) hp next hafter
    simp only [isPlain, Bool.and_eq_true] at hp
    rw [leaves, enter] at hstar
    rw [leaves, advance, hstar, leaves]
    exact congrArg (Pattern.plus number greedy) (ih hp.2 _)

/-! ## All places of a text -/

theorem atEnd_eq_leaves (p : Pattern Unit) (next : List Char → Outcome) :
    p.atEnd = p.leaves (behind []) next := by
  induction p generalizing next with
  | empty => rfl
  | set chars value => rfl
  | look l => rfl
  | group slot body ih => rw [atEnd, leaves, ih]
  | seq a b ih ih' => rw [atEnd, leaves, ih, ih']
  | alt number left right ih ih' => rw [atEnd, leaves, ih, ih']
  | star number greedy body ih => rw [atEnd, leaves, ih]
  | plus number greedy body ih => rw [atEnd, leaves, ih]

/-- A match ends where the pattern is passed. -/
def stop (text : List Char) : Outcome := some ⟨text.length, []⟩

/-- A sweep over a text finds the first way at every place. -/
theorem sweep_eq (hp : p.isPlain = true) (before : Option Char) (text : List Char) :
    p.sweep before text =
      ⟨p.leaves (fun k => k text) stop, text.length, text.tails.map (p.first stop)⟩ := by
  induction text generalizing before with
  | nil =>
    have haccept : accept ⟨before, none, 0⟩ = give (stop []) := rfl
    rw [sweep, atEnd_eq_leaves p stop, haccept, enter_leaves_self hp stop rfl,
      advance_leaves hp stop rfl]
    rfl
  | cons c text ih =>
    have haccept : accept ⟨before, some c, text.length + 1⟩ = give (stop (c :: text)) := rfl
    have hafter : (⟨before, some c, text.length + 1⟩ : Place).after = (c :: text).head? := rfl
    have henter := enter_leaves_self hp stop hafter
    have hadvance := advance_leaves hp stop hafter
    rw [sweep, ih (some c)]
    dsimp only
    rw [haccept]
    change Sweep.mk (advance _ (p.leaves (behind (c :: text)) stop) _) _
      (outcome (enter _ (p.leaves (behind (c :: text)) stop) _) :: _) = _
    rw [henter, hadvance]
    rfl

/-- The outcomes at the places of a text are those of the first ways. -/
theorem outcomes_eq (hp : p.isPlain = true) (text : List Char) :
    p.outcomes text = text.tails.map (p.first stop) := by
  rw [outcomes, sweep_eq hp]

end Pattern

end SourcePatch.Regex
