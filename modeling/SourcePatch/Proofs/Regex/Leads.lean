import Mathlib.Data.List.Range
import Mathlib.Logic.Relation
import SourcePatch.Regex.Form

/-!
# What an expression stands for

An expression relates two spots of a text: it leads from the one to the other. This says nothing of
the order in which its ways are tried, nor of how a search goes about it.

## Main definitions

* `Spot`: a spot in a text, with the character before it and the text behind.
* `Pattern.Leads`, `Form.Leads`: a pattern or a form leads from one spot to another.
* `Form.MatchesIn`: a form leads from some spot of a text to another.

## Main statements

* `Pattern.leads_numbered`: the numbers of choices play no part.
* `Form.leads_spelledOut`: spelling repetitions out changes nothing.
-/

namespace SourcePatch.Regex

/-- A spot in a text: the character before it, if there is one, and the text behind. -/
structure Spot where
  before : Option Char
  rest : List Char

def Spot.place (s : Spot) : Place := ⟨s.before, s.rest.head?, s.rest.length⟩

/-- Goes `n` times by `R`. -/
def Rounds (R : Spot → Spot → Prop) : Nat → Spot → Spot → Prop
  | 0, s, t => t = s
  | n + 1, s, t => ∃ u, R s u ∧ Rounds R n u t

variable {R : Spot → Spot → Prop} {s t : Spot}

theorem rounds_add {m n : Nat} :
    Rounds R (m + n) s t ↔ ∃ u, Rounds R m s u ∧ Rounds R n u t := by
  induction m generalizing s with
  | zero => simp [Rounds]
  | succ m ih =>
    simp only [Nat.succ_add, Rounds, ih]
    grind

theorem rounds_zero : Rounds R 0 s t ↔ t = s := Iff.rfl

theorem rounds_one : Rounds R 1 s t ↔ R s t := by simp [Rounds]

theorem reflTransGen_iff_rounds : Relation.ReflTransGen R s t ↔ ∃ n, Rounds R n s t := by
  constructor
  · intro h
    induction h using Relation.ReflTransGen.head_induction_on with
    | refl => exact ⟨0, rfl⟩
    | head hstep _ ih =>
      obtain ⟨n, hn⟩ := ih
      exact ⟨n + 1, _, hstep, hn⟩
  · rintro ⟨n, hn⟩
    induction n generalizing s with
    | zero => exact hn ▸ .refl
    | succ n ih =>
      obtain ⟨u, hstep, hn⟩ := hn
      exact .head hstep (ih hn)

theorem transGen_iff_rounds : Relation.TransGen R s t ↔ ∃ n, Rounds R (n + 1) s t := by
  rw [Relation.TransGen.head'_iff]
  simp only [reflTransGen_iff_rounds, Rounds]
  grind

/-! ## Patterns -/

namespace Pattern

variable {α : Type} {p body last : Pattern α}

/-- The pattern leads from one spot to another. -/
def Leads : Pattern α → Spot → Spot → Prop
  | .empty, s, t => t = s
  | .set chars _, s, t => ∃ c rest, s.rest = c :: rest ∧ chars.contains c = true ∧ t = ⟨c, rest⟩
  | .look l, s, t => l.holds s.place = true ∧ t = s
  | .group _ body, s, t => body.Leads s t
  | .seq first second, s, t => ∃ u, first.Leads s u ∧ second.Leads u t
  | .alt _ left right, s, t => left.Leads s t ∨ right.Leads s t
  | .star _ _ body, s, t => Relation.ReflTransGen body.Leads s t
  | .plus _ _ body, s, t => Relation.TransGen body.Leads s t

/-! ### Numbers -/

theorem leads_numberFrom (n : Nat) : (p.numberFrom n).1.Leads = p.Leads := by
  induction p generalizing n with
  | empty | set | look => rfl
  | group slot body ih => simp only [numberFrom, Leads, ih]
  | seq first second ih ih' => simp only [numberFrom, Leads, ih, ih']
  | alt number left right ih ih' => simp only [numberFrom, Leads, ih, ih']
  | star number greedy body ih => simp only [numberFrom, Leads, ih]
  | plus number greedy body ih => simp only [numberFrom, Leads, ih]

theorem leads_numbered : p.numbered.Leads = p.Leads := by
  rw [numbered]
  split
  · exact leads_numberFrom 0
  · rfl

end Pattern

/-! ## Forms -/

namespace Form

open Pattern

/-- The form leads from one spot to another. -/
def Leads : Form → Spot → Spot → Prop
  | .empty, s, t => t = s
  | .set chars, s, t => ∃ c rest, s.rest = c :: rest ∧ chars.contains c = true ∧ t = ⟨c, rest⟩
  | .look l, s, t => l.holds s.place = true ∧ t = s
  | .group _ body, s, t => body.Leads s t
  | .seq first second, s, t => ∃ u, first.Leads s u ∧ second.Leads u t
  | .alt left right, s, t => left.Leads s t ∨ right.Leads s t
  | .rep least most _ body, s, t =>
    -- the least number of rounds, and some more
    ∃ n, (∀ m ∈ most, n ≤ m - least) ∧ Rounds body.Leads (least + n) s t

/-- The form leads from some spot of `text` to another. -/
def MatchesIn (f : Form) (text : List Char) : Prop :=
  ∃ before rest t, text = before ++ rest ∧ f.Leads ⟨before.getLast?, rest⟩ t

variable {body last : Pattern Unit} {greedy : Bool}

theorem leads_optional : (optional greedy body).Leads s t ↔ t = s ∨ body.Leads s t := by
  cases greedy with
  | true => exact or_comm
  | false => rfl

theorem leads_times (n : Nat) :
    (times body last n).Leads s t ↔ ∃ u, Rounds body.Leads n s u ∧ last.Leads u t := by
  induction n generalizing s with
  | zero => simp [times, Rounds]
  | succ n ih =>
    simp only [times, Pattern.Leads, Rounds, ih]
    grind

theorem leads_upTo (n : Nat) :
    (upTo greedy body n).Leads s t ↔ ∃ m ≤ n, Rounds body.Leads m s t := by
  have hone {s : Spot} (n : Nat) : (∃ m ≤ n + 1, Rounds body.Leads m s t) ↔
      t = s ∨ ∃ u, body.Leads s u ∧ ∃ m ≤ n, Rounds body.Leads m u t := by
    rw [← Nat.or_exists_add_one]
    simp only [Rounds, Nat.add_le_add_iff_right, Nat.zero_le, true_and]
    grind
  induction n using upTo.induct generalizing s with
  | case1 => simp [upTo, Pattern.Leads, Rounds]
  | case2 => simp [upTo, leads_optional, hone, Rounds]
  | case3 n ih => simp only [upTo, leads_optional, Pattern.Leads, ih, hone]

theorem leads_anyNumber :
    (anyNumber greedy body).Leads s t ↔ ∃ n, Rounds body.Leads n s t := by
  rw [anyNumber]
  split
  · rw [leads_optional, Pattern.Leads, transGen_iff_rounds]
    exact Nat.or_exists_add_one (p := fun n => Rounds body.Leads n s t)
  · exact reflTransGen_iff_rounds

/-- Spelling repetitions out does not change where a form leads. -/
theorem leads_spelledOut (f : Form) : f.spelledOut.Leads = f.Leads := by
  funext s t
  induction f generalizing s t with
  | empty | set | look => rfl
  | group slot body ih => exact ih s t
  | seq first second ih ih' => simp only [spelledOut, Pattern.Leads, Leads, ih, ih']
  | alt left right ih ih' => simp only [spelledOut, Pattern.Leads, Leads, ih, ih']
  | rep least most greedy body ih =>
    have hbody : body.spelledOut.Leads = body.Leads := by funext s t; exact ih s t
    rw [Leads, ← hbody, eq_iff_iff]
    obtain _ | n := least <;> obtain _ | most := most
    · simp [spelledOut, leads_anyNumber]
    · simp [spelledOut, leads_upTo]
    · have hcount (k : Nat) : n + 1 + k = n + (k + 1) := by omega
      simp only [spelledOut, leads_times, Pattern.Leads, transGen_iff_rounds, hcount,
        rounds_add (m := n), Option.not_mem_none, IsEmpty.forall_iff, implies_true, true_and]
      grind
    · rw [spelledOut]
      split
      · next heq =>
        subst heq
        simp [leads_times, rounds_add, rounds_one, rounds_zero]
      · simp only [leads_times, leads_upTo, rounds_add (m := n + 1), Option.mem_some_iff,
          forall_eq']
        grind

end Form

end SourcePatch.Regex
