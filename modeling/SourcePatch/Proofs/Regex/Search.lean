import SourcePatch.Proofs.Regex.Leads
import SourcePatch.Proofs.Regex.Reach
import SourcePatch.Regex.Basic

/-!
# Searching a text

A sweep over a text from its end knows, of every leaf of a pattern, whether there is a way on behind
it. So it finds a match just where the pattern leads anywhere at all, whatever looks, groups and
loops it has.

## Main definitions

* `Filled`: every leaf of a pattern holds an outcome just where there is a way on behind it.

## Main statements

* `Filled.reaches_iff`: a filled pattern leads on from a spot just where the pattern does.
* `Filled.advance`: going on by one place, the pattern stays filled.
* `Regex.occursIn_iff`: a regular expression is found in a text just if its form matches there.
-/

namespace SourcePatch.Regex

/-! ## Ways on -/

/-- The spot is the same as another, or some characters lie between. -/
def Spot.Follows (t s : Spot) : Prop := t = s ∨ t.rest.length < s.rest.length

theorem Spot.Follows.trans {s t u : Spot} (h : t.Follows u) (h' : u.Follows s) : t.Follows s := by
  obtain rfl | hlt := h'
  · exact h
  · obtain rfl | hlt' := h
    · exact .inr hlt
    · exact .inr (hlt'.trans hlt)

namespace Pattern

variable {p : Pattern Unit} {K K' : Spot → Prop} {s t : Spot}

/-- The pattern leads from a spot to one from where `K` goes on. -/
def Goes (p : Pattern Unit) (K : Spot → Prop) (s : Spot) : Prop := ∃ t, p.Leads s t ∧ K t

theorem Leads.follows (h : p.Leads s t) : t.Follows s := by
  induction p generalizing s t with
  | empty => exact .inl h
  | set chars value =>
    obtain ⟨c, rest, hrest, -, rfl⟩ := h
    exact .inr (by simp [hrest])
  | look l => exact .inl h.2
  | group slot body ih => exact ih h
  | seq first second ih ih' =>
    obtain ⟨u, hu, ht⟩ := h
    exact (ih' ht).trans (ih hu)
  | alt number left right ih ih' => exact h.elim ih ih'
  | star number greedy body ih =>
    induction h with
    | refl => exact .inl rfl
    | tail _ hstep hfollows => exact (ih hstep).trans hfollows
  | plus number greedy body ih =>
    induction h with
    | single hstep => exact ih hstep
    | tail _ hstep hfollows => exact (ih hstep).trans hfollows

/-- Further on in a text, only what goes on from there matters. -/
theorem goes_congr {n : Nat} (hK : ∀ t : Spot, t.rest.length < n → (K t ↔ K' t))
    (hs : s.rest.length < n) : p.Goes K s ↔ p.Goes K' s := by
  refine exists_congr fun t => and_congr_right fun ht => hK t ?_
  obtain rfl | hlt := ht.follows
  · exact hs
  · exact hlt.trans hs

/-- A loop is left, or a round takes something before the loop goes on. -/
theorem goes_star {number : Option Nat} {greedy : Bool} :
    (star number greedy p).Goes K s ↔
      p.Goes (fun t => t.rest.length < s.rest.length ∧ (star number greedy p).Goes K t) s ∨
        K s := by
  constructor
  · rintro ⟨t, hleads, hK⟩
    induction hleads using Relation.ReflTransGen.head_induction_on with
    | refl => exact .inr hK
    | @head s u hstep hrest ih =>
      obtain rfl | hlt := Leads.follows hstep
      · exact ih
      · exact .inl ⟨u, hstep, hlt, t, hrest, hK⟩
  · rintro (⟨u, hstep, -, t, hrest, hK⟩ | hK)
    · exact ⟨t, .head hstep hrest, hK⟩
    · exact ⟨s, .refl, hK⟩

theorem goes_seq {first second : Pattern Unit} :
    (seq first second).Goes K s ↔ first.Goes (second.Goes K) s := by
  simp only [Goes, Leads]
  grind

theorem goes_plus {number : Option Nat} {greedy : Bool} :
    (plus number greedy p).Goes K s ↔ p.Goes ((star number greedy p).Goes K) s := by
  simp only [Goes, Leads, Relation.TransGen.head'_iff]
  grind

end Pattern

/-! ## Filled patterns -/

/-- There is a way on behind the next character. -/
def Spot.Behind (s : Spot) (K : Spot → Prop) : Prop := ∃ c rest, s.rest = c :: rest ∧ K ⟨c, rest⟩

/-- The pattern with every leaf holding an outcome just where `told` says of what goes on behind the
leaf. -/
inductive Filled (told : (Spot → Prop) → Prop) :
    Pattern Unit → (Spot → Prop) → Pattern Outcome → Prop
  | empty {K : Spot → Prop} : Filled told .empty K .empty
  | set {K : Spot → Prop} {chars : CharSet} {value : Outcome} (h : value.isSome = true ↔ told K) :
    Filled told (.set chars ()) K (.set chars value)
  | look {K : Spot → Prop} {l : Look} : Filled told (.look l) K (.look l)
  | group {K : Spot → Prop} {slot : Nat} {body : Pattern Unit} {body' : Pattern Outcome}
    (hbody : Filled told body K body') : Filled told (.group slot body) K (.group slot body')
  | seq {K : Spot → Prop} {first second : Pattern Unit} {first' second' : Pattern Outcome}
    (hfirst : Filled told first (second.Goes K) first') (hsecond : Filled told second K second') :
    Filled told (.seq first second) K (.seq first' second')
  | alt {K : Spot → Prop} {number : Option Nat} {left right : Pattern Unit}
    {left' right' : Pattern Outcome} (hleft : Filled told left K left')
    (hright : Filled told right K right') :
    Filled told (.alt number left right) K (.alt number left' right')
  | star {K : Spot → Prop} {number : Option Nat} {greedy : Bool} {body : Pattern Unit}
    {body' : Pattern Outcome}
    (hbody : Filled told body ((Pattern.star number greedy body).Goes K) body') :
    Filled told (.star number greedy body) K (.star number greedy body')
  | plus {K : Spot → Prop} {number : Option Nat} {greedy : Bool} {body : Pattern Unit}
    {body' : Pattern Outcome}
    (hbody : Filled told body ((Pattern.star number greedy body).Goes K) body') :
    Filled told (.plus number greedy body) K (.plus number greedy body')

namespace Filled

variable {told : (Spot → Prop) → Prop} {p : Pattern Unit} {q : Pattern Outcome}
  {K K' : Spot → Prop} {s : Spot}

theorem marks_eq (h : Filled told p K q) : q.marks = p.marks := by
  induction h with
  | empty | set | look => rfl
  | group _ ih => exact ih
  | seq _ _ ih ih' => simp only [Pattern.marks, ih, ih']
  | alt _ _ ih ih' => simp only [Pattern.marks, ih, ih']
  | star _ ih => simp only [Pattern.marks, ih]
  | plus _ ih => simp only [Pattern.marks, ih]

theorem congr (h : Filled s.Behind p K q)
    (hK : ∀ t : Spot, t.rest.length < s.rest.length → (K t ↔ K' t)) : Filled s.Behind p K' q := by
  induction h generalizing K' with
  | empty => exact .empty
  | set hvalue =>
    refine .set (hvalue.trans ?_)
    refine exists_congr fun c => exists_congr fun rest => and_congr_right fun hrest => hK _ ?_
    simp [hrest]
  | look => exact .look
  | group _ ih => exact .group (ih hK)
  | seq _ _ ih ih' =>
    exact .seq (ih fun t ht => Pattern.goes_congr hK ht) (ih' hK)
  | alt _ _ ih ih' => exact .alt (ih hK) (ih' hK)
  | star _ ih => exact .star (ih fun t ht => Pattern.goes_congr hK ht)
  | plus _ ih => exact .plus (ih fun t ht => Pattern.goes_congr hK ht)

/-- A filled loop goes on where the loop does, if its body does so. -/
theorem reaches_star {number : Option Nat} {greedy : Bool}
    (hbody : ∀ {K : Spot → Prop}, Filled s.Behind p K q →
      (q.Reaches s.place [] (K s) ↔ p.Goes K s))
    (h : Filled s.Behind p ((Pattern.star number greedy p).Goes K) q) :
    (Pattern.star number greedy q).Reaches s.place [] (K s) ↔
      (Pattern.star number greedy p).Goes K s := by
  -- at `s` itself the body has nothing behind it, as a further round takes something
  have hlater : Filled s.Behind p (fun t => t.rest.length < s.rest.length ∧
      (Pattern.star number greedy p).Goes K t) q :=
    h.congr fun t ht => (and_iff_right ht).symm
  have hround := hbody hlater
  simp only [Nat.lt_irrefl, false_and] at hround
  rw [Pattern.goes_star, ← hround]
  exact and_iff_right (Open.nil number)

/-- A filled pattern leads on from a spot just where the pattern does. -/
theorem reaches_iff (h : Filled s.Behind p K q) :
    q.Reaches s.place [] (K s) ↔ p.Goes K s := by
  induction p generalizing K q with
  | empty =>
    cases h
    simp [Pattern.Reaches, Pattern.Goes, Pattern.Leads]
  | set chars value =>
    cases h with
    | set hvalue =>
      simp only [Pattern.Reaches, hvalue, Pattern.Goes, Pattern.Leads, Spot.Behind, Spot.place]
      cases s.rest <;> simp
  | look l =>
    cases h
    simp [Pattern.Reaches, Pattern.Goes, Pattern.Leads]
  | group slot body ih =>
    cases h with
    | group hbody =>
      have hreaches := ih hbody
      exact hreaches
  | seq first second ih ih' =>
    cases h with
    | seq hfirst hsecond =>
      rw [Pattern.Reaches, ih' hsecond, ih hfirst, Pattern.goes_seq]
  | alt number left right ih ih' =>
    cases h with
    | alt hleft hright =>
      rw [Pattern.Reaches, ih hleft, ih' hright, and_iff_right (Open.nil number)]
      simp only [Pattern.Goes, Pattern.Leads, or_and_right, exists_or]
  | star number greedy body ih =>
    cases h with
    | star hbody => exact reaches_star ih hbody
  | plus number greedy body ih =>
    cases h with
    | plus hbody =>
      rw [Pattern.goes_plus, ← ih hbody, ← reaches_star ih hbody]
      rfl

/-- The pattern at the end of a text, where there is no way on behind a leaf. -/
theorem atEnd (p : Pattern Unit) (K : Spot → Prop) : Filled (fun _ => False) p K p.atEnd := by
  induction p generalizing K with
  | empty => exact .empty
  | set chars value => exact .set (by simp)
  | look l => exact .look
  | group slot body ih => exact .group (ih K)
  | seq first second ih ih' => exact .seq (ih _) (ih' K)
  | alt number left right ih ih' => exact .alt (ih K) (ih' K)
  | star number greedy body ih => exact .star (ih _)
  | plus number greedy body ih => exact .plus (ih _)

/-- Going on by one place, every leaf comes to hold an outcome just where there is a way on from
there. -/
theorem advance {lead : Nat → Prospect} {k : Continuation} {X : Prospect}
    (hlead : ∀ n, (lead n).Fades) (hled : q.Led lead s.place X) (h : Filled s.Behind p K q)
    (hk : Tells lead k X (K s)) : Filled (fun K => K s) p K (q.advance s.place k) := by
  induction p generalizing K q k X with
  | empty => cases h; exact .empty
  | set chars value => cases h; exact .set hk.outcome_isSome
  | look l => cases h; exact .look
  | group slot body ih =>
    cases h with
    | group hbody => exact .group (ih hled hbody (hk.pass _))
  | seq first second ih ih' =>
    cases h with
    | seq hfirst hsecond =>
      have hbehind := hk.enter hlead hled.second
      rw [hsecond.reaches_iff] at hbehind
      exact .seq (ih hled.first hfirst hbehind) (ih' hled.second hsecond hk)
  | alt number left right ih ih' =>
    cases h with
    | alt hleft hright => exact .alt (ih hled.left hleft hk) (ih' hled.right hright hk)
  | star number greedy body ih =>
    have hloop := hk.enter hlead hled
    rw [h.reaches_iff] at hloop
    cases h with
    | star hbody => exact .star (ih hled.body hbody hloop)
  | plus number greedy body ih =>
    cases h with
    | @plus _ _ _ _ body' hbody =>
      have hled' : (Pattern.star number greedy body').Led lead s.place X := hled
      have hloop := hk.enter hlead hled'
      rw [reaches_iff (.star hbody)] at hloop
      exact .plus (ih hled'.body hbody hloop)

end Filled

/-! ## Texts -/

section

open Pattern

variable {p : Pattern Unit} {q : Pattern Outcome} {s : Spot}

theorem tells_accept (lead : Nat → Prospect) (here : Place) :
    Tells lead (accept here) (fun _ => True) True where
  yields := fun _ _ => trivial
  searches := ⟨fun _ _ _ => id, fun _ h => by cases h⟩
  of_dead := fun _ => id

/-- The outcome at a place where the leaves are filled, and the leaves for the place before it. -/
theorem Filled.step (hp : p.marks.Nodup) (h : Filled s.Behind p (fun _ => True) q) :
    ((q.enter s.place (accept s.place)).outcome.isSome = true ↔ p.Goes (fun _ => True) s) ∧
      Filled (fun K => K s) p (fun _ => True) (q.advance s.place (accept s.place)) := by
  rw [← h.marks_eq] at hp
  have hlead := fades_leadOf s.place q (X := fun _ => True) fun _ _ _ => id
  have hled := led_leadOf hp s.place fun _ => True
  have haccept := tells_accept (leadOf s.place q fun _ => True) s.place
  exact ⟨(haccept.enter hlead hled).outcome_isSome.trans h.reaches_iff,
    h.advance hlead hled haccept⟩

/-- What a sweep knows that has read the text from a spot on. -/
structure Swept (p : Pattern Unit) (s : Spot) (w : Sweep) : Prop where
  left : w.left = s.rest.length
  filled : Filled (fun K => K s) p (fun _ => True) w.pattern
  found : w.outcomes.any Option.isSome = true ↔
    ∃ before rest, s.rest = before ++ rest ∧
      p.Goes (fun _ => True) ⟨before.getLast?.or s.before, rest⟩

/-- The spots of a text are its front and those behind its first character. -/
theorem exists_spot_cons {P : Spot → Prop} {before : Option Char} {c : Char} {text : List Char} :
    (∃ front rest, c :: text = front ++ rest ∧ P ⟨front.getLast?.or before, rest⟩) ↔
      P ⟨before, c :: text⟩ ∨
        ∃ front rest, text = front ++ rest ∧ P ⟨front.getLast?.or (some c), rest⟩ := by
  constructor
  · rintro ⟨front, rest, htext, hP⟩
    cases front with
    | nil => exact .inl (htext ▸ hP)
    | cons d front =>
      obtain ⟨rfl, rfl⟩ := List.cons.inj htext
      rw [List.getLast?_cons] at hP
      exact .inr ⟨front, rest, rfl, by cases h : front.getLast? <;> simpa [h] using hP⟩
  · rintro (hP | ⟨front, rest, rfl, hP⟩)
    · exact ⟨[], c :: text, rfl, hP⟩
    · refine ⟨c :: front, rest, rfl, ?_⟩
      rw [List.getLast?_cons]
      cases h : front.getLast? <;> simpa [h] using hP

/-- A sweep knows from every place what the pattern leads to. -/
theorem swept (hp : p.marks.Nodup) (before : Option Char) (text : List Char) :
    Swept p ⟨before, text⟩ (p.sweep before text) := by
  induction text generalizing before with
  | nil =>
    have hbehind : Spot.Behind ⟨before, []⟩ = fun _ => False := by
      funext K
      simp [Spot.Behind]
    have hstep := Filled.step (s := ⟨before, []⟩) hp (hbehind ▸ Filled.atEnd p _)
    refine ⟨rfl, hstep.2, ?_⟩
    rw [sweep, List.any_cons, List.any_nil, Bool.or_false]
    refine hstep.1.trans ⟨fun hgoes => ⟨[], [], rfl, hgoes⟩, ?_⟩
    rintro ⟨front, rest, htext, hgoes⟩
    obtain ⟨rfl, rfl⟩ := List.append_eq_nil_iff.1 htext.symm
    exact hgoes
  | cons c text ih =>
    -- the leaves hold what follows them at the next place, which lies behind `c`
    have hlater := ih (some c)
    have hbehind : Spot.Behind ⟨before, c :: text⟩ = fun K => K ⟨c, text⟩ := by
      funext K
      simp [Spot.Behind]
    have hstep := Filled.step (s := ⟨before, c :: text⟩) hp (hbehind ▸ hlater.filled)
    have hplace : Place.mk before (some c) ((p.sweep (some c) text).left + 1) =
        Spot.place ⟨before, c :: text⟩ := by
      rw [hlater.left]
      rfl
    simp only [sweep, hplace]
    refine ⟨by simp [hlater.left], hstep.2, ?_⟩
    rw [List.any_cons, Bool.or_eq_true, hstep.1, hlater.found]
    exact exists_spot_cons.symm

/-- A sweep over a text finds an outcome just if the pattern leads on from some spot of it. -/
theorem any_outcomes_iff (hp : p.marks.Nodup) (text : List Char) :
    (p.outcomes text).any Option.isSome = true ↔
      ∃ before rest t, text = before ++ rest ∧ p.Leads ⟨before.getLast?, rest⟩ t := by
  rw [outcomes, (swept hp none text).found]
  simp only [Option.or_none, Goes, and_true, exists_and_left]

end

/-! ## Forms -/

namespace Form

variable {body last : Pattern Unit} {greedy : Bool}

theorem marks_optional (h : body.marks = []) : (optional greedy body).marks = [] := by
  cases greedy <;> simp [optional, Pattern.marks, h]

theorem marks_times (hbody : body.marks = []) (hlast : last.marks = []) (n : Nat) :
    (times body last n).marks = [] := by
  induction n with
  | zero => exact hlast
  | succ n ih => simp [times, Pattern.marks, hbody, ih]

theorem marks_upTo (h : body.marks = []) (n : Nat) : (upTo greedy body n).marks = [] := by
  induction n using upTo.induct with
  | case1 => rfl
  | case2 => exact marks_optional h
  | case3 n ih => exact marks_optional (by simp [Pattern.marks, h, ih])

/-- No choice of a pattern has a number before the pattern is numbered. -/
theorem marks_spelledOut (f : Form) : f.spelledOut.marks = [] := by
  induction f with
  | empty | set | look => rfl
  | group slot body ih => exact ih
  | seq first second ih ih' => simp [spelledOut, Pattern.marks, ih, ih']
  | alt left right ih ih' => simp [spelledOut, Pattern.marks, ih, ih']
  | rep least most greedy body ih =>
    have hloop (greedy : Bool) : (Pattern.plus none greedy body.spelledOut).marks = [] := by
      simp [Pattern.marks, ih]
    obtain _ | n := least <;> obtain _ | most := most <;> rw [spelledOut]
    · rw [anyNumber]
      split
      · exact marks_optional (hloop greedy)
      · exact hloop greedy
    · exact marks_upTo ih most
    · exact marks_times ih (hloop greedy) n
    · split
      · exact marks_times ih ih n
      · exact marks_times ih (marks_upTo ih _) _

theorem any_outcomes_toPattern_iff (f : Form) (text : List Char) :
    (f.toPattern.outcomes text).any Option.isSome = true ↔ f.MatchesIn text := by
  rw [toPattern, any_outcomes_iff (Pattern.nodup_marks_numbered f.marks_spelledOut),
    Pattern.leads_numbered, leads_spelledOut, MatchesIn]

end Form

/-! ## Regular expressions -/

theorem anyOccurrence_matchesAt (text : List Char) (left : Nat) (found : List Outcome) :
    anyOccurrence (matchesAt text left found) = found.any Option.isSome := by
  induction found generalizing text left with
  | nil => rfl
  | cons o found ih =>
    have hlater := ih text.tail (left - 1)
    rw [anyOccurrence] at hlater ⊢
    rw [matchesAt, List.any_cons, List.any_cons, hlater, Option.isSome_map]

theorem compile?_eq_some {source : List Char} {r : Regex} (h : compile? source = some r) :
    ∃ form, read? source = some (form, r.names) ∧ r.pattern = form.toPattern := by
  obtain ⟨⟨form, names⟩, hread, hrest⟩ := Option.bind_eq_some_iff.1 h
  obtain ⟨-, -, hr⟩ := Option.bind_eq_some_iff.1 hrest
  obtain rfl := Option.some.inj hr
  exact ⟨form, hread, rfl⟩

/-- A regular expression is found in a text just if its form matches there. -/
theorem occursIn_iff {source : List Char} {r : Regex} (h : compile? source = some r)
    (text : List Char) :
    r.occursIn text = true ↔
      ∃ form names, read? source = some (form, names) ∧ form.MatchesIn text := by
  obtain ⟨form, hread, hpattern⟩ := compile?_eq_some h
  rw [occursIn, occurrences, anyOccurrence_matchesAt, hpattern, form.any_outcomes_toPattern_iff]
  simp [hread]

end SourcePatch.Regex
