import Mathlib.Data.List.Nodup
import SourcePatch.Regex.Pattern

/-!
# Choices that are taken once

At one place of a text, a choice that was reached before fails at once. This loses nothing: of every
choice that was reached in vain, all that follows it there is known to fail, and a loop that is
entered a second time has no other way on than its first time had.

What a continuation could succeed with is a *prospect*: a condition that holds less often the more
choices are passed by. A continuation searches its prospect if, where it fails, the prospect does
not hold even without the choices reached by then, and neither does what those choices lead to.

## Main definitions

* `Pattern.Reaches`: a pattern leads on from a place, without the choices that are passed by.
* `Pattern.choices`: the numbered choices of a pattern, and what each of them leads to.
* `Pattern.Led`: what the numbered choices lead to is told by their numbers.
* `Searches`: where a continuation fails, nothing was left untried.
* `Tells`: a continuation succeeds just where it can.

## Main statements

* `Searches.enter`: a pattern in front of a continuation searches what it leads to.
* `Tells.enter`: a pattern in front of a continuation tells what it leads to.
* `Tells.outcome_isSome`: the outcome of a continuation that tells.
-/

namespace SourcePatch.Regex

/-- What a continuation could succeed with, without the choices that are passed by. -/
abbrev Prospect := Reached → Prop

/-- The more choices are passed by, the less can be succeeded with. -/
def Prospect.Fades (X : Prospect) : Prop :=
  ∀ ⦃passed passed' : Reached⦄, passed ⊆ passed' → X passed' → X passed

/-- None of the choices passed by has this number. -/
def Open (number : Option Nat) (passed : Reached) : Prop := ∀ n ∈ number, n ∉ passed

theorem Open.fades (number : Option Nat) : Prospect.Fades (Open number) :=
  fun _ _ hsub hopen n hn hmem => hopen n hn (hsub hmem)

namespace Pattern

variable {here : Place} {p : Pattern Outcome} {passed passed' : Reached} {K K' : Prop}

/-! ## Where a pattern leads -/

/-- The pattern leads from `here` to a leaf that goes on, or to its end, where `K` says whether
there is a way on. No choice that is passed by is taken. -/
def Reaches (here : Place) (passed : Reached) : Pattern Outcome → Prop → Prop
  | .empty, K => K
  | .set chars value, _ => here.after.any chars.contains = true ∧ value.isSome = true
  | .look l, K => l.holds here = true ∧ K
  | .group _ body, K => body.Reaches here passed K
  | .seq first second, K => first.Reaches here passed (second.Reaches here passed K)
  | .alt number left right, K =>
    Open number passed ∧ (left.Reaches here passed K ∨ right.Reaches here passed K)
  | .star number _ body, K => Open number passed ∧ (body.Reaches here passed False ∨ K)
  | .plus number _ body, K =>
    body.Reaches here passed (Open number passed ∧ (body.Reaches here passed False ∨ K))

theorem Reaches.mono (h : p.Reaches here passed K) (hpassed : passed' ⊆ passed) (hK : K → K') :
    p.Reaches here passed' K' := by
  have hopen {number : Option Nat} : Open number passed → Open number passed' :=
    Open.fades number hpassed
  induction p generalizing K K' with
  | empty => exact hK h
  | set chars value => exact h
  | look l => exact h.imp_right hK
  | group slot body ih => exact ih h hK
  | seq first second ih ih' => exact ih h fun h => ih' h hK
  | alt number left right ih ih' => exact h.imp hopen (Or.imp (ih · hK) (ih' · hK))
  | star number greedy body ih => exact h.imp hopen (Or.imp (ih · id) hK)
  | plus number greedy body ih => exact ih h fun h => h.imp hopen (Or.imp (ih · id) hK)

/-- The numbers of the choices, twice where a choice is reached in two ways. -/
def marks {α : Type} : Pattern α → List Nat
  | .empty | .set .. | .look _ => []
  | .group _ body => body.marks
  | .seq first second => first.marks ++ second.marks
  | .alt number left right => number.toList ++ (left.marks ++ right.marks)
  | .star number _ body | .plus number _ body =>
    number.elim (body.marks ++ body.marks) fun n => n :: body.marks

/-- The choices of a loop that leads to `lead`, from those of its body. Behind a further round there
is nothing but the loop itself. Where the loop has a number, the body reaches no choice in a new way
there, as the loop is passed by. -/
def loopChoices (number : Option Nat) (lead : Prospect)
    (body : Prospect → List (Nat × Prospect)) : List (Nat × Prospect) :=
  match number with
  | none => body (fun _ => False) ++ body fun passed => Open none passed ∧ lead passed
  | some n => (n, lead) :: body fun passed => Open (some n) passed ∧ lead passed

/-- The numbered choices of a pattern and what each leads to, where `X` is the prospect behind the
pattern. -/
def choices (here : Place) : Pattern Outcome → Prospect → List (Nat × Prospect)
  | .empty, _ | .set .., _ | .look _, _ => []
  | .group _ body, X => body.choices here X
  | .seq first second, X =>
    first.choices here (fun passed => second.Reaches here passed (X passed)) ++
      second.choices here X
  | .alt number left right, X =>
    let lead : Prospect := fun passed =>
      left.Reaches here passed (X passed) ∨ right.Reaches here passed (X passed)
    number.toList.map (·, lead) ++ (left.choices here X ++ right.choices here X)
  | .star number _ body, X | .plus number _ body, X =>
    loopChoices number (fun passed => body.Reaches here passed False ∨ X passed)
      (body.choices here)

theorem fades_reaches {X : Prospect} (hX : X.Fades) (p : Pattern Outcome) :
    Prospect.Fades fun passed => p.Reaches here passed (X passed) :=
  fun _ _ hsub h => h.mono hsub (hX hsub)

/-- What a loop leads to behind a round: leaving it, or a further round. -/
theorem fades_further (here : Place) {X : Prospect} (hX : X.Fades) (number : Option Nat)
    (body : Pattern Outcome) : Prospect.Fades fun passed =>
      Open number passed ∧ (body.Reaches here passed False ∨ X passed) :=
  fun _ _ hsub h => ⟨Open.fades number hsub h.1, h.2.imp (·.mono hsub id) (hX hsub)⟩

theorem choices_fst (here : Place) (p : Pattern Outcome) (X : Prospect) :
    (p.choices here X).map (·.1) = p.marks := by
  induction p generalizing X with
  | empty | set | look => rfl
  | group slot body ih => exact ih X
  | seq first second ih ih' => simp [choices, marks, ih, ih']
  | alt number left right ih ih' => simp [choices, marks, ih, ih', Function.comp_def]
  | star number greedy body ih => cases number <;> simp [choices, loopChoices, marks, ih]
  | plus number greedy body ih => cases number <;> simp [choices, loopChoices, marks, ih]

theorem fades_of_mem_choices {X : Prospect} (hX : X.Fades) {c : Nat × Prospect}
    (hc : c ∈ p.choices here X) : c.2.Fades := by
  induction p generalizing X with
  | empty | set | look => cases hc
  | group slot body ih => exact ih hX hc
  | seq first second ih ih' =>
    exact (List.mem_append.1 hc).elim (ih (fades_reaches hX second)) (ih' hX)
  | alt number left right ih ih' =>
    simp only [choices, List.mem_append, List.mem_map] at hc
    obtain ⟨n, -, rfl⟩ | hc | hc := hc
    · exact fun _ _ hsub => Or.imp (·.mono hsub (hX hsub)) (·.mono hsub (hX hsub))
    · exact ih hX hc
    · exact ih' hX hc
  | star number greedy body ih | plus number greedy body ih =>
    have hlead : Prospect.Fades fun passed => body.Reaches here passed False ∨ X passed :=
      fun _ _ hsub => Or.imp (·.mono hsub id) (hX hsub)
    cases number with
    | none =>
      exact (List.mem_append.1 hc).elim (ih fun _ _ _ => id) (ih (fades_further here hX none body))
    | some n =>
      obtain rfl | hc := List.mem_cons.1 hc
      · exact hlead
      · exact ih (fades_further here hX (some n) body) hc

/-- `lead` says of the numbered choices of a pattern what they lead to. -/
def Led (lead : Nat → Prospect) (here : Place) (p : Pattern Outcome) (X : Prospect) : Prop :=
  ∀ c ∈ p.choices here X, ∀ passed, lead c.1 passed ↔ c.2 passed

namespace Led

variable {lead : Nat → Prospect} {number : Option Nat} {greedy : Bool}
  {q : Pattern Outcome} {X : Prospect} {n : Nat}

theorem first (h : Led lead here (seq p q) X) :
    Led lead here p fun passed => q.Reaches here passed (X passed) :=
  fun c hc => h c (List.mem_append_left _ hc)

theorem second (h : Led lead here (seq p q) X) : Led lead here q X :=
  fun c hc => h c (List.mem_append_right _ hc)

theorem left (h : Led lead here (alt number p q) X) : Led lead here p X :=
  fun c hc => h c (List.mem_append_right _ (List.mem_append_left _ hc))

theorem right (h : Led lead here (alt number p q) X) : Led lead here q X :=
  fun c hc => h c (List.mem_append_right _ (List.mem_append_right _ hc))

theorem of_alt (h : Led lead here (alt number p q) X) (hn : n ∈ number) :
    lead n passed ↔ p.Reaches here passed (X passed) ∨ q.Reaches here passed (X passed) :=
  h (n, _) (List.mem_append_left _ (List.mem_map.2 ⟨n, by simpa using hn, rfl⟩)) passed

theorem of_star (h : Led lead here (star number greedy p) X) (hn : n ∈ number) :
    lead n passed ↔ p.Reaches here passed False ∨ X passed := by
  obtain rfl := hn
  exact h (n, _) List.mem_cons_self passed

/-- The choices in a round of a loop lead to the loop again. -/
theorem body (h : Led lead here (star number greedy p) X) :
    Led lead here p fun passed => (star number greedy p).Reaches here passed (X passed) := by
  cases number with
  | none => exact fun c hc => h c (List.mem_append_right _ hc)
  | some n => exact fun c hc => h c (List.mem_cons_of_mem _ hc)

/-- Those in a further round of a loop without a number lead to nothing but a leaf. -/
theorem further (h : Led lead here (star none greedy p) X) :
    Led lead here p fun _ => False :=
  fun c hc => h c (List.mem_append_left _ hc)

end Led

/-- What the choice with a number leads to. -/
def leadOf (here : Place) (p : Pattern Outcome) (X : Prospect) (n : Nat) : Prospect := fun passed =>
  ∃ Y, (n, Y) ∈ p.choices here X ∧ Y passed

theorem fades_leadOf (here : Place) (p : Pattern Outcome) {X : Prospect} (hX : X.Fades) (n : Nat) :
    (leadOf here p X n).Fades := by
  rintro _ _ hsub ⟨Y, hmem, hY⟩
  exact ⟨Y, hmem, fades_of_mem_choices hX hmem hsub hY⟩

/-- No number stands for two choices. -/
theorem led_leadOf (h : p.marks.Nodup) (here : Place) (X : Prospect) :
    Led (leadOf here p X) here p X := by
  intro c hc passed
  constructor
  · rintro ⟨Y, hmem, hY⟩
    rw [← choices_fst here p X] at h
    rwa [← List.inj_on_of_nodup_map h hmem hc rfl]
  · exact fun hlead => ⟨c.2, hc, hlead⟩

/-! ### Numbering -/

theorem marks_numberFrom {α : Type} (p : Pattern α) (n : Nat) :
    ∃ k, (p.numberFrom n).2 = n + k ∧ (p.numberFrom n).1.marks = List.range' n k := by
  induction p generalizing n with
  | empty | set | look => exact ⟨0, rfl, rfl⟩
  | group slot body ih => exact ih n
  | seq first second ih ih' =>
    obtain ⟨k, hnext, hmarks⟩ := ih n
    obtain ⟨k', hnext', hmarks'⟩ := ih' (n + k)
    refine ⟨k + k', ?_, ?_⟩
    · simp only [numberFrom, hnext, hnext']
      omega
    · simp only [numberFrom, marks, hnext, hmarks, hmarks', List.range'_append_1]
  | alt number left right ih ih' =>
    obtain ⟨k, hnext, hmarks⟩ := ih (n + 1)
    obtain ⟨k', hnext', hmarks'⟩ := ih' (n + 1 + k)
    refine ⟨k + k' + 1, ?_, ?_⟩
    · simp only [numberFrom, hnext, hnext']
      omega
    · simp only [numberFrom, marks, hnext, hmarks, hmarks', List.range'_append_1]
      exact List.range'_succ.symm
  | star number greedy body ih | plus number greedy body ih =>
    obtain ⟨k, hnext, hmarks⟩ := ih (n + 1)
    refine ⟨k + 1, ?_, ?_⟩
    · simp only [numberFrom, hnext]
      omega
    · simp only [numberFrom, marks, hmarks, List.range'_succ, Option.elim]

/-- A numbered pattern has no number twice, if it had none before. -/
theorem nodup_marks_numbered {α : Type} {p : Pattern α} (h : p.marks = []) :
    p.numbered.marks.Nodup := by
  rw [numbered]
  split
  · obtain ⟨k, -, hmarks⟩ := p.marks_numberFrom 0
    rw [hmarks]
    exact List.nodup_range'
  · rw [h]
    exact List.nodup_nil

end Pattern

/-! ## Searching -/

section Searches

variable {lead : Nat → Prospect} {tried : Reached} {k k' : Continuation} {X Y : Prospect}

/-- Where `k` fails, its prospect does not hold even without the choices reached by then, and what
the choices lead to that were reached on the way does not either. The choices in `tried` are taken
to have been reached before. -/
structure Searches (lead : Nat → Prospect) (tried : Reached) (k : Continuation) (X : Prospect) :
    Prop where
  fades : X.Fades
  of_fail {reached reached' : Reached} : tried ⊆ reached → k reached = (none, reached') →
    reached ⊆ reached' ∧ ¬ X reached' ∧ ∀ n ∈ reached', n ∈ reached ∨ ¬ lead n reached'

namespace Searches

open Continuation

theorem imp (h : Searches lead tried k X)
    (hY : Y.Fades) (hX : ∀ passed, Y passed → X passed) : Searches lead tried k Y where
  fades := hY
  of_fail htried hk := by
    obtain ⟨hsub, hnone, hnew⟩ := h.of_fail htried hk
    exact ⟨hsub, mt (hX _) hnone, hnew⟩

theorem of_subset {tried' : Reached} (h : Searches lead tried k X) (hsub : tried ⊆ tried') :
    Searches lead tried' k X where
  fades := h.fades
  of_fail htried := h.of_fail (List.Subset.trans hsub htried)

/-- Failing at once is right where there is no prospect. -/
theorem fail (hX : X.Fades)
    (h : ∀ passed, tried ⊆ passed → ¬ X passed) : Searches lead tried fail X where
  fades := hX
  of_fail := by
    rintro reached _ htried ⟨⟩
    exact ⟨List.Subset.refl _, h _ htried, fun n hn => .inl hn⟩

theorem pass (h : Searches lead tried k X) (e : Edge) : Searches lead tried (k.pass e) X where
  fades := h.fades
  of_fail {reached reached'} htried hk := by
    have hnone : (k reached).1 = none := by
      simpa [Continuation.pass, Outcome.pass] using congrArg Prod.fst hk
    exact h.of_fail htried (Prod.ext hnone (congrArg Prod.snd hk :))

theorem orElse (hlead : ∀ n, (lead n).Fades)
    (h : Searches lead tried k X) (h' : Searches lead tried k' Y) :
    Searches lead tried (k.orElse k') fun passed => X passed ∨ Y passed where
  fades _ _ hsub := Or.imp (h.fades hsub) (h'.fades hsub)
  of_fail {reached reached'} htried hk := by
    rw [Continuation.orElse] at hk
    split at hk
    · cases hk
    · next middle hmiddle =>
      obtain ⟨hsub, hX, hnew⟩ := h.of_fail htried hmiddle
      obtain ⟨hsub', hY, hnew'⟩ := h'.of_fail (List.Subset.trans htried hsub) hk
      refine ⟨List.Subset.trans hsub hsub', ?_, fun n hn => ?_⟩
      · rintro (hlater | hlater)
        · exact hX (h.fades hsub' hlater)
        · exact hY hlater
      · obtain hmem | hdead := hnew' n hn
        · exact (hnew n hmem).imp_right (mt (hlead n hsub'))
        · exact .inr hdead

/-- A choice that is reached for the second time fails, and one that fails leads to nothing. -/
theorem once {number : Option Nat} (h : Searches lead (number.toList ++ tried) k X)
    (hlead : ∀ n ∈ number, ∀ passed, lead n passed → X passed) :
    Searches lead tried (once number k) fun passed => Open number passed ∧ X passed where
  fades _ _ hsub := And.imp (Open.fades number hsub) (h.fades hsub)
  of_fail {reached reached'} htried hk := by
    cases number with
    | none =>
      obtain ⟨hsub, hX, hnew⟩ := h.of_fail htried hk
      exact ⟨hsub, fun hprospect => hX hprospect.2, hnew⟩
    | some n =>
      rw [Continuation.once] at hk
      split at hk
      · next hmem =>
        cases hk
        exact ⟨List.Subset.refl _, fun hprospect => hprospect.1 n rfl (by simpa using hmem),
          fun n hn => .inl hn⟩
      · obtain ⟨hsub, hX, hnew⟩ := h.of_fail (List.cons_subset_cons n htried) hk
        refine ⟨List.subset_of_cons_subset hsub, fun hprospect => hX hprospect.2, fun m hm => ?_⟩
        obtain hmem | hdead := hnew m hm
        · obtain rfl | hmem := List.mem_cons.1 hmem
          · exact .inr (mt (hlead m rfl _) hX)
          · exact .inl hmem
        · exact .inr hdead

theorem round {number : Option Nat} {greedy : Bool}
    (hlead : ∀ n, (lead n).Fades)
    (h : Searches lead (number.toList ++ tried) k X) (h' : Searches lead tried k' Y)
    (hnumber : ∀ n ∈ number, ∀ passed, lead n passed → X passed ∨ Y passed) :
    Searches lead tried (round number greedy k k') fun passed =>
      Open number passed ∧ (X passed ∨ Y passed) := by
  have h'' := h'.of_subset (List.subset_append_right number.toList tried)
  refine once ?_ hnumber
  cases greedy with
  | true => exact orElse hlead h h''
  | false =>
    exact (orElse hlead h'' h).imp (fun _ _ hsub => Or.imp (h.fades hsub) (h'.fades hsub))
      fun _ => Or.symm

/-- A loop leaves nothing untried if its body does not. -/
theorem star {body : Pattern Outcome} {here : Place} {number : Option Nat} {greedy : Bool}
    (hlead : ∀ n, (lead n).Fades)
    (hbody : ∀ {tried : Reached} {k : Continuation} {X : Prospect}, body.Led lead here X →
      Searches lead tried k X →
      Searches lead tried (body.enter here k) fun passed => body.Reaches here passed (X passed))
    (hled : (Pattern.star number greedy body).Led lead here X) (h : Searches lead tried k X) :
    Searches lead tried ((Pattern.star number greedy body).enter here k) fun passed =>
      (Pattern.star number greedy body).Reaches here passed (X passed) := by
  refine round hlead ?_ h fun n hn passed => (hled.of_star hn).1
  cases number with
  | none => exact hbody hled.further (Searches.fail (fun _ _ _ => id) fun _ _ => id)
  | some n =>
    -- the loop was reached before, so there is no way on behind a further round
    have hfurther := Pattern.fades_further here h.fades (some n) body
    have hround := hbody hled.body (Searches.fail hfurther
      fun passed (htried : n :: tried ⊆ passed) hX => hX.1 n rfl (htried List.mem_cons_self))
    exact hround.imp (fun _ _ hsub hin => hin.mono hsub id) fun _ hin =>
      hin.mono (List.Subset.refl _) False.elim

/-- A pattern in front of a continuation leaves nothing untried that the pattern leads to. -/
theorem enter {p : Pattern Outcome} {here : Place} (hlead : ∀ n, (lead n).Fades)
    (hled : p.Led lead here X) (h : Searches lead tried k X) :
    Searches lead tried (p.enter here k) fun passed => p.Reaches here passed (X passed) := by
  induction p generalizing tried k X with
  | empty => exact h
  | set chars value =>
    refine ⟨fun _ _ _ => id, fun {reached reached'} _ hk => ?_⟩
    obtain ⟨hnone, rfl⟩ := Prod.mk.inj hk
    refine ⟨List.Subset.refl _, fun ⟨hafter, hvalue⟩ => ?_, fun n hn => .inl hn⟩
    rw [if_pos hafter] at hnone
    simp [hnone] at hvalue
  | look l =>
    rw [Pattern.enter]
    split
    · next hholds => exact h.imp (fun _ _ hsub => And.imp id (h.fades hsub)) fun _ => And.right
    · next hholds =>
      exact Searches.fail (fun _ _ hsub => And.imp id (h.fades hsub)) fun _ _ hX => hholds hX.1
  | group slot body ih => exact (ih hled (h.pass _)).pass _
  | seq first second ih ih' => exact ih hled.first (ih' hled.second h)
  | alt number left right ih ih' =>
    have hk := h.of_subset (List.subset_append_right number.toList tried)
    exact once (orElse hlead (ih hled.left hk) (ih' hled.right hk))
      fun n hn passed => (hled.of_alt hn).1
  | star number greedy body ih => exact star hlead ih hled h
  | plus number greedy body ih =>
    have hloop : (Pattern.star number greedy body).Led lead here X := hled
    exact ih hloop.body (star hlead ih hloop h)

end Searches

namespace Pattern.Reaches

variable {passed : Reached} {here : Place} {K K' : Prop}

theorem of_dead_star {body : Pattern Outcome} {number : Option Nat} {greedy : Bool}
    (hdead : ∀ n ∈ passed, ¬ lead n passed)
    (hbody : ∀ {X : Prospect} {K K' : Prop}, body.Led lead here X → (K → K') → (K' → X passed) →
      body.Reaches here [] K → body.Reaches here passed K')
    (hled : (star number greedy body).Led lead here X) (hK : K → K') (hX : K' → X passed)
    (h : (star number greedy body).Reaches here [] K) :
    (star number greedy body).Reaches here passed K' := by
  have hround : body.Reaches here passed False ∨ K' := by
    refine h.2.imp ?_ hK
    cases number with
    | none => exact hbody hled.further id id
    | some n => exact hbody hled.body id False.elim
  exact ⟨fun n hn hmem => hdead n hmem ((hled.of_star hn).2 (hround.imp_right hX)), hround⟩

/-- What a pattern leads to, it leads to without the choices that lead to nothing. -/
theorem of_dead {p : Pattern Outcome} (hdead : ∀ n ∈ passed, ¬ lead n passed)
    (hled : p.Led lead here X) (hK : K → K') (hX : K' → X passed) (h : p.Reaches here [] K) :
    p.Reaches here passed K' := by
  induction p generalizing X K K' with
  | empty => exact hK h
  | set chars value => exact h
  | look l => exact h.imp_right hK
  | group slot body ih => exact ih hled hK hX h
  | seq first second ih ih' =>
    exact ih hled.first (ih' hled.second hK hX) (fun h => h.mono (List.Subset.refl _) hX) h
  | alt number left right ih ih' =>
    have hbranch := h.2.imp (ih hled.left hK hX) (ih' hled.right hK hX)
    refine ⟨fun n hn hmem => hdead n hmem ((hled.of_alt hn).2 ?_), hbranch⟩
    exact hbranch.imp (·.mono (List.Subset.refl _) hX) (·.mono (List.Subset.refl _) hX)
  | star number greedy body ih => exact of_dead_star hdead ih hled hK hX h
  | plus number greedy body ih =>
    have hloop : (star number greedy body).Led lead here X := hled
    exact ih hloop.body (of_dead_star hdead ih hloop hK hX)
      (fun hstar => Reaches.mono (p := star number greedy body) hstar (List.Subset.refl _) hX) h

end Pattern.Reaches

end Searches

/-! ## Telling -/

section Tells

open Continuation

variable {lead : Nat → Prospect} {k k' : Continuation} {X Y : Prospect} {K K' : Prop}

/-- Where `k` succeeds, `K` holds. -/
def Yields (k : Continuation) (K : Prop) : Prop :=
  ∀ reached, (k reached).1.isSome = true → K

namespace Yields

theorem fail : Yields fail K := fun _ h => by cases h

theorem pass (h : Yields k K) (e : Edge) : Yields (k.pass e) K := fun reached hsome =>
  h reached (by simpa [Continuation.pass, Outcome.pass] using hsome)

theorem orElse (h : Yields k K) (h' : Yields k' K') : Yields (k.orElse k') (K ∨ K') := by
  intro reached hsome
  rw [Continuation.orElse] at hsome
  split at hsome
  · next t _ ht => exact .inl (h reached (by rw [ht]; rfl))
  · exact .inr (h' _ hsome)

theorem once (h : Yields k K) (number : Option Nat) : Yields (once number k) K := by
  intro reached hsome
  cases number with
  | none => exact h _ hsome
  | some n =>
    rw [Continuation.once] at hsome
    split at hsome
    · cases hsome
    · exact h _ hsome

theorem round (h : Yields k K) (h' : Yields k' K') (number : Option Nat) (greedy : Bool) :
    Yields (round number greedy k k') (K ∨ K') := by
  refine once ?_ number
  cases greedy with
  | true => exact orElse h h'
  | false => exact fun reached hsome => (orElse h' h reached hsome).symm

end Yields

theorem Open.nil (number : Option Nat) : Open number [] := fun _ _ => List.not_mem_nil

theorem Yields.enter {p : Pattern Outcome} {here : Place} (h : Yields k K) :
    Yields (p.enter here k) (p.Reaches here [] K) := by
  induction p generalizing k K with
  | empty => exact h
  | set chars value =>
    intro reached hsome
    rw [Pattern.enter] at hsome
    split at hsome
    · next hafter => exact ⟨hafter, hsome⟩
    · cases hsome
  | look l =>
    intro reached hsome
    rw [Pattern.enter] at hsome
    split at hsome
    · next hholds => exact ⟨hholds, h _ hsome⟩
    · cases hsome
  | group slot body ih => exact (ih (h.pass _)).pass _
  | seq first second ih ih' => exact ih (ih' h)
  | alt number left right ih ih' =>
    exact fun reached hsome => ⟨.nil number, ((ih h).orElse (ih' h)).once number reached hsome⟩
  | star number greedy body ih =>
    exact fun reached hsome => ⟨.nil number, (ih .fail).round h number greedy reached hsome⟩
  | plus number greedy body ih =>
    exact ih fun reached hsome => ⟨.nil number, (ih .fail).round h number greedy reached hsome⟩

/-- `k` succeeds just where `K` holds: it leaves nothing of its prospect untried, and the prospect
is left if only choices are passed by that lead to nothing. -/
structure Tells (lead : Nat → Prospect) (k : Continuation) (X : Prospect) (K : Prop) : Prop where
  yields : Yields k K
  searches : Searches lead [] k X
  of_dead {passed : Reached} : (∀ n ∈ passed, ¬ lead n passed) → K → X passed

namespace Tells

variable {p : Pattern Outcome} {here : Place}

theorem outcome_isSome (h : Tells lead k X K) : k.outcome.isSome = true ↔ K := by
  refine ⟨h.yields [], fun hK => ?_⟩
  cases hfirst : k [] with
  | mk o reached =>
    cases o with
    | some t => rw [Continuation.outcome, hfirst]; rfl
    | none =>
      obtain ⟨-, hnone, hnew⟩ := h.searches.of_fail (List.Subset.refl _) hfirst
      have hdead : ∀ n ∈ reached, ¬ lead n reached := fun n hn =>
        (hnew n hn).resolve_left List.not_mem_nil
      exact absurd (h.of_dead hdead hK) hnone

theorem pass (h : Tells lead k X K) (e : Edge) : Tells lead (k.pass e) X K :=
  ⟨h.yields.pass e, h.searches.pass e, h.of_dead⟩

theorem enter (hlead : ∀ n, (lead n).Fades) (hled : p.Led lead here X) (h : Tells lead k X K) :
    Tells lead (p.enter here k) (fun passed => p.Reaches here passed (X passed))
      (p.Reaches here [] K) where
  yields := h.yields.enter
  searches := h.searches.enter hlead hled
  of_dead hdead hreaches := hreaches.of_dead hdead hled (h.of_dead hdead) id

end Tells

end Tells

end SourcePatch.Regex
