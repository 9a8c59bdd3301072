import Mathlib.Logic.Relation
import SourcePatch.Proofs.Disk.Parent

/-!
# Paths that lead nowhere

Names are followed step by step. A path that leads nowhere comes to a place from which there is no
next step, and what is met there is what a look at the path reports: only one thing of these is
that something is missing.

## Main definitions

* `Disk.Step`: one step along names.
* `Disk.Stuck`: why there is no next step.
* `Disk.Unreachable`: why a path leads nowhere.

## Main statements

* `Disk.travel_eq_error_iff`: following fails exactly where a way gets stuck.
* `Disk.lookup_eq_error_iff`: a look at a path reports why it leads nowhere.
-/

namespace SourcePatch.Disk

/-- The links that may still be followed, where one is, and the names that are left. -/
abbrev Progress := Nat × Location × List String

/-- One step along names. -/
inductive Step (d : Disk) : Progress → Progress → Prop
  | idle {links : Nat} {here : Location} {name : String} {rest : List String} :
    d.node? here = some .directory → (name = "" ∨ name = ".") →
    Step d (links, here, name :: rest) (links, here, rest)
  | up {links : Nat} {here : Location} {rest : List String} :
    d.node? here = some .directory → Step d (links, here, ".." :: rest) (links, here.dropLast, rest)
  | enter {links : Nat} {here : Location} {name : String} {rest : List String} {n : Node} :
    d.node? here = some .directory → Ordinary name → d.node? (here ++ [name]) = some n →
    (∀ target, n ≠ .link target) → Step d (links, here, name :: rest) (links, here ++ [name], rest)
  | link {links : Nat} {here : Location} {name : String} {rest : List String} {target : Path} :
    d.node? here = some .directory → Ordinary name →
    d.node? (here ++ [name]) = some (.link target) →
    Step d (links + 1, here, name :: rest)
      (links, linkStart here target, target.segments ++ rest)

/-- Why there is no next step. -/
inductive Stuck (d : Disk) : Progress → IoError → Prop
  /-- There are names left behind something that is no directory. -/
  | blocked {links : Nat} {here : Location} {name : String} {rest : List String} :
    d.node? here ≠ some .directory → Stuck d (links, here, name :: rest) .notADirectory
  | long {links : Nat} {here : Location} {name : String} {rest : List String} :
    d.node? here = some .directory → ¬(name = "" ∨ name = ".") → name ≠ ".." →
    nameLimit < name.utf8ByteSize → Stuck d (links, here, name :: rest) .nameTooLong
  | missing {links : Nat} {here : Location} {name : String} {rest : List String} :
    d.node? here = some .directory → Ordinary name → d.node? (here ++ [name]) = none →
    Stuck d (links, here, name :: rest) .noSuchFile
  /-- There is one link too many on the way. -/
  | exhausted {here : Location} {name : String} {rest : List String} {target : Path} :
    d.node? here = some .directory → Ordinary name →
    d.node? (here ++ [name]) = some (.link target) →
    Stuck d (0, here, name :: rest) .tooManyLinks

/-- Why a path leads nowhere: its text cannot name anything, or its way gets stuck. -/
inductive Unreachable (d : Disk) (p : Path) : IoError → Prop
  | nul : '\x00' ∈ p.text.toList → Unreachable d p .nulInPath
  | long : '\x00' ∉ p.text.toList → pathLimit ≤ p.text.utf8ByteSize → Unreachable d p .nameTooLong
  | stuck {s : Progress} {e : IoError} : checkPath p = .ok () →
    Relation.ReflTransGen d.Step (linkLimit, d.startOf p, p.segments) s → d.Stuck s e →
    Unreachable d p e

variable {d : Disk} {p : Path} {e : IoError}

/-! ## Following step by step -/

theorem travel_of_step {s t : Progress} (h : d.Step s t) :
    d.travel s.1 s.2.1 s.2.2 = d.travel t.1 t.2.1 t.2.2 := by
  cases h with
  | idle hd hi => exact travel_idle hd hi
  | up hd => exact travel_up hd
  | enter hd ho hn hl => exact travel_enter hd ho hn hl
  | link hd ho hn => exact travel_link hd ho hn

/-- Where a way comes to by steps, it goes on as before. -/
theorem travel_of_steps {s t : Progress} (h : Relation.ReflTransGen d.Step s t) :
    d.travel s.1 s.2.1 s.2.2 = d.travel t.1 t.2.1 t.2.2 := by
  induction h with
  | refl => rfl
  | tail _ hstep ih => exact ih.trans (travel_of_step hstep)

theorem travel_of_stuck {s : Progress} (h : d.Stuck s e) :
    d.travel s.1 s.2.1 s.2.2 = .error e := by
  cases h with
  | blocked hd => exact travel_of_not_directory hd
  | long hd hi hu hl => exact travel_long hd hi hu hl
  | missing hd ho hn => exact travel_missing hd ho hn
  | exhausted hd ho hn => exact travel_link_zero hd ho hn

theorem exists_stuck_of_travel {links : Nat} {here : Location} {names : List String}
    (h : d.travel links here names = .error e) :
    ∃ s, Relation.ReflTransGen d.Step (links, here, names) s ∧ d.Stuck s e := by
  induction links, here, names using travel_induction d with
  | nil links here => rw [travel_nil] at h; cases h
  | blocked links here name rest hd =>
    rw [travel_of_not_directory hd] at h
    cases h
    exact ⟨_, .refl, .blocked hd⟩
  | idle links here name rest hd hi ih =>
    obtain ⟨s, hway, hs⟩ := ih ((travel_idle hd hi) ▸ h)
    exact ⟨s, .head (.idle hd hi) hway, hs⟩
  | up links here rest hd ih =>
    obtain ⟨s, hway, hs⟩ := ih ((travel_up hd) ▸ h)
    exact ⟨s, .head (.up hd) hway, hs⟩
  | long links here name rest hd hi hu hl =>
    rw [travel_long hd hi hu hl] at h
    cases h
    exact ⟨_, .refl, .long hd hi hu hl⟩
  | missing links here name rest hd ho hn =>
    rw [travel_missing hd ho hn] at h
    cases h
    exact ⟨_, .refl, .missing hd ho hn⟩
  | exhausted here name rest target hd ho hn =>
    rw [travel_link_zero hd ho hn] at h
    cases h
    exact ⟨_, .refl, .exhausted hd ho hn⟩
  | link links here name rest target hd ho hn ih =>
    obtain ⟨s, hway, hs⟩ := ih ((travel_link hd ho hn) ▸ h)
    exact ⟨s, .head (.link hd ho hn) hway, hs⟩
  | enter links here name rest n hd ho hn hl ih =>
    obtain ⟨s, hway, hs⟩ := ih ((travel_enter hd ho hn hl) ▸ h)
    exact ⟨s, .head (.enter hd ho hn hl) hway, hs⟩

/-- Following fails exactly where a way gets stuck. -/
theorem travel_eq_error_iff {links : Nat} {here : Location} {names : List String} :
    d.travel links here names = .error e ↔
      ∃ s, Relation.ReflTransGen d.Step (links, here, names) s ∧ d.Stuck s e := by
  refine ⟨exists_stuck_of_travel, ?_⟩
  rintro ⟨s, hway, hs⟩
  exact (travel_of_steps hway).trans (travel_of_stuck hs)

/-! ## Looking at a path -/

theorem unreachable_of_checkPath (hp : p.isEmpty = false) (h : checkPath p = .error e) :
    d.Unreachable p e := by
  unfold checkPath at h
  rw [hp] at h
  split at h
  · next hnul =>
    cases h
    exact .nul (List.contains_iff_mem.1 hnul)
  · next hnul =>
    rw [if_neg Bool.false_ne_true] at h
    split at h
    · next hlong =>
      cases h
      exact .long (by simpa using hnul) hlong
    · cases h

/-- A path cannot be followed to its end exactly if it leads nowhere. -/
theorem locate_eq_error_iff (hp : p.isEmpty = false) :
    d.locate p = .error e ↔ d.Unreachable p e := by
  rw [locate_eq]
  constructor
  · intro h
    cases hc : checkPath p with
    | error err =>
      rw [hc] at h
      cases h
      exact unreachable_of_checkPath hp hc
    | ok u =>
      rw [hc] at h
      cases ht : d.travel linkLimit (d.startOf p) p.segments with
      | ok r => rw [ht] at h; cases h
      | error err =>
        rw [ht] at h
        cases h
        obtain ⟨s, hway, hs⟩ := exists_stuck_of_travel ht
        exact .stuck hc hway hs
  · intro h
    cases h with
    | nul hnul => rw [checkPath, if_pos (List.contains_iff_mem.2 hnul)]; rfl
    | long hnul hlong =>
      rw [checkPath, if_neg (by simpa using hnul), hp, if_neg Bool.false_ne_true, if_pos hlong]
      rfl
    | stuck hc hway hs =>
      rw [hc, travel_eq_error_iff.2 ⟨_, hway, hs⟩]
      rfl

/-- A look at an absolute path reports why it leads nowhere. -/
theorem lookup_eq_error_iff (hd : d.WellFormed) (hp : p.isAbsolute = true) :
    d.lookup p = .error e ↔ d.Unreachable p e := by
  rw [← locate_eq_error_iff (isEmpty_of_absolute hp), lookup]
  cases hl : d.locate p with
  | error err => simp [bind, Except.bind]
  | ok l =>
    -- what the way ends at is there
    obtain ⟨-, m, ht⟩ := locate_eq_ok_iff.1 hl
    rw [startOf_of_absolute hp] at ht
    obtain ⟨n, hn⟩ := Option.ne_none_iff_exists'.1 (exists_of_travel hd ht (by simp))
    simp [bind, Except.bind, hn]

theorem not_leadsSomewhere_iff : d.leadsSomewhere p = false ↔ ∃ e, d.lookup p = .error e := by
  unfold leadsSomewhere
  cases d.lookup p <;> simp

/-- To read a path that leads nowhere is to find no file, if something is missing on its way, and
to fail if not. -/
theorem readBytes_of_lookup (h : d.lookup p = .error e) :
    readBytes d p = if e = .noSuchFile then .ok none else .error (.io e) := by
  unfold readBytes read? read
  rw [h]
  cases e <;> rfl

end SourcePatch.Disk
