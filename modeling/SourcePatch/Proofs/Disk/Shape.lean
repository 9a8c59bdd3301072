import Mathlib.Data.List.Induction
import SourcePatch.Disk.Basic

/-!
# The shape of a disk

In a disk that can exist every entry lies in a directory. Entries are put, replaced and taken away
one at a time; what stays is said here.

## Main definitions

* `Disk.WellFormed`: every entry lies in a directory.
* `Disk.Extends`: nothing is gone or changed, though there may be more.
* `Disk.GainsDirectories`: there may be more, but only directories.
-/

namespace SourcePatch.Disk

/-- Every entry lies in a directory. -/
def WellFormed (d : Disk) : Prop := ∀ e ∈ d.entries, d.node? e.1.dropLast = some .directory

instance (d : Disk) : Decidable d.WellFormed := by unfold WellFormed; infer_instance

@[simp] theorem node?_nil (d : Disk) : d.node? [] = some .directory := rfl

theorem mem_entries_of_node? {d : Disk} {l : Location} {n : Node} (hl : l ≠ [])
    (h : d.node? l = some n) : (l, n) ∈ d.entries := by
  have hlookup : d.entries.lookup l = some n := by simpa [node?, hl] using h
  obtain ⟨before, after, he, -⟩ := List.lookup_eq_some_iff.1 hlookup
  simp [he]

/-- Where no entry is a link there is none anywhere. -/
theorem node?_ne_link {d : Disk} (h : ∀ e ∈ d.entries, ∀ target, e.2 ≠ .link target) (l : Location)
    (target : Path) : d.node? l ≠ some (.link target) := by
  intro hlink
  have hl : l ≠ [] := by
    rintro rfl
    cases hlink
  exact h _ (mem_entries_of_node? hl hlink) target rfl

theorem WellFormed.parent {d : Disk} (hd : d.WellFormed) {l : Location} {name : String}
    (h : d.node? (l ++ [name]) ≠ none) : d.node? l = some .directory := by
  obtain ⟨n, hn⟩ := Option.ne_none_iff_exists'.1 h
  simpa using hd _ (mem_entries_of_node? (by simp) hn)

theorem WellFormed.dropLast {d : Disk} (hd : d.WellFormed) {l : Location}
    (h : d.node? l ≠ none) : d.node? l.dropLast = some .directory := by
  cases l using List.reverseRecOn with
  | nil => rfl
  | append_singleton l name => simpa using hd.parent h

/-- The way down to an entry exists. -/
theorem WellFormed.exists_of_isPrefix {d : Disk} (hd : d.WellFormed) {l m : Location}
    (hlm : l <+: m) (h : d.node? m ≠ none) : d.node? l ≠ none := by
  obtain ⟨names, rfl⟩ := hlm
  induction names using List.reverseRecOn with
  | nil => simpa using h
  | append_singleton names name ih =>
    refine ih ?_
    rw [← List.append_assoc] at h
    simp [hd.parent h]

theorem WellFormed.directory_of_append {d : Disk} (hd : d.WellFormed) {l : Location}
    {names : List String} (hne : names ≠ []) (h : d.node? (l ++ names) ≠ none) :
    d.node? l = some .directory := by
  obtain ⟨name, rest, rfl⟩ := List.exists_cons_of_ne_nil hne
  have hfirst : d.node? (l ++ [name]) ≠ none := hd.exists_of_isPrefix ⟨rest, by simp⟩ h
  exact hd.parent hfirst

/-! ## One entry changed -/

section

variable {d : Disk} {l m : Location} {n : Node}

theorem ne_nil_of_node? (h : d.node? l ≠ some .directory) : l ≠ [] := by
  rintro rfl
  exact h rfl

theorem ne_nil_of_free (h : d.node? l = none) : l ≠ [] := by
  rintro rfl
  cases h

theorem node?_put (hl : l ≠ []) : (d.put l n).node? m = if m = l then some n else d.node? m := by
  split
  · next h => rw [h, node?_put_self hl]
  · next h => exact node?_put_of_ne h n

theorem erase_of_node?_eq_none (h : d.node? l = none) : d.erase l = d := by
  have hlookup : d.entries.lookup l = none := by simpa [node?, ne_nil_of_free h] using h
  have hfree : ∀ e ∈ d.entries, (e.1 != l) = true := by
    intro e he
    have hne := List.lookup_eq_none_iff.1 hlookup e he
    grind
  rw [erase, List.filter_eq_self.2 hfree]

theorem erase_put : (d.put l n).erase l = d.erase l := by
  simp [erase, put]

theorem put_put {n' : Node} : (d.put l n).put l n' = d.put l n' := by
  simp [erase, put]

theorem WellFormed.put (hd : d.WellFormed) (hp : d.node? l.dropLast = some .directory)
    (hl : d.node? l ≠ some .directory) : (d.put l n).WellFormed := by
  have hne := ne_nil_of_node? hl
  intro e he
  have keep : ∀ m, d.node? m = some .directory → (d.put l n).node? m = some .directory := by
    intro m hm
    rwa [node?_put_of_ne (by rintro rfl; exact hl hm)]
  obtain rfl | he : e = (l, n) ∨ e ∈ d.entries := by
    simp only [Disk.put, Disk.erase, List.mem_cons, List.mem_filter] at he
    exact he.imp_right And.left
  · exact keep _ hp
  · exact keep _ (hd e he)

end

/-! ## More of a disk -/

/-- All that is in `d` is in `d'`, unchanged. -/
def Extends (d d' : Disk) : Prop := ∀ l n, d.node? l = some n → d'.node? l = some n

/-- All that is in `d` is in `d'`, and what else there is are directories. -/
def GainsDirectories (d d' : Disk) : Prop :=
  ∀ l, d'.node? l = d.node? l ∨ d.node? l = none ∧ d'.node? l = some .directory

theorem GainsDirectories.refl (d : Disk) : d.GainsDirectories d := fun _ => .inl rfl

theorem GainsDirectories.trans {d₁ d₂ d₃ : Disk} (h : d₁.GainsDirectories d₂)
    (h' : d₂.GainsDirectories d₃) : d₁.GainsDirectories d₃ := by
  intro l
  have h₁ := h l
  have h₂ := h' l
  grind

theorem GainsDirectories.extends {d d' : Disk} (h : d.GainsDirectories d') : d.Extends d' := by
  intro l n hl
  obtain hsame | ⟨hfree, -⟩ := h l
  · rw [hsame, hl]
  · rw [hfree] at hl
    cases hl

end SourcePatch.Disk
