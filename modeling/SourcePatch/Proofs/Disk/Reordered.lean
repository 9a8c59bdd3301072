import Mathlib.Data.List.Nodup
import SourcePatch.Disk.Operations
import SourcePatch.Proofs.Disk.Shape

/-!
# The order of entries

The entries of a disk are listed in some order, which says nothing of the disk: what is at a place,
and where a path leads, is the same in any other order. Only the names in a directory are listed as
the entries are.

## Main definitions

* `Disk.Distinct`: no place has two entries.
* `Disk.Listed`: a disk whose entries are distinct and lie in directories.
* `Disk.SameContent`: the same is at each place of two disks.

## Main statements

* `Disk.Distinct.sameContent`: entries in another order are the same content.
* `Disk.SameContent.read`: the same content is read along every path.
* `Disk.Distinct.nodup_namesIn`: each name in a directory is listed once.
-/

namespace SourcePatch.Disk

/-- No place has two entries. -/
def Distinct (d : Disk) : Prop := (d.entries.map Prod.fst).Nodup

instance (d : Disk) : Decidable d.Distinct := by unfold Distinct; infer_instance

/-- A disk as it is kept: no place has two entries, and every entry lies in a directory. -/
structure Listed (d : Disk) : Prop where
  distinct : d.Distinct
  wellFormed : d.WellFormed

instance (d : Disk) : Decidable d.Listed :=
  decidable_of_iff (d.Distinct ∧ d.WellFormed) ⟨fun h => ⟨h.1, h.2⟩, fun h => ⟨h.1, h.2⟩⟩

/-- The same is at each place. -/
structure SameContent (d d' : Disk) : Prop where
  node? : d'.node? = d.node?
  workingDirectory : d'.workingDirectory = d.workingDirectory

variable {d d' : Disk} {l : Location} {n : Node} {name : String}

theorem mem_iff_lookup {es : List (Location × Node)} (h : (es.map Prod.fst).Nodup) :
    (l, n) ∈ es ↔ es.lookup l = some n := by
  induction es with
  | nil => simp
  | cons e es ih =>
    rw [List.map_cons, List.nodup_cons] at h
    have hfirst : (l, n) ∈ es → l ≠ e.1 := by
      rintro hmem rfl
      exact h.1 (List.mem_map.2 ⟨_, hmem, rfl⟩)
    have := ih h.2
    rw [List.mem_cons, List.lookup_cons]
    grind

/-- Entries in another order are the same content. -/
theorem Distinct.sameContent (hd : d.Distinct) {entries : List (Location × Node)}
    (h : entries.Perm d.entries) : d.SameContent { d with entries := entries } := by
  have hd' : Distinct { d with entries := entries } := (h.map Prod.fst).nodup_iff.2 hd
  refine ⟨funext fun l => ?_, rfl⟩
  unfold node?
  split
  · rfl
  · refine Option.ext fun n => ?_
    rw [← mem_iff_lookup hd, ← mem_iff_lookup hd']
    exact h.mem_iff

/-! ## Following paths -/

namespace SameContent

variable (h : d.SameContent d')
include h

theorem walk (here : Location) (names : List String) : d'.walk here names = d.walk here names := by
  induction names generalizing here with
  | nil => rfl
  | cons name rest ih =>
    simp only [Disk.walk, h.node?, ih]

theorem follow (links : Nat) (here : Location) (names : List String) :
    d'.follow links here names = d.follow links here names := by
  induction links generalizing here names with
  | zero =>
    rw [Disk.follow, Disk.follow, h.walk]
  | succ links ih =>
    rw [Disk.follow, Disk.follow, h.walk]
    simp only [ih]

theorem locate (p : Path) : d'.locate p = d.locate p := by
  simp only [Disk.locate, startOf, h.follow, h.workingDirectory]

theorem lookup (p : Path) : d'.lookup p = d.lookup p := by
  simp only [Disk.lookup, h.locate, h.node?]

theorem read (p : Path) : d'.read p = d.read p := by
  simp only [Disk.read, h.lookup]

theorem canonicalize (p : Path) : d'.canonicalize p = d.canonicalize p := by
  simp only [Disk.canonicalize, h.locate, h.node?]

theorem leadsSomewhere (p : Path) : d'.leadsSomewhere p = d.leadsSomewhere p := by
  simp only [Disk.leadsSomewhere, h.lookup]

end SameContent

/-! ## Listing a directory -/

/-- What an entry adds to the names in a directory. -/
theorem nameIn_eq_some_iff {k : Location} :
    (match k.getLast? with
      | some last => if k.dropLast = l then some last else none
      | none => none) = some name ↔ k = l ++ [name] := by
  cases k using List.reverseRecOn with
  | nil => simp
  | append_singleton above last => simp

theorem mem_namesIn_iff : name ∈ d.namesIn l ↔ l ++ [name] ∈ d.entries.map Prod.fst := by
  rw [namesIn, List.mem_filterMap, List.mem_map]
  exact exists_congr fun _ => and_congr_right fun _ => nameIn_eq_some_iff

/-- Each name in a directory is listed once. -/
theorem Distinct.nodup_namesIn (hd : d.Distinct) (l : Location) : (d.namesIn l).Nodup := by
  rw [namesIn, List.Nodup, List.pairwise_filterMap]
  refine (List.pairwise_map.1 hd).imp ?_
  intro e e' hne name hname name' hname' heq
  have hplace := nameIn_eq_some_iff.1 hname
  have hplace' := nameIn_eq_some_iff.1 hname'
  exact hne (by rw [hplace, hplace', heq])

theorem mem_namesIn_of_node? (h : d.node? (l ++ [name]) ≠ none) : name ∈ d.namesIn l := by
  obtain ⟨n, hn⟩ := Option.ne_none_iff_exists'.1 h
  exact mem_namesIn_iff.2 (List.mem_map_of_mem (mem_entries_of_node? (by simp) hn))

end SourcePatch.Disk
