import SourcePatch.Proofs.Disk.Parent
import SourcePatch.Tree.Guard

/-!
# Targets on changed disks

How a target is written decides alone which path it has. What the disk adds is whether the nearest
place that exists lies inside the tree; for a target that exists, this is where it leads.
-/

namespace SourcePatch

namespace Root

variable {r : Root} {d d' : Disk} {target file p : Path} {l : Location} {n : Node}

/-- Whether a place lies in the tree. -/
def Contains (r : Root) (l : Location) : Prop := r.location <+: l

instance (r : Root) (l : Location) : Decidable (r.Contains l) := by
  unfold Contains
  infer_instance

theorem Contains.trans {r : Root} {l m : Location} (h : r.Contains l) (hlm : l <+: m) :
    r.Contains m := List.IsPrefix.trans h hlm

/-- An entry of a directory lies in the tree if the directory does, unless it is the root itself. -/
theorem contains_concat_iff {r : Root} {l : Location} {name : String}
    (hne : r.location ≠ l ++ [name]) : r.Contains (l ++ [name]) ↔ r.Contains l := by
  simp [Contains, List.prefix_concat_iff, hne]

theorem isPrefixOf_eq_decide (r : Root) (l : Location) :
    r.location.isPrefixOf l = decide (r.Contains l) := by
  rw [Bool.eq_iff_iff, List.isPrefixOf_iff_prefix, decide_eq_true_iff]
  rfl

theorem resolve_eq (r : Root) (d : Disk) (target : Path) : r.resolve d target =
    if target.isEmpty then .error .emptyPath
    else (checkComponents target target.components).bind fun _ =>
      (r.checkAncestor d (r.path.join target)).bind fun _ => .ok (r.path.join target) := rfl

theorem resolve_eq_ok_iff : r.resolve d target = .ok file ↔
    target.isEmpty = false ∧ checkComponents target target.components = .ok () ∧
      r.checkAncestor d (r.path.join target) = .ok () ∧ file = r.path.join target := by
  rw [resolve_eq]
  cases target.isEmpty with
  | true => simp
  | false =>
    cases checkComponents target target.components with
    | error e => simp [Except.bind]
    | ok u => cases r.checkAncestor d (r.path.join target) <;> simp [Except.bind, eq_comm]

theorem checkAncestor_of_nearest {existing : Path}
    (hp : p.ancestors.find? d.leadsSomewhere = some existing)
    (hl : d.canonicalize existing = .ok l) :
    r.checkAncestor d p =
      if r.Contains l then .ok () else .error (.outsideTree (.ofNames l) r.path) := by
  unfold checkAncestor
  rw [hp]
  dsimp only
  rw [hl]
  simp [isPrefixOf_eq_decide]

/-- A target that exists is inside the tree if the place is to which it leads. -/
theorem resolve_of_locate (h : r.resolve d target = .ok file) (hl : d'.locate file = .ok l)
    (hn : d'.node? l = some n) :
    r.resolve d' target =
      if r.Contains l then .ok file else .error (.outsideTree (.ofNames l) r.path) := by
  obtain ⟨hempty, hparts, -, rfl⟩ := resolve_eq_ok_iff.1 h
  have hfind := Disk.nearest_of_leads (Disk.leadsSomewhere_iff.2 ⟨l, n, hl, hn⟩)
  rw [resolve_eq, hempty, hparts,
    checkAncestor_of_nearest hfind (Disk.canonicalize_of_locate hl hn),
    if_neg Bool.false_ne_true]
  split <;> rfl

/-- What is read is read inside the tree. -/
theorem contains_of_resolve (h : r.resolve d target = .ok file) (hl : d.locate file = .ok l)
    (hn : d.node? l = some n) : r.Contains l := by
  have hr := resolve_of_locate h hl hn
  rw [h] at hr
  by_contra hc
  rw [if_neg hc] at hr
  cases hr

end Root

/-- A tree with one file. -/
def Disk.oneFile (content : String) : Disk where
  entries := [(["tree"], .directory), (["tree", "f"], .file content.toUTF8 0o644)]
  workingDirectory := []

theorem Disk.node?_oneFile_ne_link (content : String) (l : Location) (target : Path) :
    (oneFile content).node? l ≠ some (.link target) :=
  node?_ne_link (by simp [oneFile]) l target

/-- A tree with a link to a place outside of it, and there a link that leads back in. -/
def Disk.outAndBack : Disk where
  entries := [
    (["tree"], .directory), (["tree", "inner"], .file "a".toUTF8 0o644),
    (["tree", "escape"], .link (.ofString "../outside")), (["outside"], .directory),
    (["outside", "f"], .link (.ofString "../tree/inner"))]
  workingDirectory := []

end SourcePatch
