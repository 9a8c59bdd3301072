import SourcePatch.Proofs.Engine.Confinement

/-!
# Plans on redirected trees

A planned write is carried out under the path that was accepted for the plan. If a link is put on
that path in between, it is followed. So what is touched depends on where the parent of the target
leads by then: all of it lies in the tree exactly if the nearest place above it does, which is what
is checked for a plan and not checked again.

## Main statements

* `stale_confined_iff`: what a planned write touches on any disk.
* `stale_escapes`: that need not be in the tree.
-/

namespace SourcePatch

namespace Disk

variable {a b l m : Location} {d d' : Disk} {directory t : Path}

/-- Between the two ends there was nothing. -/
theorem Grown.free (h : Grown a d b d') (ham : a <+: m) (hmb : m <+: b) (hne : m ≠ a) :
    d.node? m = none := by
  induction h with
  | start => exact absurd (hmb.eq_of_length_le ham.length_le) hne
  | make hgrown hdir hfree ih =>
    obtain rfl | hmb := List.prefix_concat_iff.1 hmb
    · by_contra hn
      obtain ⟨n, hn⟩ := Option.ne_none_iff_exists'.1 hn
      rw [hgrown.gainsDirectories.extends _ _ hn] at hfree
      cases hfree
    · exact ih hmb

/-- What was there and is above the lower end is above the upper end. -/
theorem Grown.isPrefix_of_exists (h : Grown a d b d') (hn : d.node? m ≠ none) (hmb : m <+: b) :
    m <+: a := by
  obtain hma | ham := List.prefix_or_prefix_of_prefix hmb h.isPrefix
  · exact hma
  · by_contra hnot
    refine hn (h.free ham hmb ?_)
    rintro rfl
    exact hnot (List.prefix_refl m)

/-- A temporary file is made in a directory that is there. -/
theorem directory_of_createTemporary (hp : directory.Plain) {attempts n : Nat}
    (h : createTemporary d directory attempts n = .ok (t, d')) :
    ∃ b, d.locate directory = .ok b ∧ d.node? b = some .directory := by
  obtain ⟨k, e, htk, he, -, -⟩ := createTemporary_eq_ok h
  obtain ⟨names, hseg, rfl⟩ := segments_temporary hp k
  rw [← htk] at hseg
  obtain ⟨hc, above, name, parent, m, hsplit, ht, hdir, -, -⟩ := locateEntry_eq_ok_iff.1 he
  have hpath : t = .ofNames (names ++ [temporaryName k]) := by
    rw [Path.ofNames, if_neg (by simp), ← hseg]
  rw [hpath] at hc
  rw [hseg, ← List.cons_append] at hsplit
  obtain ⟨rfl, -⟩ := List.append_inj' hsplit rfl
  rw [startOf_of_absolute (Path.isAbsolute_iff.2 ⟨_, hseg, by simp⟩),
    travel_idle rfl (.inl rfl)] at ht
  refine ⟨parent, ?_, hdir⟩
  rw [locate_ofNames (checkPath_of_isPrefix (List.prefix_append _ _) hc), ht]
  rfl

end Disk

/-! ## Entries that an edit changes -/

/-- An edit changes an entry of the directory to which the parent of its target leads, and that is
no directory. -/
theorem Edit.entry_of_changed {e : Edit} {d d' : Disk} {l : Location}
    (habs : e.file.isAbsolute = true) (hup : ".." ∉ e.file.segments)
    (h : e.Begins d d' ∨ d' = (e.applyIn d).2) (hl : d'.node? l ≠ d.node? l) :
    ∃ q b name, e.file.parent? = some q ∧ d.locate q = .ok b ∧ d.node? b = some .directory ∧
      l = b ++ [name] ∧ d.node? l ≠ some .directory := by
  obtain hbegin | rfl := h
  · obtain @⟨current, q, t, d', -, -, -, hq, -, ht⟩ := id hbegin
    obtain ⟨b, hb, hdir⟩ := Disk.directory_of_createTemporary (.of_parent? habs hup hq) ht
    obtain ⟨name, hfree, rfl⟩ := begins_beside hup habs hq hb hbegin
    have heq : l = b ++ [name] := by
      by_contra hne
      exact hl (Disk.node?_put_of_ne hne _)
    exact ⟨q, b, name, hq, hb, hdir, heq, by simp [heq, hfree]⟩
  · have hentry := e.applyIn_beside d hl
    have hnode : d.node? l ≠ some .directory := by
      obtain ⟨err, he⟩ | ⟨-, he⟩ | ⟨current, l', mode, -, hl', hdir, he⟩ := e.applyIn_cases d
      · rw [he] at hl; exact absurd rfl hl
      · rw [he] at hl; exact absurd rfl hl
      · rw [hentry] at hl'
        cases hl'
        exact hdir
    obtain ⟨q, b, name, hq, hb, hdir, -, rfl⟩ := Disk.locate_parent habs hentry
    exact ⟨q, b, name, hq, hb, hdir, rfl, hnode⟩

/-! ## What a write touches -/

/-- Before anything is made for a write to a target with the parent `q`, the nearest place above `q`
is `a`; then directories are made from there down to `b`. -/
structure PlannedWrite.Prepares (w : PlannedWrite) (d : Disk) (q : Path) (a b : Location)
    (d₁ : Disk) : Prop where
  parent : w.edit.file.parent? = some q
  nearest : ∃ existing, q.ancestors.find? d.leadsSomewhere = some existing ∧
    d.canonicalize existing = .ok a
  grown : Disk.Grown a d b d₁

section

variable {w : PlannedWrite} {r : Root} {d d' d₁ : Disk} {l a b : Location} {q : Path}

namespace PlannedWrite.Prepares

variable (h : w.Prepares d q a b d₁)
include h

/-- The check of the parent is one of the nearest place. -/
theorem checkAncestor_iff : r.checkAncestor d q = .ok () ↔ r.Contains a := by
  obtain ⟨existing, hfind, ha⟩ := h.nearest
  rw [Root.checkAncestor_of_nearest hfind ha]
  by_cases hin : r.Contains a <;> simp [hin]

/-- If there is a tree, then what is made for a write is in it only if the nearest place is. -/
theorem contains_nearest (hroot : d.node? r.location = some .directory) (hb : r.Contains b) :
    r.Contains a :=
  h.grown.isPrefix_of_exists (by simp [hroot]) hb

theorem contains_iff_of_made (hl : d₁.node? l ≠ d.node? l) :
    (r.Contains a → r.Contains l) ∧
      (d.node? r.location = some .directory → r.Contains l → r.Contains a) := by
  obtain hsame | ⟨-, -, hal, hlb⟩ := h.grown.node?_cases l
  · exact absurd hsame hl
  · exact ⟨fun hin => hin.trans hal, fun hroot hin => h.contains_nearest hroot (hin.trans hlb)⟩

theorem contains_iff_of_entry {name : String} (hl : l = b ++ [name])
    (hnode : d₁.node? l ≠ some .directory) :
    (r.Contains a → r.Contains l) ∧
      (d.node? r.location = some .directory → r.Contains l → r.Contains a) := by
  subst hl
  refine ⟨fun hin => hin.trans (h.grown.isPrefix.trans (List.prefix_append _ _)), ?_⟩
  intro hroot hin
  have hne : r.location ≠ b ++ [name] := by
    intro heq
    rw [← heq, h.grown.gainsDirectories.extends _ _ hroot] at hnode
    exact hnode rfl
  exact h.contains_nearest hroot ((Root.contains_concat_iff hne).1 hin)

end PlannedWrite.Prepares

variable (habs : w.edit.file.isAbsolute = true) (hup : ".." ∉ w.edit.file.segments)
  (hd : d.WellFormed)
include habs hup hd

theorem PlannedWrite.prepares_of_made (hl : (w.prepare r d).2.node? l ≠ d.node? l) :
    ∃ q a b, w.Prepares d q a b (w.prepare r d).2 := by
  unfold PlannedWrite.prepare at hl ⊢
  split at hl
  · next hcreate =>
    rw [if_pos hcreate]
    obtain ⟨err, herr⟩ | ⟨q, existing, a, b, hq, hfind, ha, hg, -⟩ :=
      Root.ensureParent_grown (r := r) hd habs hup
    · rw [herr] at hl
      exact absurd rfl hl
    · have hlead := List.find?_some hfind
      exact ⟨q, a, b, hq, ⟨existing, hfind, Disk.canonicalize_of_leadsSomewhere hlead ha⟩, hg⟩
  · exact absurd rfl hl

/-- When a write has come to the directory of its target, that has been made from the nearest place
above it, or was there. -/
theorem PlannedWrite.prepares_of_located (hprep : w.prepare r d = (.ok (), d₁))
    (hq : w.edit.file.parent? = some q) (hb : d₁.locate q = .ok b)
    (hdir : d₁.node? b = some .directory) : ∃ a, w.Prepares d q a b d₁ := by
  unfold PlannedWrite.prepare at hprep
  split at hprep
  · obtain ⟨err, herr⟩ | ⟨q', existing, a, b', hq', hfind, ha, hg, hok⟩ :=
      Root.ensureParent_grown (r := r) hd habs hup
    · rw [hprep] at herr
      cases herr
    · rw [hprep] at hg hok
      rw [hq] at hq'
      cases hq'
      have hb' := (hok rfl).1
      rw [hb] at hb'
      cases hb'
      have hlead := List.find?_some hfind
      exact ⟨a, hq, ⟨existing, hfind, Disk.canonicalize_of_leadsSomewhere hlead ha⟩, hg⟩
  · cases hprep
    have hlead := Disk.leadsSomewhere_iff.2 ⟨b, _, hb, hdir⟩
    exact ⟨b, hq, ⟨q, Disk.nearest_of_leads hlead, Disk.canonicalize_of_leadsSomewhere hlead hb⟩,
      .start⟩

/-- What is touched on the way of a write lies in the tree if the nearest place above its directory
does, and only then. -/
theorem PlannedWrite.Passes.contains_iff (hpass : w.Passes r d d')
    (hl : d'.node? l ≠ d.node? l) : ∃ q, w.edit.file.parent? = some q ∧
      (r.checkAncestor d q = .ok () → r.Contains l) ∧
      (d.node? r.location = some .directory → r.Contains l → r.checkAncestor d q = .ok ()) := by
  by_cases hmade : (w.prepare r d).2.node? l = d.node? l
  swap
  · obtain ⟨q, a, b, h⟩ := PlannedWrite.prepares_of_made habs hup hd hmade
    obtain ⟨hin, hout⟩ := h.contains_iff_of_made (r := r) hmade
    exact ⟨q, h.parent, fun hc => hin (h.checkAncestor_iff.1 hc),
      fun hroot hc => h.checkAncestor_iff.2 (hout hroot hc)⟩
  · -- directories are not what is touched, so it is the edit that does
    obtain ⟨d₁, hprep, hedit⟩ : ∃ d₁, w.prepare r d = (.ok (), d₁) ∧
        (w.edit.Begins d₁ d' ∨ d' = (w.edit.applyIn d₁).2) := by
      cases hpass with
      | prepared => exact absurd hmade hl
      | begun hprep hbegin => exact ⟨_, hprep, .inl hbegin⟩
      | done =>
        rw [commit_eq_prepare] at hl ⊢
        rcases hprep : w.prepare r d with ⟨_ | _, d₁⟩
        · rw [hprep] at hl hmade
          exact absurd hmade hl
        · exact ⟨d₁, rfl, .inr rfl⟩
    rw [hprep] at hmade
    obtain ⟨q, b, name, hq, hb, hdir, heq, hnode⟩ :=
      Edit.entry_of_changed habs hup hedit (by rwa [hmade])
    obtain ⟨a, h⟩ := PlannedWrite.prepares_of_located habs hup hd hprep hq hb hdir
    obtain ⟨hin, hout⟩ := h.contains_iff_of_entry (r := r) heq hnode
    exact ⟨q, hq, fun hc => hin (h.checkAncestor_iff.1 hc),
      fun hroot hc => h.checkAncestor_iff.2 (hout hroot hc)⟩

end

/-- A plan that was made on one disk is carried out on another. What it touches there lies in the
tree if the nearest place above the parent of its target does, and, as long as there is a tree, only
then. -/
theorem stale_confined_iff {p : Patch} {w : PlannedWrite} {r : Root} {d₀ d d' : Disk} {l : Location}
    (hd : d.WellFormed) (hplan : p.plan r d₀ = .ok (.write w)) (hpass : w.Passes r d d')
    (hl : d'.node? l ≠ d.node? l) :
    ∃ q, w.edit.file.parent? = some q ∧
      (r.checkAncestor d q = .ok () → r.Contains l) ∧
      (d.node? r.location = some .directory → r.Contains l → r.checkAncestor d q = .ok ()) := by
  obtain ⟨current, hf, hread, -, -⟩ := Patch.plan_write hplan
  have ht := Path.segments_ofString_ne_nil p.file
  exact hpass.contains_iff (Root.isAbsolute_of_resolve hf ht) (Root.descends_of_read hf ht hread)
    hd hl

/-- A tree with two directories that hold a file each, and another such directory beside it. -/
def Disk.withDirectories : Disk where
  entries := [
    (["tree"], .directory), (["tree", "dir"], .directory),
    (["tree", "dir", "f"], .file "a".toUTF8 0o644), (["tree", "other"], .directory),
    (["tree", "other", "f"], .file "a".toUTF8 0o644), (["outside"], .directory),
    (["outside", "f"], .file "a".toUTF8 0o644)]
  workingDirectory := []

/-- A directory in the tree is gone, and in its place is a link. -/
def Disk.redirected (target : List String) : Disk :=
  (Disk.withDirectories.eraseTree ["tree", "dir"]).put ["tree", "dir"] (.link ⟨target⟩)

def dirPatch : Patch := ⟨"dir", "dir/f", none, .transform [⟨"letter", .literal "a", "b"⟩] none⟩

/-- The write that is planned for the file in the directory. -/
def dirWrite : PlannedWrite := ⟨⟨⟨["", "tree", "dir", "f"]⟩, "b", .exact "a"⟩, some "a"⟩

/-- The write was planned for a directory that has since become a link. It stays in the tree if the
link does; and if it does not stay there, the check would have shown it. -/
theorem stale_confined_iff_of_redirected :
    (dirWrite.Passes ⟨["tree"]⟩ (.redirected ["other"])
        ((Disk.redirected ["other"]).put ["tree", "other", "f"] (.file "b".toUTF8 0o644)) ∧
      Root.Contains ⟨["tree"]⟩ ["tree", "other", "f"] ∧
      Root.checkAncestor ⟨["tree"]⟩ (.redirected ["other"]) ⟨["", "tree", "dir"]⟩ = .ok ()) ∧
    dirWrite.Passes ⟨["tree"]⟩ (.redirected ["..", "outside"])
        ((Disk.redirected ["..", "outside"]).put ["outside", "f"] (.file "b".toUTF8 0o644)) ∧
      Root.checkAncestor ⟨["tree"]⟩ (.redirected ["..", "outside"]) ⟨["", "tree", "dir"]⟩ ≠
        .ok () := by
  have hplan : dirPatch.plan ⟨["tree"]⟩ .withDirectories = .ok (.write dirWrite) := by rfl
  have hparent : dirWrite.edit.file.parent? = some ⟨["", "tree", "dir"]⟩ := by rfl
  have hinside : dirWrite.Passes ⟨["tree"]⟩ (.redirected ["other"])
      ((Disk.redirected ["other"]).put ["tree", "other", "f"] (.file "b".toUTF8 0o644)) := .done
  have houtside : dirWrite.Passes ⟨["tree"]⟩ (.redirected ["..", "outside"])
      ((Disk.redirected ["..", "outside"]).put ["outside", "f"] (.file "b".toUTF8 0o644)) := .done
  obtain ⟨q, hq, -, hback⟩ := stale_confined_iff (l := ["tree", "other", "f"]) (by decide) hplan
    hinside (by decide)
  obtain ⟨q', hq', hin, -⟩ := stale_confined_iff (l := ["outside", "f"]) (by decide) hplan houtside
    (by decide)
  rw [hparent] at hq hq'
  cases hq
  cases hq'
  have hcontains : Root.Contains ⟨["tree"]⟩ ["tree", "other", "f"] := by decide
  exact ⟨⟨hinside, hcontains, hback (by decide) hcontains⟩, houtside,
    fun hcheck => absurd (hin hcheck) (by decide)⟩

/-- The write that was planned before goes through the link. -/
theorem stale_escapes :
    ¬ ∀ (p : Patch) (w : PlannedWrite) (r : Root) (d₀ d d' : Disk) (l : Location),
      d₀.WellFormed → d.WellFormed → Root.ofPath d₀ r.path = .ok r → Root.ofPath d r.path = .ok r →
      p.plan r d₀ = .ok (.write w) → w.Passes r d d' → d'.node? l ≠ d.node? l → r.Contains l := by
  intro hall
  have hplan : dirPatch.plan ⟨["tree"]⟩ .withDirectories = .ok (.write dirWrite) := by rfl
  have hpass : dirWrite.Passes ⟨["tree"]⟩ (.redirected ["..", "outside"])
      ((Disk.redirected ["..", "outside"]).put ["outside", "f"] (.file "b".toUTF8 0o644)) := .done
  have hin := hall dirPatch dirWrite ⟨["tree"]⟩ .withDirectories (.redirected ["..", "outside"]) _
    ["outside", "f"] (by decide) (by decide) (by rfl) (by rfl) hplan hpass (by decide)
  exact absurd hin (by decide)

end SourcePatch
