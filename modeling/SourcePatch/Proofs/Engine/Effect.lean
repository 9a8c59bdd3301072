import SourcePatch.Proofs.Engine.Confinement

/-!
# What a patch leaves behind

However a patch ends, little may have changed: directories were made above the target, if it was to
be a new file, and the entry that the target names is another one, if the patch was applied.

## Main definitions

* `Patch.Prepared`: a write was planned, and directories were made for it.
* `Patch.KeepsAt`: at a location all is as before, up to a new directory.
* `Patch.Replaces`: besides, there is a file at the entry of the target.

## Main statements

* `Patch.carryOut_cases`: the ways in which a patch ends.
* `Patch.Prepared.keepsAt`, `Patch.Prepared.replaces`: what is as it was.
-/

namespace SourcePatch

variable {p : Patch} {w : PlannedWrite} {r : Root} {d d' : Disk}

/-- The directories that are made for a file are above it. -/
theorem Root.ensureParent_makes {file : Path} (hp : file.isAbsolute = true) :
    Disk.Makes file.ancestors.tail d (r.ensureParent d file).2 := by
  cases hq : file.parent? with
  | none => rw [ensureParent, hq]
  | some q =>
    rw [ensureParent_eq r d hq, Path.ancestors_of_parent? hp hq, List.tail_cons]
    split
    · exact Disk.makes_makeChain d q.ancestors
    · exact .refl

theorem Path.plain_of_mem_tail {file q : Path} (hp : file.isAbsolute = true)
    (hup : ".." ∉ file.segments) (hq : q ∈ file.ancestors.tail) : q.Plain := by
  cases hparent : file.parent? with
  | none =>
    rw [ancestors, ancestorsUpTo, hparent] at hq
    cases hq
  | some q' =>
    rw [ancestors_of_parent? hp hparent, List.tail_cons] at hq
    exact (Plain.of_parent? hp hup hparent).of_mem_ancestors hq

namespace Patch

/-- A write was planned, and directories above its target may have been made since, if it is for a
new file. -/
structure Prepared (p : Patch) (r : Root) (d : Disk) (w : PlannedWrite) (d₁ : Disk) : Prop where
  planned : p.plan r d = .ok (.write w)
  wellFormed : d₁.WellFormed
  gains : d.GainsAlong d₁ w.edit.file.ancestors.tail
  author : d₁ = d ∨ ∃ content, p.operation = .author content

namespace Prepared

variable {d₁ d₂ : Disk}

theorem start (hd : d.WellFormed) (h : p.plan r d = .ok (.write w)) : p.Prepared r d w d :=
  ⟨h, hd, .refl d _, .inl rfl⟩

/-- More directories may be made above a target that is new. -/
theorem makes (h : p.Prepared r d w d₁) (hnew : w.edit.createsFile = true)
    (hmakes : Disk.Makes w.edit.file.ancestors.tail d₁ d₂) : p.Prepared r d w d₂ := by
  obtain ⟨current, hf, hread, hexp, hop⟩ := plan_write h.planned
  have ht := Path.segments_ofString_ne_nil p.file
  have hplain := fun q (hq : q ∈ w.edit.file.ancestors.tail) =>
    Path.plain_of_mem_tail (Root.isAbsolute_of_resolve hf ht) (Root.descends_of_read hf ht hread) hq
  rw [PlannedWrite.createsFile_eq hexp, decide_eq_true_eq] at hnew
  exact ⟨h.planned, h.wellFormed.makes hplain hmakes, h.gains.makes hplain hmakes, .inr (hop hnew)⟩

end Prepared

/-- What is prepared for a write that was planned on the same disk. -/
theorem prepared_prepare (hd : d.WellFormed) (h : p.plan r d = .ok (.write w)) :
    p.Prepared r d w (w.prepare r d).2 := by
  unfold PlannedWrite.prepare
  split
  · next hnew =>
    obtain ⟨current, hf, -⟩ := plan_write h
    exact (Prepared.start hd h).makes hnew
      (Root.ensureParent_makes (Root.isAbsolute_of_resolve hf (Path.segments_ofString_ne_nil _)))
  · exact .start hd h

/-- A patch changes nothing, leaves what was prepared for its write, or is applied. -/
theorem carryOut_cases (p : Patch) (r : Root) (d : Disk) :
    (∃ res, (∀ file, res ≠ .ok (.applied file)) ∧ p.carryOut r d = (res, d)) ∨
    ∃ w, p.plan r d = .ok (.write w) ∧
      ((∃ res, (∀ file, res ≠ .ok (.applied file)) ∧
        p.carryOut r d = (res, (w.prepare r d).2)) ∨
      ∃ d₁ current e mode, w.prepare r d = (.ok (), d₁) ∧
        readBytes d₁ w.edit.file = .ok current ∧
        d₁.locateEntry w.edit.file = .ok ⟨some e, false⟩ ∧ d₁.node? e ≠ some .directory ∧
        p.carryOut r d =
          (.ok (.applied w.edit.file), d₁.put e (.file w.edit.newText.toUTF8 mode))) := by
  cases hplan : p.plan r d with
  | error err => exact .inl ⟨_, by simp, carryOut_of_error hplan⟩
  | ok plan =>
    cases plan with
    | skip res =>
      refine .inl ⟨_, fun file hfile => ?_, carryOut_of_skip hplan⟩
      cases hfile
      exact p.plan_ne_skip_applied r d file hplan
    | write w =>
      refine .inr ⟨w, rfl, ?_⟩
      rw [carryOut_of_write hplan, commit_eq_prepare]
      rcases w.prepare r d with ⟨err | u, d₁⟩
      · exact .inl ⟨_, by simp, rfl⟩
      · dsimp only
        obtain ⟨err, he⟩ | ⟨-, he⟩ | ⟨current, e, mode, hread, hl, hdir, he⟩ :=
          w.edit.applyIn_cases d₁
        · rw [he]
          exact .inl ⟨_, by simp, rfl⟩
        · rw [he]
          exact .inl ⟨_, by simp, rfl⟩
        · exact .inr ⟨d₁, current, e, mode, rfl, hread, hl, hdir, he⟩

theorem wellFormed_carryOut (hd : d.WellFormed) : (p.carryOut r d).2.WellFormed := by
  obtain ⟨res, -, h⟩ | ⟨w, hplan, ⟨res, -, h⟩ | ⟨d₁, current, e, mode, hprep, -, hl, hdir, h⟩⟩ :=
    p.carryOut_cases r d
  · rwa [h]
  · rw [h]
    exact (prepared_prepare hd hplan).wellFormed
  · have hd₁ := (prepared_prepare hd hplan).wellFormed
    rw [hprep] at hd₁
    rw [h]
    exact hd₁.put_entry hl hdir

/-! ## What is as it was -/

/-- The path of the target. -/
def path (p : Patch) (r : Root) : Path := r.path.join (.ofString p.file)

/-- At `l` all is as before, up to a new directory above the target of a patch that writes a whole
file. -/
def KeepsAt (p : Patch) (r : Root) (d d' : Disk) (l : Location) : Prop :=
  d'.node? l = d.node? l ∨
    (∃ content, p.operation = .author content) ∧ d.node? l = none ∧
      d'.node? l = some .directory ∧ ∃ q ∈ (p.path r).ancestors.tail, d'.locate q = .ok l

theorem edit_file_eq (h : p.plan r d = .ok (.write w)) : w.edit.file = p.path r := by
  obtain ⟨current, hf, -⟩ := plan_write h
  exact (Root.resolve_eq_ok_iff.1 hf).2.2.2

/-- A file is at the entry of the target, and besides all is as before, up to new directories. -/
def Replaces (p : Patch) (r : Root) (d d' : Disk) : Prop :=
  ∃ e, d'.locateEntry (p.path r) = .ok ⟨some e, false⟩ ∧ d.node? e ≠ some .directory ∧
    (∃ data mode, d'.node? e = some (.file data mode)) ∧ ∀ l, l ≠ e → p.KeepsAt r d d' l

namespace Prepared

variable {d₁ : Disk}

theorem keepsAt (h : p.Prepared r d w d₁) (l : Location) : p.KeepsAt r d d₁ l := by
  obtain rfl | hauthor := h.author
  · exact .inl rfl
  · have halong := h.gains
    rw [edit_file_eq h.planned] at halong
    exact (halong l).imp_right fun hnew => ⟨hauthor, hnew⟩

/-- A file is put at the entry of the target. -/
theorem replaces (h : p.Prepared r d w d₁) {current : Option ByteArray} {e : Location}
    (hread : readBytes d₁ w.edit.file = .ok current)
    (hl : d₁.locateEntry w.edit.file = .ok ⟨some e, false⟩) (hdir : d₁.node? e ≠ some .directory)
    (data : ByteArray) (mode : Nat) : p.Replaces r d (d₁.put e (.file data mode)) := by
  have hlink := Disk.not_linkToDirectory_of_readBytes hl hread
  rw [edit_file_eq h.planned] at hl
  refine ⟨e, Disk.locateEntry_put hdir hlink hl, fun hold => ?_,
    ⟨data, mode, Disk.node?_put_self (Disk.ne_nil_of_node? hdir) _⟩, fun l hne => ?_⟩
  · obtain hsame | ⟨-, hfree, -⟩ := h.keepsAt e
    · exact hdir (hsame.trans hold)
    · rw [hold] at hfree
      cases hfree
  · rw [KeepsAt, Disk.node?_put_of_ne hne]
    refine (h.keepsAt l).imp_right ?_
    rintro ⟨hauthor, hfree, hnew, q, hq, hlead⟩
    -- the ways to the new directories do not pass by the entry of the target
    exact ⟨hauthor, hfree, hnew, q, hq, Disk.locate_of_agree
      (fun _ hm => Disk.node?_put_of_ne hm _) rfl hdir hlink hlead hnew⟩

end Prepared

end Patch

end SourcePatch
