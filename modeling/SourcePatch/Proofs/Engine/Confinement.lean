import SourcePatch.Proofs.Engine.Commit

/-!
# Staying inside the tree

What a patch reads lies in the tree. What it makes and replaces lies there too, if the entry does
that the target names: directories, temporary file and target are all beside that entry or above it.
A target that exists is checked for where it leads, so its entry may be elsewhere if that is a link.

## Main definitions

* `Patch.Reads`, `Patch.Touches`: what a patch reads, and what it makes or replaces, when it is
  planned and carried out on one disk.
* `Patch.StaysInside`: the entry that a write replaces lies in the tree.

## Main statements

* `Edit.begins_of_applied`: no edit goes without a temporary file.
* `confined`: what is read, made and replaced where.
-/

namespace SourcePatch

/-! ## What is touched on the way -/

/-- What comes before an edit: the directories for a file that is to be new. -/
def PlannedWrite.prepare (w : PlannedWrite) (r : Root) (d : Disk) :
    Except LocateError Unit × Disk :=
  if w.edit.createsFile then r.ensureParent d w.edit.file else (.ok (), d)

theorem commit_eq_prepare (w : PlannedWrite) (r : Root) (d : Disk) :
    (Plan.write w).commit r d = match w.prepare r d with
      | (.ok (), d₁) => w.edit.applyIn d₁
      | (.error e, d₁) => (.error (.locate e), d₁) := by
  rw [Plan.commit, PlannedWrite.prepare]
  split
  · rcases r.ensureParent d w.edit.file with ⟨_ | _, d₁⟩ <;> rfl
  · rfl

theorem prepare_of_some {w : PlannedWrite} {bytes : ByteArray}
    (hexp : w.edit.expected = .ofCurrent (some bytes)) (r : Root) (d : Disk) :
    w.prepare r d = (.ok (), d) := by
  rw [PlannedWrite.prepare, PlannedWrite.createsFile_eq hexp]
  exact if_neg (by simp)

theorem prepare_of_none {w : PlannedWrite} (hexp : w.edit.expected = .ofCurrent none) (r : Root)
    (d : Disk) : w.prepare r d = r.ensureParent d w.edit.file := by
  rw [PlannedWrite.prepare, PlannedWrite.createsFile_eq hexp]
  exact if_pos (by simp)

/-- An edit begins to write: a temporary file is made beside the target. -/
inductive Edit.Begins (e : Edit) (d : Disk) : Disk → Prop
  | temporary {current : Option ByteArray} {directory t : Path} {d' : Disk} :
    readBytes d e.file = .ok current → current ≠ some e.newText.toUTF8 →
    e.expected.matchesCurrent current = true → e.file.parent? = some directory →
    directory.isEmpty = false →
    createTemporary d directory (d.entries.length + 1) 0 = .ok (t, d') → Begins e d d'

/-- The disks there are while a write is carried out. From one to the next it is filled in what was
made before. -/
inductive PlannedWrite.Passes (w : PlannedWrite) (r : Root) (d : Disk) : Disk → Prop
  | prepared : Passes w r d (w.prepare r d).2
  | begun {d₁ d₂ : Disk} : w.prepare r d = (.ok (), d₁) → w.edit.Begins d₁ d₂ → Passes w r d d₂
  | done : Passes w r d ((Plan.write w).commit r d).2

namespace Patch

/-- An entry is made or replaced at some time. -/
inductive Touches (p : Patch) (r : Root) (d : Disk) (l : Location) : Prop
  | intro {w : PlannedWrite} {d' : Disk} : p.plan r d = .ok (.write w) → w.Passes r d d' →
    d'.node? l ≠ d.node? l → Touches p r d l

/-- A file is read, either for the plan or when it is carried out. -/
inductive Reads (p : Patch) (r : Root) (d : Disk) (l : Location) : Prop
  | planning {file : Path} {bytes : ByteArray} {mode : Nat} :
    r.resolve d (.ofString p.file) = .ok file → d.locate file = .ok l →
    d.node? l = some (.file bytes mode) → Reads p r d l
  | committing {w : PlannedWrite} {d₁ : Disk} {bytes : ByteArray} {mode : Nat} :
    p.plan r d = .ok (.write w) → w.prepare r d = (.ok (), d₁) →
    d₁.locate w.edit.file = .ok l → d₁.node? l = some (.file bytes mode) → Reads p r d l

/-- If the patch writes to an entry that its target names, that entry lies in the tree. -/
def StaysInside (p : Patch) (r : Root) (d : Disk) : Prop :=
  ∀ w e, p.plan r d = .ok (.write w) → d.locateEntry w.edit.file = .ok ⟨some e, false⟩ →
    r.Contains e

end Patch

/-! ## Entries beside the target -/

namespace Disk

variable {d d' : Disk} {directory t : Path} {b : Location}

/-- A temporary file is made in the directory to which its path leads. -/
theorem createTemporary_beside (hp : directory.Plain) (hl : d.locate directory = .ok b)
    {attempts n : Nat} (h : createTemporary d directory attempts n = .ok (t, d')) :
    ∃ name, d.node? (b ++ [name]) = none ∧ d' = d.put (b ++ [name]) (.file .empty 0o600) := by
  obtain ⟨k, e, htk, he, hfree, rfl⟩ := createTemporary_eq_ok h
  obtain ⟨names, hseg, rfl⟩ := segments_temporary hp k
  rw [← htk] at hseg
  obtain ⟨-, above, name, parent, m, hsplit, ht, -, -, rfl⟩ := locateEntry_eq_ok_iff.1 he
  rw [hseg, ← List.cons_append] at hsplit
  obtain ⟨rfl, -⟩ := List.append_inj' hsplit rfl
  rw [startOf_of_absolute (Path.isAbsolute_iff.2 ⟨_, hseg, by simp⟩),
    travel_idle rfl (.inl rfl)] at ht
  obtain ⟨hc, -⟩ := locate_eq_ok_iff.1 hl
  rw [locate_ofNames hc, ht] at hl
  cases hl
  exact ⟨name, hfree, rfl⟩

end Disk

section

variable {e : Edit} {d d' : Disk}

/-- Every edit that is carried out begins with a temporary file. -/
theorem Edit.begins_of_applied {file : Path} (h : e.applyIn d = (.ok (.applied file), d')) :
    ∃ d₁, e.Begins d d₁ := by
  cases hread : readBytes d e.file with
  | error err => rw [applyIn_of_error hread] at h; cases h
  | ok current =>
    by_cases hsame : current = some e.newText.toUTF8
    · subst hsame
      rw [applyIn_of_same hread] at h
      cases h
    · cases hm : e.expected.matchesCurrent current with
      | false => rw [applyIn_of_changed hread hsame hm] at h; cases h
      | true =>
        rw [applyIn_eq_replaceFile hread hsame hm] at h
        rcases hw : d.replaceFile e.file e.newText.toUTF8 with ⟨_ | _, d₁⟩
        · rw [hw] at h
          cases h
        · obtain ⟨directory, t, d₂, hdir, hempty, ht⟩ := Disk.temporary_of_replaceFile hw
          exact ⟨d₂, .temporary hread hsame hm hdir hempty ht⟩

/-- An edit begins beside its target. -/
theorem Edit.begins_beside (hup : ".." ∉ e.file.segments) (habs : e.file.isAbsolute = true)
    {q : Path} {b : Location} (hq : e.file.parent? = some q) (hl : d.locate q = .ok b)
    (h : e.Begins d d') :
    ∃ name, d.node? (b ++ [name]) = none ∧ d' = d.put (b ++ [name]) (.file .empty 0o600) := by
  obtain @⟨current, directory, t, d', -, -, -, hdir, -, ht⟩ := h
  rw [hq] at hdir
  cases hdir
  exact Disk.createTemporary_beside (Path.Plain.of_parent? habs hup hq) hl ht

/-- An edit ends with one entry changed, the one that its target names. -/
theorem Edit.applyIn_beside (e : Edit) (d : Disk) {l : Location}
    (h : (e.applyIn d).2.node? l ≠ d.node? l) : d.locateEntry e.file = .ok ⟨some l, false⟩ := by
  obtain ⟨err, he⟩ | ⟨-, he⟩ | ⟨current, e', mode, -, hl, hdir, he⟩ := e.applyIn_cases d
  · rw [he] at h; exact absurd rfl h
  · rw [he] at h; exact absurd rfl h
  · rw [he, Disk.node?_put (Disk.ne_nil_of_node? hdir)] at h
    split at h
    · next heq => rwa [heq]
    · exact absurd rfl h

end

/-! ## Writes of the two kinds -/

section

variable {w : PlannedWrite} {r : Root} {d d' : Disk} {target : Path} {l : Location}
  (h : r.resolve d target = .ok w.edit.file) (ht : target.segments ≠ [])
include h ht

section

variable (hmiss : readBytes d w.edit.file = .ok none)
include hmiss

/-- A target that is missing has its nearest place above it. -/
theorem contains_nearest {p q : Path} {a : Location} (hp : w.edit.file.parent? = some p)
    (hq : p.ancestors.find? d.leadsSomewhere = some q) (ha : d.locate q = .ok a) :
    r.Contains a := by
  have habs := Root.isAbsolute_of_resolve h ht
  obtain ⟨q', a', hq', ha', hin⟩ :=
    Root.nearest_of_resolve h ht (Disk.checkPath_of_readBytes habs hmiss)
  rw [Disk.nearest_of_parent? habs hp (Root.not_leadsSomewhere_of_missing hmiss)] at hq'
  rw [hq] at hq'
  cases hq'
  rw [ha] at ha'
  cases ha'
  exact hin

/-- The entry of a file that is to be new lies in the tree. -/
theorem contains_entry_of_none {e : Location}
    (he : d.locateEntry w.edit.file = .ok ⟨some e, false⟩) : r.Contains e := by
  obtain ⟨p, b, name, hp, hb, hdir, -, rfl⟩ :=
    Disk.locate_parent (Root.isAbsolute_of_resolve h ht) he
  have hfind := Disk.nearest_of_leads (Disk.leadsSomewhere_iff.2 ⟨b, _, hb, hdir⟩)
  exact (contains_nearest h ht hmiss hp hfind hb).trans (List.prefix_append _ _)

end

omit h ht in
theorem forall_entry_iff {file : Path} {e : Location}
    (he : d.locateEntry file = .ok ⟨some e, false⟩) :
    (∀ e, d.locateEntry file = .ok ⟨some e, false⟩ → r.Contains e) ↔ r.Contains e := by
  refine ⟨fun hall => hall _ he, fun hin e' he' => ?_⟩
  rw [he] at he'
  cases he'
  exact hin

variable (hd : d.WellFormed)
include hd

omit h ht in
/-- If there is something in a tree, its root is there. -/
theorem ne_location_of_free {m : Location} (hin : r.Contains l) (hn : d.node? l ≠ none)
    (hfree : d.node? m = none) : r.location ≠ m := by
  rintro rfl
  exact hd.exists_of_isPrefix hin hn hfree

/-- All that is touched over a file that is there lies beside the entry that the target names. -/
theorem contains_iff_of_some {bytes : ByteArray}
    (hread : readBytes d w.edit.file = .ok (some bytes))
    (hexp : w.edit.expected = .ofCurrent (some bytes)) (hpass : w.Passes r d d')
    (hl : d'.node? l ≠ d.node? l) : r.Contains l ↔
      ∀ e, d.locateEntry w.edit.file = .ok ⟨some e, false⟩ → r.Contains e := by
  have habs := Root.isAbsolute_of_resolve h ht
  have hup := Root.descends_of_read h ht hread
  obtain ⟨l₀, mode, hl₀, hn₀⟩ := Disk.readBytes_eq_some_iff.1 hread
  obtain ⟨e, he, -⟩ := Disk.locateEntry_of_not_directory hd habs hl₀ (by simp [hn₀])
  obtain ⟨q, b, name, hq, hb, -, -, rfl⟩ := Disk.locate_parent habs he
  have hroot := Root.ne_location_of_read hd h ht hread he
  have hprepare := prepare_of_some hexp r d
  rw [forall_entry_iff he]
  cases hpass with
  | prepared => rw [hprepare] at hl; exact absurd rfl hl
  | begun hprep hbegin =>
    rw [hprepare] at hprep
    cases hprep
    obtain ⟨name', hfree, rfl⟩ := Edit.begins_beside hup habs hq hb hbegin
    have heq : l = b ++ [name'] := by
      by_contra hne
      exact hl (Disk.node?_put_of_ne hne _)
    have hin := Root.contains_of_resolve h hl₀ hn₀
    have hroot' := ne_location_of_free hd hin (by simp [hn₀]) hfree
    rw [heq, Root.contains_concat_iff hroot', Root.contains_concat_iff hroot]
  | done =>
    rw [PlannedWrite.commit_of_some hexp] at hl
    have he' := w.edit.applyIn_beside d hl
    rw [he] at he'
    cases he'
    exact Iff.rfl

variable (hmiss : readBytes d w.edit.file = .ok none)
  (hexp : w.edit.expected = .ofCurrent none)
include hmiss hexp

/-- The directories for a file that is to be new lie in the tree, also the one that gets it. -/
theorem contains_of_prepare :
    (∀ l, (w.prepare r d).2.node? l ≠ d.node? l → r.Contains l) ∧
    ((w.prepare r d).1 = .ok () → ∃ p b, w.edit.file.parent? = some p ∧
      (w.prepare r d).2.locate p = .ok b ∧ r.Contains b) := by
  have habs := Root.isAbsolute_of_resolve h ht
  have hup := Root.descends_of_read h ht hmiss
  rw [prepare_of_none hexp]
  obtain ⟨err, herr⟩ | ⟨p, q, a, b, hp, hq, ha, hg, hok⟩ :=
    Root.ensureParent_grown (r := r) hd habs hup
  · rw [herr]
    exact ⟨fun l hl => absurd rfl hl, fun hok => by cases hok⟩
  · have hin := contains_nearest h ht hmiss hp hq ha
    refine ⟨fun l hl => ?_, fun h => ⟨p, b, hp, (hok h).1, hin.trans hg.isPrefix⟩⟩
    obtain hsame | ⟨-, -, hal, -⟩ := hg.node?_cases l
    · exact absurd hsame hl
    · exact hin.trans hal

/-- All that is touched for a file that is to be new lies in the tree. -/
theorem contains_of_none (hpass : w.Passes r d d') (hl : d'.node? l ≠ d.node? l) :
    r.Contains l := by
  have habs := Root.isAbsolute_of_resolve h ht
  have hup := Root.descends_of_read h ht hmiss
  obtain ⟨above, hok⟩ := contains_of_prepare h ht hd hmiss hexp
  cases hpass with
  | prepared => exact above l hl
  | begun hprep hbegin =>
    rw [hprep] at above hok
    obtain ⟨p, b, hp, hb, hin⟩ := hok rfl
    obtain ⟨name, -, rfl⟩ := Edit.begins_beside hup habs hp hb hbegin
    by_cases heq : l = b ++ [name]
    · rw [heq]
      exact hin.trans (List.prefix_append _ _)
    · rw [Disk.node?_put_of_ne heq] at hl
      exact above l hl
  | done =>
    rw [commit_eq_prepare] at hl
    rcases hprep : w.prepare r d with ⟨_ | _, d₁⟩
    · rw [hprep] at hl above
      exact above l hl
    · rw [hprep] at hl hok above
      dsimp only at hl
      by_cases hsame : (w.edit.applyIn d₁).2.node? l = d₁.node? l
      · rw [hsame] at hl
        exact above l hl
      · -- the edit changes an entry in the directory that was prepared
        obtain ⟨p, b, hp, hb, hin⟩ := hok rfl
        obtain ⟨p', b', name, hp', hb', -, -, rfl⟩ :=
          Disk.locate_parent habs (w.edit.applyIn_beside d₁ hsame)
        rw [hp] at hp'
        cases hp'
        rw [hb] at hb'
        cases hb'
        exact hin.trans (List.prefix_append _ _)

end

/-! ## Whole patches -/

section

variable {p : Patch} {r : Root} {d : Disk}

theorem contains_of_reads (hd : d.WellFormed) {l : Location} (h : p.Reads r d l) :
    r.Contains l := by
  cases h with
  | planning hf hl hn => exact Root.contains_of_resolve hf hl hn
  | @committing w d₁ bytes mode hplan hprep hl hn =>
    obtain ⟨current, hf, hread, hexp, -⟩ := Patch.plan_write hplan
    cases current with
    | some old =>
      rw [prepare_of_some hexp] at hprep
      cases hprep
      exact Root.contains_of_resolve hf hl hn
    | none =>
      rw [prepare_of_none hexp] at hprep
      -- the directories that were made lead to no file
      have ht := Path.segments_ofString_ne_nil p.file
      exact absurd (Disk.readBytes_eq_some_iff.2 ⟨l, mode, hl, hn⟩)
        (Root.not_read_of_ensureParent hd (Root.isAbsolute_of_resolve hf ht)
          (Root.descends_of_read hf ht hread) hprep hread bytes)

theorem contains_iff_of_touches (hd : d.WellFormed) {l : Location} (h : p.Touches r d l) :
    r.Contains l ↔ p.StaysInside r d := by
  obtain @⟨w, d', hplan, hpass, hl⟩ := h
  obtain ⟨current, hf, hread, hexp, -⟩ := Patch.plan_write hplan
  have ht := Path.segments_ofString_ne_nil p.file
  have hstays : p.StaysInside r d ↔
      ∀ e, d.locateEntry w.edit.file = .ok ⟨some e, false⟩ → r.Contains e := by
    refine ⟨fun hall e => hall w e hplan, fun hall w' e hplan' => ?_⟩
    rw [hplan] at hplan'
    cases hplan'
    exact hall e
  rw [hstays]
  cases current with
  | some bytes => exact contains_iff_of_some hf ht hd hread hexp hpass hl
  | none =>
    exact ⟨fun _ e => contains_entry_of_none hf ht hread,
      fun _ => contains_of_none hf ht hd hread hexp hpass hl⟩

/-- A patch that is planned and carried out on one disk reads in the tree only. What it makes or
replaces is in the tree exactly if the entry is that its target names. If the nearest place that
exists lies outside, it fails and nothing changes. -/
theorem confined (hd : d.WellFormed) :
    (∀ l, p.Reads r d l → r.Contains l) ∧
    (∀ l, p.Touches r d l → (r.Contains l ↔ p.StaysInside r d)) ∧
    ∀ q a, (r.path.join (.ofString p.file)).ancestors.find? d.leadsSomewhere = some q →
      d.canonicalize q = .ok a → ¬ r.Contains a → ∃ err, p.carryOut r d = (.error err, d) := by
  refine ⟨fun l => contains_of_reads hd, fun l => contains_iff_of_touches hd, ?_⟩
  intro q a hq ha hout
  have hcheck := Root.checkAncestor_of_nearest (r := r) hq ha
  rw [if_neg hout] at hcheck
  cases hf : r.resolve d (.ofString p.file) with
  | ok file =>
    obtain ⟨-, -, hok, -⟩ := Root.resolve_eq_ok_iff.1 hf
    rw [hcheck] at hok
    cases hok
  | error e =>
    obtain ⟨err, herr⟩ := Patch.plan_of_refused hf
    exact ⟨err, Patch.carryOut_of_error herr⟩

end

/-- A patch of a file that is named without a link. -/
def innerPatch : Patch := ⟨"inner", "inner", none, .author "b"⟩

/-- Beside a link out of the tree a patch writes in the tree only. -/
theorem confined_of_inner :
    innerPatch.Touches ⟨["tree"]⟩ .outAndBack ["tree", "inner"] ∧
    ∀ l, innerPatch.Touches ⟨["tree"]⟩ .outAndBack l → Root.Contains ⟨["tree"]⟩ l := by
  have hplan : innerPatch.plan ⟨["tree"]⟩ .outAndBack =
      .ok (.write ⟨⟨⟨["", "tree", "inner"]⟩, "b", .exact "a"⟩, some "a"⟩) := by rfl
  have hentry : Disk.outAndBack.locateEntry ⟨["", "tree", "inner"]⟩ =
      .ok ⟨some ["tree", "inner"], false⟩ := by rfl
  have hcommit : ((Plan.write ⟨⟨⟨["", "tree", "inner"]⟩, "b", .exact "a"⟩, some "a"⟩).commit
      ⟨["tree"]⟩ .outAndBack).2 =
      Disk.outAndBack.put ["tree", "inner"] (.file "b".toUTF8 0o644) := by rfl
  have hstays : innerPatch.StaysInside ⟨["tree"]⟩ .outAndBack := by
    intro w e hw he
    rw [hplan] at hw
    cases hw
    rw [hentry] at he
    cases he
    decide
  refine ⟨.intro hplan .done ?_, fun l hl => ((confined (by decide)).2.1 l hl).2 hstays⟩
  rw [hcommit]
  decide

/-- A patch of a file in a place outside the tree, named through a link. -/
def outerPatch : Patch := ⟨"outer", "escape/f", none, .author "b"⟩

/-- A link that leads out of the tree is followed if one leads back in behind it. -/
theorem touches_outside :
    ¬ ∀ (p : Patch) (r : Root) (d : Disk) (l : Location), d.WellFormed →
      Root.ofPath d r.path = .ok r → p.Touches r d l → r.Contains l := by
  intro hall
  have hplan : outerPatch.plan ⟨["tree"]⟩ .outAndBack =
      .ok (.write ⟨⟨⟨["", "tree", "escape", "f"]⟩, "b", .exact "a"⟩, some "a"⟩) := by rfl
  have hcommit : ((Plan.write ⟨⟨⟨["", "tree", "escape", "f"]⟩, "b", .exact "a"⟩, some "a"⟩).commit
      ⟨["tree"]⟩ .outAndBack).2 =
      Disk.outAndBack.put ["outside", "f"] (.file "b".toUTF8 0o644) := by rfl
  have htouch : outerPatch.Touches ⟨["tree"]⟩ .outAndBack ["outside", "f"] := by
    refine .intro hplan .done ?_
    rw [hcommit]
    decide
  exact absurd (hall outerPatch ⟨["tree"]⟩ .outAndBack ["outside", "f"] (by decide) (by rfl) htouch)
    (by decide)

end SourcePatch
