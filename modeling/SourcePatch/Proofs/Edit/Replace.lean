import SourcePatch.Proofs.Disk.Parent

/-!
# What a write does

A write makes a temporary file where nothing was, fills it and gives it the target's name. Either it
succeeds, and the entry that the target names is a file with the new content, or it fails, and the
disk is what it was before. Nothing else changes in either case.

## Main statements

* `Disk.replaceFile_cases`: the two ways in which a write ends.
-/

namespace SourcePatch

/-! ## Temporary files -/

theorem temporaryName_ne_empty (n : Nat) : temporaryName n ≠ "" := by
  intro h
  have hlist := congrArg String.toList h
  simp [temporaryName] at hlist

/-- The path of a temporary file in `directory`. -/
theorem segments_join_temporaryName (directory : Path) (n : Nat) :
    (directory.join ⟨[temporaryName n]⟩).segments =
      (if directory.segments.getLast? = some "" then directory.segments.dropLast
        else directory.segments) ++ [temporaryName n] := by
  have habs : Path.isAbsolute ⟨[temporaryName n]⟩ = false := by
    unfold Path.isAbsolute
    split <;> simp_all
  rw [Path.join, habs, if_neg (by decide)]
  split <;> rfl

namespace Disk

/-- A plain path goes on with a slash, written or not, and a temporary name. -/
theorem segments_temporary {directory : Path} (hp : directory.Plain) (n : Nat) : ∃ names,
    (directory.join ⟨[temporaryName n]⟩).segments = "" :: (names ++ [temporaryName n]) ∧
      directory = .ofNames names := by
  obtain ⟨names, rfl, htrim, -⟩ := hp
  refine ⟨names, ?_, rfl⟩
  rw [segments_join_temporaryName]
  obtain hnil | ⟨above, last, hlast, hidle⟩ := Path.trimmed_cases names
  · rw [htrim] at hnil
    subst hnil
    rfl
  · rw [htrim] at hlast
    subst hlast
    have hne : last ≠ "" := fun h => hidle (Path.isIdle_iff.2 (.inl h))
    rw [Path.segments_ofNames (by simp), ← List.cons_append, List.getLast?_concat,
      if_neg (by simpa using hne)]
    rfl

theorem createPrivate_eq_ok {d d' : Disk} {p : Path} (h : d.createPrivate p = .ok d') :
    ∃ e slash, d.locateEntry p = .ok ⟨some e, slash⟩ ∧ d.node? e = none ∧
      d' = d.put e (.file .empty 0o600) := by
  unfold createPrivate at h
  cases hl : d.locateEntry p with
  | error err => rw [hl] at h; cases h
  | ok entry =>
    obtain ⟨location, slash⟩ := entry
    rw [hl] at h
    cases location with
    | none => cases h
    | some e =>
      simp only [bind, Except.bind] at h
      split at h
      · cases h
      · next hfree => cases h; exact ⟨e, slash, rfl, by simpa using hfree, rfl⟩

theorem createPrivate_temporary {d d' : Disk} {directory : Path} {n : Nat}
    (h : d.createPrivate (directory.join ⟨[temporaryName n]⟩) = .ok d') :
    ∃ e, d.locateEntry (directory.join ⟨[temporaryName n]⟩) = .ok ⟨some e, false⟩ ∧
      d.node? e = none ∧ d' = d.put e (.file .empty 0o600) := by
  obtain ⟨e, slash, hl, hfree, rfl⟩ := createPrivate_eq_ok h
  have hslash : slash = false := by
    have hlast := asDirectory_of_locateEntry hl
    have hne : (temporaryName n == "") = false := by simpa using temporaryName_ne_empty n
    rw [segments_join_temporaryName] at hlast
    simpa [hne] using hlast
  exact ⟨e, hslash ▸ hl, hfree, rfl⟩

/-- A temporary file is made where nothing was. -/
theorem createTemporary_eq_ok {d d' : Disk} {directory t : Path} {attempts n : Nat}
    (h : createTemporary d directory attempts n = .ok (t, d')) :
    ∃ k e, t = directory.join ⟨[temporaryName k]⟩ ∧
      d.locateEntry t = .ok ⟨some e, false⟩ ∧ d.node? e = none ∧
      d' = d.put e (.file .empty 0o600) := by
  induction attempts generalizing n with
  | zero => rw [createTemporary] at h; cases h
  | succ attempts ih =>
    rw [createTemporary] at h
    generalize hp : directory.join ⟨[temporaryName n]⟩ = p at h
    dsimp only [unlessTaken] at h
    split at h
    · next d₁ hc =>
      cases h
      subst hp
      obtain ⟨e, hl, hfree, rfl⟩ := createPrivate_temporary hc
      exact ⟨n, e, rfl, hl, hfree, rfl⟩
    · exact ih h
    · cases h

/-! ## Working on a temporary file -/

section

variable {d : Disk} {t : Path} {e : Location} (ht : d.locateEntry t = .ok ⟨some e, false⟩)
  (hfree : d.node? e = none) {data : ByteArray} {mode : Nat}
include ht hfree

theorem locateEntry_temporary {n : Node} :
    (d.put e n).locateEntry t = .ok ⟨some e, false⟩ :=
  locateEntry_put (by simp [hfree]) (not_linkToDirectory (by simp [hfree])) ht

theorem locate_temporary : (d.put e (.file data mode)).locate t = .ok e :=
  locate_of_locateEntry (locateEntry_temporary ht hfree)
    (node?_put_self (ne_nil_of_free hfree) _) (by simp)

theorem append_temporary (bytes : ByteArray) :
    (d.put e (.file data mode)).append t bytes = .ok (d.put e (.file (data ++ bytes) mode)) := by
  unfold Disk.append
  rw [locate_temporary ht hfree]
  simp only [bind, Except.bind, node?_put_self (ne_nil_of_free hfree), put_put]

theorem append_fresh_temporary (bytes : ByteArray) :
    (d.put e (.file .empty mode)).append t bytes = .ok (d.put e (.file bytes mode)) := by
  rw [append_temporary ht hfree, ByteArray.empty_append]

/-- What is in the temporary file when it was written, be it all or not. -/
theorem writeContent_temporary (content : ByteArray) (fault : Option (Nat × IoError)) :
    writeContent (d.put e (.file .empty mode)) t content fault = match fault with
      | none => (.ok (), d.put e (.file content mode))
      | some (n, err) => (.error err, d.put e (.file (content.extract 0 n) mode)) := by
  rcases fault with _ | ⟨n, err⟩ <;> simp only [writeContent, append_fresh_temporary ht hfree]

theorem sync_temporary : (d.put e (.file data mode)).sync t = .ok () := by
  unfold Disk.sync Disk.lookup
  rw [locate_temporary ht hfree]
  simp only [bind, Except.bind, node?_put_self (ne_nil_of_free hfree)]

theorem setMode_temporary (mode' : Nat) :
    (d.put e (.file data mode)).setMode t mode' = .ok (d.put e (.file data mode')) := by
  unfold Disk.setMode
  rw [locate_temporary ht hfree]
  simp only [bind, Except.bind, node?_put_self (ne_nil_of_free hfree), put_put]

theorem removeFile_temporary : (d.put e (.file data mode)).removeFile t = .ok d := by
  unfold Disk.removeFile
  rw [locateEntry_temporary ht hfree]
  simp only [bind, Except.bind, node?_put_self (ne_nil_of_free hfree), erase_put,
    erase_of_node?_eq_none hfree]

theorem discard_temporary : discard (d.put e (.file data mode)) t = d := by
  unfold discard
  rw [removeFile_temporary ht hfree]

/-- The temporary file takes the place of the entry that the target names without it. -/
theorem renameFile_temporary {target : Path} {d' : Disk}
    (h : (d.put e (.file data mode)).renameFile t target = .ok d') :
    ∃ l, d.locateEntry target = .ok ⟨some l, false⟩ ∧ d.node? l ≠ some .directory ∧
      d' = d.put l (.file data mode) := by
  have hnode := node?_put_self (d := d) (ne_nil_of_free hfree) (.file data mode)
  unfold Disk.renameFile at h
  rw [locateEntry_temporary ht hfree] at h
  simp only [bind, Except.bind, hnode] at h
  cases hl : (d.put e (.file data mode)).locateEntry target with
  | error err => rw [hl] at h; cases h
  | ok entry =>
    obtain ⟨location, slash⟩ := entry
    rw [hl] at h
    cases location with
    | none => cases h
    | some l =>
      simp only at h
      split_ifs at h with hslash hdir
      cases h
      have hslash : slash = false := by simpa using hslash
      subst hslash
      have hback : ∀ m, m ≠ e → d.node? m = (d.put e (.file data mode)).node? m :=
        fun m hm => (node?_put_of_ne hm _).symm
      refine ⟨l, ?_, ?_, by rw [erase_put, erase_of_node?_eq_none hfree]⟩
      · exact locateEntry_of_agree hback rfl (by simp [hnode])
          (not_linkToDirectory (by simp [hnode])) hl
      · intro hd
        have hne : l ≠ e := by rintro rfl; simp [hfree] at hd
        exact hdir (by rwa [node?_put_of_ne hne])

end

/-! ## The whole write -/

theorem fillAndRename_cases {d : Disk} {t : Path} {e : Location} (target : Path)
    (ht : d.locateEntry t = .ok ⟨some e, false⟩) (hfree : d.node? e = none) (content : ByteArray)
    (start : Nat) (f : WriteFaults) :
    (∃ err data mode, fillAndRename (d.put e (.file .empty start)) t target content f =
      (.error err, d.put e (.file data mode))) ∨
    ∃ l mode, d.locateEntry target = .ok ⟨some l, false⟩ ∧ d.node? l ≠ some .directory ∧
      fillAndRename (d.put e (.file .empty start)) t target content f =
        (.ok (), d.put l (.file content mode)) := by
  unfold fillAndRename
  rw [writeContent_temporary ht hfree]
  rcases f.write with _ | ⟨n, err⟩
  swap
  · exact .inl ⟨_, _, _, rfl⟩
  dsimp only
  rw [sync_temporary ht hfree]
  rcases f.sync with _ | err
  swap
  · exact .inl ⟨_, _, _, rfl⟩
  dsimp only [orFault]
  cases targetMode (d.put e (.file content start)) target with
  | error err => exact .inl ⟨_, _, _, rfl⟩
  | ok mode =>
    dsimp only
    rw [setMode_temporary ht hfree]
    rcases f.setMode with _ | err
    swap
    · exact .inl ⟨_, _, _, rfl⟩
    dsimp only
    cases hr : (d.put e (.file content mode)).renameFile t target with
    | error err => exact .inl ⟨_, _, _, rfl⟩
    | ok d' =>
      obtain ⟨l, hl, hd, rfl⟩ := renameFile_temporary ht hfree hr
      exact .inr ⟨l, mode, hl, hd, rfl⟩

/-- A write fails and changes nothing, or puts a file with the content at the target's entry. -/
theorem replaceFile_cases (d : Disk) (p : Path) (content : ByteArray) (f : WriteFaults) :
    (∃ err, d.replaceFile p content f = (.error err, d)) ∨
    ∃ l mode, d.locateEntry p = .ok ⟨some l, false⟩ ∧ d.node? l ≠ some .directory ∧
      d.replaceFile p content f = (.ok (), d.put l (.file content mode)) := by
  unfold Disk.replaceFile
  cases p.parent? with
  | none => exact .inl ⟨_, rfl⟩
  | some directory =>
    dsimp only
    split
    · exact .inl ⟨_, rfl⟩
    · cases hc : createTemporary d directory (d.entries.length + 1) 0 with
      | error err => exact .inl ⟨_, rfl⟩
      | ok made =>
        obtain ⟨t, d₁⟩ := made
        obtain ⟨k, e, -, ht, hfree, rfl⟩ := createTemporary_eq_ok hc
        dsimp only
        obtain ⟨err, data, mode, hf⟩ | ⟨l, mode, hl, hd, hf⟩ :=
          fillAndRename_cases p ht hfree content 0o600 f
        · rw [hf]
          dsimp only
          rw [discard_temporary ht hfree]
          exact .inl ⟨_, rfl⟩
        · rw [hf]
          exact .inr ⟨l, mode, hl, hd, rfl⟩

/-- A write that succeeds has made a temporary file beside its target. -/
theorem temporary_of_replaceFile {d d' : Disk} {p : Path} {content : ByteArray} {f : WriteFaults}
    (h : d.replaceFile p content f = (.ok (), d')) :
    ∃ directory t d₁, p.parent? = some directory ∧ directory.isEmpty = false ∧
      createTemporary d directory (d.entries.length + 1) 0 = .ok (t, d₁) := by
  unfold Disk.replaceFile at h
  cases hp : p.parent? with
  | none => rw [hp] at h; cases h
  | some directory =>
    rw [hp] at h
    dsimp only at h
    split at h
    · cases h
    · next hempty =>
      cases hc : createTemporary d directory (d.entries.length + 1) 0 with
      | error err => rw [hc] at h; cases h
      | ok made => exact ⟨directory, made.1, made.2, rfl, by simpa using hempty, hc⟩

end Disk

end SourcePatch
