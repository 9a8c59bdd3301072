import SourcePatch.Proofs.Disk.Persists
import SourcePatch.Proofs.Edit.Ending
import SourcePatch.Proofs.Engine.Effect

/-!
# Files that are to be new, and files that are there

Where a file is missing its directory is there, or can be dug, or is behind a link that does not
lead on. This decides what is made for the file, and the path of the file decides the rest. Where
there is a file its directory is there too.

## Main definitions

* `Disk.AboveMissing`: the three ways in which a file can be missing.
* `Root.Refuses`: why no file can be made under a path.

## Main statements

* `Edit.applyIn_of_missing`, `Edit.applyIn_of_file`: how a file is written.
* `Root.ensureParent_ends`: what is made for a file before.
* `Root.Refuses.commit`: a write that is refused changes nothing.
* `PlannedWrite.refuses_of_commit`: a new file that was not made is refused.
-/

namespace SourcePatch

/-! ## Names of targets -/

theorem isSegment_of_mem_ofString {s name : String} (h : name ∈ (Path.ofString s).segments) :
    IsSegment name := by
  have hcut : ∀ cs : List Char, ∀ part ∈ splitSlashes cs, '/' ∉ part := by
    intro cs
    induction cs with
    | nil => simp [splitSlashes]
    | cons c rest ih =>
      rw [splitSlashes]
      split
      · simpa using ih
      · next hc =>
        cases hrest : splitSlashes rest with
        | nil => simpa using Ne.symm hc
        | cons part more =>
          rw [hrest] at ih
          simp only [List.mem_cons, forall_eq_or_imp, not_or] at ih ⊢
          exact ⟨⟨Ne.symm hc, ih.1⟩, ih.2⟩
  obtain ⟨part, hpart, rfl⟩ := List.mem_map.1 h
  rw [IsSegment, String.toList_ofList]
  exact hcut _ part hpart

/-- On a disk without slashes in names there are none in the path of a target either. -/
theorem Root.isSegment_of_resolve {r : Root} {d : Disk} {file : Path} {s : String}
    {current : Option ByteArray} (hd : d.Sound) (h : r.resolve d (.ofString s) = .ok file)
    (hread : readBytes d file = .ok current) :
    ∀ name ∈ file.segments, IsSegment name := by
  have ht := Path.segments_ofString_ne_nil s
  have habs := isAbsolute_of_resolve h ht
  obtain ⟨q, a, hq, ha, hin⟩ := nearest_of_resolve h ht (Disk.checkPath_of_readBytes habs hread)
  obtain ⟨a', n, ha', hn⟩ := Disk.leadsSomewhere_iff.1 (List.find?_some hq)
  rw [ha] at ha'
  cases ha'
  have hroot := hd.slashFree.of_node? (hd.wellFormed.exists_of_isPrefix hin (by simp [hn]))
  rw [segments_of_resolve h (ordinary_of_resolve h ht hread)]
  intro name hname
  obtain rfl | hname := List.mem_cons.1 hname
  · decide
  · obtain hname | hname := List.mem_append.1 hname
    · exact hroot name hname
    · exact isSegment_of_mem_ofString hname

/-! ## Missing files -/

/-- What is above a missing file: its directory, a link that does not lead on, or a directory in
which the next one can be made. -/
inductive Disk.AboveMissing (d : Disk) (above : List String) : Prop
  | ready {c : Location} {m : Nat} : d.travel linkLimit [] above = .ok (c, m) →
    d.node? c = some .directory → AboveMissing d above
  | blocked {pre rest : List String} {name : String} {b : Location} {m : Nat} :
    d.MissesAt above pre name rest b m → d.node? (b ++ [name]) ≠ none → AboveMissing d above
  | free {pre rest : List String} {name : String} {b : Location} {m : Nat} :
    d.MissesAt above pre name rest b m → d.node? (b ++ [name]) = none → AboveMissing d above

namespace Disk

variable {d : Disk} {p : Path} {above idle : List String} {last : String}

/-- A path that leads nowhere is not the root. -/
theorem exists_endsIn_of_missing (hp : p.isAbsolute = true) (hread : readBytes d p = .ok none) :
    ∃ above last idle, p.EndsIn above last idle := by
  cases hparent : p.parent? with
  | some q =>
    obtain ⟨above, last, idle, h, -⟩ := Path.exists_endsIn hp hparent
    exact ⟨above, last, idle, h⟩
  | none =>
    have hroot := locate_of_parent?_eq_none (d := d) hp (checkPath_of_readBytes hp hread) hparent
    rw [readBytes_eq, hroot] at hread
    cases hread

section

variable (h : p.EndsIn above last idle) (hup : ".." ∉ p.segments)
include h hup

/-- Where something is missing on the way to a file, one of the three cases holds. -/
theorem aboveMissing (hread : readBytes d p = .ok none) : d.AboveMissing above := by
  have hcheck := checkPath_of_readBytes (isAbsolute_of_endsIn h) hread
  have hloc : d.locate p = (d.travel linkLimit [] (above ++ last :: idle)).map Prod.fst := by
    rw [locate_eq, hcheck, startOf_of_absolute (isAbsolute_of_endsIn h), travel_root h.segments]
    rfl
  rw [readBytes_eq, hloc] at hread
  cases ht : d.travel linkLimit [] above with
  | ok r =>
    refine .ready ht ?_
    by_contra hdir
    rw [travel_append_of_ok ht, travel_of_not_directory hdir] at hread
    cases hread
  | error err =>
    rw [travel_append_of_error ht] at hread
    cases err with
    | noSuchFile =>
      obtain ⟨pre, name, rest, b, m, hmiss⟩ := exists_missesAt (not_mem_above h hup) ht
      by_cases hfree : d.node? (b ++ [name]) = none
      · exact .free hmiss hfree
      · exact .blocked hmiss hfree
    | _ => cases hread

end

end Disk

/-! ## Making the directories -/

section

variable {r : Root} {d : Disk} {p : Path} {above idle pre rest : List String} {last name : String}
  {b c : Location} {m : Nat} (h : p.EndsIn above last idle) (hup : ".." ∉ p.segments)
  (hread : readBytes d p = .ok none)
include h hup hread

namespace Disk

theorem makeDirectories_of_ready (ht : d.travel linkLimit [] above = .ok (c, m))
    (hc : d.node? c = some .directory) :
    d.makeDirectories (.ofNames (Path.trimmed false above)) = (.ok (), d) := by
  have hcheck := checkPath_above h (checkPath_of_readBytes (isAbsolute_of_endsIn h) hread)
  refine makeDirectories_of_isDirectory (plain_parent h hup) ?_
  exact isDirectory_of_travel (checkPath_of_isPrefix (Path.trimmed_isPrefix above) hcheck)
    (travel_trimmed ht) hc

theorem makeDirectories_of_missesAt_link (hmiss : d.MissesAt above pre name rest b m)
    (hn : d.node? (b ++ [name]) ≠ none) :
    d.makeDirectories (.ofNames (Path.trimmed false above)) = (.error .fileExists, d) := by
  have hcheck := checkPath_above h (checkPath_of_readBytes (isAbsolute_of_endsIn h) hread)
  have habove := not_mem_above h hup
  obtain rfl := hmiss.names_eq
  exact makeDirectories_of_blocked habove hcheck hmiss hn

theorem makeDirectories_of_missesAt_nothing (hd : d.WellFormed)
    (heq : above = pre ++ name :: rest) (hreach : d.travel linkLimit [] pre = .ok (b, m))
    (hb : d.node? b = some .directory) (ho : Ordinary name) (hollow : d.Hollow (b ++ [name])) :
    d.makeDirectories (.ofNames (Path.trimmed false above)) =
      ((d.dig b (name :: rest)).1.map fun _ => (), (d.dig b (name :: rest)).2) := by
  have hcheck := checkPath_above h (checkPath_of_readBytes (isAbsolute_of_endsIn h) hread)
  have habove := not_mem_above h hup
  subst heq
  exact makeDirectories_of_hollow habove hcheck hd hreach hb ho hollow

/-- When its directories have been dug a file is still missing, or its name is too long. -/
theorem readBytes_of_dug (hd : d.WellFormed) (heq : above = pre ++ name :: rest)
    (hreach : d.travel linkLimit [] pre = .ok (b, m)) (hb : d.node? b = some .directory)
    (ho : Ordinary name) (hollow : d.Hollow (b ++ [name]))
    (hdig : (d.dig b (name :: rest)).1 = .ok c) :
    readBytes (d.dig b (name :: rest)).2 p =
      if nameLimit < last.utf8ByteSize then .error (.io .nameTooLong) else .ok none := by
  subst heq
  have hlast := last_ne h hup
  have hrest : ".." ∉ rest := fun hmem => not_mem_above h hup (by simp [hmem])
  have hfree : d.node? (c ++ [last]) = none := by
    by_contra hthere
    have hc := hd.parent hthere
    have hway := travel_of_there_below hd ho hollow hrest hdig (by simp [hc]) m
    obtain ⟨-, hnot, -⟩ :=
      last_of_readBytes h ((travel_append_of_ok hreach _).trans hway) hc hlast hread
    rw [dig_cons ho] at hdig
    have hle := (isPrefix_of_dig hdig).trans (List.prefix_append c [last])
    exact hnot ((hollow _ hle).resolve_left hthere)
  obtain ⟨c', hc', hdir, -, hway⟩ | ⟨herr, -⟩ := travel_dig_below hb ho hollow hrest m
  · rw [hdig] at hc'
    cases hc'
    have hpre := travel_ok_of_extends hd (gainsDirectories_dig d b (name :: rest)).extends hreach
    refine readBytes_of_free h ((travel_append_of_ok hpre _).trans hway) hdir hlast
      (checkPath_of_readBytes (isAbsolute_of_endsIn h) hread) ?_
    rw [node?_dig hdig, hfree]
    intro hle
    have hlen := hle.length_le
    rw [List.length_append, List.length_singleton] at hlen
    omega
  · rw [hdig] at herr
    cases herr

end Disk

/-- For a missing file nothing is made, or directories are dug in the one where it is missing. -/
theorem Root.ensureParent_cases (r : Root) (hd : d.WellFormed) : (r.ensureParent d p).2 = d ∨
    ∃ pre name rest b m, d.MissesAt above pre name rest b m ∧ d.node? (b ++ [name]) = none ∧
      (r.ensureParent d p).2 = (d.dig b (name :: rest)).2 := by
  rw [ensureParent_eq r d (Path.parent?_of_endsIn h)]
  split
  · obtain ⟨ht, hc⟩ | ⟨hmiss, hn⟩ | ⟨hmiss, hfree⟩ := Disk.aboveMissing h hup hread
    · exact .inl (by rw [Disk.makeDirectories_of_ready h hup hread ht hc])
    · exact .inl (by rw [Disk.makeDirectories_of_missesAt_link h hup hread hmiss hn])
    · refine .inr ⟨_, _, _, _, _, hmiss, hfree, ?_⟩
      rw [Disk.makeDirectories_of_missesAt_nothing h hup hread hd hmiss.names_eq hmiss.reaches
        hmiss.directory hmiss.ordinary (.of_free hd hfree)]
  · exact .inl rfl

/-! ## Writing the file -/

/-- A new file is written, unless the path of the target or of the temporary file forbids it. -/
theorem Edit.applyIn_of_missing {e : Edit} (hfile : e.file = p)
    (hexp : e.expected = .ofCurrent none) (hd : d.SlashFree)
    (hn : ∀ name ∈ p.segments, IsSegment name)
    (hreach : d.travel Disk.linkLimit [] above = .ok (c, m)) (hc : d.node? c = some .directory) :
    e.applyIn d =
      match Disk.checkPath
        ((Path.ofNames (Path.trimmed false above)).join ⟨[temporaryName 0]⟩) with
      | .error err => (.error (.edit (.temporary err)), d)
      | .ok () =>
        match Path.endError? idle with
        | some err => (.error (.edit (.io err)), d)
        | none =>
          (.ok (.applied p), d.put (c ++ [last]) (.file e.newText.toUTF8 defaultMode)) := by
  subst hfile
  have hm := hexp ▸ Verification.matchesCurrent_ofCurrent none
  rw [applyIn_eq_replaceFile hread (by simp) hm,
    Disk.replaceFile_of_missing h hreach hc hd hn hup hread]
  cases Disk.checkPath ((Path.ofNames (Path.trimmed false above)).join ⟨[temporaryName 0]⟩) with
  | error err => rfl
  | ok u =>
    dsimp only
    cases Path.endError? idle <;> rfl

end

/-- A file that is there has its directory. -/
theorem Disk.exists_endsIn_of_file {d : Disk} {p : Path} {bytes : ByteArray} (hd : d.WellFormed)
    (hp : p.isAbsolute = true) (hread : readBytes d p = .ok (some bytes)) :
    ∃ above last idle c m, p.EndsIn above last idle ∧
      d.travel linkLimit [] above = .ok (c, m) ∧ d.node? c = some .directory := by
  obtain ⟨l, mode, hl, hn⟩ := readBytes_eq_some_iff.1 hread
  obtain ⟨e, he, -⟩ := locateEntry_of_not_directory hd hp hl (by simp [hn])
  obtain ⟨q, c, -, hq, hloc, hc, -⟩ := locate_parent hp he
  obtain ⟨above, last, idle, h, rfl⟩ := Path.exists_endsIn hp hq
  obtain ⟨rest, heq, hidle⟩ := Path.exists_idle_of_trimmed above
  obtain ⟨-, m, ht⟩ := locate_eq_ok_iff.1 hloc
  rw [startOf_of_absolute (Path.isAbsolute_ofNames _), travel_ofNames] at ht
  refine ⟨above, last, idle, c, m, h, ?_, hc⟩
  rw [heq, travel_append_of_ok ht]
  exact travel_all_idle hc hidle

/-- A file is replaced, unless the path of the temporary file is too long. -/
theorem Edit.applyIn_of_file {e : Edit} {d : Disk} {above idle : List String} {last : String}
    {c l : Location} {m mode : Nat} {bytes : ByteArray} (h : e.file.EndsIn above last idle)
    (hup : ".." ∉ e.file.segments) (hl : d.locate e.file = .ok l)
    (hnode : d.node? l = some (.file bytes mode)) (hne : bytes ≠ e.newText.toUTF8)
    (hm : e.expected.matchesCurrent (some bytes) = true) (hd : d.SlashFree)
    (hn : ∀ name ∈ e.file.segments, IsSegment name)
    (hreach : d.travel Disk.linkLimit [] above = .ok (c, m)) (hc : d.node? c = some .directory) :
    e.applyIn d =
      match Disk.checkPath
        ((Path.ofNames (Path.trimmed false above)).join ⟨[temporaryName 0]⟩) with
      | .error err => (.error (.edit (.temporary err)), d)
      | .ok () => (.ok (.applied e.file), d.put (c ++ [last]) (.file e.newText.toUTF8 mode)) := by
  have hread := Disk.readBytes_eq_some_iff.2 ⟨l, mode, hl, hnode⟩
  rw [applyIn_eq_replaceFile hread (by simpa using hne) hm,
    Disk.replaceFile_of_file h hreach hc hd hn hup hl hnode]
  cases Disk.checkPath ((Path.ofNames (Path.trimmed false above)).join ⟨[temporaryName 0]⟩) <;> rfl

/-! ## Files that cannot be made -/

section

variable {r : Root} {d d₁ : Disk} {w : PlannedWrite}

/-- Why no new file can be written at `p`: it is outside by how it is written, its own path or that
of a temporary file forbids it, or a link on the way does not lead on. -/
inductive Root.Refuses (r : Root) (d : Disk) (p : Path) : Prop
  | outside {q : Path} : p.parent? = some q → ¬ q.startsWith r.path = true → Refuses r d p
  | shape {above idle : List String} {last : String} {c : Location} {m : Nat} :
    p.EndsIn above last idle → d.travel Disk.linkLimit [] above = .ok (c, m) →
    d.node? c = some .directory →
    Disk.checkPath ((Path.ofNames (Path.trimmed false above)).join ⟨[temporaryName 0]⟩) ≠ .ok () ∨
      Path.endError? idle ≠ none → Refuses r d p
  | blocked {above idle pre rest : List String} {last name : String} {b : Location} {m : Nat} :
    p.EndsIn above last idle → d.MissesAt above pre name rest b m →
    d.node? (b ++ [name]) ≠ none → Refuses r d p

namespace Root.Refuses

/-- What could not be made cannot be made now. -/
theorem persists {p : Path} (h : r.Refuses d p) (hcheck : Disk.checkPath p = .ok ())
    (hpers : d.Persists d₁) (hrev : ¬ d.Revives d₁ p) : r.Refuses d₁ p := by
  cases h with
  | outside hq hout => exact .outside hq hout
  | shape hends hreach hc hbad =>
    exact .shape hends (hpers.way hreach hc) (hpers.directory _ hc) hbad
  | @blocked above idle pre rest last name b m hends hmiss hn =>
    have hpre : "" :: (pre ++ [name]) <+: p.segments := by
      rw [hends.segments, hmiss.names_eq]
      exact ⟨rest ++ last :: idle, by simp⟩
    exact .blocked hends (hmiss.persists hn hpre hcheck hpers hrev) (hpers.entry _ hn)

/-- A write that is refused fails, and nothing is made for it. -/
theorem commit (h : r.Refuses d w.edit.file) (hs : d.SlashFree)
    (hn : ∀ name ∈ w.edit.file.segments, IsSegment name) (hup : ".." ∉ w.edit.file.segments)
    (hread : readBytes d w.edit.file = .ok none) (hexp : w.edit.expected = .ofCurrent none) :
    ∃ err, (Plan.write w).commit r d = (.error err, d) := by
  rw [PlannedWrite.commit_of_none hexp]
  cases h with
  | outside hq hout =>
    rw [Root.ensureParent_eq r d hq, if_neg hout]
    exact ⟨_, rfl⟩
  | shape hends hreach hc hbad =>
    rw [Root.ensureParent_eq r d (Path.parent?_of_endsIn hends),
      Disk.makeDirectories_of_ready hends hup hread hreach hc]
    split_ifs
    · dsimp only [Except.mapError]
      rw [Edit.applyIn_of_missing hends hup hread rfl hexp hs hn hreach hc]
      cases hcheck : Disk.checkPath
          ((Path.ofNames (Path.trimmed false _)).join ⟨[temporaryName 0]⟩) with
      | error err => exact ⟨_, rfl⟩
      | ok u =>
        obtain ⟨err, herr⟩ := Option.ne_none_iff_exists'.1 (hbad.resolve_left (by simp [hcheck]))
        rw [herr]
        exact ⟨_, rfl⟩
    · exact ⟨_, rfl⟩
  | blocked hends hmiss hnode =>
    rw [Root.ensureParent_eq r d (Path.parent?_of_endsIn hends),
      Disk.makeDirectories_of_missesAt_link hends hup hread hmiss hnode]
    split_ifs <;> exact ⟨_, rfl⟩

end Root.Refuses

/-- An edit that does not make its new file is refused. -/
theorem Edit.refuses_of_missing {e : Edit} {above idle : List String} {last : String} {c : Location}
    {m : Nat} (h : e.file.EndsIn above last idle) (hup : ".." ∉ e.file.segments)
    (hread : readBytes d e.file = .ok none) (hexp : e.expected = .ofCurrent none) (hs : d.SlashFree)
    (hn : ∀ name ∈ e.file.segments, IsSegment name)
    (hreach : d.travel Disk.linkLimit [] above = .ok (c, m)) (hc : d.node? c = some .directory)
    (hnew : readBytes (e.applyIn d).2 e.file ≠ .ok (some e.newText.toUTF8)) (r : Root) :
    (e.applyIn d).2 = d ∧ r.Refuses d e.file := by
  have happly := applyIn_of_missing h hup hread rfl hexp hs hn hreach hc
  cases hcheck : Disk.checkPath
      ((Path.ofNames (Path.trimmed false above)).join ⟨[temporaryName 0]⟩) with
  | error err =>
    rw [hcheck] at happly
    rw [happly]
    exact ⟨rfl, .shape h hreach hc (.inl (by simp [hcheck]))⟩
  | ok u =>
    rw [hcheck] at happly
    cases hend : Path.endError? idle with
    | some err =>
      rw [hend] at happly
      rw [happly]
      exact ⟨rfl, .shape h hreach hc (.inr (by simp [hend]))⟩
    | none =>
      rw [hend] at happly
      dsimp only at happly
      rw [happly] at hnew
      exact absurd (readBytes_of_applyIn happly) hnew

/-- What cannot be read above a file cannot be read there. -/
theorem Disk.readBytes_of_travel_error {p : Path} {above idle : List String} {last : String}
    {err : IoError} (h : p.EndsIn above last idle) (ht : d.travel linkLimit [] above = .error err)
    (hne : err ≠ .noSuchFile) (current : Option ByteArray) : readBytes d p ≠ .ok current := by
  intro hread
  have hcheck := checkPath_of_readBytes (isAbsolute_of_endsIn h) hread
  rw [readBytes_eq, locate_eq, hcheck, startOf_of_absolute (isAbsolute_of_endsIn h),
    travel_root h.segments, travel_append_of_error ht] at hread
  cases err <;> first | exact hne rfl | cases hread

/-- Before a new file is written it is refused, or its directory is there and it is not, or it
cannot be read any more because a name above it is too long. -/
theorem Root.ensureParent_ends {p : Path} {above idle : List String} {last : String}
    (h : p.EndsIn above last idle) (hup : ".." ∉ p.segments) (hread : readBytes d p = .ok none)
    (r : Root) (hd : d.WellFormed) :
    (r.Refuses d p ∧ ∃ err, r.ensureParent d p = (.error err, d)) ∨
    ((r.ensureParent d p).1 = .ok () ∧
      (∃ c m, (r.ensureParent d p).2.travel Disk.linkLimit [] above = .ok (c, m) ∧
        (r.ensureParent d p).2.node? c = some .directory) ∧
      ∀ bytes, readBytes (r.ensureParent d p).2 p ≠ .ok (some bytes)) ∨
    ∃ err, (r.ensureParent d p).1 = .error err ∧
      ∀ current, readBytes (r.ensureParent d p).2 p ≠ .ok current := by
  have hparent := Path.parent?_of_endsIn h
  have hens := ensureParent_eq r d hparent
  have hstill : (r.ensureParent d p).1 = .ok () →
      ∀ bytes, readBytes (r.ensureParent d p).2 p ≠ .ok (some bytes) := fun hok =>
    not_read_of_ensureParent hd (Disk.isAbsolute_of_endsIn h) hup (Prod.ext hok rfl) hread
  by_cases hout : (Path.ofNames (Path.trimmed false above)).startsWith r.path = true
  swap
  · rw [if_neg hout] at hens
    exact .inl ⟨.outside hparent hout, _, hens⟩
  rw [if_pos hout] at hens
  obtain ⟨hreach, hc⟩ | ⟨hmiss, hnode⟩ | @⟨pre, rest, name, b, m, hmiss, hfree⟩ :=
    Disk.aboveMissing h hup hread
  · rw [Disk.makeDirectories_of_ready h hup hread hreach hc] at hens
    rw [hens] at hstill ⊢
    exact .inr (.inl ⟨rfl, ⟨_, _, hreach, hc⟩, hstill rfl⟩)
  · rw [Disk.makeDirectories_of_missesAt_link h hup hread hmiss hnode] at hens
    exact .inl ⟨.blocked h hmiss hnode, _, hens⟩
  · have hollow := Disk.Hollow.of_free hd hfree
    have hrest : ".." ∉ rest := fun hmem =>
      Disk.not_mem_above h hup (by simp [hmiss.names_eq, hmem])
    have hpre := Disk.travel_ok_of_extends hd
      (Disk.gainsDirectories_dig d b (name :: rest)).extends hmiss.reaches
    have hway := Disk.travel_append_of_ok hpre (name :: rest)
    rw [← hmiss.names_eq] at hway
    rw [Disk.makeDirectories_of_missesAt_nothing h hup hread hd hmiss.names_eq hmiss.reaches
      hmiss.directory hmiss.ordinary hollow] at hens
    rw [hens] at hstill ⊢
    obtain ⟨c, hok, hc, -, hdug⟩ | ⟨herr, hdug⟩ :=
      Disk.travel_dig_below hmiss.directory hmiss.ordinary hollow hrest m
    · rw [hok] at hstill ⊢
      exact .inr (.inl ⟨rfl, ⟨c, m, hway.trans hdug, hc⟩, hstill rfl⟩)
    · exact .inr (.inr ⟨_, by rw [herr]; rfl,
        Disk.readBytes_of_travel_error h (hway.trans hdug) (by simp)⟩)

/-- A write that has not made its new file is refused from then on. -/
theorem PlannedWrite.refuses_of_commit (hd : d.WellFormed) (habs : w.edit.file.isAbsolute = true)
    (hup : ".." ∉ w.edit.file.segments) (hn : ∀ name ∈ w.edit.file.segments, IsSegment name)
    (hread : readBytes d w.edit.file = .ok none) (hexp : w.edit.expected = .ofCurrent none)
    (hs : (w.prepare r d).2.SlashFree) {now : Option ByteArray}
    (hnow : readBytes ((Plan.write w).commit r d).2 w.edit.file = .ok now)
    (hnew : now ≠ some w.edit.newText.toUTF8) :
    r.Refuses ((Plan.write w).commit r d).2 w.edit.file ∧
      readBytes ((Plan.write w).commit r d).2 w.edit.file = .ok none := by
  obtain ⟨above, last, idle, hends⟩ := Disk.exists_endsIn_of_missing habs hread
  have hcases := Root.ensureParent_ends hends hup hread r hd
  rw [prepare_of_none hexp] at hs
  rw [commit_of_none hexp] at hnow ⊢
  generalize r.ensureParent d w.edit.file = made at hcases hs hnow ⊢
  obtain ⟨err | u, d₁⟩ := made
  -- either making the directories has failed, or the edit has
  · obtain ⟨hrefuse, err, hens⟩ | ⟨hok, -⟩ | ⟨err, -, hnone⟩ := hcases
    · cases hens
      exact ⟨hrefuse, hread⟩
    · cases hok
    · exact absurd hnow (hnone now)
  · obtain ⟨-, err, hens⟩ | ⟨-, ⟨c, m, hreach, hc⟩, hstill⟩ | ⟨err, herr, -⟩ := hcases
    · cases hens
    · dsimp only at hnow hs hreach hc hstill ⊢
      cases hread₁ : readBytes d₁ w.edit.file with
      | error err =>
        rw [Edit.applyIn_of_error hread₁, hread₁] at hnow
        cases hnow
      | ok current =>
        cases current with
        | some bytes => exact absurd hread₁ (hstill bytes)
        | none =>
          obtain ⟨hsame, hrefuse⟩ := Edit.refuses_of_missing hends hup hread₁ hexp hs hn hreach hc
            (fun hsame => hnew (Except.ok.inj (hnow.symm.trans hsame))) r
          rw [hsame]
          exact ⟨hrefuse, hread₁⟩
    · cases herr

end

end SourcePatch
