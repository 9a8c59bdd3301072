import SourcePatch.Proofs.Edit.Atomic

/-!
# How writes end

With the directory of its target in place, and a target that can be read or is missing, a write ends
in a way that the path of the target decides: its temporary file may have too long a path, and a
path whose end does not move is none for a file. Nothing else on the disk matters.

## Main definitions

* `Path.endError?`: what keeps a path from being that of a file.

## Main statements

* `Disk.replaceFile_of_missing`, `Disk.replaceFile_of_file`: how a write ends.
-/

namespace SourcePatch

namespace Path

/-- Why no file can be made under a path that ends in `idle`. -/
def endError? (idle : List String) : Option IoError :=
  if idle = [] then none else if ∀ s ∈ idle, s = "" then some .notADirectory else some .noSuchFile

end Path

theorem exists_of_not_blank (names : List String) : (∀ s ∈ names, s = "") ∨
    ∃ before name blanks, names = before ++ name :: blanks ∧ name ≠ "" ∧ ∀ s ∈ blanks, s = "" := by
  induction names using List.reverseRecOn with
  | nil => simp
  | append_singleton names name ih =>
    by_cases hname : name = ""
    · subst hname
      obtain hall | ⟨before, name, blanks, rfl, hne, hblank⟩ := ih
      · exact .inl (by simpa [or_imp, forall_and] using hall)
      · exact .inr ⟨before, name, blanks ++ [""], by simp, hne,
          by simpa [or_imp, forall_and] using hblank⟩
    · exact .inr ⟨names, name, [], rfl, hname, by simp⟩

namespace Disk

variable {d : Disk} {p : Path} {above idle before blanks : List String} {last name : String}
  {c : Location} {m : Nat} {current : Option ByteArray}

/-- Slashes at the end of a path are passed over, but not forgotten. -/
theorem locateEntry_of_blanks (hseg : p.segments = before ++ name :: blanks) (hn : name ≠ "")
    (hb : ∀ s ∈ blanks, s = "") : d.locateEntry p = (checkPath p).bind fun _ =>
      (d.travel linkLimit (d.startOf p) before).bind fun r =>
        if d.node? r.1 ≠ some .directory then .error .notADirectory
        else if name = "." ∨ name = ".." then .ok ⟨none, blanks ≠ []⟩
        else if nameLimit < name.utf8ByteSize then .error .nameTooLong
        else .ok ⟨some (r.1 ++ [name]), blanks ≠ []⟩ := by
  have hstrip : p.segments.reverse.dropWhile (· == "") = name :: before.reverse := by
    rw [hseg, List.reverse_append, List.reverse_cons, List.append_assoc, List.dropWhile_append,
      List.dropWhile_eq_nil_iff.2 (by simpa using hb)]
    simp [hn]
  have hslash : (p.segments.getLast? == some "") = decide (blanks ≠ []) := by
    rw [hseg]
    obtain rfl | ⟨blanks, s, rfl⟩ := blanks.eq_nil_or_concat
    · simpa using hn
    · obtain rfl := hb s (by simp)
      rw [List.concat_eq_append, ← List.cons_append, ← List.append_assoc, List.getLast?_concat]
      simp
  rw [locateEntry_eq, hstrip, hslash]
  simp only [List.reverse_reverse]

section

variable (h : p.EndsIn above last idle)
include h

theorem isAbsolute_of_endsIn : p.isAbsolute = true :=
  Path.isAbsolute_iff.2 ⟨_, h.segments, by simp⟩

theorem checkPath_above (hcheck : checkPath p = .ok ()) :
    checkPath (.ofNames above) = .ok () := by
  have hp : p = .ofNames (above ++ last :: idle) := by
    rw [Path.ofNames, if_neg (by simp), ← h.segments]
  rw [hp] at hcheck
  exact checkPath_of_isPrefix (List.prefix_append _ _) hcheck

variable (hup : ".." ∉ p.segments)
include hup

theorem not_mem_above : ".." ∉ above := fun hmem => hup (by simp [h.segments, hmem])

theorem last_ne : last ≠ ".." := by
  rintro rfl
  exact hup (by simp [h.segments])

theorem plain_parent : (Path.ofNames (Path.trimmed false above)).Plain :=
  .of_parent? (isAbsolute_of_endsIn h) hup (Path.parent?_of_endsIn h)

end

section

variable (h : p.EndsIn above last idle) (hreach : d.travel linkLimit [] above = .ok (c, m))
  (hc : d.node? c = some .directory)
include h hreach

theorem travel_endsIn :
    d.travel linkLimit (d.startOf p) p.segments = d.travel m c (last :: idle) := by
  rw [startOf_of_absolute (isAbsolute_of_endsIn h), travel_root h.segments,
    travel_append_of_ok hreach]

include hc

/-- A path that can be read, or that leads nowhere, ends in the name of an entry that is not a
directory, and if it can be read then there is nothing behind that name. -/
theorem last_of_readBytes (hup : last ≠ "..") (hread : readBytes d p = .ok current) :
    Ordinary last ∧ d.node? (c ++ [last]) ≠ some .directory ∧ (current ≠ none → idle = []) := by
  have hcheck := checkPath_of_readBytes (isAbsolute_of_endsIn h) hread
  have hloc : d.locate p = (d.travel m c (last :: idle)).map Prod.fst := by
    rw [locate_eq, hcheck, travel_endsIn h hreach]
    rfl
  rw [readBytes_eq, hloc] at hread
  have hmoves := h.moves
  rw [Path.isIdle_iff] at hmoves
  have hshort : ¬ nameLimit < last.utf8ByteSize := by
    intro hlong
    rw [travel_long hc hmoves hup hlong] at hread
    cases hread
  have ho : Ordinary last := by grind [Ordinary]
  refine ⟨ho, fun hdir => ?_, fun hsome => ?_⟩
  · rw [travel_enter hc ho hdir (by simp), travel_all_idle hdir h.idles] at hread
    simp [Except.map, hdir] at hread
  · cases ht : d.travel m c [last] with
    | error err =>
      have hsplit : last :: idle = [last] ++ idle := rfl
      rw [hsplit, travel_append_of_error ht] at hread
      cases err with
      | noSuchFile => cases hread; exact absurd rfl hsome
      | _ => cases hread
    | ok r =>
      have hsplit : last :: idle = [last] ++ idle := rfl
      rw [hsplit, travel_append_of_ok ht] at hread
      by_contra hne
      obtain ⟨s, rest, rfl⟩ := List.exists_cons_of_ne_nil hne
      by_cases hdir : d.node? r.1 = some .directory
      · rw [travel_all_idle hdir h.idles] at hread
        simp [Except.map, hdir] at hread
      · rw [travel_of_not_directory hdir] at hread
        cases hread

/-- In its directory a file is missing, if there is nothing and its name is not too long. -/
theorem readBytes_of_free (hup : last ≠ "..") (hcheck : checkPath p = .ok ())
    (hfree : d.node? (c ++ [last]) = none) : readBytes d p =
      if nameLimit < last.utf8ByteSize then .error (.io .nameTooLong) else .ok none := by
  have hmoves := h.moves
  rw [Path.isIdle_iff] at hmoves
  rw [readBytes_eq, locate_eq, hcheck, travel_endsIn h hreach]
  by_cases hlong : nameLimit < last.utf8ByteSize
  · rw [if_pos hlong, travel_long hc hmoves hup hlong]
    rfl
  · rw [if_neg hlong, travel_missing hc (by grind [Ordinary]) hfree]
    rfl

/-- Behind the last name there are only slashes. -/
theorem locateEntry_of_slashes (hcheck : checkPath p = .ok ()) (ho : Ordinary last)
    (hslash : ∀ s ∈ idle, s = "") :
    d.locateEntry p = .ok ⟨some (c ++ [last]), idle ≠ []⟩ := by
  obtain ⟨h₁, h₂, h₃, h₄⟩ := ho
  have hseg : p.segments = ("" :: above) ++ last :: idle := by rw [h.segments]; rfl
  rw [locateEntry_of_blanks hseg h₁ hslash, hcheck,
    startOf_of_absolute (isAbsolute_of_endsIn h), travel_idle rfl (.inl rfl), hreach]
  simp only [Except.bind]
  rw [if_neg (by simp [hc]), if_neg (by simp [h₂, h₃]), if_neg (by omega)]

/-- Behind the last name there is a dot. -/
theorem locateEntry_of_dot (hread : readBytes d p = .ok none) (hup : last ≠ "..")
    (hdot : ¬ ∀ s ∈ idle, s = "") : d.locateEntry p = .error .noSuchFile := by
  have hcheck := checkPath_of_readBytes (isAbsolute_of_endsIn h) hread
  obtain ⟨ho, hdir, -⟩ := last_of_readBytes h hreach hc hup hread
  obtain hall | ⟨before, name, blanks, rfl, hname, hblank⟩ := exists_of_not_blank idle
  · exact absurd hall hdot
  have hseg : p.segments = ("" :: (above ++ last :: before)) ++ name :: blanks := by
    rw [h.segments]
    simp
  rw [locateEntry_of_blanks hseg hname hblank, hcheck,
    startOf_of_absolute (isAbsolute_of_endsIn h), travel_idle rfl (.inl rfl),
    travel_append_of_ok hreach]
  -- the way to the last name does not end in a directory, so it ends before the dot
  have hmiss : d.travel m c (last :: before) = .error .noSuchFile := by
    have hsplit : last :: (before ++ name :: blanks) = (last :: before) ++ name :: blanks := rfl
    have hloc : d.locate p = (d.travel m c ((last :: before) ++ name :: blanks)).map Prod.fst := by
      rw [locate_eq, hcheck, travel_endsIn h hreach]
      rfl
    rw [readBytes_eq, hloc] at hread
    cases ht : d.travel m c (last :: before) with
    | error err =>
      rw [travel_append_of_error ht] at hread
      cases err with
      | noSuchFile => rfl
      | _ => cases hread
    | ok r =>
      rw [travel_append_of_ok ht] at hread
      by_cases hr : d.node? r.1 = some .directory
      · have hidle : ∀ s ∈ name :: blanks, Path.isIdle false s = true := fun s hs =>
          h.idles s (List.mem_append_right _ hs)
        rw [travel_all_idle hr hidle] at hread
        simp [Except.map, hr] at hread
      · rw [travel_of_not_directory hr] at hread
        cases hread
  rw [hmiss]
  rfl

omit h hc in
theorem travel_parent :
    d.travel linkLimit [] (Path.ofNames (Path.trimmed false above)).segments = .ok (c, m) := by
  rw [travel_ofNames]
  exact travel_trimmed hreach

omit h hreach hc in
theorem targetMode_of_missing (hread : readBytes d p = .ok none) :
    targetMode d p = .ok defaultMode := by
  have hlookup : d.lookup p = .error .noSuchFile := by
    rw [readBytes_eq] at hread
    unfold lookup
    cases hl : d.locate p with
    | error err =>
      rw [hl] at hread
      cases err with
      | noSuchFile => rfl
      | _ => cases hread
    | ok l =>
      rw [hl] at hread
      simp only [bind, Except.bind]
      dsimp only at hread
      cases hn : d.node? l with
      | none => rfl
      | some n => rw [hn] at hread; cases n <;> cases hread
  simp [targetMode, mode, hlookup, bind, Except.bind]

variable (hd : d.SlashFree) (hn : ∀ name ∈ p.segments, IsSegment name) (hup : ".." ∉ p.segments)
include hd hn hup

/-- A write over nothing makes a file, unless its temporary file has too long a path or the path of
the target does not end in a name. -/
theorem replaceFile_of_missing (hread : readBytes d p = .ok none) (content : ByteArray) :
    d.replaceFile p content =
      match checkPath ((Path.ofNames (Path.trimmed false above)).join ⟨[temporaryName 0]⟩) with
      | .error err => (.error (.temporary err), d)
      | .ok () =>
        match Path.endError? idle with
        | some err => (.error (.io err), d)
        | none => (.ok (), d.put (c ++ [last]) (.file content defaultMode)) := by
  have habs := isAbsolute_of_endsIn h
  have hlast := last_ne h hup
  have hcheck := checkPath_of_readBytes habs hread
  obtain ⟨ho, hdir, -⟩ := last_of_readBytes h hreach hc hlast hread
  rw [replaceFile_eq hd (plain_parent h hup) (travel_parent hreach) hc habs hn
    (Path.parent?_of_endsIn h)]
  cases checkPath ((Path.ofNames (Path.trimmed false above)).join ⟨[temporaryName 0]⟩) with
  | error err => rfl
  | ok u =>
    dsimp only
    rw [targetMode_of_missing hread]
    dsimp only
    unfold Path.endError?
    by_cases hslash : ∀ s ∈ idle, s = ""
    · rw [locateEntry_of_slashes h hreach hc hcheck ho hslash]
      dsimp only
      by_cases hnil : idle = []
      · rw [if_pos hnil, if_neg (by simpa using hnil), if_neg hdir]
      · rw [if_neg hnil, if_pos hslash, if_pos (by simpa using hnil)]
    · have hne : idle ≠ [] := by
        rintro rfl
        exact hslash (by simp)
      rw [locateEntry_of_dot h hreach hc hread hlast hslash, if_neg hne, if_neg hslash]

/-- A write over a file keeps its mode, and fails only if its temporary file has too long a
path. -/
theorem replaceFile_of_file {l : Location} {data : ByteArray} {mode : Nat}
    (hl : d.locate p = .ok l) (hnode : d.node? l = some (.file data mode)) (content : ByteArray) :
    d.replaceFile p content =
      match checkPath ((Path.ofNames (Path.trimmed false above)).join ⟨[temporaryName 0]⟩) with
      | .error err => (.error (.temporary err), d)
      | .ok () => (.ok (), d.put (c ++ [last]) (.file content mode)) := by
  have habs := isAbsolute_of_endsIn h
  have hlast := last_ne h hup
  have hread := readBytes_eq_some_iff.2 ⟨l, mode, hl, hnode⟩
  have hcheck := checkPath_of_readBytes habs hread
  obtain ⟨ho, hdir, hnil⟩ := last_of_readBytes h hreach hc hlast hread
  obtain rfl := hnil (by simp)
  have hmode : targetMode d p = .ok mode := by
    simp [targetMode, Disk.mode, lookup, hl, hnode, bind, Except.bind]
  rw [replaceFile_eq hd (plain_parent h hup) (travel_parent hreach) hc habs hn
    (Path.parent?_of_endsIn h), hmode,
    locateEntry_of_slashes h hreach hc hcheck ho (by simp)]
  cases checkPath ((Path.ofNames (Path.trimmed false above)).join ⟨[temporaryName 0]⟩) with
  | error err => rfl
  | ok u => simp [hdir]

end

end Disk

end SourcePatch
