import SourcePatch.Proofs.Disk.Directories
import SourcePatch.Proofs.Tree.Lexical
import SourcePatch.Proofs.Tree.Resolve
import SourcePatch.Tree.Locate

/-!
# Targets and the directories they need

A target that is accepted has an absolute path that goes down from the root of the tree. The
directories made for it lie below the nearest place that exists.

## Main statements

* `Root.nearest_of_resolve`: the nearest place above a target lies in the tree.
* `Root.ensureParent_grown`: what is made for a target.
* `Root.ensureParent_of_read`: nothing is made for a target that can be read.
-/

namespace SourcePatch

theorem mapError_eq_ok {ε ε' α : Type} {f : ε → ε'} {x : Except ε α} {a : α} :
    x.mapError f = .ok a ↔ x = .ok a := by
  cases x <;> simp [Except.mapError]

namespace Root

variable {r : Root} {d d' : Disk} {target file : Path}

/-- A target whose components are accepted is relative and nowhere goes up. -/
theorem descends_of_checkComponents
    (h : checkComponents target target.components = .ok ()) :
    target.isAbsolute = false ∧ ".." ∉ target.segments :=
  Path.isTreeRelative_iff.1 (checkComponents_iff.1 h)

theorem descends_of_resolve (h : r.resolve d target = .ok file) :
    target.isAbsolute = false ∧ ".." ∉ target.segments :=
  descends_of_checkComponents (resolve_eq_ok_iff.1 h).2.1

section

variable (hrel : target.isAbsolute = false)
include hrel

theorem isAbsolute_join (ht : target.segments ≠ []) : (r.path.join target).isAbsolute = true := by
  obtain ⟨s, rest, hseg⟩ := List.exists_cons_of_ne_nil ht
  rw [Path.join, hrel, if_neg (by decide), Path.isAbsolute_iff, hseg]
  cases hl : r.location with
  | nil => exact ⟨s :: rest, by simp [path, hl, Path.ofNames], by simp⟩
  | cons name names =>
    have hpath : r.path.segments = "" :: name :: names := by simp [path, hl, Path.ofNames]
    rw [hpath]
    split
    · exact ⟨(name :: names).dropLast ++ s :: rest, by simp, by simp⟩
    · exact ⟨name :: names ++ s :: rest, by simp, by simp⟩

/-- The path of a target goes through the root and then along the target. -/
theorem segments_join (hr : ∀ name ∈ r.location, Disk.Ordinary name) :
    (r.path.join target).segments = "" :: (r.location ++ target.segments) := by
  rw [Path.join, hrel, if_neg (by decide), path]
  cases hl : r.location with
  | nil => rfl
  | cons name names =>
    rw [Path.segments_ofNames (by simp), if_neg]
    · rfl
    · rw [List.getLast?_cons_cons]
      intro hlast
      exact (hr "" (by rw [hl]; exact List.mem_of_getLast? hlast)).1 rfl

theorem descends_join (hr : ∀ name ∈ r.location, Disk.Ordinary name)
    (hup : ".." ∉ target.segments) : ".." ∉ (r.path.join target).segments := by
  rw [segments_join hrel hr]
  simp only [List.mem_cons, List.mem_append, not_or]
  exact ⟨by decide, fun hmem => (hr _ hmem).2.2.1 rfl, hup⟩

end

section

variable (h : r.resolve d target = .ok file) (ht : target.segments ≠ [])
include h ht

theorem isAbsolute_of_resolve : file.isAbsolute = true := by
  obtain ⟨-, -, -, rfl⟩ := resolve_eq_ok_iff.1 h
  exact isAbsolute_join (descends_of_resolve h).1 ht

/-- The nearest place above a target that is accepted lies in the tree. -/
theorem nearest_of_resolve (hc : Disk.checkPath file = .ok ()) :
    ∃ q a, file.ancestors.find? d.leadsSomewhere = some q ∧ d.locate q = .ok a ∧ r.Contains a := by
  obtain ⟨q, a, hq, hcan, ha⟩ := d.exists_nearest (isAbsolute_of_resolve h ht) hc
  obtain ⟨-, -, hcheck, rfl⟩ := resolve_eq_ok_iff.1 h
  rw [checkAncestor_of_nearest hq hcan] at hcheck
  refine ⟨q, a, hq, ha, ?_⟩
  by_contra hout
  rw [if_neg hout] at hcheck
  cases hcheck

/-- The root of a tree is written with names of entries, as the nearest place lies below it. -/
theorem ordinary_of_resolve {c : Option ByteArray} (hread : readBytes d file = .ok c) :
    ∀ name ∈ r.location, Disk.Ordinary name := by
  have habs := isAbsolute_of_resolve h ht
  obtain ⟨q, a, hq, ha, hin⟩ := nearest_of_resolve h ht (Disk.checkPath_of_readBytes habs hread)
  have hqabs := Path.isAbsolute_of_mem_ancestors habs (List.mem_of_find?_eq_some hq)
  obtain ⟨-, m, htravel⟩ := Disk.locate_eq_ok_iff.1 ha
  rw [Disk.startOf_of_absolute hqabs] at htravel
  intro name hname
  exact Disk.ordinary_of_travel htravel (by simp) name (hin.subset hname)

omit ht in
theorem segments_of_resolve (hr : ∀ name ∈ r.location, Disk.Ordinary name) :
    file.segments = "" :: (r.location ++ target.segments) := by
  obtain ⟨-, -, -, rfl⟩ := resolve_eq_ok_iff.1 h
  exact segments_join (descends_of_resolve h).1 hr

omit ht in
theorem descends_of_ordinary (hr : ∀ name ∈ r.location, Disk.Ordinary name) :
    ".." ∉ file.segments := by
  obtain ⟨hrel, hup⟩ := descends_of_resolve h
  obtain ⟨-, -, -, rfl⟩ := resolve_eq_ok_iff.1 h
  exact descends_join hrel hr hup

theorem descends_of_read {c : Option ByteArray} (hread : readBytes d file = .ok c) :
    ".." ∉ file.segments :=
  descends_of_ordinary h (ordinary_of_resolve h ht hread)

/-- The path of the root is no longer than that of a target. -/
theorem checkPath_of_resolve {c : Option ByteArray} (hread : readBytes d file = .ok c) :
    Disk.checkPath r.path = .ok () := by
  have hseg := segments_of_resolve h (ordinary_of_resolve h ht hread)
  have hc := Disk.checkPath_of_readBytes (isAbsolute_of_resolve h ht) hread
  obtain ⟨segments⟩ := file
  cases hseg
  cases hl : r.location with
  | nil =>
    rw [path, hl]
    rfl
  | cons name names =>
    rw [hl, ← List.cons_append] at hc
    rw [path, hl, Path.ofNames, if_neg (by simp)]
    exact Disk.checkPath_of_append target.segments (by simp) hc

end

/-! ## Making directories for a target -/

theorem ensureParent_eq (r : Root) (d : Disk) {q : Path} (hq : file.parent? = some q) :
    r.ensureParent d file =
      if q.startsWith r.path = true then
        ((d.makeDirectories q).1.mapError (.createDirectory q), (d.makeDirectories q).2)
      else (.error (.safety (.outsideTree file r.path)), d) := by
  rw [ensureParent, hq]
  dsimp only [makeDirectories]
  split
  · rcases d.makeDirectories q with ⟨_ | _, d'⟩ <;> rfl
  · rfl

theorem startsWith_ofNames (r : Root) (pre : List String) :
    (Path.ofNames (Path.trimmed false (r.location ++ pre))).startsWith r.path = true := by
  rw [Path.startsWith, Path.components_ofNames, path, Path.components_ofNames,
    Path.componentsFrom_trimmed, Path.componentsFrom_append, List.isPrefixOf_iff_prefix]
  exact List.prefix_append _ _

/-- The parent of a target is below the root by how it is written. -/
theorem startsWith_parent {q : Path} {e : Location}
    (hseg : file.segments = "" :: (r.location ++ target.segments)) (ht : target.segments ≠ [])
    (he : d.locateEntry file = .ok ⟨some e, false⟩) (hq : file.parent? = some q) :
    q.startsWith r.path = true := by
  obtain ⟨-, above, name, parent, m, hname, -, -, ho, -⟩ := Disk.locateEntry_eq_ok_iff.1 he
  obtain ⟨names, last, hlast⟩ := (List.eq_nil_or_concat target.segments).resolve_left ht
  rw [hlast, List.concat_eq_append, ← List.append_assoc, ← List.cons_append] at hseg
  have hsame : name = last := by
    have hends := congrArg List.getLast? (hname.symm.trans hseg)
    rw [← List.cons_append, List.getLast?_concat, List.getLast?_concat] at hends
    exact Option.some.inj hends
  subst hsame
  have hidle : ¬ Path.isIdle false name = true := by
    rw [Path.isIdle_iff, not_or]
    exact ⟨ho.1, ho.2.1⟩
  rw [Path.parent?_concat hseg hidle, Option.some.injEq] at hq
  rw [← hq]
  exact startsWith_ofNames r _

/-- What is made for a target lies below the nearest place above its parent. -/
theorem ensureParent_grown (hd : d.WellFormed) (hp : file.isAbsolute = true)
    (hup : ".." ∉ file.segments) :
    (∃ err, r.ensureParent d file = (.error err, d)) ∨
    ∃ p q a b, file.parent? = some p ∧ p.ancestors.find? d.leadsSomewhere = some q ∧
      d.locate q = .ok a ∧ Disk.Grown a d b (r.ensureParent d file).2 ∧
      ((r.ensureParent d file).1 = .ok () → (r.ensureParent d file).2.locate p = .ok b ∧
        (r.ensureParent d file).2.node? b = some .directory) := by
  cases hq : file.parent? with
  | none => exact .inl ⟨_, by rw [ensureParent, hq]⟩
  | some q =>
    rw [ensureParent_eq r d hq]
    split
    · obtain ⟨q', a, hfind, ha, b, hg, hok⟩ :=
        Disk.madeFrom_makeDirectories hd (Path.Plain.of_parent? hp hup hq)
      exact .inr ⟨q, q', a, b, rfl, hfind, ha, hg, fun h => hok (mapError_eq_ok.1 h)⟩
    · exact .inl ⟨_, rfl⟩

theorem ensureParent_gains (hd : d.WellFormed) (hp : file.isAbsolute = true)
    (hup : ".." ∉ file.segments) : d.GainsDirectories (r.ensureParent d file).2 ∧
      (r.ensureParent d file).2.WellFormed := by
  obtain ⟨err, h⟩ | ⟨_, _, _, _, -, -, -, hg, -⟩ := ensureParent_grown (r := r) hd hp hup
  · rw [h]
    exact ⟨.refl d, hd⟩
  · exact ⟨hg.gainsDirectories, hg.wellFormed hd⟩

/-- The entry that a target names is no root of a tree that the target lies in. -/
theorem ne_location_of_read (hd : d.WellFormed) (h : r.resolve d target = .ok file)
    (ht : target.segments ≠ []) {bytes : ByteArray} {e : Location}
    (hread : readBytes d file = .ok (some bytes))
    (he : d.locateEntry file = .ok ⟨some e, false⟩) : r.location ≠ e := by
  rintro rfl
  obtain ⟨l, mode, hl, hn⟩ := Disk.readBytes_eq_some_iff.1 hread
  have habs := isAbsolute_of_resolve h ht
  have hr := ordinary_of_resolve h ht hread
  obtain ⟨names, hnames⟩ := contains_of_resolve h hl hn
  -- the place of the root cannot be a directory, so it is the file that is read
  have hnil : names = [] := by
    by_contra hne
    have hdir := hd.directory_of_append (l := r.location) hne (by simp [hnames, hn])
    rw [Disk.locate_of_locateEntry he hdir (by simp)] at hl
    cases hl
    rw [hn] at hdir
    cases hdir
  subst hnil
  rw [List.append_nil] at hnames
  obtain ⟨-, m, ht'⟩ := Disk.locate_eq_ok_iff.1 hl
  obtain ⟨s, rest, hseg⟩ := List.exists_cons_of_ne_nil ht
  rw [Disk.startOf_of_absolute habs, Disk.travel_root (segments_of_resolve h hr),
    Disk.travel_append, Disk.travel_of_location (n := .file bytes mode) hd hr
      (by rwa [List.nil_append, hnames]) (by simp)] at ht'
  change d.travel Disk.linkLimit ([] ++ r.location) target.segments = _ at ht'
  rw [hseg] at ht'
  have hdir := Disk.directory_of_travel_cons ht'
  rw [List.nil_append, hnames, hn] at hdir
  cases hdir

theorem not_leadsSomewhere_of_missing (hmiss : readBytes d file = .ok none) :
    d.leadsSomewhere file = false := by
  refine Bool.eq_false_iff.2 fun hlead => ?_
  obtain ⟨l, n, hl, hn⟩ := Disk.leadsSomewhere_iff.1 hlead
  rw [Disk.readBytes_eq, hl] at hmiss
  cases n <;> simp [hn] at hmiss

/-- A target that was missing is missing still when its directories have been made. -/
theorem not_read_of_ensureParent (hd : d.WellFormed) (hp : file.isAbsolute = true)
    (hup : ".." ∉ file.segments) (h : r.ensureParent d file = (.ok (), d'))
    (hmiss : readBytes d file = .ok none) (bytes : ByteArray) :
    readBytes d' file ≠ .ok (some bytes) := by
  intro hread
  have hwf := (ensureParent_gains (r := r) hd hp hup).2
  obtain ⟨err, herr⟩ | ⟨p, q, a, b, hparent, -, -, hg, hok⟩ :=
    ensureParent_grown (r := r) hd hp hup
  · rw [h] at herr
    cases herr
  · rw [h] at hg hok hwf
    obtain ⟨l, mode, hl, hn⟩ := Disk.readBytes_eq_some_iff.1 hread
    obtain ⟨e, he, hne⟩ := Disk.locateEntry_of_not_directory hwf hp hl (by simp [hn])
    obtain ⟨p', b', name, hparent', hb', -, -, rfl⟩ := Disk.locate_parent hp he
    rw [hparent] at hparent'
    cases hparent'
    rw [(hok rfl).1] at hb'
    cases hb'
    -- an entry in a directory that was made would be one that was made
    obtain ⟨-, rfl⟩ := hg.eq_of_entry hd hne
    rw [hmiss] at hread
    cases hread

/-- Nothing is made for a target that can be read. -/
theorem ensureParent_of_read (hd : d'.WellFormed) (h : r.resolve d target = .ok file)
    (ht : target.segments ≠ []) (hr : ∀ name ∈ r.location, Disk.Ordinary name)
    {bytes : ByteArray} (hread : readBytes d' file = .ok (some bytes)) :
    r.ensureParent d' file = (.ok (), d') := by
  have habs := isAbsolute_of_resolve h ht
  obtain ⟨l, mode, hl, hn⟩ := Disk.readBytes_eq_some_iff.1 hread
  obtain ⟨e, he, -⟩ := Disk.locateEntry_of_not_directory hd habs hl (by simp [hn])
  obtain ⟨q, b, -, hq, hb, hdir, -, -⟩ := Disk.locate_parent habs he
  have hstarts := startsWith_parent (segments_of_resolve h hr) ht he hq
  have hplain := Path.Plain.of_parent? habs (descends_of_ordinary h hr) hq
  rw [ensureParent_eq r d' hq, if_pos hstarts,
    Disk.makeDirectories_of_isDirectory hplain (Disk.isDirectory_iff.2 ⟨b, hb, hdir⟩)]
  rfl

end Root

end SourcePatch
