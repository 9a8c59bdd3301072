import SourcePatch.Proofs.Disk.Entry
import SourcePatch.Proofs.Path

/-!
# Places above absolute paths

The parent of an absolute path leads to the directory that holds the entry which the path names. So
it does not matter that the parent is written without what does not move.

## Main definitions

* `Path.Plain`: an absolute path that goes down only, and ends where it says.

## Main statements

* `Disk.locate_parent`: where the parent of a path leads.
-/

namespace SourcePatch

/-- An absolute path that nowhere goes up, and ends with a name that moves. -/
def Path.Plain (p : Path) : Prop :=
  ∃ names, p = .ofNames names ∧ Path.trimmed false names = names ∧ ".." ∉ names

namespace Disk

variable {d : Disk} {p q : Path} {links m : Nat} {here l : Location} {names : List String}

/-! ## Texts of paths -/

theorem checkPath_eq_ok_iff : checkPath p = .ok () ↔
    '\x00' ∉ p.text.toList ∧ p.isEmpty = false ∧ p.text.utf8ByteSize < pathLimit := by
  unfold checkPath
  split
  · next h => simp [List.contains_iff_mem.1 h]
  · next h =>
    have h : '\x00' ∉ p.text.toList := by simpa using h
    split
    · next he => simp [he]
    · next he =>
      split <;> simp_all

theorem isEmpty_of_absolute (hp : p.isAbsolute = true) : p.isEmpty = false := by
  obtain ⟨names, hseg, hne⟩ := Path.isAbsolute_iff.1 hp
  simpa [Path.isEmpty, hseg] using hne

/-- A path that can be read, or leads nowhere, has a text that names something. -/
theorem checkPath_of_readBytes {c : Option ByteArray} (hp : p.isAbsolute = true)
    (h : readBytes d p = .ok c) : checkPath p = .ok () := by
  cases hc : checkPath p with
  | ok u => rfl
  | error err =>
    have hl : d.locate p = .error err := by rw [locate_eq, hc]; rfl
    rw [readBytes_eq, hl] at h
    simp only [checkPath, isEmpty_of_absolute hp, Bool.false_eq_true, if_false] at hc
    split_ifs at hc <;> cases hc <;> cases h

theorem utf8ByteSize_le_of_isPrefix {s t : String} (h : s.toList <+: t.toList) :
    s.utf8ByteSize ≤ t.utf8ByteSize := by
  obtain ⟨cs, hcs⟩ := h
  have ht : t = s ++ String.ofList cs := by
    rw [← String.toList_inj, String.toList_append, String.toList_ofList, hcs]
  rw [ht, String.utf8ByteSize_append]
  omega

theorem checkPath_of_append {segments : List String} (rest : List String) (hne : segments ≠ [""])
    (h : checkPath ⟨segments ++ rest⟩ = .ok ()) : checkPath ⟨segments⟩ = .ok () := by
  obtain ⟨hnul, -, hsize⟩ := checkPath_eq_ok_iff.1 h
  refine checkPath_eq_ok_iff.2 ⟨fun hc => hnul (Path.text_isPrefix.subset hc), ?_, ?_⟩
  · simpa [Path.isEmpty] using hne
  · exact Nat.lt_of_le_of_lt (utf8ByteSize_le_of_isPrefix Path.text_isPrefix) hsize

theorem checkPath_of_parent? (hp : p.isAbsolute = true) (h : p.parent? = some q)
    (hc : checkPath p = .ok ()) : checkPath q = .ok () := by
  obtain ⟨names, above, hseg, rfl, -, rest, rfl⟩ := Path.exists_names_of_parent? hp h
  cases above with
  | nil => rfl
  | cons name above =>
    obtain ⟨segments⟩ := p
    cases hseg
    have hq : Path.ofNames (name :: above) = ⟨"" :: name :: above⟩ := rfl
    rw [hq]
    exact checkPath_of_append rest (by simp) hc

theorem checkPath_of_isPrefix {above : List String} (h : above <+: names)
    (hc : checkPath (.ofNames names) = .ok ()) : checkPath (.ofNames above) = .ok () := by
  cases above with
  | nil => rfl
  | cons name above =>
    obtain ⟨rest, rfl⟩ := h
    rw [List.cons_append, Path.ofNames, if_neg (by simp), ← List.cons_append,
      ← List.cons_append] at hc
    rw [Path.ofNames, if_neg (by simp)]
    exact checkPath_of_append rest (by simp) hc

/-! ## Ends that do not move -/

theorem travel_all_idle (hh : d.node? here = some .directory)
    (h : ∀ s ∈ names, Path.isIdle false s = true) :
    d.travel links here names = .ok (here, links) := by
  induction names with
  | nil => exact travel_nil ..
  | cons name names ih =>
    rw [travel_idle hh (Path.isIdle_iff.1 (h name (by simp)))]
    exact ih fun s hs => h s (by simp [hs])

theorem travel_of_idle (h : ∀ s ∈ names, Path.isIdle false s = true)
    (ht : d.travel links here names = .ok (l, m)) : l = here ∧ m = links := by
  induction names with
  | nil => rw [travel_nil] at ht; cases ht; exact ⟨rfl, rfl⟩
  | cons name names ih =>
    rw [travel_idle (directory_of_travel_cons ht) (Path.isIdle_iff.1 (h name (by simp)))] at ht
    exact ih (fun s hs => h s (by simp [hs])) ht

theorem travel_trimmed (h : d.travel links here names = .ok (l, m)) :
    d.travel links here (Path.trimmed false names) = .ok (l, m) := by
  obtain ⟨idle, heq, hidle⟩ := Path.exists_idle_of_trimmed names
  rw [heq, travel_append] at h
  cases ht : d.travel links here (Path.trimmed false names) with
  | error err => rw [ht] at h; cases h
  | ok r =>
    rw [ht] at h
    obtain ⟨rfl, rfl⟩ := travel_of_idle hidle h
    rfl

theorem startOf_of_absolute (hp : p.isAbsolute = true) : d.startOf p = [] := if_pos hp

theorem travel_root (h : p.segments = "" :: names) :
    d.travel links [] p.segments = d.travel links [] names := by
  rw [h, travel_idle rfl (.inl rfl)]

theorem travel_ofNames (names : List String) :
    d.travel links [] (Path.ofNames names).segments = d.travel links [] names := by
  cases names with
  | nil =>
    change d.travel links [] ["", ""] = _
    rw [travel_idle rfl (.inl rfl), travel_idle rfl (.inl rfl)]
  | cons name names => exact travel_root rfl

theorem locate_ofNames (hc : checkPath (.ofNames names) = .ok ()) :
    d.locate (.ofNames names) = (d.travel linkLimit [] names).map Prod.fst := by
  rw [locate_eq, hc, startOf_of_absolute (Path.isAbsolute_ofNames names), travel_ofNames]
  rfl

/-- Without a parent a path is the root, however it is written. -/
theorem locate_of_parent?_eq_none (hp : p.isAbsolute = true) (hc : checkPath p = .ok ())
    (hq : p.parent? = none) : d.locate p = .ok [] := by
  obtain ⟨names, hseg, hne⟩ := Path.isAbsolute_iff.1 hp
  have hidle : ∀ s ∈ names, Path.isIdle false s = true := by
    rw [Path.parent?_eq hseg hne] at hq
    split at hq
    · next hnil => rwa [Path.trimmed_eq_rdropWhile, List.rdropWhile_eq_nil_iff] at hnil
    · cases hq
  rw [locate_eq, hc, startOf_of_absolute hp, travel_root hseg, travel_all_idle rfl hidle]
  rfl

/-! ## The nearest place that exists -/

theorem nearest_of_leads (h : d.leadsSomewhere p = true) :
    p.ancestors.find? d.leadsSomewhere = some p := by
  rw [Path.ancestors, Path.ancestorsUpTo, List.find?_cons, h]

theorem nearest_of_parent? (hp : p.isAbsolute = true) (hq : p.parent? = some q)
    (h : d.leadsSomewhere p = false) :
    p.ancestors.find? d.leadsSomewhere = q.ancestors.find? d.leadsSomewhere := by
  rw [Path.ancestors_of_parent? hp hq, List.find?_cons, h]

/-! ## The directory that holds an entry -/

/-- The parent of a path leads to where the entry is. -/
theorem locate_parent {e : Location} (hp : p.isAbsolute = true)
    (h : d.locateEntry p = .ok ⟨some e, false⟩) :
    ∃ q b name, p.parent? = some q ∧ d.locate q = .ok b ∧ d.node? b = some .directory ∧
      Ordinary name ∧ e = b ++ [name] := by
  obtain ⟨hc, above, name, parent, m, hseg, ht, hd, ho, rfl⟩ := locateEntry_eq_ok_iff.1 h
  have hidle : ¬ Path.isIdle false name = true := by
    rw [Path.isIdle_iff, not_or]
    exact ⟨ho.1, ho.2.1⟩
  obtain ⟨names, hnames, hne⟩ := Path.isAbsolute_iff.1 hp
  -- the slash in front belongs to what is above the name
  obtain ⟨above, rfl⟩ : ∃ names, above = "" :: names := by
    rw [hseg] at hnames
    cases above with
    | nil => simp only [List.nil_append, List.cons.injEq] at hnames; exact absurd hnames.2.symm hne
    | cons s above => exact ⟨above, by simp_all⟩
  rw [startOf_of_absolute hp, travel_idle rfl (.inl rfl)] at ht
  have hq := Path.parent?_concat hseg hidle
  refine ⟨_, parent, name, hq, ?_, hd, ho, rfl⟩
  rw [locate_ofNames (checkPath_of_parent? hp hq hc), travel_trimmed ht]
  rfl

/-- What the last name of a way does. -/
theorem last_of_travel {b : Location} {name : String}
    (h : d.travel links b [name] = .ok (l, m)) : d.node? b = some .directory ∧
      ((Path.isIdle false name = true ∧ l = b) ∨ (name = ".." ∧ l = b.dropLast) ∨
        (Ordinary name ∧ d.node? (b ++ [name]) ≠ none)) := by
  have hd := directory_of_travel_cons h
  refine ⟨hd, ?_⟩
  by_cases hi : name = "" ∨ name = "."
  · rw [travel_idle hd hi, travel_nil] at h
    cases h
    exact .inl ⟨Path.isIdle_iff.2 hi, rfl⟩
  by_cases hu : name = ".."
  · subst hu
    rw [travel_up hd, travel_nil] at h
    cases h
    exact .inr (.inl ⟨rfl, rfl⟩)
  by_cases hlong : nameLimit < name.utf8ByteSize
  · rw [travel_long hd hi hu hlong] at h
    cases h
  have ho : Ordinary name := by
    rw [not_or] at hi
    exact ⟨hi.1, hi.2, hu, Nat.not_lt.1 hlong⟩
  refine .inr (.inr ⟨ho, fun hfree => ?_⟩)
  rw [travel_missing hd ho hfree] at h
  cases h

/-- The last name on the way to a place is that of an entry, if it is not one that always exists. -/
theorem locateEntry_of_locate {above : List String} {name : String}
    (hseg : p.segments = above ++ [name]) (hl : d.locate p = .ok l) :
    (∃ e, d.locateEntry p = .ok ⟨some e, false⟩ ∧ d.node? e ≠ none) ∨
      ∃ b, d.node? b = some .directory ∧
        ((Path.isIdle false name = true ∧ l = b) ∨ (name = ".." ∧ l = b.dropLast)) := by
  obtain ⟨hc, m, ht⟩ := locate_eq_ok_iff.1 hl
  rw [hseg, travel_append] at ht
  cases hb : d.travel linkLimit (d.startOf p) above with
  | error err => rw [hb] at ht; cases ht
  | ok r =>
    obtain ⟨b, k⟩ := r
    rw [hb] at ht
    obtain ⟨hd, hidle | hup | ⟨ho, hn⟩⟩ := last_of_travel ht
    · exact .inr ⟨b, hd, .inl hidle⟩
    · exact .inr ⟨b, hd, .inr hup⟩
    · refine .inl ⟨b ++ [name], locateEntry_eq_ok_iff.2 ⟨hc, above, name, b, k, hseg, hb, ?_⟩, hn⟩
      exact ⟨hd, ho, rfl⟩

/-- What is not a directory is reached by the name of an entry. -/
theorem locateEntry_of_not_directory (hd : d.WellFormed) (hp : p.isAbsolute = true)
    (hl : d.locate p = .ok l) (hn : d.node? l ≠ some .directory) :
    ∃ e, d.locateEntry p = .ok ⟨some e, false⟩ ∧ d.node? e ≠ none := by
  obtain ⟨names, hseg, hne⟩ := Path.isAbsolute_iff.1 hp
  have hcut : p.segments = ("" :: names).dropLast ++ [("" :: names).getLast (by simp)] := by
    rw [hseg, List.dropLast_concat_getLast]
  obtain he | ⟨b, hb, ⟨-, rfl⟩ | ⟨-, rfl⟩⟩ := locateEntry_of_locate hcut hl
  · exact he
  · exact absurd hb hn
  · exact absurd (hd.dropLast (by simp [hb])) hn

/-- What cannot be read for another reason than that it is missing cannot be read on a disk that
holds more. -/
theorem readBytes_of_extends {d' : Disk} {err : EditError} (hd : d.WellFormed) (hext : d.Extends d')
    (hp : p.isAbsolute = true) (h : readBytes d p = .error err) : readBytes d' p = .error err := by
  have hl : d'.locate p = d.locate p ∨ d.locate p = .error .noSuchFile := by
    rw [locate_eq, locate_eq, startOf_of_absolute hp, startOf_of_absolute hp]
    cases checkPath p with
    | error err => exact .inl rfl
    | ok u =>
      have htravel : d'.travel linkLimit [] p.segments = d.travel linkLimit [] p.segments ∨
          d.travel linkLimit [] p.segments = .error .noSuchFile :=
        travel_of_extends hd hext (by simp)
      obtain ht | ht := htravel
      · rw [ht]; exact .inl rfl
      · rw [ht]; exact .inr rfl
  rw [readBytes_eq] at h ⊢
  obtain hl | hl := hl
  · rw [hl]
    cases hloc : d.locate p with
    | error err => rw [hloc] at h; cases err <;> exact h
    | ok l =>
      rw [hloc] at h
      dsimp only at h ⊢
      cases hn : d.node? l with
      | none => rw [hn] at h; cases h
      | some n => rw [hn] at h; rw [hext l n hn]; exact h
  · rw [hl] at h
    cases h

end Disk

namespace Path.Plain

variable {d : Disk} {p q : Path} {l : Location}

theorem isAbsolute (hp : p.Plain) : p.isAbsolute = true := by
  obtain ⟨names, rfl, -⟩ := hp
  exact isAbsolute_ofNames names

/-- A plain path is the root, or ends with the name of an entry. -/
theorem cases (hp : p.Plain) : p = ofNames [] ∨ ∃ above name, p.segments = above ++ [name] ∧
    ¬ isIdle false name = true ∧ name ≠ ".." := by
  obtain ⟨names, rfl, htrim, hup⟩ := hp
  obtain hnil | ⟨above, name, heq, hidle⟩ := trimmed_cases names
  · rw [htrim] at hnil
    exact .inl (by rw [hnil])
  · rw [htrim] at heq
    subst heq
    refine .inr ⟨"" :: above, name, segments_ofNames (by simp), hidle, ?_⟩
    rintro rfl
    exact hup (by simp)

theorem isEmpty_eq_false (hp : p.Plain) : p.isEmpty = false :=
  Disk.isEmpty_of_absolute hp.isAbsolute

theorem of_parent? (hp : p.isAbsolute = true) (hup : ".." ∉ p.segments)
    (h : p.parent? = some q) : q.Plain := by
  obtain ⟨names, above, hseg, rfl, htrim, habove⟩ := exists_names_of_parent? hp h
  refine ⟨above, rfl, htrim, fun hmem => hup ?_⟩
  rw [hseg]
  exact List.mem_cons_of_mem _ (habove.subset hmem)

theorem parent? (hp : p.Plain) (h : p.parent? = some q) : q.Plain := by
  refine of_parent? hp.isAbsolute ?_ h
  obtain ⟨names, rfl, -, hup⟩ := hp
  cases names with
  | nil => decide
  | cons name names =>
    rw [segments_ofNames (by simp)]
    simpa using hup

theorem of_mem_ancestors (hp : p.Plain) (hq : q ∈ p.ancestors) : q.Plain := by
  unfold ancestors at hq
  generalize p.segments.length + 1 = n at hq
  induction n generalizing p with
  | zero => cases hq
  | succ n ih =>
    rw [ancestorsUpTo, List.mem_cons] at hq
    obtain rfl | hq := hq
    · exact hp
    · cases hparent : p.parent? with
      | none => rw [hparent] at hq; cases hq
      | some p' =>
        rw [hparent] at hq
        exact ih (hp.parent? hparent) hq

/-- A plain path that leads somewhere names an entry that is there, unless it is the root. -/
theorem locateEntry_of_locate (hp : p.Plain) (hl : d.locate p = .ok l) :
    p = ofNames [] ∨ ∃ e, d.locateEntry p = .ok ⟨some e, false⟩ ∧ d.node? e ≠ none := by
  obtain rfl | ⟨above, name, hseg, hidle, hup⟩ := hp.cases
  · exact .inl rfl
  · obtain he | ⟨b, -, ⟨hi, -⟩ | ⟨hu, -⟩⟩ := Disk.locateEntry_of_locate hseg hl
    · exact .inr he
    · exact absurd hi hidle
    · exact absurd hu hup

end Path.Plain

end SourcePatch
