import Mathlib.Tactic.SplitIfs
import SourcePatch.Edit.Basic
import SourcePatch.Proofs.Disk.Travel

/-!
# Entries that paths name

A path names an entry, and leads through it to a place. What is put at the entry is what the path
leads to afterwards, provided that the way to the entry does not pass by the entry itself. It never
does if what the path leads to could be read, or was missing: an entry that is passed by leads to a
directory.
-/

namespace SourcePatch.Disk

variable {d d' : Disk} {p : Path} {e l : Location}

/-! ## Places and entries by ways -/

theorem locate_eq (d : Disk) (p : Path) :
    d.locate p = (checkPath p).bind fun _ =>
      (d.travel linkLimit (d.startOf p) p.segments).map Prod.fst := by
  rw [← follow_eq_travel]
  rfl

theorem locate_eq_ok_iff : d.locate p = .ok l ↔
    checkPath p = .ok () ∧ ∃ m, d.travel linkLimit (d.startOf p) p.segments = .ok (l, m) := by
  rw [locate_eq]
  cases checkPath p with
  | error err => simp [Except.bind]
  | ok u =>
    cases d.travel linkLimit (d.startOf p) p.segments with
    | error err => simp [Except.bind, Except.map]
    | ok r => simp [Except.bind, Except.map, Prod.ext_iff]

theorem canonicalize_of_locate {n : Node} (hl : d.locate p = .ok l) (hn : d.node? l = some n) :
    d.canonicalize p = .ok l := by
  simp [canonicalize, hl, hn, bind, Except.bind]

theorem locate_of_canonicalize (h : d.canonicalize p = .ok l) :
    d.locate p = .ok l ∧ d.node? l ≠ none := by
  unfold canonicalize at h
  cases hl : d.locate p with
  | error err => rw [hl] at h; cases h
  | ok l =>
    rw [hl] at h
    simp only [bind, Except.bind] at h
    cases hn : d.node? l with
    | none => rw [hn] at h; cases h
    | some n => rw [hn] at h; cases h; exact ⟨rfl, by simp [hn]⟩

theorem leadsSomewhere_iff : d.leadsSomewhere p = true ↔
    ∃ l n, d.locate p = .ok l ∧ d.node? l = some n := by
  unfold leadsSomewhere lookup
  cases d.locate p with
  | error err => simp [bind, Except.bind]
  | ok l => cases hn : d.node? l <;> simp [bind, Except.bind, hn]

theorem canonicalize_of_leadsSomewhere (h : d.leadsSomewhere p = true) (hl : d.locate p = .ok l) :
    d.canonicalize p = .ok l := by
  obtain ⟨l', n, hl', hn⟩ := leadsSomewhere_iff.1 h
  rw [hl] at hl'
  cases hl'
  exact canonicalize_of_locate hl hn

theorem leadsSomewhere_of_canonicalize (h : d.canonicalize p = .ok l) :
    d.leadsSomewhere p = true := by
  obtain ⟨hl, hn⟩ := locate_of_canonicalize h
  obtain ⟨n, hn'⟩ := Option.ne_none_iff_exists'.1 hn
  exact leadsSomewhere_iff.2 ⟨l, n, hl, hn'⟩

theorem isDirectory_iff : d.isDirectory p = true ↔
    ∃ l, d.locate p = .ok l ∧ d.node? l = some .directory := by
  unfold isDirectory lookup
  cases d.locate p with
  | error err => simp [bind, Except.bind]
  | ok l =>
    cases hn : d.node? l with
    | none => simp [bind, Except.bind, hn]
    | some n => cases n <;> simp [bind, Except.bind, hn]

theorem locateEntry_concat {above : List String} {name : String}
    (hp : p.segments = above ++ [name]) (hn : name ≠ "") :
    d.locateEntry p = (checkPath p).bind fun _ =>
      (d.travel linkLimit (d.startOf p) above).bind fun r =>
        if d.node? r.1 ≠ some .directory then .error .notADirectory
        else if name = "." ∨ name = ".." then .ok ⟨none, false⟩
        else if nameLimit < name.utf8ByteSize then .error .nameTooLong
        else .ok ⟨some (r.1 ++ [name]), false⟩ := by
  have hb : (name == "") = false := by simpa using hn
  have hlast : (some name == some "") = false := by simpa using hn
  simp only [locateEntry, hp, List.reverse_append, List.reverse_singleton, List.singleton_append,
    List.dropWhile_cons, hb, Bool.false_eq_true, if_false, List.reverse_reverse, follow_eq_travel,
    List.getLast?_concat, hlast]
  cases checkPath p with
  | error err => rfl
  | ok u => cases d.travel linkLimit (d.startOf p) above <;> rfl

theorem asDirectory_of_locateEntry {entry : Entry} (h : d.locateEntry p = .ok entry) :
    entry.asDirectory = (p.segments.getLast? == some "") := by
  unfold locateEntry at h
  cases hc : checkPath p with
  | error err => rw [hc] at h; cases h
  | ok u =>
    rw [hc] at h
    simp only [bind, Except.bind] at h
    split at h
    · cases h; rfl
    · next name above hr =>
      cases hf : d.follow linkLimit (d.startOf p) above.reverse with
      | error err => rw [hf] at h; cases h
      | ok parent =>
        rw [hf] at h
        dsimp only at h
        split_ifs at h <;> cases h <;> rfl

theorem locateEntry_eq_ok_iff : d.locateEntry p = .ok ⟨some e, false⟩ ↔
    checkPath p = .ok () ∧ ∃ above name parent m, p.segments = above ++ [name] ∧
      d.travel linkLimit (d.startOf p) above = .ok (parent, m) ∧
      d.node? parent = some .directory ∧ Ordinary name ∧ e = parent ++ [name] := by
  constructor
  · intro h
    obtain hnil | ⟨above, name, hp⟩ := p.segments.eq_nil_or_concat
    · cases hc : checkPath p <;> simp [locateEntry, hnil, hc, bind, Except.bind] at h
    rw [List.concat_eq_append] at hp
    have hn : name ≠ "" := by
      rintro rfl
      exact absurd (asDirectory_of_locateEntry h) (by simp [hp])
    rw [locateEntry_concat hp hn] at h
    cases hc : checkPath p with
    | error err => rw [hc] at h; cases h
    | ok u =>
      cases ht : d.travel linkLimit (d.startOf p) above with
      | error err => rw [hc, ht] at h; cases h
      | ok r =>
        rw [hc, ht] at h
        simp only [Except.bind] at h
        split_ifs at h with hd hdots hlong
        · cases h
        · cases h
          rw [not_or] at hdots
          exact ⟨rfl, above, name, r.1, r.2, hp, ht, by simpa using hd,
            ⟨hn, hdots.1, hdots.2, Nat.not_lt.1 hlong⟩, rfl⟩
  · rintro ⟨hc, above, name, parent, m, hp, ht, hd, ho, rfl⟩
    obtain ⟨h₁, h₂, h₃, h₄⟩ := ho
    rw [locateEntry_concat hp h₁, hc, ht]
    simp [Except.bind, hd, h₂, h₃, Nat.not_lt.2 h₄]

/-- Every entry still lies in a directory when something is put at the one that a path names. -/
theorem WellFormed.put_entry {n : Node} (hd : d.WellFormed)
    (h : d.locateEntry p = .ok ⟨some e, false⟩) (he : d.node? e ≠ some .directory) :
    (d.put e n).WellFormed := by
  obtain ⟨-, above, name, parent, m, -, -, hparent, -, rfl⟩ := locateEntry_eq_ok_iff.1 h
  exact hd.put (by rwa [List.dropLast_concat]) he

/-! ## Reading -/

theorem readBytes_eq (d : Disk) (p : Path) : readBytes d p =
    match d.locate p with
    | .error .noSuchFile => .ok none
    | .error err => .error (.io err)
    | .ok l =>
      match d.node? l with
      | none => .ok none
      | some (.file data _) => .ok (some data)
      | some .directory => .error (.io .isADirectory)
      | some (.link _) => .error (.io .tooManyLinks) := by
  unfold readBytes Disk.read? Disk.read Disk.lookup
  cases d.locate p with
  | error err => cases err <;> rfl
  | ok l =>
    simp only [bind, Except.bind]
    cases d.node? l with
    | none => rfl
    | some n => cases n <;> rfl

theorem readBytes_eq_some_iff {bytes : ByteArray} : readBytes d p = .ok (some bytes) ↔
    ∃ l mode, d.locate p = .ok l ∧ d.node? l = some (.file bytes mode) := by
  rw [readBytes_eq]
  constructor
  · intro h
    split at h
    · cases h
    · cases h
    · next l hl =>
      split at h
      · cases h
      · next data mode hn => cases h; exact ⟨l, mode, hl, hn⟩
      · cases h
      · cases h
  · rintro ⟨l, mode, hl, hn⟩
    rw [hl]
    simp [hn]

theorem not_linkToDirectory {d : Disk} {e : Location}
    (h : ∀ target, d.node? e ≠ some (.link target)) : ¬ d.LinkToDirectory e := by
  rintro ⟨target, links, l, m, hn, -, -⟩
  exact h target hn

/-- What can be read, or is missing, is not reached through a link to a directory. -/
theorem not_linkToDirectory_of_readBytes {c : Option ByteArray}
    (h : d.locateEntry p = .ok ⟨some e, false⟩) (hr : readBytes d p = .ok c) :
    ¬ d.LinkToDirectory e := by
  rintro ⟨target, links, l, m, hn, ht, hl⟩
  obtain ⟨hc, above, name, parent, k, hp, hk, hd, ho, rfl⟩ := locateEntry_eq_ok_iff.1 h
  rw [List.dropLast_concat] at ht
  have hend : (∃ k', d.travel linkLimit (d.startOf p) p.segments = .ok (l, k')) ∨
      d.travel linkLimit (d.startOf p) p.segments = .error .tooManyLinks := by
    rw [hp, travel_append, hk]
    cases k with
    | zero => exact .inr (travel_link_zero hd ho hn)
    | succ k =>
      change (∃ k', d.travel (k + 1) parent [name] = .ok (l, k')) ∨
        d.travel (k + 1) parent [name] = .error .tooManyLinks
      rw [travel_link hd ho hn, List.append_nil]
      exact travel_of_links ht k
  rw [readBytes_eq] at hr
  obtain hend | hend := hend
  · rw [locate_eq_ok_iff.2 ⟨hc, hend⟩] at hr
    simp [hl] at hr
  · rw [locate_eq, hc, hend] at hr
    cases hr

/-! ## Entries on a changed disk -/

section

variable (hagree : ∀ m, m ≠ e → d'.node? m = d.node? m)
  (hwd : d'.workingDirectory = d.workingDirectory) (he : d.node? e ≠ some .directory)
  (hlink : ¬ d.LinkToDirectory e)
include hagree hwd he hlink

/-- One entry has changed that is not on the way to a directory: a path names the same entry. -/
theorem locateEntry_of_agree (h : d.locateEntry p = .ok ⟨some l, false⟩) :
    d'.locateEntry p = .ok ⟨some l, false⟩ := by
  obtain ⟨hc, above, name, parent, m, hp, ht, hd, ho, rfl⟩ := locateEntry_eq_ok_iff.1 h
  have hstart : d'.startOf p = d.startOf p := by unfold startOf; rw [hwd]
  have hd' : d'.node? parent = some .directory := by
    rwa [hagree parent (by rintro rfl; exact he hd)]
  refine locateEntry_eq_ok_iff.2 ⟨hc, above, name, parent, m, hp, ?_, hd', ho, rfl⟩
  rw [hstart]
  exact travel_of_agree hagree he hlink ht hd

/-- And a path that leads to a directory leads there still. -/
theorem locate_of_agree (h : d.locate p = .ok l) (hl : d.node? l = some .directory) :
    d'.locate p = .ok l := by
  obtain ⟨hc, m, ht⟩ := locate_eq_ok_iff.1 h
  have hstart : d'.startOf p = d.startOf p := by unfold startOf; rw [hwd]
  refine locate_eq_ok_iff.2 ⟨hc, m, ?_⟩
  rw [hstart]
  exact travel_of_agree hagree he hlink ht hl

end

/-- A path leads to the entry that it names, if that is no link. -/
theorem locate_of_locateEntry {n : Node} (h : d.locateEntry p = .ok ⟨some e, false⟩)
    (hn : d.node? e = some n) (hnl : ∀ target, n ≠ .link target) : d.locate p = .ok e := by
  obtain ⟨hc, above, name, parent, m, hp, ht, hd, ho, rfl⟩ := locateEntry_eq_ok_iff.1 h
  refine locate_eq_ok_iff.2 ⟨hc, m, ?_⟩
  rw [hp, travel_append, ht]
  change d.travel m parent [name] = _
  rw [travel_enter hd ho hn hnl, travel_nil]

theorem locateEntry_put {n : Node} (he : d.node? e ≠ some .directory)
    (hlink : ¬ d.LinkToDirectory e) (h : d.locateEntry p = .ok ⟨some l, false⟩) :
    (d.put e n).locateEntry p = .ok ⟨some l, false⟩ :=
  locateEntry_of_agree (fun _ hm => node?_put_of_ne hm n) rfl he hlink h

/-- What is written to the entry that a path names is what is read there. -/
theorem readBytes_put (content : ByteArray) (mode : Nat) {c : Option ByteArray}
    (h : d.locateEntry p = .ok ⟨some e, false⟩) (he : d.node? e ≠ some .directory)
    (hr : readBytes d p = .ok c) :
    readBytes (d.put e (.file content mode)) p = .ok (some content) := by
  have hn := node?_put_self (d := d) (ne_nil_of_node? he) (.file content mode)
  have h' := locateEntry_put (n := .file content mode) he (not_linkToDirectory_of_readBytes h hr) h
  exact readBytes_eq_some_iff.2 ⟨e, mode, locate_of_locateEntry h' hn (by simp), hn⟩

end SourcePatch.Disk
