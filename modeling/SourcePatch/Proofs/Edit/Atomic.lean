import SourcePatch.Proofs.Disk.Dig
import SourcePatch.Proofs.Edit.Replace

/-!
# Writes in one step

No path leads to a temporary file, as its name has a slash in it and no other name has. So a write
comes to one change of the entry that the target names.

## Main definitions

* `Disk.SlashFree`: no name on a disk has a slash in it.
* `Disk.Sound`: a disk with its entries and names in order.

## Main statements

* `Disk.replaceFile_eq`: a write without its temporary file.
-/

namespace SourcePatch

/-- The name can stand between slashes. -/
def IsSegment (name : String) : Prop := '/' ∉ name.toList

instance (name : String) : Decidable (IsSegment name) := by unfold IsSegment; infer_instance

/-- The names that a link goes through. -/
def Node.targetNames : Node → List String
  | link target => target.segments
  | directory | file .. => []

namespace Disk

/-- No name has a slash in it, be it the name of an entry or one that a link goes through. -/
def SlashFree (d : Disk) : Prop :=
  ∀ e ∈ d.entries, (∀ name ∈ e.1, IsSegment name) ∧ ∀ name ∈ e.2.targetNames, IsSegment name

instance (d : Disk) : Decidable d.SlashFree := by unfold SlashFree; infer_instance

variable {d : Disk} {p : Path} {e l here : Location} {n : Node} {names : List String}

namespace SlashFree

theorem of_node? (hd : d.SlashFree) (h : d.node? l ≠ none) : ∀ name ∈ l, IsSegment name := by
  obtain ⟨n, hn⟩ := Option.ne_none_iff_exists'.1 h
  by_cases hl : l = []
  · simp [hl]
  · exact (hd _ (mem_entries_of_node? hl hn)).1

theorem link (hd : d.SlashFree) {target : Path} (h : d.node? l = some (.link target)) :
    ∀ name ∈ target.segments, IsSegment name := by
  have hl : l ≠ [] := by
    rintro rfl
    cases h
  exact (hd _ (mem_entries_of_node? hl h)).2

theorem put (hd : d.SlashFree) (hl : ∀ name ∈ l, IsSegment name)
    (hn : ∀ name ∈ n.targetNames, IsSegment name) : (d.put l n).SlashFree := by
  intro e he
  simp only [Disk.put, Disk.erase, List.mem_cons, List.mem_filter] at he
  obtain rfl | ⟨he, -⟩ := he
  · exact ⟨hl, hn⟩
  · exact hd e he

theorem linkStart (hh : ∀ name ∈ here, IsSegment name) (target : Path) :
    ∀ name ∈ linkStart here target, IsSegment name := by
  unfold Disk.linkStart
  split
  · simp
  · exact hh

theorem concat {name : String} (hh : ∀ s ∈ here, IsSegment s) (hn : IsSegment name) :
    ∀ s ∈ here ++ [name], IsSegment s := by
  simpa [or_imp, forall_and] using ⟨hh, hn⟩

/-- Along such names one comes to a place that is reached by such names. -/
theorem of_travel (hd : d.SlashFree) {links m : Nat} (hh : ∀ name ∈ here, IsSegment name)
    (hn : ∀ name ∈ names, IsSegment name) (h : d.travel links here names = .ok (l, m)) :
    ∀ name ∈ l, IsSegment name := by
  induction links, here, names, h using travel_ok_induction with
  | nil => exact hh
  | idle links here name rest hdir hi _ ih => exact ih hh fun s hs => hn s (by simp [hs])
  | up links here rest hdir _ ih =>
    exact ih (fun s hs => hh s ((List.dropLast_sublist here).subset hs))
      fun s hs => hn s (by simp [hs])
  | link links here name rest target hdir ho hnode _ ih =>
    refine ih (linkStart hh target) fun s hs => ?_
    obtain hs | hs := List.mem_append.1 hs
    · exact hd.link hnode s hs
    · exact hn s (by simp [hs])
  | enter links here name rest n hdir ho hnode hl _ ih =>
    exact ih (concat hh (hn name (by simp))) fun s hs => hn s (by simp [hs])

theorem ensure (hd : d.SlashFree) (hl : ∀ name ∈ l, IsSegment name) : (d.ensure l).SlashFree := by
  unfold Disk.ensure
  split
  · exact hd.put hl (by simp [Node.targetNames])
  · exact hd

/-- Along such names only such directories are dug. -/
theorem dig (hd : d.SlashFree) (hh : ∀ name ∈ here, IsSegment name)
    (hn : ∀ name ∈ names, IsSegment name) : (d.dig here names).2.SlashFree := by
  induction names generalizing d here with
  | nil => exact hd
  | cons name rest ih =>
    have hnext := concat hh (hn name (by simp))
    have hrest : ∀ s ∈ rest, IsSegment s := fun s hs => hn s (by simp [hs])
    rw [Disk.dig]
    split
    · exact ih hd hh hrest
    · split
      · exact hd
      · exact ih (hd.ensure hnext) hnext hrest

/-- An entry that is named by such names has such names. -/
theorem of_locateEntry (hd : d.SlashFree) (hp : p.isAbsolute = true)
    (hn : ∀ name ∈ p.segments, IsSegment name) (h : d.locateEntry p = .ok ⟨some e, false⟩) :
    ∀ name ∈ e, IsSegment name := by
  obtain ⟨-, above, name, parent, m, hseg, ht, -, -, rfl⟩ := locateEntry_eq_ok_iff.1 h
  rw [startOf_of_absolute hp] at ht
  refine concat (hd.of_travel (by simp) (fun s hs => hn s ?_) ht) (hn name ?_)
  · rw [hseg]
    exact List.mem_append_left _ hs
  · simp [hseg]

end SlashFree

/-- A disk as it may be found: every entry lies in a directory, and no name has a slash in it. -/
structure Sound (d : Disk) : Prop where
  wellFormed : d.WellFormed
  slashFree : d.SlashFree

instance (d : Disk) : Decidable d.Sound :=
  decidable_of_iff (d.WellFormed ∧ d.SlashFree) ⟨fun h => ⟨h.1, h.2⟩, fun h => ⟨h.1, h.2⟩⟩

namespace Sound

theorem put (hd : d.Sound) (hparent : d.node? l.dropLast = some .directory)
    (hl : d.node? l ≠ some .directory) (hs : ∀ name ∈ l, IsSegment name)
    (hn : ∀ name ∈ n.targetNames, IsSegment name) : (d.put l n).Sound :=
  ⟨hd.wellFormed.put hparent hl, hd.slashFree.put hs hn⟩

theorem ensure {name : String} (hd : d.Sound) (hh : d.node? here = some .directory)
    (hs : ∀ s ∈ here ++ [name], IsSegment s) : (d.ensure (here ++ [name])).Sound :=
  ⟨wellFormed_ensure hd.wellFormed hh name, hd.slashFree.ensure hs⟩

end Sound

/-! ## A temporary file is not seen -/

theorem locateEntry_eq (d : Disk) (p : Path) : d.locateEntry p =
    (checkPath p).bind fun _ =>
      match p.segments.reverse.dropWhile (· == "") with
      | [] => .ok ⟨none, p.segments.getLast? == some ""⟩
      | name :: above =>
        (d.travel linkLimit (d.startOf p) above.reverse).bind fun r =>
          if d.node? r.1 ≠ some .directory then .error .notADirectory
          else if name = "." ∨ name = ".." then .ok ⟨none, p.segments.getLast? == some ""⟩
          else if nameLimit < name.utf8ByteSize then .error .nameTooLong
          else .ok ⟨some (r.1 ++ [name]), p.segments.getLast? == some ""⟩ := by
  unfold locateEntry
  cases checkPath p with
  | error err => rfl
  | ok u =>
    simp only [bind, Except.bind]
    cases p.segments.reverse.dropWhile (· == "") with
    | nil => rfl
    | cons name above =>
      simp only [follow_eq_travel]
      cases d.travel linkLimit (d.startOf p) above.reverse <;> rfl

theorem isSegment_startOf (hp : p.isAbsolute = true) : ∀ name ∈ d.startOf p, IsSegment name := by
  simp [startOf_of_absolute hp]

section

variable (hd : d.SlashFree) (he : ¬ ∀ name ∈ e, IsSegment name)
include hd he

omit hd in
theorem node?_put_unseen (hl : ∀ name ∈ l, IsSegment name) : (d.put e n).node? l = d.node? l :=
  node?_put_of_ne (by rintro rfl; exact he hl) n

theorem travel_put_unseen (links : Nat) (hh : ∀ name ∈ here, IsSegment name)
    (hn : ∀ name ∈ names, IsSegment name) :
    (d.put e n).travel links here names = d.travel links here names := by
  induction links, here, names using travel_induction d with
  | nil links here => rw [travel_nil, travel_nil]
  | blocked links here name rest h =>
    rw [travel_of_not_directory h,
      travel_of_not_directory (by rwa [node?_put_unseen he hh])]
  | idle links here name rest h hi ih =>
    rw [travel_idle h hi, travel_idle ((node?_put_unseen he hh).trans h) hi]
    exact ih hh fun s hs => hn s (by simp [hs])
  | up links here rest h ih =>
    rw [travel_up h, travel_up ((node?_put_unseen he hh).trans h)]
    exact ih (fun s hs => hh s ((List.dropLast_sublist here).subset hs))
      fun s hs => hn s (by simp [hs])
  | long links here name rest h hi hu hl =>
    rw [travel_long h hi hu hl, travel_long ((node?_put_unseen he hh).trans h) hi hu hl]
  | missing links here name rest h ho hm =>
    have hnext := SlashFree.concat hh (hn name (by simp))
    rw [travel_missing h ho hm, travel_missing ((node?_put_unseen he hh).trans h) ho
      ((node?_put_unseen he hnext).trans hm)]
  | exhausted here name rest target h ho hm =>
    have hnext := SlashFree.concat hh (hn name (by simp))
    rw [travel_link_zero h ho hm, travel_link_zero ((node?_put_unseen he hh).trans h) ho
      ((node?_put_unseen he hnext).trans hm)]
  | link links here name rest target h ho hm ih =>
    have hnext := SlashFree.concat hh (hn name (by simp))
    rw [travel_link h ho hm, travel_link ((node?_put_unseen he hh).trans h) ho
      ((node?_put_unseen he hnext).trans hm)]
    refine ih (SlashFree.linkStart hh target) fun s hs => ?_
    obtain hs | hs := List.mem_append.1 hs
    · exact hd.link hm s hs
    · exact hn s (by simp [hs])
  | enter links here name rest n' h ho hm hl ih =>
    have hnext := SlashFree.concat hh (hn name (by simp))
    rw [travel_enter h ho hm hl, travel_enter ((node?_put_unseen he hh).trans h) ho
      ((node?_put_unseen he hnext).trans hm) hl]
    exact ih hnext fun s hs => hn s (by simp [hs])

variable (hs : ∀ name ∈ d.startOf p, IsSegment name) (hn : ∀ name ∈ p.segments, IsSegment name)
include hs hn

theorem lookup_put_unseen : (d.put e n).lookup p = d.lookup p := by
  have hstart : (d.put e n).startOf p = d.startOf p := rfl
  have hlocate : (d.put e n).locate p = d.locate p := by
    rw [locate_eq, locate_eq, hstart, travel_put_unseen hd he linkLimit hs hn]
  unfold lookup
  rw [hlocate]
  cases hl : d.locate p with
  | error err => rfl
  | ok l =>
    obtain ⟨-, m, ht⟩ := locate_eq_ok_iff.1 hl
    simp only [bind, Except.bind, node?_put_unseen he (hd.of_travel hs hn ht)]

theorem locateEntry_put_unseen : (d.put e n).locateEntry p = d.locateEntry p := by
  have hstart : (d.put e n).startOf p = d.startOf p := rfl
  rw [locateEntry_eq, locateEntry_eq, hstart]
  have habove : ∀ name above, p.segments.reverse.dropWhile (· == "") = name :: above →
      ∀ s ∈ above.reverse, IsSegment s := by
    intro name above hsplit s hs
    have hmem := (List.dropWhile_sublist (· == "") (l := p.segments.reverse)).subset
      (hsplit ▸ List.mem_cons_of_mem name (List.mem_reverse.1 hs))
    exact hn s (List.mem_reverse.1 hmem)
  generalize p.segments.reverse.dropWhile (· == "") = stripped at habove
  cases stripped with
  | nil => rfl
  | cons name above =>
    have habove := habove name above rfl
    dsimp only
    rw [travel_put_unseen hd he linkLimit hs habove]
    cases ht : d.travel linkLimit (d.startOf p) above.reverse with
    | error err => rfl
    | ok r =>
      have hr := hd.of_travel (l := r.1) (m := r.2) hs habove ht
      simp only [Except.bind, node?_put_unseen he hr]

end

/-! ## The write without the temporary file -/

theorem not_isSegment_temporaryName (n : Nat) : ¬ IsSegment (temporaryName n) := by
  simp [IsSegment, temporaryName]

section

variable {q : Path} {c : Location} {m : Nat} (hd : d.SlashFree) (hq : q.Plain)
  (hreach : d.travel linkLimit [] q.segments = .ok (c, m)) (hc : d.node? c = some .directory)
include hd hq hreach hc

omit hd in
theorem locateEntry_temporaryName : d.locateEntry (q.join ⟨[temporaryName 0]⟩) =
    (checkPath (q.join ⟨[temporaryName 0]⟩)).map fun _ =>
      ⟨some (c ++ [temporaryName 0]), false⟩ := by
  obtain ⟨names, hseg, rfl⟩ := segments_temporary hq 0
  have hname : ¬ (temporaryName 0 = "." ∨ temporaryName 0 = "..") := by decide
  have hshort : ¬ nameLimit < (temporaryName 0).utf8ByteSize := by decide
  have hends : ((Path.ofNames names).join ⟨[temporaryName 0]⟩).segments =
      ("" :: names) ++ [temporaryName 0] := by simpa using hseg
  rw [travel_ofNames] at hreach
  rw [locateEntry_concat hends (temporaryName_ne_empty 0),
    startOf_of_absolute (Path.isAbsolute_iff.2 ⟨_, hseg, by simp⟩),
    travel_idle rfl (.inl rfl), hreach]
  simp only [Except.bind, if_neg hname, if_neg hshort, hc]
  cases checkPath ((Path.ofNames names).join ⟨[temporaryName 0]⟩) <;> rfl

omit hq hreach hc in
theorem temporaryName_free : d.node? (c ++ [temporaryName 0]) = none := by
  by_contra hn
  exact not_isSegment_temporaryName 0 (hd.of_node? hn _ (by simp))

/-- The first temporary name is free. -/
theorem createTemporary_eq (attempts : Nat) :
    createTemporary d q (attempts + 1) 0 =
      (checkPath (q.join ⟨[temporaryName 0]⟩)).map fun _ =>
        (q.join ⟨[temporaryName 0]⟩, d.put (c ++ [temporaryName 0]) (.file .empty 0o600)) := by
  have hfree := temporaryName_free hd (c := c)
  have hcheck : checkPath (q.join ⟨[temporaryName 0]⟩) ≠ .error .fileExists := by
    unfold checkPath
    split
    · simp
    · split
      · simp
      · split <;> simp
  rw [createTemporary, createPrivate, locateEntry_temporaryName hq hreach hc]
  cases hp : checkPath (q.join ⟨[temporaryName 0]⟩) with
  | error err =>
    rw [hp] at hcheck
    cases err <;> first | rfl | exact absurd rfl hcheck
  | ok u =>
    simp only [Except.map, bind, Except.bind, hfree]
    rfl

variable (hp : p.isAbsolute = true) (hn : ∀ name ∈ p.segments, IsSegment name)
  (hparent : p.parent? = some q)
include hp hn

omit hreach hc hq in
/-- Renaming a temporary file puts it at the entry of the target. -/
theorem renameFile_eq {t : Path} {content : ByteArray} {mode : Nat}
    (ht : d.locateEntry t = .ok ⟨some (c ++ [temporaryName 0]), false⟩) :
    (d.put (c ++ [temporaryName 0]) (.file content mode)).renameFile t p =
      (d.locateEntry p).bind fun entry =>
        match entry.location with
        | none => .error .isADirectory
        | some l =>
          if entry.asDirectory then .error .notADirectory
          else if d.node? l = some .directory then .error .isADirectory
          else .ok (d.put l (.file content mode)) := by
  have hfree := temporaryName_free hd (c := c)
  have hunseen : ¬ ∀ name ∈ c ++ [temporaryName 0], IsSegment name := fun hall =>
    not_isSegment_temporaryName 0 (hall _ (by simp))
  have hnode := node?_put_self (d := d) (ne_nil_of_free hfree) (.file content mode)
  rw [renameFile, locateEntry_temporary ht hfree]
  simp only [bind, Except.bind, hnode,
    locateEntry_put_unseen hd hunseen (isSegment_startOf hp) hn, erase_put,
    erase_of_node?_eq_none hfree]
  cases d.locateEntry p with
  | error err => rfl
  | ok entry =>
    dsimp only
    cases entry.location with
    | none => rfl
    | some l =>
      have hdir : (d.put (c ++ [temporaryName 0]) (.file content mode)).node? l =
          some .directory ↔ d.node? l = some .directory := by
        rw [node?_put (ne_nil_of_free hfree)]
        split
        · next heq => simp [heq, hfree]
        · exact Iff.rfl
      simp only [hdir]

include hparent in
/-- A write puts the content at the entry of its target, once that is known to be one for a file. -/
theorem replaceFile_eq (content : ByteArray) : d.replaceFile p content =
    match checkPath (q.join ⟨[temporaryName 0]⟩) with
    | .error err => (.error (.temporary err), d)
    | .ok () =>
      match targetMode d p with
      | .error err => (.error (.io err), d)
      | .ok mode =>
        match d.locateEntry p with
        | .error err => (.error (.io err), d)
        | .ok ⟨none, _⟩ => (.error (.io .isADirectory), d)
        | .ok ⟨some l, slash⟩ =>
          if slash then (.error (.io .notADirectory), d)
          else if d.node? l = some .directory then (.error (.io .isADirectory), d)
          else (.ok (), d.put l (.file content mode)) := by
  have hmake := createTemporary_eq hd hq hreach hc d.entries.length
  have hfree := temporaryName_free hd (c := c)
  have hunseen : ¬ ∀ name ∈ c ++ [temporaryName 0], IsSegment name := fun hall =>
    not_isSegment_temporaryName 0 (hall _ (by simp))
  rw [replaceFile, hparent]
  dsimp only
  rw [if_neg (by simp [hq.isEmpty_eq_false]), hmake]
  cases hcheck : checkPath (q.join ⟨[temporaryName 0]⟩) with
  | error err => rfl
  | ok u =>
    have ht : d.locateEntry (q.join ⟨[temporaryName 0]⟩) =
        .ok ⟨some (c ++ [temporaryName 0]), false⟩ := by
      rw [locateEntry_temporaryName hq hreach hc, hcheck]
      rfl
    have hmode : ∀ data mode, targetMode (d.put (c ++ [temporaryName 0]) (.file data mode)) p =
        targetMode d p := by
      intro data mode
      rw [targetMode, targetMode, Disk.mode, Disk.mode,
        lookup_put_unseen hd hunseen (isSegment_startOf hp) hn]
    simp only [Except.map]
    rw [fillAndRename, writeContent_temporary ht hfree]
    dsimp only [WriteFaults.none, orFault]
    rw [sync_temporary ht hfree, hmode]
    cases targetMode d p with
    | error err =>
      dsimp only
      rw [discard_temporary ht hfree]
    | ok mode =>
      dsimp only
      rw [setMode_temporary ht hfree]
      dsimp only
      rw [renameFile_eq hd hp hn ht]
      have hback : discard (d.put (c ++ [temporaryName 0]) (.file content mode))
          (q.join ⟨[temporaryName 0]⟩) = d := discard_temporary ht hfree
      cases d.locateEntry p with
      | error err => exact congrArg _ hback
      | ok entry =>
        obtain ⟨location, slash⟩ := entry
        simp only [Except.bind]
        cases location with
        | none => exact congrArg _ hback
        | some l =>
          dsimp only
          by_cases hslash : slash = true
          · rw [if_pos hslash, if_pos hslash]
            exact congrArg _ hback
          rw [if_neg hslash, if_neg hslash]
          by_cases hdir : d.node? l = some .directory
          · rw [if_pos hdir, if_pos hdir]
            exact congrArg _ hback
          · rw [if_neg hdir, if_neg hdir]

end

end Disk

end SourcePatch
