import SourcePatch.Proofs.Engine.Settled
import SourcePatch.Proofs.Tree.Linkless

/-!
# Patches in a tree without links

In a tree without links a patch looks at its place and above it, and changes nothing else. So it
ends in the same way on all disks that are the same to its path, and makes the same of them:
nothing, the directories above its place, or these and a file.

## Main definitions

* `Change`: what a patch makes of a disk.
* `Patch.IsBelow`: a patch with a target below the root.

## Main statements

* `Patch.carryOut_makes`: what a patch makes of two disks that are the same to its path.
* `Patch.linkless_carryOut`: a tree without links has none afterwards.
-/

namespace SourcePatch

/-! ## Changes -/

/-- What is made of a disk at a place and above it. -/
inductive Change
  | nothing
  /-- The directories above the place that were missing. -/
  | directories
  /-- These, and a file at the place. -/
  | file (data : ByteArray) (mode : Nat)

namespace Change

/-- What is at `k` after a change at `l`. -/
def node (c : Change) (d : Disk) (l k : Location) : Option Node :=
  match c with
  | nothing => d.node? k
  | directories => if k <+: l ∧ k ≠ l ∧ d.node? k = none then some .directory else d.node? k
  | file data mode =>
    if k = l then some (.file data mode)
    else if k <+: l ∧ d.node? k = none then some .directory else d.node? k

/-- The change at `l` makes `d'` of `d`. -/
def Makes (c : Change) (d : Disk) (l : Location) (d' : Disk) : Prop :=
  ∀ k, d'.node? k = c.node d l k

namespace Makes

variable {c c' : Change} {d d₁ a a' b : Disk} {l l' k m : Location}

theorem nothing (d : Disk) (l : Location) : Change.nothing.Makes d l d := fun _ => rfl

/-- What is different is the place, or a new directory above it. -/
theorem cases (h : c.Makes d l a) (k : Location) : a.node? k = d.node? k ∨
    (k = l ∧ ∃ data mode, a.node? k = some (.file data mode)) ∨
    k <+: l ∧ k ≠ l ∧ d.node? k = none ∧ a.node? k = some .directory := by
  have hk := h k
  cases c with
  | nothing => exact .inl hk
  | directories => grind [Change.node]
  | file data mode => grind [Change.node]

theorem node?_ne_none (h : c.Makes d l a) (hk : d.node? k ≠ none) : a.node? k ≠ none := by
  obtain hsame | ⟨-, data, mode, hfile⟩ | ⟨-, -, -, hdir⟩ := h.cases k
  · rwa [hsame]
  · simp [hfile]
  · simp [hdir]

theorem noLink (h : c.Makes d l a) {target : Path} (hk : d.node? k ≠ some (.link target)) :
    a.node? k ≠ some (.link target) := by
  obtain hsame | ⟨-, data, mode, hfile⟩ | ⟨-, -, -, hdir⟩ := h.cases k
  · rwa [hsame]
  · simp [hfile]
  · simp [hdir]

/-- With its directories made a place is still what it was. -/
theorem sameAlong_directories (h : directories.Makes d l a) : d.SameAlong a l := by
  intro k hk
  have hnode := h k
  rw [Change.node] at hnode
  split at hnode
  · next hnew => exact .inr ⟨hnew.2.1, hnew.2.2, hnode⟩
  · exact .inl hnode

/-- A change is not seen from a place beside it. -/
theorem sameAlong (h : c.Makes d l a) (hlm : ¬ l <+: m) (hml : ¬ m <+: l) : d.SameAlong a m := by
  intro k hk
  obtain hsame | ⟨rfl, -⟩ | ⟨hkl, -, hfree, hdir⟩ := h.cases k
  · exact .inl hsame
  · exact absurd hk hlm
  · refine .inr ⟨?_, hfree, hdir⟩
    rintro rfl
    exact hml hkl

/-- On a disk that is the same along its place, a change makes the same difference. -/
theorem other (ha : c.Makes d l a) (hb : c.Makes d₁ l b) (hsame : d.SameAlong d₁ l)
    (k : Location) : b.node? k = if a.node? k = d.node? k then d₁.node? k else a.node? k := by
  rw [ha k, hb k]
  by_cases hk : k <+: l
  · have hcases := hsame k hk
    have hend := hsame.node?_eq
    cases c with
    | nothing => simp [Change.node]
    | directories => grind [Change.node]
    | file data mode => grind [Change.node]
  · have hne : k ≠ l := by
      rintro rfl
      exact hk (List.prefix_refl k)
    cases c <;> simp [Change.node, hk, hne]

/-- Two changes beside each other agree where both make a difference. -/
theorem agree (ha : c.Makes d l a) (ha' : c'.Makes d l' a') (hl : ¬ l <+: l') (hl' : ¬ l' <+: l)
    (hk : a.node? k ≠ d.node? k) (hk' : a'.node? k ≠ d.node? k) : a'.node? k = a.node? k := by
  obtain hsame | ⟨rfl, -⟩ | ⟨hkl, -, -, hdir⟩ := ha.cases k
  · exact absurd hsame hk
  · obtain hsame | ⟨rfl, -⟩ | ⟨hkl, -⟩ := ha'.cases k
    · exact absurd hsame hk'
    · exact absurd (List.prefix_refl k) hl
    · exact absurd hkl hl
  · obtain hsame | ⟨rfl, -⟩ | ⟨-, -, -, hdir'⟩ := ha'.cases k
    · exact absurd hsame hk'
    · exact absurd hkl hl'
    · rw [hdir, hdir']

end Makes

end Change

/-! ## Directories for a new file -/

/-- Along names that are not too long digging comes to the place that they spell. -/
theorem Disk.dig_of_short {names : List String}
    (hshort : ∀ s ∈ names, s.utf8ByteSize ≤ Disk.nameLimit) (d : Disk) (here : Location) :
    (d.dig here names).1 = .ok (here ++ Path.moving names) := by
  induction names generalizing d here with
  | nil => simp [Disk.dig]
  | cons name rest ih =>
    have hrest : ∀ s ∈ rest, s.utf8ByteSize ≤ nameLimit := fun s hs => hshort s (by simp [hs])
    have hname := hshort name (by simp)
    rw [Disk.dig]
    by_cases hi : name = "" ∨ name = "."
    · rw [if_pos hi, Path.moving_cons_of_idle (Path.isIdle_iff.2 hi)]
      exact ih hrest d here
    · rw [if_neg hi, if_neg (by omega), Path.moving_cons (mt Path.isIdle_iff.1 hi), ih hrest]
      simp

/-- Where directories were made down to a place, all above an entry of it are there. -/
theorem Change.directories_makes {d d₁ : Disk} {c : Location} (hd₁ : d₁.WellFormed)
    (hgain : d.GainsDirectories d₁) (hc : d₁.node? c ≠ none)
    (hsame : ∀ k, ¬ k <+: c → d₁.node? k = d.node? k) (last : String) :
    Change.directories.Makes d (c ++ [last]) d₁ := by
  intro k
  rw [Change.node]
  split
  · next hk =>
    obtain ⟨hkl, hne, hfree⟩ := hk
    have hkc := (List.prefix_concat_iff.1 hkl).resolve_left hne
    obtain hold | ⟨-, hdir⟩ := hgain k
    · exact absurd (hold.trans hfree) (hd₁.exists_of_isPrefix hkc hc)
    · exact hdir
  · next hk =>
    by_cases hkc : k <+: c
    · have hne : k ≠ c ++ [last] := by
        rintro rfl
        have hlen := hkc.length_le
        simp only [List.length_append, List.length_singleton] at hlen
        omega
      have hthere : d.node? k ≠ none := fun hfree =>
        hk ⟨hkc.trans (List.prefix_append _ _), hne, hfree⟩
      exact (hgain k).resolve_right fun hnew => hthere hnew.1
    · exact hsame k hkc

/-- What digging makes, where all of it is below something missing. -/
theorem Disk.dig_makes {d : Disk} {b : Location} {name : String} {rest : List String}
    (hd : d.WellFormed) (hb : d.node? b = some .directory) (ho : Ordinary name)
    (hfree : d.node? (b ++ [name]) = none) (hup : ".." ∉ rest)
    (hshort : ∀ s ∈ name :: rest, s.utf8ByteSize ≤ nameLimit)
    (hdug : (d.dig b (name :: rest)).2.WellFormed) (links : Nat) (last : String) :
    Change.directories.Makes d (b ++ Path.moving (name :: rest) ++ [last])
        (d.dig b (name :: rest)).2 ∧
      (d.dig b (name :: rest)).2.travel links b (name :: rest) =
        .ok (b ++ Path.moving (name :: rest), links) ∧
      (d.dig b (name :: rest)).2.node? (b ++ Path.moving (name :: rest)) = some .directory := by
  have hdig := dig_of_short hshort d b
  obtain ⟨c, hok, hc, -, hway⟩ | ⟨herr, -⟩ :=
    travel_dig_below hb ho (.of_free hd hfree) hup links
  · rw [hdig] at hok
    cases hok
    exact ⟨Change.directories_makes hdug (gainsDirectories_dig _ _ _) (by simp [hc])
      (fun k hk => node?_dig hdig hk) last, hway, hc⟩
  · rw [hdig] at herr
    cases herr

theorem Disk.Ordinary.not_isIdle {name : String} (h : Disk.Ordinary name) :
    ¬ Path.isIdle false name = true := by
  rw [Path.isIdle_iff, not_or]
  exact ⟨h.1, h.2.1⟩

namespace Root

variable {r : Root} {d d' : Disk} {p : Path} {pre idle : List String} {last : String}

/-- What is made for a file that is missing. -/
theorem Linkless.ensureParent (h : r.Linkless d) (hp : r.IsTarget p pre last idle)
    (hread : readBytes d p = .ok none) :
    ∃ d₁ m, r.ensureParent d p = (.ok (), d₁) ∧ Change.directories.Makes d p.place d₁ ∧
      d₁.SlashFree ∧
      d₁.travel Disk.linkLimit [] (r.location ++ pre) =
        .ok (Path.moving (r.location ++ pre), m) ∧
      d₁.node? (Path.moving (r.location ++ pre)) = some .directory := by
  have hens := ensureParent_eq r d (Path.parent?_of_endsIn hp.endsIn)
  rw [if_pos (startsWith_ofNames r pre)] at hens
  have habove := Disk.not_mem_above hp.endsIn hp.descends
  have hst := (h.straight (hp.contains_place h.ordinary)).mono hp.endsIn.above_isPrefix
  have hwell := (ensureParent_gains (r := r) h.wellFormed hp.isAbsolute hp.descends).2
  rw [hp.endsIn.place]
  obtain @⟨c, m, hreach, hc⟩ | @⟨before, rest, name, b, m, hmiss, hn⟩ |
    @⟨before, rest, name, b, m, hmiss, hfree⟩ :=
    Disk.aboveMissing hp.endsIn hp.descends hread
  · obtain rfl : c = Path.moving (r.location ++ pre) := Disk.travel_of_straight habove hst hreach
    rw [Disk.makeDirectories_of_ready hp.endsIn hp.descends hread hreach hc] at hens
    exact ⟨d, m, hens, Change.directories_makes h.wellFormed (.refl d) (by simp [hc])
      (fun _ _ => rfl) last, h.slashFree, hreach, hc⟩
  · -- only a link can be in the way
    rw [hmiss.names_eq] at habove hst
    rw [Path.moving_append] at hst
    obtain rfl : b = Path.moving before := Disk.travel_of_straight
      (fun hmem => habove (by simp [hmem])) (hst.mono (List.prefix_append _ _)) hmiss.reaches
    obtain hfree | ⟨target, hlink⟩ := hmiss.node?_cases
    · exact absurd hfree hn
    · refine absurd hlink (hst _ target ?_)
      rw [Path.moving_cons hmiss.ordinary.not_isIdle]
      exact ⟨Path.moving rest, by simp⟩
  · have hshort : ∀ s ∈ r.location ++ pre, s.utf8ByteSize ≤ Disk.nameLimit := fun s hs =>
      hp.short s (hp.mem_segments hs)
    have hsegment : ∀ s ∈ r.location ++ pre, IsSegment s := fun s hs =>
      hp.isSegment s (hp.mem_segments hs)
    rw [hmiss.names_eq] at hst habove hshort hsegment ⊢
    rw [Path.moving_append] at hst ⊢
    obtain rfl : b = Path.moving before := Disk.travel_of_straight
      (fun hmem => habove (by simp [hmem])) (hst.mono (List.prefix_append _ _)) hmiss.reaches
    have hshort' : ∀ s ∈ name :: rest, s.utf8ByteSize ≤ Disk.nameLimit := fun s hs =>
      hshort s (List.mem_append_right _ hs)
    rw [Disk.makeDirectories_of_missesAt_nothing hp.endsIn hp.descends hread h.wellFormed
      hmiss.names_eq hmiss.reaches hmiss.directory hmiss.ordinary
      (.of_free h.wellFormed hfree), Disk.dig_of_short hshort'] at hens
    rw [hens] at hwell
    obtain ⟨hmakes, hway, hc⟩ := Disk.dig_makes h.wellFormed hmiss.directory hmiss.ordinary hfree
      (fun hmem => habove (by simp [hmem])) hshort' hwell m last
    refine ⟨_, m, hens, hmakes, ?_, ?_, hc⟩
    · exact h.slashFree.dig (h.slashFree.of_node? (by simp [hmiss.directory]))
        fun s hs => hsegment s (List.mem_append_right _ hs)
    · exact (Disk.travel_append_of_ok (Disk.travel_ok_of_extends h.wellFormed
        (Disk.gainsDirectories_dig _ _ _).extends hmiss.reaches) _).trans hway

end Root

/-! ## Writes -/

namespace PlannedWrite

/-- How a write over nothing ends, and what it makes. -/
def overNothing (w : PlannedWrite) (above idle : List String) :
    Except EngineError PatchResult × Change :=
  match Disk.checkPath ((Path.ofNames (Path.trimmed false above)).join ⟨[temporaryName 0]⟩) with
  | .error err => (.error (.edit (.temporary err)), .directories)
  | .ok () =>
    match Path.endError? idle with
    | some err => (.error (.edit (.io err)), .directories)
    | none => (.ok (.applied w.edit.file), .file w.edit.newText.toUTF8 defaultMode)

/-- How a write over a file that held `bytes` ends, and what it makes. -/
def overFile (w : PlannedWrite) (above : List String) (bytes : ByteArray) (mode : Nat) :
    Except EngineError PatchResult × Change :=
  if bytes = w.edit.newText.toUTF8 then (.ok (.unchanged w.edit.file), .nothing)
  else match Disk.checkPath
      ((Path.ofNames (Path.trimmed false above)).join ⟨[temporaryName 0]⟩) with
    | .error err => (.error (.edit (.temporary err)), .nothing)
    | .ok () => (.ok (.applied w.edit.file), .file w.edit.newText.toUTF8 mode)

variable {w : PlannedWrite} {r : Root} {d : Disk} {pre idle : List String} {last : String}
  (h : r.Linkless d) (hp : r.IsTarget w.edit.file pre last idle)
include h hp

theorem commit_over_nothing (hexp : w.edit.expected = .ofCurrent none)
    (hread : readBytes d w.edit.file = .ok none) :
    ((Plan.write w).commit r d).1 = (w.overNothing (r.location ++ pre) idle).1 ∧
      (w.overNothing (r.location ++ pre) idle).2.Makes d w.edit.file.place
        ((Plan.write w).commit r d).2 := by
  obtain ⟨d₁, m, hens, hmakes, hs, hreach, hc⟩ := h.ensureParent hp hread
  have hplace := hp.contains_place h.ordinary
  have hst := h.straight hplace
  have hread₁ := (Disk.SameAlong.readBytes_eq hp.isAbsolute hp.descends hp.short h.wellFormed hst
    hmakes.sameAlong_directories).trans hread
  rw [commit_of_none hexp, hens]
  dsimp only
  rw [Edit.applyIn_of_missing hp.endsIn hp.descends hread₁ rfl hexp hs hp.isSegment hreach hc,
    overNothing]
  cases Disk.checkPath
      ((Path.ofNames (Path.trimmed false (r.location ++ pre))).join ⟨[temporaryName 0]⟩) with
  | error err => exact ⟨rfl, hmakes⟩
  | ok u =>
    dsimp only
    cases Path.endError? idle with
    | some err => exact ⟨rfl, hmakes⟩
    | none =>
      refine ⟨rfl, fun k => ?_⟩
      rw [← hp.endsIn.place, Disk.node?_put (by rw [hp.endsIn.place]; simp), hmakes k]
      simp only [Change.node]
      grind

theorem commit_over_file {bytes : ByteArray} {mode : Nat}
    (hexp : w.edit.expected = .ofCurrent (some bytes))
    (hl : d.locate w.edit.file = .ok w.edit.file.place)
    (hnode : d.node? w.edit.file.place = some (.file bytes mode)) :
    ((Plan.write w).commit r d).1 = (w.overFile (r.location ++ pre) bytes mode).1 ∧
      (w.overFile (r.location ++ pre) bytes mode).2.Makes d w.edit.file.place
        ((Plan.write w).commit r d).2 := by
  have hst := h.straight (hp.contains_place h.ordinary)
  have hread := Disk.readBytes_eq_some_iff.2 ⟨_, mode, hl, hnode⟩
  have hm : w.edit.expected.matchesCurrent (some bytes) = true :=
    hexp ▸ Verification.matchesCurrent_ofCurrent _
  obtain ⟨m, hreach, hc⟩ := Disk.reach_above hp.endsIn hp.descends hst hl
  rw [commit_of_some hexp, overFile]
  by_cases hsame : bytes = w.edit.newText.toUTF8
  · rw [if_pos hsame, Edit.applyIn_of_same (hsame ▸ hread)]
    exact ⟨rfl, .nothing d _⟩
  rw [if_neg hsame, Edit.applyIn_of_file hp.endsIn hp.descends hl hnode hsame hm h.slashFree
    hp.isSegment hreach hc]
  cases Disk.checkPath
      ((Path.ofNames (Path.trimmed false (r.location ++ pre))).join ⟨[temporaryName 0]⟩) with
  | error err => exact ⟨rfl, .nothing d _⟩
  | ok u =>
    refine ⟨rfl, fun k => ?_⟩
    rw [← hp.endsIn.place, Disk.node?_put (by rw [hp.endsIn.place]; simp), Change.node]
    split
    · rfl
    · rw [if_neg]
      rintro ⟨hk, hfree⟩
      exact h.wellFormed.exists_of_isPrefix hk (by simp [hnode]) hfree

end PlannedWrite

/-! ## Whole patches -/

namespace Patch

/-- The target of a patch is below the root. -/
structure IsBelow (p : Patch) (r : Root) : Prop where
  nonempty : (Path.ofString p.file).isEmpty = false
  parts : Root.checkComponents (.ofString p.file) (Path.ofString p.file).components = .ok ()
  target : ∃ pre last idle, r.IsTarget (p.path r) pre last idle

variable {p : Patch} {r : Root} {d d' : Disk} (hp : p.IsBelow r) (h : r.Linkless d)
include hp h

theorem IsBelow.resolve : r.resolve d (.ofString p.file) = .ok (p.path r) := by
  obtain ⟨pre, last, idle, htarget⟩ := hp.target
  exact h.resolve htarget hp.nonempty hp.parts

theorem IsBelow.straight : d.Straight (p.path r).place := by
  obtain ⟨pre, last, idle, htarget⟩ := hp.target
  exact h.straight (htarget.contains_place h.ordinary)

variable (hsame : d.SameAlong d' (p.path r).place)
include hsame

theorem IsBelow.locate_eq : d'.locate (p.path r) = d.locate (p.path r) := by
  obtain ⟨pre, last, idle, htarget⟩ := hp.target
  exact Disk.SameAlong.locate_eq htarget.isAbsolute htarget.descends htarget.short h.wellFormed
    (hp.straight h) hsame

theorem IsBelow.readBytes_eq : readBytes d' (p.path r) = readBytes d (p.path r) := by
  obtain ⟨pre, last, idle, htarget⟩ := hp.target
  exact Disk.SameAlong.readBytes_eq htarget.isAbsolute htarget.descends htarget.short h.wellFormed
    (hp.straight h) hsame

variable (h' : r.Linkless d')
include h'

theorem IsBelow.plan_eq : p.plan r d' = p.plan r d := by
  refine plan_congr ((hp.resolve h').trans (hp.resolve h).symm) fun file hf => ?_
  rw [hp.resolve h] at hf
  cases hf
  exact hp.readBytes_eq h hsame

/-- On disks that are the same to its path a patch ends in the same way, and makes the same. -/
theorem carryOut_makes : ∃ c : Change, (p.carryOut r d').1 = (p.carryOut r d).1 ∧
    c.Makes d (p.path r).place (p.carryOut r d).2 ∧
    c.Makes d' (p.path r).place (p.carryOut r d').2 := by
  have hplan := hp.plan_eq h hsame h'
  cases hw : p.plan r d with
  | error err =>
    rw [hw] at hplan
    rw [carryOut_of_error hw, carryOut_of_error hplan]
    exact ⟨.nothing, rfl, .nothing d _, .nothing d' _⟩
  | ok plan =>
    cases plan with
    | skip res =>
      rw [hw] at hplan
      rw [carryOut_of_skip hw, carryOut_of_skip hplan]
      exact ⟨.nothing, rfl, .nothing d _, .nothing d' _⟩
    | write w =>
      rw [hw] at hplan
      have hfile := edit_file_eq hw
      obtain ⟨pre, last, idle, htarget⟩ := hp.target
      obtain ⟨current, -, hread, hexp, -⟩ := plan_write hw
      have hread' := hp.readBytes_eq h hsame
      rw [carryOut_of_write hw, carryOut_of_write hplan]
      rw [← hfile] at htarget hread' ⊢
      cases current with
      | none =>
        obtain ⟨hres, hmakes⟩ := PlannedWrite.commit_over_nothing h htarget hexp hread
        obtain ⟨hres', hmakes'⟩ :=
          PlannedWrite.commit_over_nothing h' htarget hexp (hread'.trans hread)
        exact ⟨_, hres'.trans hres.symm, hmakes, hmakes'⟩
      | some bytes =>
        obtain ⟨l, mode, hl, hnode⟩ := Disk.readBytes_eq_some_iff.1 hread
        have hl' := hp.locate_eq h hsame
        have hst := hp.straight h
        rw [← hfile] at hl' hst hsame
        obtain rfl := Disk.locate_of_straight htarget.isAbsolute htarget.descends hst hl
        obtain ⟨hres, hmakes⟩ := PlannedWrite.commit_over_file h htarget hexp hl hnode
        obtain ⟨hres', hmakes'⟩ := PlannedWrite.commit_over_file h' htarget hexp (hl'.trans hl)
          (hsame.node?_eq.trans hnode)
        exact ⟨_, hres'.trans hres.symm, hmakes, hmakes'⟩

omit hsame h' in
/-- A tree without links has none after a patch. -/
theorem linkless_carryOut : r.Linkless (p.carryOut r d).2 := by
  obtain ⟨c, -, hmakes, -⟩ := carryOut_makes hp h (.refl d _) h
  exact ⟨sound_carryOut h.toSound, h.checked,
    hmakes.node?_ne_none h.root, h.ordinary,
    fun l target hl => hmakes.noLink (h.noLink l target hl)⟩

end Patch

end SourcePatch
