import SourcePatch.Proofs.Disk.Missing

/-!
# Ways without links

Where there are no links, a path that nowhere goes up can lead to one place only, the one that its
names spell. What it meets on the way there depends on that place and those above it alone. New
directories above the place do not matter either, if nothing was there before.

## Main definitions

* `Path.place`: the place that the names of a path spell.
* `Disk.Straight`: no link at a place or above it.
* `Disk.SameAlong`: another disk is the same to a path with that place.

## Main statements

* `Disk.locate_of_straight`: where a path leads.
* `Disk.SameAlong.locate_eq`, `Disk.SameAlong.readBytes_eq`: on both disks a path leads to the same
  place, and the same is read there.
-/

namespace SourcePatch

namespace Path

variable {p : Path} {names above idle : List String} {name last : String}

/-- The names that move. -/
def moving (names : List String) : List String := names.filter fun s => !isIdle false s

/-- The place that the names of an absolute path spell. -/
def place (p : Path) : Location := moving p.segments

@[simp] theorem moving_nil : moving [] = [] := rfl

theorem moving_cons_of_idle (h : isIdle false name = true) :
    moving (name :: names) = moving names := by
  simp [moving, h]

theorem moving_cons (h : ¬ isIdle false name = true) :
    moving (name :: names) = name :: moving names := by
  simp [moving, h]

theorem moving_append (names more : List String) :
    moving (names ++ more) = moving names ++ moving more := List.filter_append ..

theorem moving_of_idle (h : ∀ s ∈ names, isIdle false s = true) : moving names = [] := by
  simpa [moving, List.filter_eq_nil_iff] using h

theorem moving_of_ordinary (h : ∀ s ∈ names, Disk.Ordinary s) : moving names = names := by
  refine List.filter_eq_self.2 fun s hs => ?_
  obtain ⟨h₁, h₂, -⟩ := h s hs
  simp [isIdle, h₁, h₂]

/-- What moves ends with a name. -/
theorem exists_last_of_moves (h : moving names ≠ []) : ∃ pre last idle,
    names = pre ++ last :: idle ∧ ¬ isIdle false last = true ∧
      ∀ s ∈ idle, isIdle false s = true := by
  obtain ⟨idle, heq, hidle⟩ := exists_idle_of_trimmed names
  obtain hnil | ⟨pre, last, htrim, hlast⟩ := trimmed_cases names
  · rw [hnil, List.nil_append] at heq
    rw [heq, moving_of_idle hidle] at h
    exact absurd rfl h
  · exact ⟨pre, last, idle, by rw [heq, htrim]; simp, hlast, hidle⟩

theorem EndsIn.place (h : p.EndsIn above last idle) : p.place = moving above ++ [last] := by
  rw [Path.place, h.segments, moving_cons_of_idle (isIdle_iff.2 (.inl rfl)), moving_append,
    moving_cons h.moves, moving_of_idle h.idles]

theorem EndsIn.above_isPrefix (h : p.EndsIn above last idle) : moving above <+: p.place := by
  rw [h.place]
  exact List.prefix_append _ _

/-- The names that move are all that components are made of. -/
theorem componentsFrom_eq_moving (names : List String) :
    componentsFrom false names = (moving names).map componentOf := by
  induction names with
  | nil => rfl
  | cons name names ih =>
    rw [componentsFrom]
    split
    · next h => rw [ih, moving_cons_of_idle h]
    · next h => rw [ih, moving_cons h, List.map_cons]

end Path

namespace Disk

variable {d d' : Disk} {p : Path} {links m : Nat} {here l k : Location} {names : List String}

/-! ## Places without links -/

/-- There is no link at `l` or above it. -/
def Straight (d : Disk) (l : Location) : Prop :=
  ∀ k target, k <+: l → d.node? k ≠ some (.link target)

theorem Straight.mono (h : d.Straight l) (hk : k <+: l) : d.Straight k :=
  fun j target hj => h j target (hj.trans hk)

/-- A name that does not go up and is not too long is idle or ordinary. -/
theorem ordinary_of_not_idle {name : String} (hi : ¬ (name = "" ∨ name = ".")) (hup : name ≠ "..")
    (hshort : name.utf8ByteSize ≤ nameLimit) : Ordinary name := by
  rw [not_or] at hi
  exact ⟨hi.1, hi.2, hup, hshort⟩

/-- Without links a way leads to the place that the names spell. -/
theorem travel_of_straight (hup : ".." ∉ names) (hst : d.Straight (here ++ Path.moving names))
    (h : d.travel links here names = .ok (l, m)) : l = here ++ Path.moving names := by
  induction names generalizing here with
  | nil =>
    rw [travel_nil] at h
    cases h
    simp
  | cons name rest ih =>
    rw [List.mem_cons, not_or] at hup
    have hdir := directory_of_travel_cons h
    by_cases hi : name = "" ∨ name = "."
    · rw [travel_idle hdir hi] at h
      rw [Path.moving_cons_of_idle (Path.isIdle_iff.2 hi)] at hst ⊢
      exact ih hup.2 hst h
    by_cases hlong : nameLimit < name.utf8ByteSize
    · rw [travel_long hdir hi (Ne.symm hup.1) hlong] at h
      cases h
    have ho := ordinary_of_not_idle hi (Ne.symm hup.1) (Nat.not_lt.1 hlong)
    have hsplit : here ++ Path.moving (name :: rest) = (here ++ [name]) ++ Path.moving rest := by
      rw [Path.moving_cons (mt Path.isIdle_iff.1 hi)]
      simp
    rw [hsplit] at hst ⊢
    cases hn : d.node? (here ++ [name]) with
    | none =>
      rw [travel_missing hdir ho hn] at h
      cases h
    | some n =>
      have hnot : ∀ target, n ≠ .link target := by
        rintro target rfl
        exact hst _ target (List.prefix_append _ _) hn
      rw [travel_enter hdir ho hn hnot] at h
      exact ih hup.2 hst h

/-! ## Disks that are the same to a path -/

/-- At `l` and above it `d'` holds the same as `d`, and besides above `l` directories where there
was nothing. -/
def SameAlong (d d' : Disk) (l : Location) : Prop :=
  ∀ k, k <+: l → d'.node? k = d.node? k ∨
    k ≠ l ∧ d.node? k = none ∧ d'.node? k = some .directory

theorem SameAlong.refl (d : Disk) (l : Location) : d.SameAlong d l := fun _ _ => .inl rfl

theorem SameAlong.node?_eq (h : d.SameAlong d' l) : d'.node? l = d.node? l :=
  (h l (List.prefix_refl l)).resolve_right fun hne => hne.1 rfl

theorem SameAlong.trans {d'' : Disk} (h : d.SameAlong d' l) (h' : d'.SameAlong d'' l) :
    d.SameAlong d'' l := by
  intro k hk
  have h₁ := h k hk
  have h₂ := h' k hk
  grind

/-- Down through directories to a place where there is nothing, a way comes to something missing. -/
theorem travel_of_free (hup : ".." ∉ names) (hshort : ∀ s ∈ names, s.utf8ByteSize ≤ nameLimit)
    (hh : d.node? here = some .directory)
    (hbelow : ∀ k, here <+: k → k <+: here ++ Path.moving names →
      d.node? k = none ∨ d.node? k = some .directory)
    (hend : d.node? (here ++ Path.moving names) = none) :
    d.travel links here names = .error .noSuchFile := by
  induction names generalizing here with
  | nil =>
    rw [Path.moving_nil, List.append_nil, hh] at hend
    cases hend
  | cons name rest ih =>
    rw [List.mem_cons, not_or] at hup
    have hrest : ∀ s ∈ rest, s.utf8ByteSize ≤ nameLimit := fun s hs => hshort s (by simp [hs])
    by_cases hi : name = "" ∨ name = "."
    · rw [Path.moving_cons_of_idle (Path.isIdle_iff.2 hi)] at hbelow hend
      rw [travel_idle hh hi]
      exact ih hup.2 hrest hh hbelow hend
    have ho := ordinary_of_not_idle hi (Ne.symm hup.1) (hshort name (by simp))
    have hsplit : here ++ Path.moving (name :: rest) = (here ++ [name]) ++ Path.moving rest := by
      rw [Path.moving_cons (mt Path.isIdle_iff.1 hi)]
      simp
    rw [hsplit] at hbelow hend
    obtain hfree | hdir := hbelow (here ++ [name]) (List.prefix_append _ _) (List.prefix_append _ _)
    · exact travel_missing hh ho hfree
    · rw [travel_enter hh ho hdir (by simp)]
      exact ih hup.2 hrest hdir (fun k hk => hbelow k ((List.prefix_append _ _).trans hk)) hend

/-- A way ends the same on both disks. -/
theorem SameAlong.travel_eq (hd : d.WellFormed) (hup : ".." ∉ names)
    (hshort : ∀ s ∈ names, s.utf8ByteSize ≤ nameLimit)
    (hst : d.Straight (here ++ Path.moving names))
    (h : d.SameAlong d' (here ++ Path.moving names)) (hh : d'.node? here = d.node? here) :
    d'.travel links here names = d.travel links here names := by
  induction names generalizing here with
  | nil => rw [travel_nil, travel_nil]
  | cons name rest ih =>
    rw [List.mem_cons, not_or] at hup
    have hrest : ∀ s ∈ rest, s.utf8ByteSize ≤ nameLimit := fun s hs => hshort s (by simp [hs])
    by_cases hdir : d.node? here = some .directory
    swap
    · rw [travel_of_not_directory hdir, travel_of_not_directory (by rwa [hh])]
    have hdir' := hh.trans hdir
    by_cases hi : name = "" ∨ name = "."
    · rw [Path.moving_cons_of_idle (Path.isIdle_iff.2 hi)] at hst h
      rw [travel_idle hdir hi, travel_idle hdir' hi]
      exact ih hup.2 hrest hst h hh
    have ho := ordinary_of_not_idle hi (Ne.symm hup.1) (hshort name (by simp))
    have hsplit : here ++ Path.moving (name :: rest) = (here ++ [name]) ++ Path.moving rest := by
      rw [Path.moving_cons (mt Path.isIdle_iff.1 hi)]
      simp
    rw [hsplit] at hst h
    obtain hsame | ⟨hne, hfree, hnew⟩ := h (here ++ [name]) (List.prefix_append _ _)
    · cases hn : d.node? (here ++ [name]) with
      | none =>
        rw [travel_missing hdir ho hn, travel_missing hdir' ho (hsame.trans hn)]
      | some n =>
        have hnot : ∀ target, n ≠ .link target := by
          rintro target rfl
          exact hst _ target (List.prefix_append _ _) hn
        rw [travel_enter hdir ho hn hnot, travel_enter hdir' ho (hsame.trans hn) hnot]
        exact ih hup.2 hrest hst h hsame
    · -- nothing was below either, so the new directories end before the place
      have hbelow : ∀ k, here ++ [name] <+: k → d.node? k = none := by
        intro k hk
        by_contra hn
        exact hd.exists_of_isPrefix hk hn hfree
      rw [travel_missing hdir ho hfree, travel_enter hdir' ho hnew (by simp)]
      refine travel_of_free hup.2 hrest hnew (fun k hk hkl => ?_) ?_
      · obtain hsame | ⟨-, -, hdir⟩ := h k hkl
        · exact .inl (hsame.trans (hbelow k hk))
        · exact .inr hdir
      · exact h.node?_eq.trans (hbelow _ (List.prefix_append _ _))

/-! ## Paths without links -/

section

variable (habs : p.isAbsolute = true) (hup : ".." ∉ p.segments)
include habs hup

theorem locate_of_straight (hst : d.Straight p.place) (h : d.locate p = .ok l) : l = p.place := by
  obtain ⟨-, m, ht⟩ := locate_eq_ok_iff.1 h
  rw [startOf_of_absolute habs] at ht
  exact travel_of_straight hup hst ht

variable (hshort : ∀ s ∈ p.segments, s.utf8ByteSize ≤ nameLimit) (hd : d.WellFormed)
  (hst : d.Straight p.place) (h : d.SameAlong d' p.place)
include hshort hd hst h

theorem SameAlong.locate_eq : d'.locate p = d.locate p := by
  have hway : d'.travel linkLimit [] p.segments = d.travel linkLimit [] p.segments :=
    SameAlong.travel_eq hd hup hshort hst h rfl
  rw [Disk.locate_eq, Disk.locate_eq, startOf_of_absolute habs, startOf_of_absolute habs, hway]

theorem SameAlong.readBytes_eq : readBytes d' p = readBytes d p := by
  rw [Disk.readBytes_eq, Disk.readBytes_eq, SameAlong.locate_eq habs hup hshort hd hst h]
  cases hl : d.locate p with
  | error err => cases err <;> rfl
  | ok l =>
    obtain rfl := locate_of_straight habs hup hst hl
    simp only [h.node?_eq]

end

/-- Above a place that is there its directory is. -/
theorem reach_above {above idle : List String} {last : String} (h : p.EndsIn above last idle)
    (hup : ".." ∉ p.segments) (hst : d.Straight p.place) (hl : d.locate p = .ok l) :
    ∃ m, d.travel linkLimit [] above = .ok (Path.moving above, m) ∧
      d.node? (Path.moving above) = some .directory := by
  have habs : p.isAbsolute = true := Path.isAbsolute_iff.2 ⟨_, h.segments, by simp⟩
  obtain ⟨-, m, ht⟩ := locate_eq_ok_iff.1 hl
  rw [startOf_of_absolute habs, travel_root h.segments, travel_append] at ht
  have habove : ".." ∉ above := fun hmem => hup (by simp [h.segments, hmem])
  cases hreach : d.travel linkLimit [] above with
  | error err =>
    rw [hreach] at ht
    cases ht
  | ok r =>
    rw [hreach] at ht
    have hc : r.1 = Path.moving above := travel_of_straight (m := r.2) habove
      (hst.mono h.above_isPrefix) hreach
    rw [← hc]
    exact ⟨r.2, rfl, directory_of_travel_cons ht⟩

end Disk

end SourcePatch
