import SourcePatch.Proofs.Disk.Missing

/-!
# Making what is missing

Where a name names nothing all that is behind it can be made, one directory below the other, up to a
name that is too long. Behind a link that does not lead on nothing can.

## Main definitions

* `Disk.dig`: makes the directories along names that are missing.
* `Disk.Hollow`: at and below a place there are only directories.

## Main statements

* `Disk.travel_dig`: after digging the way is there.
* `Disk.makeDirectories_of_hollow`, `Disk.makeDirectories_of_blocked`: what is made for a path.
-/

namespace SourcePatch.Disk

variable {d d' : Disk} {links m : Nat} {here b l : Location} {name : String}
  {names above rest : List String} {err : IoError}

/-! ## Digging -/

/-- Puts a directory where there is nothing. -/
def ensure (d : Disk) (l : Location) : Disk :=
  if d.node? l = none then d.put l .directory else d

/-- Makes the directories along `names` that are missing, up to a name that is too long. -/
def dig (d : Disk) (here : Location) : List String → Except IoError Location × Disk
  | [] => (.ok here, d)
  | name :: rest =>
    if name = "" ∨ name = "." then d.dig here rest
    else if nameLimit < name.utf8ByteSize then (.error .nameTooLong, d)
    else (d.ensure (here ++ [name])).dig (here ++ [name]) rest

/-- At and below `l` there is nothing but directories. -/
def Hollow (d : Disk) (l : Location) : Prop :=
  ∀ k, l <+: k → d.node? k = none ∨ d.node? k = some .directory

theorem ensure_of_free (h : d.node? l = none) : d.ensure l = d.put l .directory := if_pos h

theorem ensure_of_some (h : d.node? l ≠ none) : d.ensure l = d := if_neg h

theorem node?_ensure (d : Disk) (l k : Location) : (d.ensure l).node? k =
    if k = l ∧ d.node? l = none then some .directory else d.node? k := by
  by_cases hl : d.node? l = none
  · simp [ensure_of_free hl, node?_put (ne_nil_of_free hl), hl]
  · simp [ensure_of_some hl, hl]

theorem gainsDirectories_ensure (d : Disk) (l : Location) : d.GainsDirectories (d.ensure l) := by
  intro k
  rw [node?_ensure]
  split
  · next h => rw [h.1]; exact .inr ⟨h.2, rfl⟩
  · exact .inl rfl

theorem gainsDirectories_dig (d : Disk) (here : Location) (names : List String) :
    d.GainsDirectories (d.dig here names).2 := by
  induction names generalizing d here with
  | nil => exact .refl d
  | cons name rest ih =>
    rw [dig]
    split
    · exact ih d here
    · split
      · exact .refl d
      · exact (gainsDirectories_ensure d _).trans (ih _ _)

theorem dig_cons (ho : Ordinary name) (d : Disk) (here : Location) (rest : List String) :
    d.dig here (name :: rest) = (d.ensure (here ++ [name])).dig (here ++ [name]) rest := by
  obtain ⟨h₁, h₂, h₃, h₄⟩ := ho
  rw [dig, if_neg (by simp [h₁, h₂]), if_neg (by omega)]

namespace Hollow

theorem of_free (hd : d.WellFormed) (h : d.node? l = none) : d.Hollow l := fun k hk => by
  refine .inl ?_
  by_contra hn
  exact hd.exists_of_isPrefix hk hn h

theorem mono {k : Location} (h : d.Hollow l) (hk : l <+: k) : d.Hollow k :=
  fun j hj => h j (hk.trans hj)

theorem gains (h : d.Hollow l) (hgain : d.GainsDirectories d') : d'.Hollow l := by
  intro k hk
  have h₁ := h k hk
  have h₂ := hgain k
  grind

theorem ensure (h : d.Hollow l) : (d.ensure l).node? l = some .directory := by
  rw [node?_ensure]
  split
  · rfl
  · next hnot => exact (h l (List.prefix_refl l)).resolve_left fun hfree => hnot ⟨rfl, hfree⟩

end Hollow

theorem wellFormed_ensure (hd : d.WellFormed) (h : d.node? here = some .directory)
    (name : String) : (d.ensure (here ++ [name])).WellFormed := by
  by_cases hl : d.node? (here ++ [name]) = none
  · rw [ensure_of_free hl]
    exact hd.put (by rwa [List.dropLast_concat]) (by simp [hl])
  · rwa [ensure_of_some hl]

section

variable (hh : d.node? here = some .directory) (hollow : d.Hollow here)
include hh hollow

/-- After digging the way along the names is there, up to a name that is too long. -/
theorem travel_dig (hup : ".." ∉ names) (links : Nat) :
    (∃ c, (d.dig here names).1 = .ok c ∧ (d.dig here names).2.node? c = some .directory ∧
      here <+: c ∧ (d.dig here names).2.travel links here names = .ok (c, links)) ∨
    (d.dig here names).1 = .error .nameTooLong ∧
      (d.dig here names).2.travel links here names = .error .nameTooLong := by
  induction names generalizing d here with
  | nil => exact .inl ⟨here, rfl, hh, List.prefix_refl here, travel_nil ..⟩
  | cons name rest ih =>
    rw [List.mem_cons, not_or] at hup
    have hgain := (gainsDirectories_dig d here (name :: rest)).extends
    have hh' := hgain _ _ hh
    by_cases hi : name = "" ∨ name = "."
    · rw [travel_idle hh' hi]
      rw [dig, if_pos hi]
      exact ih hh hollow hup.2
    by_cases hlong : nameLimit < name.utf8ByteSize
    · rw [travel_long hh' hi (Ne.symm hup.1) hlong, dig, if_neg hi, if_pos hlong]
      exact .inr ⟨rfl, rfl⟩
    · have ho : Ordinary name := by grind [Ordinary]
      have hbelow := hollow.mono (List.prefix_append here [name])
      have hnext := hbelow.ensure
      rw [dig, if_neg hi, if_neg hlong] at hh' ⊢
      rw [travel_enter hh' ho ((gainsDirectories_dig _ _ _).extends _ _ hnext) (by simp)]
      refine (ih hnext (hbelow.gains (gainsDirectories_ensure d _)) hup.2).imp_left ?_
      rintro ⟨c, hok, hc, hle, ht⟩
      exact ⟨c, hok, hc, (List.prefix_append _ _).trans hle, ht⟩

/-- Where there are only directories a way leads to one, and there is nothing to dig, or comes to
something missing, or to a name that is too long. -/
theorem travel_of_hollow (hup : ".." ∉ names) (links : Nat) :
    (∃ c, d.travel links here names = .ok (c, links) ∧ d.dig here names = (.ok c, d) ∧
      d.node? c = some .directory ∧ here <+: c) ∨
    d.travel links here names = .error .noSuchFile ∨
    d.travel links here names = .error .nameTooLong ∧
      d.dig here names = (.error .nameTooLong, d) := by
  induction names generalizing here with
  | nil => exact .inl ⟨here, travel_nil .., rfl, hh, List.prefix_refl here⟩
  | cons name rest ih =>
    rw [List.mem_cons, not_or] at hup
    by_cases hi : name = "" ∨ name = "."
    · rw [travel_idle hh hi, dig, if_pos hi]
      exact ih hh hollow hup.2
    by_cases hlong : nameLimit < name.utf8ByteSize
    · rw [travel_long hh hi (Ne.symm hup.1) hlong, dig, if_neg hi, if_pos hlong]
      exact .inr (.inr ⟨rfl, rfl⟩)
    have ho : Ordinary name := by grind [Ordinary]
    have hbelow := hollow.mono (List.prefix_append here [name])
    obtain hfree | hdir := hollow (here ++ [name]) (List.prefix_append here [name])
    · exact .inr (.inl (travel_missing hh ho hfree))
    · rw [travel_enter hh ho hdir (by simp), dig, if_neg hi, if_neg hlong,
        ensure_of_some (by simp [hdir])]
      refine (ih hdir hbelow hup.2).imp_left ?_
      rintro ⟨c, ht, hdig, hc, hle⟩
      exact ⟨c, ht, hdig, hc, (List.prefix_append _ _).trans hle⟩

end

section

variable (hb : d.node? b = some .directory) (ho : Ordinary name) (hollow : d.Hollow (b ++ [name]))
  (hup : ".." ∉ rest)
include hb ho hollow hup

/-- The same from a directory in which only what `name` names is hollow. -/
theorem travel_dig_below (links : Nat) :
    (∃ c, (d.dig b (name :: rest)).1 = .ok c ∧
      (d.dig b (name :: rest)).2.node? c = some .directory ∧ b ++ [name] <+: c ∧
      (d.dig b (name :: rest)).2.travel links b (name :: rest) = .ok (c, links)) ∨
    (d.dig b (name :: rest)).1 = .error .nameTooLong ∧
      (d.dig b (name :: rest)).2.travel links b (name :: rest) = .error .nameTooLong := by
  have hdir := hollow.ensure
  have hgain := gainsDirectories_dig d b (name :: rest)
  rw [dig_cons ho] at hgain ⊢
  rw [travel_enter (hgain.extends _ _ hb) ho ((gainsDirectories_dig _ _ _).extends _ _ hdir)
    (by simp)]
  exact travel_dig hdir (hollow.gains (gainsDirectories_ensure d _)) hup links

theorem travel_of_hollow_below (links : Nat) :
    (∃ c, d.travel links b (name :: rest) = .ok (c, links) ∧
      d.dig b (name :: rest) = (.ok c, d) ∧ d.node? c = some .directory ∧ b ++ [name] <+: c) ∨
    d.travel links b (name :: rest) = .error .noSuchFile ∨
    d.travel links b (name :: rest) = .error .nameTooLong ∧
      d.dig b (name :: rest) = (.error .nameTooLong, d) := by
  obtain hfree | hdir := hollow (b ++ [name]) (List.prefix_refl _)
  · exact .inr (.inl (travel_missing hb ho hfree))
  · rw [travel_enter hb ho hdir (by simp), dig_cons ho, ensure_of_some (by simp [hdir])]
    exact travel_of_hollow hdir hollow hup links

end

/-- Behind the names one more is dug. -/
theorem dig_concat (d : Disk) (here : Location) (names : List String) (name : String) :
    d.dig here (names ++ [name]) = match d.dig here names with
      | (.ok c, d₁) => d₁.dig c [name]
      | (.error err, d₁) => (.error err, d₁) := by
  induction names generalizing d here with
  | nil => rfl
  | cons first rest ih =>
    rw [List.cons_append, dig, dig]
    split
    · exact ih d here
    · split
      · rfl
      · exact ih _ _

/-- Where digging ends is decided by the names. -/
theorem dig_fst (d d' : Disk) (here : Location) (names : List String) :
    (d.dig here names).1 = (d'.dig here names).1 := by
  induction names generalizing d d' here with
  | nil => rfl
  | cons name rest ih =>
    rw [dig, dig]
    split
    · exact ih d d' here
    · split
      · rfl
      · exact ih _ _ _

section

variable {c : Location} (h : (d.dig here names).1 = .ok c)
include h

theorem isPrefix_of_dig : here <+: c := by
  induction names generalizing d here with
  | nil => cases h; exact List.prefix_refl _
  | cons name rest ih =>
    rw [dig] at h
    split_ifs at h
    · exact ih h
    · exact (List.prefix_append here [name]).trans (ih h)

/-- Directories are dug above the end and nowhere else. -/
theorem node?_dig (hl : ¬ l <+: c) : (d.dig here names).2.node? l = d.node? l := by
  induction names generalizing d here with
  | nil => rfl
  | cons name rest ih =>
    rw [dig] at h ⊢
    split_ifs at h ⊢
    · exact ih h
    · have hne : l ≠ here ++ [name] := by
        rintro rfl
        exact hl (isPrefix_of_dig h)
      rw [ih h, ensure]
      split
      · exact node?_put_of_ne hne _
      · rfl

/-- Where the end is there nothing is to dig. -/
theorem travel_of_there (hd : d.WellFormed) (hh : d.node? here = some .directory)
    (hollow : d.Hollow here) (hup : ".." ∉ names) (hc : d.node? c ≠ none) (links : Nat) :
    d.travel links here names = .ok (c, links) := by
  induction names generalizing here with
  | nil => cases h; exact travel_nil ..
  | cons name rest ih =>
    rw [List.mem_cons, not_or] at hup
    rw [dig] at h
    split_ifs at h with hi hlong
    · rw [travel_idle hh hi]
      exact ih h hh hollow hup.2
    · have hbelow := isPrefix_of_dig h
      have hdir := (hollow _ (List.prefix_append here [name])).resolve_left
        (hd.exists_of_isPrefix hbelow hc)
      have ho : Ordinary name := by grind [Ordinary]
      rw [ensure_of_some (by simp [hdir])] at h
      rw [travel_enter hh ho hdir (by simp)]
      exact ih h hdir (hollow.mono (List.prefix_append here [name])) hup.2

end

theorem travel_of_there_below {c : Location} (hd : d.WellFormed) (ho : Ordinary name)
    (hollow : d.Hollow (here ++ [name])) (hup : ".." ∉ rest)
    (h : (d.dig here (name :: rest)).1 = .ok c) (hc : d.node? c ≠ none) (links : Nat) :
    d.travel links here (name :: rest) = .ok (c, links) := by
  rw [dig_cons ho] at h
  have hdir := (hollow _ (List.prefix_refl _)).resolve_left
    (hd.exists_of_isPrefix (isPrefix_of_dig h) hc)
  rw [ensure_of_some (by simp [hdir])] at h
  have hparent : d.node? (here ++ [name]) ≠ none := by simp [hdir]
  rw [travel_enter (hd.parent hparent) ho hdir (by simp)]
  exact travel_of_there h hd hdir hollow hup hc links

/-! ## Making directories for a path -/

theorem isDirectory_of_travel_error (h : d.travel linkLimit [] names = .error err) :
    d.isDirectory (.ofNames names) = false := by
  refine Bool.eq_false_iff.2 fun hdir => ?_
  obtain ⟨l, hl, -⟩ := isDirectory_iff.1 hdir
  obtain ⟨hc, -⟩ := locate_eq_ok_iff.1 hl
  rw [locate_ofNames hc, h] at hl
  cases hl

theorem isDirectory_of_travel (hc : checkPath (.ofNames names) = .ok ())
    (h : d.travel linkLimit [] names = .ok (b, m)) (hb : d.node? b = some .directory) :
    d.isDirectory (.ofNames names) = true := by
  refine isDirectory_iff.2 ⟨b, ?_, hb⟩
  rw [locate_ofNames hc, h]
  rfl

/-- Making one directory goes down to where it is to be. -/
theorem makeDirectory_ofNames (hc : checkPath (.ofNames (names ++ [name])) = .ok ())
    (hi : ¬ Path.isIdle false name = true) (hup : name ≠ "..") :
    d.makeDirectory (.ofNames (names ++ [name])) =
      (d.travel linkLimit [] names).bind fun r =>
        if d.node? r.1 ≠ some .directory then .error .notADirectory
        else if nameLimit < name.utf8ByteSize then .error .nameTooLong
        else if (d.node? (r.1 ++ [name])).isSome then .error .fileExists
        else .ok (d.put (r.1 ++ [name]) .directory) := by
  rw [Path.isIdle_iff, not_or] at hi
  have hseg : (Path.ofNames (names ++ [name])).segments = ("" :: names) ++ [name] := by
    rw [Path.segments_ofNames (by simp)]
    rfl
  rw [makeDirectory, locateEntry_concat hseg hi.1, hc,
    startOf_of_absolute (Path.isAbsolute_ofNames _), travel_idle rfl (.inl rfl)]
  cases d.travel linkLimit [] names with
  | error err => rfl
  | ok r =>
    have hdots : ¬ (name = "." ∨ name = "..") := by simp [hi.2, hup]
    simp only [bind, Except.bind, if_neg hdots]
    by_cases hdir : d.node? r.1 ≠ some .directory
    · rw [if_pos hdir, if_pos hdir]
    rw [if_neg hdir, if_neg hdir]
    by_cases hlong : nameLimit < name.utf8ByteSize
    · rw [if_pos hlong, if_pos hlong]
    · rw [if_neg hlong, if_neg hlong]

/-- The path behind `names` one name further down. -/
theorem plain_concat (hi : ¬ Path.isIdle false name = true) (hup : ".." ∉ names ++ [name]) :
    (Path.ofNames (names ++ [name])).Plain ∧
      (Path.ofNames (names ++ [name])).parent? = some (.ofNames (Path.trimmed false names)) :=
  ⟨⟨_, rfl, Path.trimmed_concat hi, hup⟩,
    Path.parent?_concat (Path.segments_ofNames (by simp)) hi⟩

section

variable {p q : Path} {d₁ : Disk}

theorem makeDirectories_of_made (hp : p.Plain) (h : d.makeDirectory p = .ok d₁) :
    d.makeDirectories p = (.ok (), d₁) := by
  obtain ⟨above, habove⟩ : ∃ above, p.ancestors = p :: above := ⟨_, rfl⟩
  rw [makeDirectories, habove, makeChain_of_made hp.isEmpty_eq_false h]

theorem makeDirectories_of_error (hp : p.Plain) (h : d.makeDirectory p = .error err)
    (hne : err ≠ .noSuchFile) :
    d.makeDirectories p = (if d.isDirectory p then .ok () else .error err, d) := by
  obtain ⟨above, habove⟩ : ∃ above, p.ancestors = p :: above := ⟨_, rfl⟩
  rw [makeDirectories, habove, makeChain_of_error hp.isEmpty_eq_false h hne]

theorem makeDirectories_of_missing (hp : p.Plain) (hq : p.parent? = some q)
    (h : d.makeDirectory p = .error .noSuchFile) :
    d.makeDirectories p = match d.makeDirectories q with
      | (.error err, d₁) => (.error err, d₁)
      | (.ok (), d₁) =>
        match d₁.makeDirectory p with
        | .ok d₂ => (.ok (), d₂)
        | .error err => (if d₁.isDirectory p then .ok () else .error err, d₁) := by
  rw [makeDirectories, Path.ancestors_of_parent? hp.isAbsolute hq,
    makeChain_of_missing hp.isEmpty_eq_false h]
  rfl

end

section

variable {d₁ : Disk} (hup : ".." ∉ names ++ [name]) (hi : ¬ Path.isIdle false name = true)
  (hc : checkPath (.ofNames (names ++ [name])) = .ok ())
include hup hi hc

/-- The last directory of a path is dug, if there is not one already or its name is too long. -/
theorem makeDirectory_last (hreach : d.travel linkLimit [] names = .ok (b, m))
    (hb : d.node? b = some .directory) (hollow : d.Hollow (b ++ [name])) :
    (∃ d₁, d.makeDirectory (.ofNames (names ++ [name])) = .ok d₁ ∧
      d.dig b [name] = (.ok (b ++ [name]), d₁)) ∨
    ∃ err, err ≠ .noSuchFile ∧ d.makeDirectory (.ofNames (names ++ [name])) = .error err ∧
      ((if d.isDirectory (.ofNames (names ++ [name])) then .ok () else .error err, d) :
          Except IoError Unit × Disk) =
        ((d.dig b [name]).1.map fun _ => (), (d.dig b [name]).2) := by
  have hname : name ≠ ".." := fun heq => hup (by simp [heq])
  have hmake := makeDirectory_ofNames (d := d) hc hi hname
  rw [hreach] at hmake
  simp only [Except.bind] at hmake
  rw [if_neg (by simp [hb])] at hmake
  rw [Path.isIdle_iff] at hi
  rw [dig, if_neg hi]
  by_cases hlong : nameLimit < name.utf8ByteSize
  · have hway : d.travel linkLimit [] (names ++ [name]) = .error .nameTooLong := by
      rw [travel_append_of_ok hreach, travel_long hb hi hname hlong]
    rw [if_pos hlong] at hmake ⊢
    refine .inr ⟨_, by simp, hmake, ?_⟩
    rw [isDirectory_of_travel_error hway]
    rfl
  rw [if_neg hlong] at hmake ⊢
  obtain hfree | hthere := hollow (b ++ [name]) (List.prefix_refl _)
  · rw [if_neg (by simp [hfree])] at hmake
    exact .inl ⟨_, hmake, by rw [ensure_of_free hfree]; rfl⟩
  · have ho : Ordinary name := by grind [Ordinary]
    have hway : d.travel linkLimit [] (names ++ [name]) = .ok (b ++ [name], m) := by
      rw [travel_append_of_ok hreach, travel_enter hb ho hthere (by simp), travel_nil]
    rw [if_pos (by simp [hthere])] at hmake
    refine .inr ⟨_, by simp, hmake, ?_⟩
    rw [isDirectory_of_travel hc hway hthere, ensure_of_some (by simp [hthere])]
    rfl

/-- Where the way to its parent is there, one directory is dug for a path. -/
theorem makeDirectories_last (hreach : d.travel linkLimit [] names = .ok (b, m))
    (hb : d.node? b = some .directory) (hollow : d.Hollow (b ++ [name])) :
    d.makeDirectories (.ofNames (names ++ [name])) =
      ((d.dig b [name]).1.map fun _ => (), (d.dig b [name]).2) := by
  obtain ⟨hp, -⟩ := plain_concat hi hup
  obtain ⟨d₁, hmake, hdig⟩ | ⟨err, hne, hmake, hdig⟩ :=
    makeDirectory_last hup hi hc hreach hb hollow
  · rw [makeDirectories_of_made hp hmake, hdig]
    rfl
  · rw [makeDirectories_of_error hp hmake hne, hdig]

/-- Where the way to its parent has been made, one more directory is dug. -/
theorem makeDirectories_behind
    (hmiss : d.makeDirectory (.ofNames (names ++ [name])) = .error .noSuchFile)
    (habove : d.makeDirectories (.ofNames (Path.trimmed false names)) = (.ok (), d₁))
    (hreach : d₁.travel linkLimit [] names = .ok (b, m)) (hb : d₁.node? b = some .directory)
    (hollow : d₁.Hollow (b ++ [name])) :
    d.makeDirectories (.ofNames (names ++ [name])) =
      ((d₁.dig b [name]).1.map fun _ => (), (d₁.dig b [name]).2) := by
  obtain ⟨hp, hq⟩ := plain_concat hi hup
  rw [makeDirectories_of_missing hp hq hmiss, habove]
  dsimp only
  obtain ⟨d₂, hmake, hdig⟩ | ⟨err, -, hmake, hdig⟩ := makeDirectory_last hup hi hc hreach hb hollow
  · rw [hmake, hdig]
    rfl
  · rw [hmake]
    exact hdig

end

section

variable (hup : ".." ∉ above ++ name :: rest)
  (hc : checkPath (.ofNames (above ++ name :: rest)) = .ok ())
include hup hc

/-- Behind a link that does not lead on nothing is made. -/
theorem makeDirectories_of_blocked (h : d.MissesAt (above ++ name :: rest) above name rest b m)
    (hn : d.node? (b ++ [name]) ≠ none) :
    d.makeDirectories (.ofNames (Path.trimmed false (above ++ name :: rest))) =
      (.error .fileExists, d) := by
  obtain ⟨ho₁, ho₂, ho₃, ho₄⟩ := id h.ordinary
  have hidle : ¬ Path.isIdle false name = true := by rw [Path.isIdle_iff, not_or]; exact ⟨ho₁, ho₂⟩
  have hmiss := h.travel_eq
  induction rest using List.reverseRecOn with
  | nil =>
    obtain ⟨hp, -⟩ := plain_concat hidle hup
    have hmake : d.makeDirectory (.ofNames (above ++ [name])) = .error .fileExists := by
      rw [makeDirectory_ofNames hc hidle ho₃, h.reaches]
      simp only [Except.bind]
      rw [if_neg (by simp [h.directory]), if_neg (by omega),
        if_pos (Option.isSome_iff_ne_none.2 hn)]
    rw [Path.trimmed_concat hidle, makeDirectories_of_error hp hmake (by simp),
      isDirectory_of_travel_error (hmiss [])]
    rfl
  | append_singleton rest last ih =>
    have hsplit : above ++ name :: (rest ++ [last]) = (above ++ name :: rest) ++ [last] := by simp
    rw [hsplit] at hup hc ⊢
    have hih := ih (fun hmem => hup (List.mem_append_left _ hmem))
      (checkPath_of_isPrefix (List.prefix_append _ _) hc) ⟨rfl, h.reaches, h.directory, h.ordinary,
        h.missing⟩
    by_cases hi : Path.isIdle false last = true
    · rwa [Path.trimmed_concat_of_idle hi]
    · obtain ⟨hp, hq⟩ := plain_concat hi hup
      have hlast : last ≠ ".." := fun heq => hup (by simp [heq])
      have hmake : d.makeDirectory (.ofNames ((above ++ name :: rest) ++ [last])) =
          .error .noSuchFile := by
        rw [makeDirectory_ofNames hc hi hlast, hmiss rest]
        rfl
      rw [Path.trimmed_concat hi, makeDirectories_of_missing hp hq hmake, hih]

/-- Where there are only directories, those that are missing are dug. -/
theorem makeDirectories_of_hollow (hd : d.WellFormed)
    (hreach : d.travel linkLimit [] above = .ok (b, m)) (hb : d.node? b = some .directory)
    (ho : Ordinary name) (hollow : d.Hollow (b ++ [name])) :
    d.makeDirectories (.ofNames (Path.trimmed false (above ++ name :: rest))) =
      ((d.dig b (name :: rest)).1.map fun _ => (), (d.dig b (name :: rest)).2) := by
  have hidle : ¬ Path.isIdle false name = true := by
    rw [Path.isIdle_iff, not_or]
    exact ⟨ho.1, ho.2.1⟩
  -- from the first name that is hollow, one name further at a time
  induction rest using List.reverseRecOn with
  | nil =>
    rw [Path.trimmed_concat hidle]
    exact makeDirectories_last hup hidle hc hreach hb hollow
  | append_singleton rest last ih =>
    have hsplit : above ++ name :: (rest ++ [last]) = (above ++ name :: rest) ++ [last] := by simp
    rw [hsplit] at hup hc ⊢
    have hih := ih (fun hmem => hup (List.mem_append_left _ hmem))
      (checkPath_of_isPrefix (List.prefix_append _ _) hc)
    have hlast : last ≠ ".." := fun heq => hup (by simp [heq])
    have hrest : ".." ∉ rest := fun hmem => hup (by simp [hmem])
    rw [← List.cons_append, dig_concat]
    by_cases hi : Path.isIdle false last = true
    · rw [Path.trimmed_concat_of_idle hi, hih]
      rcases d.dig b (name :: rest) with ⟨err | c, d₁⟩
      · rfl
      · rw [Path.isIdle_iff] at hi
        dsimp only
        rw [dig, if_pos hi]
        rfl
    rw [Path.trimmed_concat hi]
    obtain ⟨c, hway, hdig, hdir, hle⟩ | hmiss | ⟨hlong, hdig⟩ :=
      travel_of_hollow_below hb ho hollow hrest m
    · -- all directories above the last one are there
      rw [hdig]
      exact makeDirectories_last hup hi hc ((travel_append_of_ok hreach _).trans hway) hdir
        (hollow.mono (hle.trans (List.prefix_append c _)))
    · -- some of them are missing, and are dug before
      have hmake : d.makeDirectory (.ofNames ((above ++ name :: rest) ++ [last])) =
          .error .noSuchFile := by
        rw [makeDirectory_ofNames hc hi hlast, travel_append_of_ok hreach, hmiss]
        rfl
      have hgain := gainsDirectories_dig d b (name :: rest)
      have hdug := travel_dig_below hb ho hollow hrest m
      rcases hdig : d.dig b (name :: rest) with ⟨err | c, d₁⟩ <;> rw [hdig] at hih hdug hgain
      · rw [makeDirectories_of_missing (plain_concat hi hup).1 (plain_concat hi hup).2 hmake, hih]
        rfl
      · obtain ⟨c', hc', hdir, hle, hway⟩ | ⟨herr, -⟩ := hdug
        · cases hc'
          have habove := travel_ok_of_extends hd hgain.extends hreach
          exact makeDirectories_behind hup hi hc hmake hih
            ((travel_append_of_ok habove _).trans hway) hdir
            ((hollow.gains hgain).mono (hle.trans (List.prefix_append c _)))
        · cases herr
    · -- the name of one of them is too long
      have hlongway := (travel_append_of_ok hreach (name :: rest)).trans hlong
      have hmake : d.makeDirectory (.ofNames ((above ++ name :: rest) ++ [last])) =
          .error .nameTooLong := by
        rw [makeDirectory_ofNames hc hi hlast, hlongway]
        rfl
      rw [makeDirectories_of_error (plain_concat hi hup).1 hmake (by simp),
        isDirectory_of_travel_error (travel_append_of_error hlongway [last]), hdig]
      rfl

end

end SourcePatch.Disk
