import SourcePatch.Proofs.Disk.Persists
import SourcePatch.Proofs.Edit.Atomic
import SourcePatch.Proofs.Tree.Target

/-!
# Trees side by side

One disk holds what another one holds, and besides directories in a tree that the other lacks. A
path notices these directories in three ways only. It may lead to one of them, or go on in one with
a name that is too long, or pass by a link that did not lead on without them. Otherwise it leads to
the same place, and is inside the tree on both disks or on neither.

## Main definitions

* `Root.Beside`: the relation between the two disks.
* `Disk.Notices`: what a path notices of the directories.

## Main statements

* `Root.Beside.locate_eq`, `Root.Beside.readBytes_eq`, `Root.Beside.resolve_eq`: what a path that
  notices nothing does on both disks.
-/

namespace SourcePatch

/-- What `d` holds `d'` holds too, and besides only directories in the tree, whose root is there. -/
structure Root.Beside (r : Root) (d d' : Disk) : Prop where
  sound : d.Sound
  sound' : d'.Sound
  gains : ∀ l, d'.node? l = d.node? l ∨
    d.node? l = none ∧ d'.node? l = some .directory ∧ r.Contains l
  root : d.node? r.location ≠ none
  ordinary : ∀ name ∈ r.location, Disk.Ordinary name

/-- What a path notices of the directories that `d'` has and `d` has not. -/
inductive Disk.Notices (d d' : Disk) (p : Path) : Prop
  /-- It leads to one of them. -/
  | leads {l : Location} : d'.locate p = .ok l → d.node? l = none → Notices d d' p
  /-- It goes on in one of them with a name that is too long. -/
  | long : d.locate p = .error .noSuchFile → d'.locate p = .error .nameTooLong → Notices d d' p
  /-- It passes by a link that leads on with them only. -/
  | link : d.Revives d' p → Notices d d' p

theorem Disk.Revives.mono {d d' : Disk} {p q : Path} (h : d.Revives d' p)
    (hpq : p.segments <+: q.segments) : d.Revives d' q := by
  obtain ⟨segments, e, target, hseg, hrest⟩ := h
  exact ⟨segments, e, target, hseg.trans hpq, hrest⟩

/-- Where nothing more is to be found, the nearest place above is the directory where it is
missing. -/
theorem Disk.nearest_of_missesAt {d : Disk} {pre rest : List String} {name : String} {b : Location}
    {m : Nat} (h : d.MissesAt (pre ++ name :: rest) pre name rest b m)
    (hc : checkPath (.ofNames (pre ++ name :: rest)) = .ok ()) :
    ∃ q, (Path.ofNames (Path.trimmed false (pre ++ name :: rest))).ancestors.find?
      d.leadsSomewhere = some q ∧ d.locate q = .ok b := by
  have hmiss := h.travel_eq
  have hleads : ∀ more, d.leadsSomewhere (.ofNames (pre ++ name :: more)) = false := by
    intro more
    refine Bool.eq_false_iff.2 fun hlead => ?_
    obtain ⟨l, n, hl, -⟩ := leadsSomewhere_iff.1 hlead
    obtain ⟨hcheck, -⟩ := locate_eq_ok_iff.1 hl
    rw [locate_ofNames hcheck, hmiss more] at hl
    cases hl
  obtain ⟨ho₁, ho₂, -⟩ := h.ordinary
  have hidle : ¬ Path.isIdle false name = true := by rw [Path.isIdle_iff, not_or]; exact ⟨ho₁, ho₂⟩
  induction rest using List.reverseRecOn with
  | nil =>
    have hpre : d.locate (.ofNames (Path.trimmed false pre)) = .ok b := by
      rw [locate_ofNames (checkPath_of_isPrefix
        ((Path.trimmed_isPrefix pre).trans (List.prefix_append _ _)) hc), travel_trimmed h.reaches]
      rfl
    refine ⟨_, ?_, hpre⟩
    rw [Path.trimmed_concat hidle, nearest_of_parent? (Path.isAbsolute_ofNames _)
      (Path.parent?_concat (Path.segments_ofNames (by simp)) hidle) (hleads [])]
    exact nearest_of_leads (leadsSomewhere_iff.2 ⟨b, _, hpre, h.directory⟩)
  | append_singleton rest s ih =>
    have hsplit : pre ++ name :: (rest ++ [s]) = (pre ++ name :: rest) ++ [s] := by simp
    have hih := ih ⟨rfl, h.reaches, h.directory, h.ordinary, h.missing⟩
      (checkPath_of_isPrefix ⟨[s], by simp⟩ hc)
    by_cases hi : Path.isIdle false s = true
    · rwa [hsplit, Path.trimmed_concat_of_idle hi]
    · rwa [hsplit, Path.trimmed_concat hi, nearest_of_parent? (Path.isAbsolute_ofNames _)
        (Path.parent?_concat (Path.segments_ofNames (by simp)) hi) (hsplit ▸ hleads _)]

namespace Root.Beside

variable {r : Root} {d d' : Disk} {p target : Path} {names : List String} (h : r.Beside d d')
include h

theorem gainsDirectories : d.GainsDirectories d' := fun l =>
  (h.gains l).imp_right (And.imp_right And.left)

theorem persists : d.Persists d' := .of_extends h.sound.wellFormed h.gainsDirectories.extends

/-! ## Where paths lead -/

theorem locate_of_ok {l : Location} (hp : p.isAbsolute = true) (hl : d.locate p = .ok l) :
    d'.locate p = .ok l := by
  obtain ⟨hcheck, m, ht⟩ := Disk.locate_eq_ok_iff.1 hl
  rw [Disk.startOf_of_absolute hp] at ht
  refine Disk.locate_eq_ok_iff.2 ⟨hcheck, m, ?_⟩
  rw [Disk.startOf_of_absolute hp]
  exact Disk.travel_ok_of_extends h.sound.wellFormed h.gainsDirectories.extends ht

/-- A way is the same on both disks, or something is missing on the first and the second has a
directory there. -/
theorem travel_cases (hseg : p.segments = "" :: names) (hup : ".." ∉ names)
    (hcheck : Disk.checkPath p = .ok ()) (hrev : ¬ d.Revives d' p) :
    d'.travel Disk.linkLimit [] names = d.travel Disk.linkLimit [] names ∨
    ∃ pre name rest b m, d.MissesAt names pre name rest b m ∧ d.node? (b ++ [name]) = none ∧
      ((∃ c, d'.travel Disk.linkLimit [] names = .ok (c, m) ∧ b ++ [name] <+: c ∧
        d'.node? c = some .directory) ∨
      d'.travel Disk.linkLimit [] names = .error .nameTooLong) := by
  have hsame : d'.travel Disk.linkLimit [] names = d.travel Disk.linkLimit [] names ∨
      d.travel Disk.linkLimit [] names = .error .noSuchFile :=
    Disk.travel_of_extends h.sound.wellFormed h.gainsDirectories.extends (by simp)
  obtain hsame | hmissing := hsame
  · exact .inl hsame
  obtain ⟨pre, name, rest, b, m, hmiss⟩ := Disk.exists_missesAt hup hmissing
  by_cases hfree : d.node? (b ++ [name]) = none
  · have hreach := h.persists.way hmiss.reaches hmiss.directory
    have hway := Disk.travel_append_of_ok hreach (name :: rest)
    rw [← hmiss.names_eq] at hway
    have hollow := (Disk.Hollow.of_free h.sound.wellFormed hfree).gains h.gainsDirectories
    have hrest : ".." ∉ rest := fun hmem => hup (by simp [hmiss.names_eq, hmem])
    obtain ⟨c, hc, -, hdir, hle⟩ | hmore | ⟨hlong, -⟩ :=
      Disk.travel_of_hollow_below (h.persists.directory b hmiss.directory) hmiss.ordinary hollow
        hrest m
    · exact .inr ⟨pre, name, rest, b, m, hmiss, hfree, .inl ⟨c, hway.trans hc, hle, hdir⟩⟩
    · exact .inl (by rw [hway, hmore, hmissing])
    · exact .inr ⟨pre, name, rest, b, m, hmiss, hfree, .inr (hway.trans hlong)⟩
  · -- a link that did not lead on
    have hpre : "" :: (pre ++ [name]) <+: p.segments := by
      rw [hseg, hmiss.names_eq]
      exact ⟨rest, by simp⟩
    have hmiss' := hmiss.persists hfree hpre hcheck h.persists hrev
    have hboth := hmiss'.travel_eq rest
    rw [← hmiss.names_eq] at hboth
    exact .inl (by rw [hboth, hmissing])

section

variable (hp : p.isAbsolute = true) (hup : ".." ∉ p.segments) (hn : ¬ d.Notices d' p)
include hp hup hn

theorem locate_eq : d'.locate p = d.locate p := by
  obtain ⟨names, hseg, -⟩ := Path.isAbsolute_iff.1 hp
  rw [hseg, List.mem_cons, not_or] at hup
  have hloc : ∀ d : Disk, d.locate p = (Disk.checkPath p).bind fun _ =>
      (d.travel Disk.linkLimit [] names).map Prod.fst := by
    intro d
    rw [Disk.locate_eq, Disk.startOf_of_absolute hp, Disk.travel_root hseg]
  cases hcheck : Disk.checkPath p with
  | error err => rw [hloc d, hloc d', hcheck]; rfl
  | ok u =>
    rw [hcheck] at hloc
    obtain hsame | ⟨pre, name, rest, b, m, hmiss, hfree, ⟨c, hc, hle, -⟩ | hlong⟩ :=
      h.travel_cases hseg hup.2 hcheck fun hrev => hn (.link hrev)
    · rw [hloc d, hloc d', hsame]
    · refine absurd (.leads (l := c) ?_ ?_) hn
      · rw [hloc d', hc]; rfl
      · by_contra hthere
        exact h.sound.wellFormed.exists_of_isPrefix hle hthere hfree
    · refine absurd (.long ?_ ?_) hn
      · rw [hloc d, hmiss.names_eq, hmiss.travel_eq]; rfl
      · rw [hloc d', hlong]; rfl

/-- It also leads to the same thing. -/
theorem node?_of_locate {l : Location} (hl : d.locate p = .ok l) : d'.node? l = d.node? l := by
  obtain hsame | ⟨hfree, -⟩ := h.gains l
  · exact hsame
  · exact absurd (.leads ((h.locate_eq hp hup hn).trans hl) hfree) hn

theorem readBytes_eq : readBytes d' p = readBytes d p := by
  rw [Disk.readBytes_eq, Disk.readBytes_eq, h.locate_eq hp hup hn]
  cases hl : d.locate p with
  | error err => cases err <;> rfl
  | ok l => simp only [h.node?_of_locate hp hup hn hl]

theorem leadsSomewhere_eq : d'.leadsSomewhere p = d.leadsSomewhere p := by
  rw [Bool.eq_iff_iff, Disk.leadsSomewhere_iff, Disk.leadsSomewhere_iff, h.locate_eq hp hup hn]
  refine exists_congr fun l => exists_congr fun n => and_congr_right fun hl => ?_
  rw [h.node?_of_locate hp hup hn hl]

end

/-! ## What is inside the tree -/

/-- What the other disk has more is a directory whose way down from the root of the tree starts on
both disks. -/
theorem contains_of_free {b c : Location} {name : String} (hfree : d.node? (b ++ [name]) = none)
    (hle : b ++ [name] <+: c) (hc : d'.node? c = some .directory) :
    r.Contains c ∧ r.Contains b := by
  have hnew : d.node? c = none := by
    by_contra hthere
    exact h.sound.wellFormed.exists_of_isPrefix hle hthere hfree
  obtain hsame | ⟨-, -, hin⟩ := h.gains c
  · rw [hnew, hc] at hsame
    cases hsame
  refine ⟨hin, ?_⟩
  have hne : r.location ≠ b ++ [name] := by
    intro heq
    exact h.root (heq ▸ hfree)
  rw [← Root.contains_concat_iff hne]
  obtain hroot | hroot := List.prefix_or_prefix_of_prefix hin hle
  · exact hroot
  · exact absurd hfree (h.sound.wellFormed.exists_of_isPrefix hroot h.root)

/-- If a path leads to something new, the nearest place above it that was there before is in the
tree. -/
theorem nearest_of_gained {l : Location} {n : Node} (hne : names ≠ []) (hup : ".." ∉ names)
    (hrev : ¬ d.Revives d' (.ofNames names)) (hlead : d.leadsSomewhere (.ofNames names) = false)
    (hl : d'.locate (.ofNames names) = .ok l) (hn : d'.node? l = some n) :
    ∃ q b, (Path.ofNames (Path.trimmed false names)).ancestors.find? d.leadsSomewhere = some q ∧
      d.locate q = .ok b ∧ r.Contains b ∧ r.Contains l := by
  obtain ⟨hcheck, -⟩ := Disk.locate_eq_ok_iff.1 hl
  have hloc : ∀ d : Disk, d.locate (.ofNames names) =
      (d.travel Disk.linkLimit [] names).map Prod.fst := fun d => Disk.locate_ofNames hcheck
  obtain hsame | ⟨pre, name, rest, b, m, hmiss, hfree, ⟨c, hc, hle, hdir⟩ | hlong⟩ :=
    h.travel_cases (Path.segments_ofNames hne) hup hcheck hrev
  · -- what the way leads to was there before too
    rw [hloc, hsame, ← hloc] at hl
    obtain ⟨-, m, ht⟩ := Disk.locate_eq_ok_iff.1 hl
    rw [Disk.startOf_of_absolute (Path.isAbsolute_ofNames _)] at ht
    obtain ⟨n, hn⟩ := Option.ne_none_iff_exists'.1
      (Disk.exists_of_travel h.sound.wellFormed ht (by simp))
    rw [Disk.leadsSomewhere_iff.2 ⟨l, n, hl, hn⟩] at hlead
    cases hlead
  · rw [hloc, hc] at hl
    cases hl
    obtain ⟨hin', hin⟩ := h.contains_of_free hfree hle hdir
    obtain ⟨q, hq, hb⟩ := Disk.nearest_of_missesAt (hmiss.names_eq ▸ hmiss)
      (hmiss.names_eq ▸ hcheck)
    rw [← hmiss.names_eq] at hq
    exact ⟨q, b, hq, hb, hin, hin'⟩
  · rw [hloc, hlong] at hl
    cases hl

/-- The nearest places above a path are the same, or both are in the tree. -/
theorem nearest_cases (hup : ".." ∉ names) (hrev : ¬ d.Revives d' ⟨"" :: names⟩) :
    ∃ q a q' a', (Path.ofNames (Path.trimmed false names)).ancestors.find? d.leadsSomewhere =
        some q ∧ d.locate q = .ok a ∧
      (Path.ofNames (Path.trimmed false names)).ancestors.find? d'.leadsSomewhere = some q' ∧
      d'.locate q' = .ok a' ∧ (a' = a ∨ r.Contains a ∧ r.Contains a') := by
  -- down from the root, where both disks are the same
  induction names using List.reverseRecOn with
  | nil =>
    have hroot : ∀ d : Disk, d.locate (.ofNames []) = .ok [] := fun d => by
      rw [Disk.locate_ofNames rfl, Disk.travel_nil]
      rfl
    exact ⟨.ofNames [], [], .ofNames [], [], Disk.nearest_of_leads (Disk.leadsSomewhere_root d),
      hroot d, Disk.nearest_of_leads (Disk.leadsSomewhere_root d'), hroot d', .inl rfl⟩
  | append_singleton names s ih =>
    have hnames : ".." ∉ names := fun hmem => hup (List.mem_append_left _ hmem)
    have hbefore := ih hnames fun hold => hrev (hold.mono ⟨[s], by simp⟩)
    by_cases hi : Path.isIdle false s = true
    · rwa [Path.trimmed_concat_of_idle hi]
    have hX : Path.ofNames (names ++ [s]) = ⟨"" :: (names ++ [s])⟩ := by
      rw [Path.ofNames, if_neg (by simp)]
    have hseg := congrArg Path.segments hX
    have habs := Path.isAbsolute_ofNames (names ++ [s])
    have hq := Path.parent?_concat hseg hi
    rw [Path.trimmed_concat hi]
    cases hlead : d.leadsSomewhere (.ofNames (names ++ [s])) with
    | true =>
      obtain ⟨l, n, hl, hn⟩ := Disk.leadsSomewhere_iff.1 hlead
      have hl' := h.locate_of_ok habs hl
      have hlead' := Disk.leadsSomewhere_iff.2 ⟨l, n, hl', h.gainsDirectories.extends l n hn⟩
      exact ⟨_, l, _, l, Disk.nearest_of_leads hlead, hl, Disk.nearest_of_leads hlead', hl',
        .inl rfl⟩
    | false =>
      cases hlead' : d'.leadsSomewhere (.ofNames (names ++ [s])) with
      | false =>
        rwa [Disk.nearest_of_parent? habs hq hlead, Disk.nearest_of_parent? habs hq hlead']
      | true =>
        obtain ⟨l', n', hl', hn'⟩ := Disk.leadsSomewhere_iff.1 hlead'
        obtain ⟨q, b, hfind, hb, hin, hin'⟩ :=
          h.nearest_of_gained (by simp) hup (hX ▸ hrev) hlead hl' hn'
        rw [Path.trimmed_concat hi] at hfind
        exact ⟨q, b, _, _, hfind, hb, Disk.nearest_of_leads hlead', hl', .inr ⟨hin, hin'⟩⟩

/-- The check of what is above a path comes to the same on both disks. -/
theorem checkAncestor_eq (hp : p.isAbsolute = true) (hup : ".." ∉ p.segments)
    (hn : ¬ d.Notices d' p) : r.checkAncestor d' p = r.checkAncestor d p := by
  have hlead' := h.leadsSomewhere_eq hp hup hn
  cases hlead : d.leadsSomewhere p with
  | true =>
    obtain ⟨l, n, hl, -⟩ := Disk.leadsSomewhere_iff.1 hlead
    rw [hlead] at hlead'
    rw [checkAncestor_of_nearest (Disk.nearest_of_leads hlead)
        (Disk.canonicalize_of_leadsSomewhere hlead hl),
      checkAncestor_of_nearest (Disk.nearest_of_leads hlead')
        (Disk.canonicalize_of_leadsSomewhere hlead' ((h.locate_eq hp hup hn).trans hl))]
  | false =>
    rw [hlead] at hlead'
    cases hq : p.parent? with
    | none =>
      have halone : p.ancestors = [p] := by rw [Path.ancestors, Path.ancestorsUpTo, hq]
      rw [checkAncestor, checkAncestor, halone, List.find?_cons, List.find?_cons, hlead, hlead']
      rfl
    | some q =>
      obtain ⟨above, last, idle, hends, rfl⟩ := Path.exists_endsIn hp hq
      have hpre : "" :: above <+: p.segments := by
        rw [hends.segments]
        exact ⟨last :: idle, by simp⟩
      obtain ⟨q, a, q', a', hfind, ha, hfind', ha', hrel⟩ := h.nearest_cases
        (fun hmem => hup (hpre.subset (List.mem_cons_of_mem _ hmem)))
        (fun hrev => hn (.link (hrev.mono hpre)))
      rw [checkAncestor_of_nearest ((Disk.nearest_of_parent? hp hq hlead).trans hfind)
          (Disk.canonicalize_of_leadsSomewhere (List.find?_some hfind) ha),
        checkAncestor_of_nearest ((Disk.nearest_of_parent? hp hq hlead').trans hfind')
          (Disk.canonicalize_of_leadsSomewhere (List.find?_some hfind') ha')]
      obtain rfl | ⟨hin, hin'⟩ := hrel
      · rfl
      · rw [if_pos hin, if_pos hin']

/-- A target that notices nothing is accepted on both disks or on neither. -/
theorem resolve_eq (ht : target.segments ≠ []) (hn : ¬ d.Notices d' (r.path.join target)) :
    r.resolve d' target = r.resolve d target := by
  rw [Root.resolve_eq, Root.resolve_eq]
  cases hparts : checkComponents target target.components with
  | error err => rfl
  | ok u =>
    obtain ⟨hrel, hup⟩ := descends_of_checkComponents hparts
    rw [h.checkAncestor_eq (isAbsolute_join hrel ht) (descends_join hrel h.ordinary hup) hn]

end Root.Beside

end SourcePatch
