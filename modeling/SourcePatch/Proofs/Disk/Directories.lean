import Mathlib.Logic.Relation
import SourcePatch.Disk.Operations
import SourcePatch.Proofs.Disk.Parent

/-!
# Directories that are made

Directories are made one below the other, from the nearest place that exists down to where the path
is to lead. Nothing that was there changes, and nothing is in the new ones but the next new one.

## Main definitions

* `Disk.Grown`: directories were made, one below the other.
* `Disk.MadeFrom`: what making directories for a path comes to.
* `Disk.Makes`: some paths get their directories, one at a time.
* `Disk.GainsAlong`: each directory that was made is one to which a path leads.

## Main statements

* `Disk.madeFrom_makeDirectories`: what is made, and where.
-/

namespace SourcePatch.Disk

/-- Directories were made in `d`, one below the other, from `a` down to `b`. -/
inductive Grown (a : Location) (d : Disk) : Location → Disk → Prop
  | start : Grown a d a d
  | make {b : Location} {d' : Disk} {name : String} : Grown a d b d' →
    d'.node? b = some .directory → d'.node? (b ++ [name]) = none →
    Grown a d (b ++ [name]) (d'.put (b ++ [name]) .directory)

namespace Grown

variable {a b l : Location} {d d' : Disk}

theorem isPrefix (h : Grown a d b d') : a <+: b := by
  induction h with
  | start => exact List.prefix_refl a
  | make _ _ _ ih => exact ih.trans (List.prefix_append _ _)

theorem wellFormed (h : Grown a d b d') (hd : d.WellFormed) : d'.WellFormed := by
  induction h with
  | start => exact hd
  | make _ hdir hfree ih => exact ih.put (by rwa [List.dropLast_concat]) (by simp [hfree])

/-- What changes is a directory that was not there, between the two ends. -/
theorem node?_cases (h : Grown a d b d') (l : Location) : d'.node? l = d.node? l ∨
    d.node? l = none ∧ d'.node? l = some .directory ∧ a <+: l ∧ l <+: b := by
  induction h with
  | start => exact .inl rfl
  | @make b d' name hgrown hdir hfree ih =>
    rw [node?_put (ne_nil_of_free hfree)]
    split
    · next heq =>
      subst heq
      obtain hsame | ⟨-, hnew, -⟩ := ih
      · rw [hfree] at hsame
        exact .inr ⟨hsame.symm, rfl, hgrown.isPrefix.trans (List.prefix_append _ _),
          List.prefix_refl _⟩
      · rw [hfree] at hnew
        cases hnew
    · refine ih.imp_right ?_
      rintro ⟨hold, hnew, hal, hlb⟩
      exact ⟨hold, hnew, hal, hlb.trans (List.prefix_append _ _)⟩

theorem gainsDirectories (h : Grown a d b d') : d.GainsDirectories d' := fun l =>
  (h.node?_cases l).imp_right (And.imp_right And.left)

/-- If the lower end was there, nothing was made. -/
theorem eq_of_node? (h : Grown a d b d') (hb : d.node? b ≠ none) : b = a ∧ d' = d := by
  cases h with
  | start => exact ⟨rfl, rfl⟩
  | make hgrown hdir hfree =>
    obtain ⟨n, hn⟩ := Option.ne_none_iff_exists'.1 hb
    rw [hgrown.gainsDirectories.extends _ _ hn] at hfree
    cases hfree

/-- What is in the lowest directory was there, and then nothing was made. -/
theorem eq_of_entry (h : Grown a d b d') (hd : d.WellFormed) {name : String}
    (hn : d'.node? (b ++ [name]) ≠ none) : b = a ∧ d' = d := by
  obtain hsame | ⟨-, -, -, hbelow⟩ := h.node?_cases (b ++ [name])
  · refine h.eq_of_node? ?_
    rw [hsame] at hn
    rw [hd.parent hn]
    simp
  · have hlen := hbelow.length_le
    simp only [List.length_append, List.length_singleton] at hlen
    omega

end Grown

/-! ## One directory -/

variable {d d' : Disk} {p q : Path}

theorem makeDirectory_eq_ok (h : d.makeDirectory p = .ok d') :
    ∃ e slash, d.locateEntry p = .ok ⟨some e, slash⟩ ∧ d.node? e = none ∧
      d' = d.put e .directory := by
  unfold makeDirectory at h
  cases hl : d.locateEntry p with
  | error err => rw [hl] at h; cases h
  | ok entry =>
    obtain ⟨location, slash⟩ := entry
    rw [hl] at h
    cases location with
    | none => cases h
    | some e =>
      simp only [bind, Except.bind] at h
      split at h
      · cases h
      · next hfree => cases h; exact ⟨e, slash, rfl, by simpa using hfree, rfl⟩

theorem makeDirectory_of_leadsSomewhere (hp : p.Plain) (h : d.leadsSomewhere p = true) :
    d.makeDirectory p = .error .fileExists := by
  obtain ⟨l, n, hl, hn⟩ := leadsSomewhere_iff.1 h
  obtain rfl | ⟨e, he, hnode⟩ := hp.locateEntry_of_locate hl
  · rfl
  · obtain ⟨n, hn⟩ := Option.ne_none_iff_exists'.1 hnode
    unfold makeDirectory
    rw [he]
    simp [bind, Except.bind, hn]

/-- A directory is made in the one to which the parent of its path leads. -/
theorem grown_of_makeDirectory (hp : p.Plain) (h : d.makeDirectory p = .ok d') :
    ∃ q b name, p.parent? = some q ∧ d.locate q = .ok b ∧ d.node? b = some .directory ∧
      d.node? (b ++ [name]) = none ∧ d' = d.put (b ++ [name]) .directory ∧
      d'.locate p = .ok (b ++ [name]) := by
  obtain ⟨e, slash, he, hfree, rfl⟩ := makeDirectory_eq_ok h
  have hslash : slash = false := by
    obtain rfl | ⟨above, name, hseg, hidle, -⟩ := hp.cases
    · cases he
    · rw [Path.isIdle_iff, not_or] at hidle
      have hname : (name == "") = false := by simpa using hidle.1
      simpa [hseg, hname] using asDirectory_of_locateEntry he
  subst hslash
  obtain ⟨q, b, name, hq, hl, hdir, -, rfl⟩ := locate_parent hp.isAbsolute he
  refine ⟨q, b, name, hq, hl, hdir, hfree, rfl, ?_⟩
  have he' := locateEntry_put (e := b ++ [name]) (n := .directory) (by simp [hfree])
    (not_linkToDirectory (by simp [hfree])) he
  exact locate_of_locateEntry he' (node?_put_self (ne_nil_of_free hfree) _) (by simp)

/-! ## All that are missing -/

section

variable {above : List Path} {err : IoError}

theorem makeChain_of_made (hp : p.isEmpty = false) (h : d.makeDirectory p = .ok d') :
    d.makeChain (p :: above) = (.ok (), d') := by
  simp [makeChain, hp, h]

theorem makeChain_of_error (hp : p.isEmpty = false) (h : d.makeDirectory p = .error err)
    (hne : err ≠ .noSuchFile) :
    d.makeChain (p :: above) = (if d.isDirectory p then .ok () else .error err, d) := by
  cases err <;> simp_all [makeChain]

theorem makeChain_of_missing (hp : p.isEmpty = false)
    (h : d.makeDirectory p = .error .noSuchFile) :
    d.makeChain (p :: above) =
      match d.makeChain above with
      | (.error err, d') => (.error err, d')
      | (.ok (), d') =>
        match d'.makeDirectory p with
        | .ok d'' => (.ok (), d'')
        | .error err => (if d'.isDirectory p then .ok () else .error err, d') := by
  rcases hmade : d.makeChain above with ⟨_ | _, d'⟩
  · simp [makeChain, hp, h, hmade]
  · cases hmake : d'.makeDirectory p <;> simp [makeChain, hp, h, hmade, hmake]

end

/-- With its parent made, a path that led nowhere gets its directory, or does not lead to one. -/
theorem makeDirectory_of_grown (hd : d.WellFormed) (hp : p.Plain) (hq : p.parent? = some q)
    (hnot : d.leadsSomewhere p = false) {a b : Location} (hg : Grown a d b d')
    (hl : d'.locate q = .ok b) :
    (∃ name, d'.makeDirectory p = .ok (d'.put (b ++ [name]) .directory) ∧
      Grown a d (b ++ [name]) (d'.put (b ++ [name]) .directory) ∧
      (d'.put (b ++ [name]) .directory).locate p = .ok (b ++ [name])) ∨
    ∃ err, d'.makeDirectory p = .error err ∧ d'.isDirectory p = false := by
  cases hmake : d'.makeDirectory p with
  | ok d'' =>
    obtain ⟨q', b', name, hq', hl', hdir, hfree, rfl, hp'⟩ := grown_of_makeDirectory hp hmake
    rw [hq] at hq'
    cases hq'
    rw [hl] at hl'
    cases hl'
    exact .inl ⟨name, rfl, hg.make hdir hfree, hp'⟩
  | error err =>
    refine .inr ⟨err, rfl, Bool.eq_false_iff.2 fun hdir => ?_⟩
    obtain ⟨l, hlp, hnode⟩ := isDirectory_iff.1 hdir
    obtain rfl | ⟨e, he, hn⟩ := hp.locateEntry_of_locate hlp
    · cases hq
    · -- an entry in the directory that was made last would have been there before
      obtain ⟨q', b', name, hq', hl', -, -, rfl⟩ := locate_parent hp.isAbsolute he
      rw [hq] at hq'
      cases hq'
      rw [hl] at hl'
      cases hl'
      obtain ⟨-, rfl⟩ := hg.eq_of_entry hd hn
      rw [leadsSomewhere_iff.2 ⟨l, _, hlp, hnode⟩] at hnot
      cases hnot

/-- What making directories for `p` comes to: they go down from `a`, and if all goes well they reach
down to where `p` leads. -/
def MadeFrom (a : Location) (d : Disk) (p : Path) (made : Except IoError Unit × Disk) : Prop :=
  ∃ b, Grown a d b made.2 ∧
    (made.1 = .ok () → made.2.locate p = .ok b ∧ made.2.node? b = some .directory)

section

variable {a : Location} {above : List Path} (hp : p.Plain)
include hp

theorem madeFrom_of_leads (hlead : d.leadsSomewhere p = true) (ha : d.locate p = .ok a) :
    MadeFrom a d p (d.makeChain (p :: above)) := by
  rw [makeChain_of_error hp.isEmpty_eq_false (makeDirectory_of_leadsSomewhere hp hlead) (by simp)]
  refine ⟨a, .start, fun hok => ⟨ha, ?_⟩⟩
  split at hok
  · next hdir =>
    obtain ⟨l, hl, hnode⟩ := isDirectory_iff.1 hdir
    rw [ha] at hl
    cases hl
    exact hnode
  · cases hok

theorem madeFrom_of_made (hmake : d.makeDirectory p = .ok d') (hq : p.parent? = some q)
    (ha : d.locate q = .ok a) : MadeFrom a d p (d.makeChain (p :: above)) := by
  rw [makeChain_of_made hp.isEmpty_eq_false hmake]
  obtain ⟨q', b, name, hq', hl, hdir, hfree, rfl, hp'⟩ := grown_of_makeDirectory hp hmake
  rw [hq] at hq'
  cases hq'
  rw [ha] at hl
  cases hl
  exact ⟨_, .make .start hdir hfree, fun _ => ⟨hp', node?_put_self (by simp) _⟩⟩

theorem madeFrom_of_missing (hd : d.WellFormed) (hlead : d.leadsSomewhere p = false)
    (hmake : d.makeDirectory p = .error .noSuchFile) (hq : p.parent? = some q)
    (h : MadeFrom a d q (d.makeChain above)) : MadeFrom a d p (d.makeChain (p :: above)) := by
  obtain ⟨b, hg, hok⟩ := h
  rw [makeChain_of_missing hp.isEmpty_eq_false hmake]
  generalize d.makeChain above = made at hg hok ⊢
  obtain ⟨result, d'⟩ := made
  cases result with
  | error err => exact ⟨b, hg, fun h => by cases h⟩
  | ok u =>
    obtain ⟨hl, hdir⟩ := hok rfl
    dsimp only at hg hl hdir ⊢
    obtain ⟨name, hmake', hg', hp'⟩ | ⟨err, hmake', hnodir⟩ :=
      makeDirectory_of_grown hd hp hq hlead hg hl
    · rw [hmake']
      exact ⟨_, hg', fun _ => ⟨hp', node?_put_self (by simp) _⟩⟩
    · rw [hmake', hnodir]
      exact ⟨b, hg, fun h => by cases h⟩

theorem madeFrom_of_error {err : IoError} (hlead : d.leadsSomewhere p = false)
    (hmake : d.makeDirectory p = .error err) (hne : err ≠ .noSuchFile) :
    MadeFrom a d p (d.makeChain (p :: above)) := by
  have hnodir : d.isDirectory p = false := by
    refine Bool.eq_false_iff.2 fun hdir => ?_
    obtain ⟨l, hl, hnode⟩ := isDirectory_iff.1 hdir
    rw [leadsSomewhere_iff.2 ⟨l, _, hl, hnode⟩] at hlead
    cases hlead
  rw [makeChain_of_error hp.isEmpty_eq_false hmake hne, hnodir]
  exact ⟨a, .start, fun h => by cases h⟩

end

/-- Directories are made from the nearest place that exists. -/
theorem madeFrom_makeChain (hd : d.WellFormed) (hp : p.Plain) {n : Nat} {a : Location}
    (hfind : (Path.ancestorsUpTo n p).find? d.leadsSomewhere = some q) (ha : d.locate q = .ok a) :
    MadeFrom a d p (d.makeChain (Path.ancestorsUpTo n p)) := by
  induction n generalizing p with
  | zero => cases hfind
  | succ n ih =>
    cases hlead : d.leadsSomewhere p with
    | true =>
      rw [Path.ancestorsUpTo, List.find?_cons, hlead] at hfind
      cases hfind
      exact madeFrom_of_leads hp hlead ha
    | false =>
      cases hq : p.parent? with
      | none =>
        rw [Path.ancestorsUpTo, hq, List.find?_cons, hlead] at hfind
        cases hfind
      | some q' =>
        rw [Path.ancestorsUpTo_of_parent? hq, List.find?_cons, hlead] at hfind
        rw [Path.ancestorsUpTo_of_parent? hq]
        cases hmake : d.makeDirectory p with
        | ok d' =>
          -- the parent exists, so it is the nearest place
          obtain ⟨q'', b, name, hq'', hl, hdir, -⟩ := grown_of_makeDirectory hp hmake
          rw [hq] at hq''
          cases hq''
          have hnearest : q' = q := by
            cases n with
            | zero => cases hfind
            | succ n =>
              rw [Path.ancestorsUpTo, List.find?_cons,
                leadsSomewhere_iff.2 ⟨b, _, hl, hdir⟩] at hfind
              cases hfind
              rfl
          subst hnearest
          exact madeFrom_of_made hp hmake hq ha
        | error err =>
          by_cases hmiss : err = .noSuchFile
          · subst hmiss
            exact madeFrom_of_missing hp hd hlead hmake hq (ih (hp.parent? hq) hfind)
          · exact madeFrom_of_error hp hlead hmake hmiss

/-- What is in `d'` and not in `d` are directories, and to each of them one of `paths` leads. -/
def GainsAlong (d d' : Disk) (paths : List Path) : Prop :=
  ∀ l, d'.node? l = d.node? l ∨
    d.node? l = none ∧ d'.node? l = some .directory ∧ ∃ q ∈ paths, d'.locate q = .ok l

namespace GainsAlong

variable {paths : List Path} {d₁ d₂ : Disk}

theorem refl (d : Disk) (paths : List Path) : d.GainsAlong d paths := fun _ => .inl rfl

theorem gainsDirectories (h : d.GainsAlong d' paths) : d.GainsDirectories d' :=
  fun l => (h l).imp_right (And.imp_right And.left)

/-- Ways to directories stay when one more is made. -/
theorem make (h : d.GainsAlong d₁ paths) (hp : p.Plain) (hmem : p ∈ paths)
    (hmake : d₁.makeDirectory p = .ok d₂) : d.GainsAlong d₂ paths := by
  obtain ⟨-, b, name, -, -, -, hfree, rfl, hp'⟩ := grown_of_makeDirectory hp hmake
  intro l
  by_cases hl : l = b ++ [name]
  · subst hl
    refine .inr ⟨?_, node?_put_self (ne_nil_of_free hfree) _, p, hmem, hp'⟩
    obtain hsame | ⟨hold, -⟩ := h (b ++ [name])
    · rw [← hsame, hfree]
    · exact hold
  · rw [node?_put_of_ne hl]
    refine (h l).imp_right ?_
    rintro ⟨hold, hnew, q, hq, hlead⟩
    refine ⟨hold, hnew, q, hq, ?_⟩
    exact locate_of_agree (fun _ hne => node?_put_of_ne hne _) rfl (by simp [hfree])
      (not_linkToDirectory (by simp [hfree])) hlead hnew

end GainsAlong

/-! ## One at a time -/

/-- One of `paths` gets its directory. -/
def MakesOne (paths : List Path) (d d' : Disk) : Prop := ∃ p ∈ paths, d.makeDirectory p = .ok d'

/-- Some of `paths` get their directories, one at a time. -/
abbrev Makes (paths : List Path) : Disk → Disk → Prop := Relation.ReflTransGen (MakesOne paths)

theorem Makes.mono {paths paths' : List Path} (h : Makes paths d d') (hsub : paths ⊆ paths') :
    Makes paths' d d' := by
  refine Relation.ReflTransGen.mono ?_ _ _ h
  rintro d₁ d₂ ⟨q, hq, hmake⟩
  exact ⟨q, hsub hq, hmake⟩

/-- Each directory that is made is one to which one of the paths leads. -/
theorem GainsAlong.makes {paths : List Path} {d₁ : Disk} (h : d.GainsAlong d₁ paths)
    (hplain : ∀ q ∈ paths, q.Plain) (hmakes : Makes paths d₁ d') : d.GainsAlong d' paths := by
  induction hmakes with
  | refl => exact h
  | tail _ hstep ih =>
    obtain ⟨q, hq, hmake⟩ := hstep
    exact ih.make (hplain q hq) hq hmake

theorem WellFormed.makes {paths : List Path} (hd : d.WellFormed) (hplain : ∀ q ∈ paths, q.Plain)
    (h : Makes paths d d') : d'.WellFormed := by
  induction h with
  | refl => exact hd
  | tail _ hstep ih =>
    obtain ⟨q, hq, hmake⟩ := hstep
    obtain ⟨-, b, name, -, -, hdir, hfree, rfl, -⟩ := grown_of_makeDirectory (hplain q hq) hmake
    exact ih.put (by rwa [List.dropLast_concat]) (by simp [hfree])

/-- A chain of directories is made one at a time. -/
theorem makes_makeChain (d : Disk) (paths : List Path) : Makes paths d (d.makeChain paths).2 := by
  induction paths generalizing d with
  | nil => exact .refl
  | cons p above ih =>
    cases hp : p.isEmpty with
    | true => rw [makeChain, if_pos hp]
    | false =>
      cases hmake : d.makeDirectory p with
      | ok d' =>
        rw [makeChain_of_made hp hmake]
        exact .single ⟨p, List.mem_cons_self, hmake⟩
      | error err =>
        by_cases hmiss : err = .noSuchFile
        · subst hmiss
          rw [makeChain_of_missing hp hmake]
          have habove := (ih d).mono (List.subset_cons_self p above)
          generalize d.makeChain above = made at habove ⊢
          obtain ⟨result, d₁⟩ := made
          cases result with
          | error err => exact habove
          | ok u =>
            dsimp only
            cases hmake₁ : d₁.makeDirectory p with
            | error err => exact habove
            | ok d₂ => exact habove.tail ⟨p, List.mem_cons_self, hmake₁⟩
        · rw [makeChain_of_error hp hmake hmiss]

theorem leadsSomewhere_root (d : Disk) : d.leadsSomewhere (.ofNames []) = true := by
  refine leadsSomewhere_iff.2 ⟨[], .directory, ?_, rfl⟩
  rw [locate_ofNames rfl, travel_nil]
  rfl

theorem exists_nearest_ofNames (d : Disk) {names : List String}
    (htrim : Path.trimmed false names = names) :
    ∃ q a, (Path.ofNames names).ancestors.find? d.leadsSomewhere = some q ∧
      d.canonicalize q = .ok a ∧ d.locate q = .ok a := by
  have hsome : ∀ n names, names.length < n → Path.trimmed false names = names →
      ((Path.ancestorsUpTo n (.ofNames names)).find? d.leadsSomewhere).isSome := by
    intro n
    induction n with
    | zero => intro names hn; omega
    | succ n ih =>
      intro names hn htrim
      rw [Path.ancestorsUpTo, List.find?_cons]
      split
      · rfl
      · next hlead =>
        have hne : names ≠ [] := by
          rintro rfl
          rw [leadsSomewhere_root] at hlead
          cases hlead
        rw [Path.parent?_eq (Path.segments_ofNames hne) hne, htrim, if_neg hne]
        refine ih _ ?_ (Path.trimmed_trimmed _)
        have hle := (Path.trimmed_isPrefix names.dropLast).length_le
        have hpos := List.length_pos_iff.2 hne
        rw [List.length_dropLast] at hle
        omega
  have hlen : names.length < (Path.ofNames names).segments.length + 1 := by
    cases names <;> simp [Path.ofNames]
  obtain ⟨q, hq⟩ := Option.isSome_iff_exists.1 (hsome _ names hlen htrim)
  obtain ⟨a, n, ha, hn⟩ := leadsSomewhere_iff.1 (List.find?_some hq)
  exact ⟨q, a, hq, canonicalize_of_locate ha hn, ha⟩

/-- From parent to parent one comes to a place that exists, at the latest to the root. -/
theorem exists_nearest (d : Disk) (hp : p.isAbsolute = true) (hc : checkPath p = .ok ()) :
    ∃ q a, p.ancestors.find? d.leadsSomewhere = some q ∧ d.canonicalize q = .ok a ∧
      d.locate q = .ok a := by
  cases hlead : d.leadsSomewhere p with
  | true =>
    obtain ⟨a, n, ha, hn⟩ := leadsSomewhere_iff.1 hlead
    exact ⟨p, a, nearest_of_leads hlead, canonicalize_of_locate ha hn, ha⟩
  | false =>
    cases hq : p.parent? with
    | some q =>
      obtain ⟨names, above, -, rfl, htrim, -⟩ := Path.exists_names_of_parent? hp hq
      rw [nearest_of_parent? hp hq hlead]
      exact exists_nearest_ofNames d htrim
    | none =>
      rw [leadsSomewhere_iff.2 ⟨[], _, locate_of_parent?_eq_none hp hc hq, rfl⟩] at hlead
      cases hlead

/-- Making a directory and those above it that are missing. -/
theorem madeFrom_makeDirectories (hd : d.WellFormed) (hp : p.Plain) :
    ∃ q a, p.ancestors.find? d.leadsSomewhere = some q ∧ d.locate q = .ok a ∧
      MadeFrom a d p (d.makeDirectories p) := by
  obtain ⟨names, rfl, htrim, hup⟩ := id hp
  obtain ⟨q, a, hq, -, ha⟩ := d.exists_nearest_ofNames htrim
  exact ⟨q, a, hq, ha, madeFrom_makeChain hd hp hq ha⟩

/-- Where there is a directory, none is made. -/
theorem makeDirectories_of_isDirectory (hp : p.Plain) (h : d.isDirectory p = true) :
    d.makeDirectories p = (.ok (), d) := by
  obtain ⟨l, hl, hn⟩ := isDirectory_iff.1 h
  have hmake := makeDirectory_of_leadsSomewhere hp (leadsSomewhere_iff.2 ⟨l, _, hl, hn⟩)
  rw [makeDirectories, Path.ancestors, Path.ancestorsUpTo,
    makeChain_of_error hp.isEmpty_eq_false hmake (by simp), if_pos h]

end SourcePatch.Disk
