import SourcePatch.Proofs.Edit.Ending
import SourcePatch.Proofs.Tree.Standing

/-!
# Trees without links

In a tree without links every target is accepted, whatever else is there: the nearest place above it
is at the root or below.

## Main definitions

* `Root.Linkless`: a tree without links.
* `Root.IsTarget`: a path that goes down from the root.

## Main statements

* `Root.Linkless.resolve`: targets are accepted.
-/

namespace SourcePatch

/-- A tree that is there, without links in it. -/
structure Root.Linkless (r : Root) (d : Disk) : Prop extends d.Sound where
  checked : Disk.checkPath r.path = .ok ()
  root : d.node? r.location ≠ none
  ordinary : ∀ name ∈ r.location, Disk.Ordinary name
  noLink : ∀ l target, r.Contains l → d.node? l ≠ some (.link target)

/-- A path that goes down from the root, to a name that moves. -/
structure Root.IsTarget (r : Root) (p : Path) (pre : List String) (last : String)
    (idle : List String) : Prop where
  endsIn : p.EndsIn (r.location ++ pre) last idle
  descends : ".." ∉ p.segments
  short : ∀ s ∈ p.segments, s.utf8ByteSize ≤ Disk.nameLimit
  isSegment : ∀ s ∈ p.segments, IsSegment s

namespace Root

variable {r : Root} {d d' : Disk} {p : Path} {pre idle names : List String} {last : String}
  {l : Location}

/-- The names of the root all move. -/
theorem moving_append (hr : ∀ name ∈ r.location, Disk.Ordinary name) (names : List String) :
    Path.moving (r.location ++ names) = r.location ++ Path.moving names := by
  rw [Path.moving_append, Path.moving_of_ordinary hr]

namespace IsTarget

variable (hp : r.IsTarget p pre last idle)
include hp

theorem isAbsolute : p.isAbsolute = true := Disk.isAbsolute_of_endsIn hp.endsIn

theorem mem_segments {s : String} (hs : s ∈ r.location ++ pre) : s ∈ p.segments := by
  rw [hp.endsIn.segments]
  exact List.mem_cons_of_mem _ (List.mem_append_left _ hs)

theorem not_mem_pre : ".." ∉ pre := fun hmem =>
  Disk.not_mem_above hp.endsIn hp.descends (List.mem_append_right _ hmem)

variable (hr : ∀ name ∈ r.location, Disk.Ordinary name)
include hr

theorem place_eq : p.place = r.location ++ (Path.moving pre ++ [last]) := by
  rw [hp.endsIn.place, moving_append hr, List.append_assoc]

theorem contains_place : r.Contains p.place := by
  rw [hp.place_eq hr]
  exact List.prefix_append _ _

end IsTarget

namespace Linkless

variable (h : r.Linkless d)
include h

/-- No link is above a place in the tree. -/
theorem straight (hl : r.Contains l) : d.Straight l := by
  intro k target hk
  obtain hin | ⟨rest, hrest⟩ := List.prefix_or_prefix_of_prefix hl hk
  · exact h.noLink k target hin
  · by_cases hne : rest = []
    · rw [hne, List.append_nil] at hrest
      subst hrest
      exact h.noLink _ target (List.prefix_refl _)
    · rw [h.wellFormed.directory_of_append hne (by rw [hrest]; exact h.root)]
      simp

theorem stands : r.Stands d :=
  ⟨h.wellFormed, h.root, fun target => h.noLink _ target (List.prefix_refl _), h.ordinary⟩

theorem locate_root : d.locate r.path = .ok r.location := by
  have hcheck := h.checked
  rw [path] at hcheck ⊢
  rw [Disk.locate_ofNames hcheck, h.stands.travel_location]
  rfl

/-- What leads somewhere from below the root leads into the tree. -/
theorem contains_of_locate (hup : ".." ∉ names)
    (hl : d.locate (.ofNames (r.location ++ names)) = .ok l) : r.Contains l := by
  obtain ⟨hc, m, ht⟩ := Disk.locate_eq_ok_iff.1 hl
  rw [Disk.startOf_of_absolute (Path.isAbsolute_ofNames _), Disk.travel_ofNames] at ht
  have hin : r.Contains ([] ++ Path.moving (r.location ++ names)) := by
    rw [moving_append h.ordinary]
    exact List.prefix_append _ _
  have hdown : ".." ∉ r.location ++ names := by
    rw [List.mem_append, not_or]
    exact ⟨fun hmem => (h.ordinary _ hmem).2.2.1 rfl, hup⟩
  rwa [Disk.travel_of_straight hdown (h.straight hin) ht]

/-- The nearest place above what is below the root is in the tree. -/
theorem nearest (hup : ".." ∉ names) :
    ∃ q a, (Path.ofNames (Path.trimmed false (r.location ++ names))).ancestors.find?
      d.leadsSomewhere = some q ∧ d.canonicalize q = .ok a ∧ r.Contains a := by
  -- from the name that is furthest down to the root, which is there
  induction names using List.reverseRecOn with
  | nil =>
    have htrim : Path.trimmed false (r.location ++ []) = r.location := by
      rw [List.append_nil, Path.trimmed_eq_rdropWhile, List.rdropWhile_eq_self_iff]
      intro hne hidle
      have ho := h.ordinary _ (List.getLast_mem hne)
      rw [Path.isIdle_iff] at hidle
      exact hidle.elim ho.1 ho.2.1
    obtain ⟨n, hn⟩ := Option.ne_none_iff_exists'.1 h.root
    have hlead := Disk.leadsSomewhere_iff.2 ⟨_, n, h.locate_root, hn⟩
    rw [htrim]
    exact ⟨r.path, r.location, Disk.nearest_of_leads hlead,
      Disk.canonicalize_of_leadsSomewhere hlead h.locate_root, List.prefix_refl _⟩
  | append_singleton names name ih =>
    have habove := ih fun hmem => hup (List.mem_append_left _ hmem)
    rw [← List.append_assoc]
    by_cases hi : Path.isIdle false name = true
    · rwa [Path.trimmed_concat_of_idle hi]
    rw [Path.trimmed_concat hi]
    cases hlead : d.leadsSomewhere (.ofNames ((r.location ++ names) ++ [name])) with
    | true =>
      obtain ⟨l, n, hl, hn⟩ := Disk.leadsSomewhere_iff.1 hlead
      refine ⟨_, l, Disk.nearest_of_leads hlead, Disk.canonicalize_of_locate hl hn, ?_⟩
      rw [List.append_assoc] at hl
      exact h.contains_of_locate hup hl
    | false =>
      have hseg : (Path.ofNames ((r.location ++ names) ++ [name])).segments =
          "" :: ((r.location ++ names) ++ [name]) := Path.segments_ofNames (by simp)
      have hparent := Path.parent?_concat hseg hi
      rwa [Disk.nearest_of_parent? (Path.isAbsolute_ofNames _) hparent hlead]

variable (hp : r.IsTarget p pre last idle)
include hp

theorem checkAncestor : r.checkAncestor d p = .ok () := by
  obtain ⟨q, a, hfind, ha, hin⟩ : ∃ q a, p.ancestors.find? d.leadsSomewhere = some q ∧
      d.canonicalize q = .ok a ∧ r.Contains a := by
    cases hlead : d.leadsSomewhere p with
    | true =>
      obtain ⟨l, n, hl, hn⟩ := Disk.leadsSomewhere_iff.1 hlead
      have hin := hp.contains_place h.ordinary
      refine ⟨p, l, Disk.nearest_of_leads hlead, Disk.canonicalize_of_locate hl hn, ?_⟩
      rwa [Disk.locate_of_straight hp.isAbsolute hp.descends (h.straight hin) hl]
    | false =>
      rw [Disk.nearest_of_parent? hp.isAbsolute (Path.parent?_of_endsIn hp.endsIn) hlead]
      exact h.nearest hp.not_mem_pre
  rw [checkAncestor_of_nearest hfind ha, if_pos hin]

end Linkless

/-- Targets are accepted. -/
theorem Linkless.resolve {target : Path} (h : r.Linkless d)
    (hp : r.IsTarget (r.path.join target) pre last idle) (hempty : target.isEmpty = false)
    (hparts : checkComponents target target.components = .ok ()) :
    r.resolve d target = .ok (r.path.join target) :=
  resolve_eq_ok_iff.2 ⟨hempty, hparts, h.checkAncestor hp, rfl⟩

end Root

end SourcePatch
