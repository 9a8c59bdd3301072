import SourcePatch.Proofs.Engine.Alone
import SourcePatch.Proofs.PatchSet.Isolation

/-!
# Patches with targets apart

Where no target is the same as another or below it, and there are no links, each patch of a run
finds its target as it was before the run. It ends as it does alone, and what it leaves is still
there in the end.

## Main definitions

* `Patch.Apart`: two targets are neither the same, nor is one below the other.
* `Patch.IsShort`: no name of a target is too long.

## Main statements

* `Patch.alone_or_below`: valid patches with targets apart have them below the root.
* `runPatches_apart`: the reports of a run.
* `sameAlong_of_mem`: what a patch leaves is there in the end.
* `runPatches_changed`: what a run changes is what its patches change alone.
-/

namespace SourcePatch

variable {r : Root} {d d₁ : Disk} {p q : Patch} {patches : List Patch} {options : RunOptions}

/-! ## Targets of valid patches -/

namespace Path

/-- A path whose place is at or above that of another has the first of its components. -/
theorem startsWith_of_place {p q : Path} (hp : p.isAbsolute = true) (hq : q.isAbsolute = true)
    (h : p.place <+: q.place) : q.startsWith p = true := by
  rw [startsWith, components, if_pos hp, components, if_pos hq, List.isPrefixOf_iff_prefix,
    componentsFrom_eq_moving, componentsFrom_eq_moving, List.cons_prefix_cons]
  exact ⟨rfl, h.map componentOf⟩

end Path

/-- A tree is there without links if it is at its root and there are none in it. -/
theorem Root.linkless_of_ofPath (hd : d.Sound) (h : Root.ofPath d r.path = .ok r)
    (hlinks : ∀ l target, r.Contains l → d.node? l ≠ some (.link target)) : r.Linkless d := by
  have hstands := stands_of_ofPath hd.wellFormed h
  have hl := (Disk.locate_of_canonicalize (canonicalize_of_ofPath h)).1
  exact ⟨hd, (Disk.locate_eq_ok_iff.1 hl).1, hstands.root, hstands.ordinary, hlinks⟩

/-- So there is a tree without links if a target in it was accepted and could be read. -/
theorem Root.linkless_of_plan (hd : d.Sound) (hroot : d.node? r.location ≠ none)
    (hlinks : ∀ l target, r.Contains l → d.node? l ≠ some (.link target)) {plan : Plan}
    (hplan : p.plan r d = .ok plan) : r.Linkless d := by
  obtain ⟨file, current, hf, hread, -⟩ := Patch.plan_eq_ok hplan
  have ht := Path.segments_ofString_ne_nil p.file
  exact ⟨hd, checkPath_of_resolve hf ht hread, hroot, ordinary_of_resolve hf ht hread, hlinks⟩

namespace Patch

/-- The targets of two patches are neither the same, nor is one below the other. -/
def Apart (r : Root) (p q : Patch) : Prop :=
  (p.path r).startsWith (q.path r) = false ∧ (q.path r).startsWith (p.path r) = false

instance (r : Root) (p q : Patch) : Decidable (p.Apart r q) := by unfold Apart; infer_instance

theorem Apart.symm (h : p.Apart r q) : q.Apart r p := ⟨h.2, h.1⟩

instance (r : Root) : Std.Symm (Apart r) := ⟨fun _ _ h => h.symm⟩

theorem Apart.not_isPrefix (hp : (p.path r).isAbsolute = true) (hq : (q.path r).isAbsolute = true)
    (h : p.Apart r q) : ¬ (p.path r).place <+: (q.path r).place := fun hle => by
  have hstarts := Path.startsWith_of_place hp hq hle
  rw [h.2] at hstarts
  cases hstarts

/-- No name of the target is too long. -/
def IsShort (p : Patch) : Prop :=
  ∀ name ∈ (Path.ofString p.file).segments, name.utf8ByteSize ≤ Disk.nameLimit

instance (p : Patch) : Decidable p.IsShort := by unfold IsShort; infer_instance

section

variable (hp : (Path.ofString p.file).isTreeRelative = true)
include hp

theorem isAbsolute_path (r : Root) : (p.path r).isAbsolute = true :=
  Root.isAbsolute_join (Path.isTreeRelative_iff.1 hp).1
    (Path.segments_ofString_ne_nil p.file)

variable (hr : ∀ name ∈ r.location, Disk.Ordinary name)
include hr

theorem segments_path :
    (p.path r).segments = "" :: (r.location ++ (Path.ofString p.file).segments) :=
  Root.segments_join (Path.isTreeRelative_iff.1 hp).1 hr

theorem place_path :
    (p.path r).place = r.location ++ Path.moving (Path.ofString p.file).segments := by
  rw [Path.place, segments_path hp hr, Path.moving_cons_of_idle (Path.isIdle_iff.2 (.inl rfl)),
    Root.moving_append hr]

/-- A patch with a name that moves has its target below the root. -/
theorem isBelow_of_moves (hr' : ∀ name ∈ r.location, IsSegment name) (hshort : p.IsShort)
    (hmoves : Path.moving (Path.ofString p.file).segments ≠ []) : p.IsBelow r := by
  obtain ⟨hrel, hup⟩ := Path.isTreeRelative_iff.1 hp
  have hseg := segments_path hp hr
  have hsplit : ∀ s ∈ (p.path r).segments,
      s = "" ∨ s ∈ r.location ∨ s ∈ (Path.ofString p.file).segments := fun s hs => by
    simpa [hseg] using hs
  refine ⟨?_, Root.checkComponents_iff.2 hp, ?_⟩
  · rw [Bool.eq_false_iff]
    intro hempty
    rw [eq_of_beq hempty] at hmoves
    exact hmoves rfl
  obtain ⟨pre, last, idle, heq, hlast, hidle⟩ := Path.exists_last_of_moves hmoves
  refine ⟨pre, last, idle, ⟨⟨?_, hlast, hidle⟩, Root.descends_join hrel hr hup,
    fun s hs => ?_, fun s hs => ?_⟩⟩
  · rw [hseg, heq, List.append_assoc]
  · obtain rfl | hmem | hmem := hsplit s hs
    · decide
    · exact (hr s hmem).2.2.2
    · exact hshort s hmem
  · obtain rfl | hmem | hmem := hsplit s hs
    · decide
    · exact hr' s hmem
    · exact isSegment_of_mem_ofString hmem

/-- The root is at or above all targets. -/
theorem not_apart_of_idle (hq : (Path.ofString q.file).isTreeRelative = true)
    (hidle : Path.moving (Path.ofString p.file).segments = []) : ¬ p.Apart r q := by
  intro hapart
  refine hapart.not_isPrefix (isAbsolute_path hp r) (isAbsolute_path hq r) ?_
  rw [place_path hp hr, place_path hq hr, hidle, List.append_nil]
  exact List.prefix_append _ _

end

/-- Valid patches with targets apart have them below the root, unless there is one patch only, with
the root itself as its target. -/
theorem alone_or_below (h : r.Linkless d)
    (hvalid : ∀ p ∈ patches, (Path.ofString p.file).isTreeRelative = true)
    (hshort : ∀ p ∈ patches, p.IsShort) (hapart : patches.Pairwise (Apart r)) :
    (∀ p ∈ patches, p.IsBelow r) ∨
      ∃ p, patches = [p] ∧ Path.moving (Path.ofString p.file).segments = [] := by
  by_cases hidle : ∃ p ∈ patches, Path.moving (Path.ofString p.file).segments = []
  · obtain ⟨p, hp, hidle⟩ := hidle
    refine .inr ⟨p, ?_, hidle⟩
    obtain ⟨before, after, rfl⟩ := List.append_of_mem hp
    obtain ⟨-, hafter, hbefore⟩ := List.pairwise_append.1 hapart
    have hnot : ∀ q ∈ before ++ p :: after, ¬ p.Apart r q := fun q hq =>
      not_apart_of_idle (hvalid p hp) h.ordinary (hvalid q hq) hidle
    have hnone : before = [] := List.eq_nil_iff_forall_not_mem.2 fun q hq =>
      hnot q (by simp [hq]) (hbefore q hq p (by simp)).symm
    have hnone' : after = [] := List.eq_nil_iff_forall_not_mem.2 fun q hq =>
      hnot q (by simp [hq]) ((List.pairwise_cons.1 hafter).1 q hq)
    rw [hnone, hnone', List.nil_append]
  · rw [not_exists] at hidle
    exact .inl fun p hp => isBelow_of_moves (hvalid p hp) h.ordinary
      (h.slashFree.of_node? h.root) (hshort p hp) fun hmoves => hidle p ⟨hp, hmoves⟩

end Patch

/-! ## One patch of a run -/

theorem Change.Makes.sameAlong_after {c : Change} {a b : Disk} {l : Location}
    (ha : c.Makes d l a) (hb : c.Makes d₁ l b) (hsame : d.SameAlong d₁ l) : a.SameAlong b l := by
  intro k hk
  have hk' := hsame k hk
  have hother := ha.other hb hsame k
  grind

namespace Patch

theorem IsBelow.isAbsolute (hp : p.IsBelow r) : (p.path r).isAbsolute = true := by
  obtain ⟨pre, last, idle, htarget⟩ := hp.target
  exact htarget.isAbsolute

theorem run_eq_of_wet (p : Patch) (r : Root) (hwet : options.dryRun = false) (d : Disk) :
    p.run r options d = (⟨p.id, p.operation.kind, (p.carryOut r d).1,
      if options.captureChanges then (p.plan r d).toOption.bind Plan.change? else none⟩,
      (p.carryOut r d).2) := by
  unfold Patch.run carryOut
  cases p.plan r d with
  | error err => simp [commitPlan, Except.toOption]
  | ok plan => simp [hwet, commitPlan, Except.toOption]

variable (hp : p.IsBelow r) (h : r.Linkless d)
include hp h

theorem linkless_run (options : RunOptions) : r.Linkless (p.run r options d).2 :=
  run_keeps h (linkless_carryOut hp h)

/-- On disks that are the same to its path a patch is reported in the same way, and makes the
same. -/
theorem run_makes (hsame : d.SameAlong d₁ (p.path r).place) (h₁ : r.Linkless d₁)
    (options : RunOptions) : ∃ c : Change, (p.run r options d₁).1 = (p.run r options d).1 ∧
      c.Makes d (p.path r).place (p.run r options d).2 ∧
      c.Makes d₁ (p.path r).place (p.run r options d₁).2 := by
  have hplan := hp.plan_eq h hsame h₁
  cases hdry : options.dryRun with
  | true =>
    rw [run_of_dry hdry, run_of_dry hdry]
    refine ⟨.nothing, ?_, .nothing d _, .nothing d₁ _⟩
    unfold Patch.run
    rw [hplan]
    cases p.plan r d <;> simp [hdry]
  | false =>
    obtain ⟨c, hres, hmakes, hmakes₁⟩ := carryOut_makes hp h hsame h₁
    rw [run_eq_of_wet p r hdry, run_eq_of_wet p r hdry, hplan, hres]
    exact ⟨c, rfl, hmakes, hmakes₁⟩

theorem makes_run (options : RunOptions) :
    ∃ c : Change, c.Makes d (p.path r).place (p.run r options d).2 := by
  obtain ⟨c, -, hmakes, -⟩ := run_makes hp h (.refl d _) h options
  exact ⟨c, hmakes⟩

/-- What a patch makes is not seen from a target apart from its own. -/
theorem Apart.sameAlong_run (hq : q.IsBelow r) (hapart : p.Apart r q) (options : RunOptions) :
    d.SameAlong (p.run r options d).2 (q.path r).place := by
  obtain ⟨c, hmakes⟩ := makes_run hp h options
  exact hmakes.sameAlong (hapart.not_isPrefix hp.isAbsolute hq.isAbsolute)
    (hapart.symm.not_isPrefix hq.isAbsolute hp.isAbsolute)

end Patch

/-! ## Whole runs -/

section

variable (h : r.Linkless d) (hp : ∀ p ∈ patches, p.IsBelow r)
include h hp

theorem linkless_runPatches : r.Linkless (runPatches r options d patches).2 :=
  runPatches_keeps (fun p hmem _ h => Patch.linkless_run (hp p hmem) h options) h

/-- What a run makes is not seen from a target apart from all of its own. -/
theorem sameAlong_runPatches (hq : q.IsBelow r) (hapart : ∀ p ∈ patches, p.Apart r q) :
    d.SameAlong (runPatches r options d patches).2 (q.path r).place := by
  induction patches generalizing d with
  | nil => exact .refl d _
  | cons p rest ih =>
    have hbelow := hp p (by simp)
    exact ((hapart p (by simp)).sameAlong_run hbelow h hq options).trans
      (ih (Patch.linkless_run hbelow h options) (fun p hp' => hp p (by simp [hp']))
        fun p hp' => hapart p (by simp [hp']))

variable (hapart : patches.Pairwise (Patch.Apart r))
include hapart

/-- Each patch is reported as it is alone. -/
theorem runPatches_apart : (runPatches r options d patches).1 =
    patches.map fun p => (p.run r options d).1 := by
  induction patches generalizing d with
  | nil => rfl
  | cons p rest ih =>
    obtain ⟨hfirst, hrest⟩ := List.pairwise_cons.1 hapart
    have hbelow := hp p (by simp)
    have hbelow' : ∀ q ∈ rest, q.IsBelow r := fun q hq => hp q (by simp [hq])
    have h₁ := Patch.linkless_run hbelow h options
    rw [runPatches_cons, ih h₁ hbelow' hrest, List.map_cons]
    refine congrArg (_ :: ·) (List.map_congr_left fun q hq => ?_)
    obtain ⟨c, hreport, -⟩ := Patch.run_makes (hbelow' q hq) h
      ((hfirst q hq).sameAlong_run hbelow h (hbelow' q hq) options) h₁ options
    exact hreport

/-- To its target, what a patch leaves alone is there in the end. -/
theorem sameAlong_of_mem (options : RunOptions) (hq : q ∈ patches) :
    (q.run r options d).2.SameAlong (runPatches r options d patches).2 (q.path r).place := by
  induction patches generalizing d with
  | nil => cases hq
  | cons p rest ih =>
    obtain ⟨hfirst, hrest⟩ := List.pairwise_cons.1 hapart
    have hbelow := hp p (by simp)
    have hbelow' : ∀ q ∈ rest, q.IsBelow r := fun q hq => hp q (by simp [hq])
    have h₁ := Patch.linkless_run hbelow h options
    rw [runPatches_cons]
    cases hq with
    | head => exact sameAlong_runPatches h₁ hbelow' hbelow fun p hp' => (hfirst p hp').symm
    | tail _ hq =>
      have hsame := (hfirst q hq).sameAlong_run hbelow h (hbelow' q hq) options
      obtain ⟨c, -, hmakes, hmakes₁⟩ := Patch.run_makes (hbelow' q hq) h hsame h₁ options
      exact (hmakes.sameAlong_after hmakes₁ hsame).trans (ih h₁ hbelow' hrest hq)

/-- A run changes what one of its patches changes alone, and in the same way. -/
theorem runPatches_changed (options : RunOptions) (k : Location) :
    ((∀ p ∈ patches, (p.run r options d).2.node? k = d.node? k) ∧
      (runPatches r options d patches).2.node? k = d.node? k) ∨
    ∃ p ∈ patches, (p.run r options d).2.node? k ≠ d.node? k ∧
      (runPatches r options d patches).2.node? k = (p.run r options d).2.node? k := by
  induction patches generalizing d with
  | nil => exact .inl ⟨by simp, rfl⟩
  | cons p rest ih =>
    obtain ⟨hfirst, hrest⟩ := List.pairwise_cons.1 hapart
    have hbelow := hp p (by simp)
    have hbelow' : ∀ q ∈ rest, q.IsBelow r := fun q hq => hp q (by simp [hq])
    have h₁ := Patch.linkless_run hbelow h options
    -- what a later patch changes after the first one, it changes alone
    have hother : ∀ q ∈ rest, (q.run r options (p.run r options d).2).2.node? k =
        if (q.run r options d).2.node? k = d.node? k then (p.run r options d).2.node? k
        else (q.run r options d).2.node? k := by
      intro q hq
      have hsame := (hfirst q hq).sameAlong_run hbelow h (hbelow' q hq) options
      obtain ⟨c, -, hmakes, hmakes₁⟩ := Patch.run_makes (hbelow' q hq) h hsame h₁ options
      exact hmakes.other hmakes₁ hsame k
    rw [runPatches_cons]
    obtain ⟨hnone, hend⟩ | ⟨q, hq, hchanged, hend⟩ := ih h₁ hbelow' hrest
    · by_cases hk : (p.run r options d).2.node? k = d.node? k
      · refine .inl ⟨fun q hq => ?_, hend.trans hk⟩
        cases hq with
        | head => exact hk
        | tail _ hq =>
          have hq₁ := hother q hq
          have hq₂ := hnone q hq
          grind
      · exact .inr ⟨p, by simp, hk, hend⟩
    · have hq₁ := hother q hq
      refine .inr ⟨q, by simp [hq], ?_, ?_⟩ <;> grind

end

section

variable (h : r.Linkless d)
  (hvalid : ∀ p ∈ patches, (Path.ofString p.file).isTreeRelative = true)
  (hshort : ∀ p ∈ patches, p.IsShort) (hapart : patches.Pairwise (Patch.Apart r))
include h hvalid hshort hapart

/-- Valid patches with targets apart are reported as they are alone. -/
theorem reports_of_apart (options : RunOptions) : (runPatches r options d patches).1 =
    patches.map fun p => (p.run r options d).1 := by
  obtain hbelow | ⟨p, rfl, -⟩ := Patch.alone_or_below h hvalid hshort hapart
  · exact runPatches_apart h hbelow hapart
  · rfl

/-- What each of them leaves alone is read in the end. -/
theorem readBytes_of_apart (options : RunOptions) (hp : p ∈ patches) :
    readBytes (runPatches r options d patches).2 (p.path r) =
      readBytes (p.run r options d).2 (p.path r) := by
  obtain hbelow | ⟨q, rfl, -⟩ := Patch.alone_or_below h hvalid hshort hapart
  · exact (hbelow p hp).readBytes_eq (Patch.linkless_run (hbelow p hp) h options)
      (sameAlong_of_mem h hbelow hapart options hp)
  · rw [List.mem_singleton.1 hp]
    rfl

end

end SourcePatch
