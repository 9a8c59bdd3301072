import SourcePatch.Proofs.Tree.Standing
import SourcePatch.Tree.Locate

/-!
# Where a root is found

A search for the root of a tree looks for the marker where it starts, and above. What a marker
exists under is a directory, so it can be the root. The one exception is the place above a relative
path of a single name, when nothing is there: it has no path.

## Main definitions

* `Path.Bare`: nothing but the working directory is above a path.

## Main statements

* `Disk.directory_of_join`: what something exists under is a directory.
* `Root.find_exact`: what a search finds.
-/

namespace SourcePatch

namespace Path

variable {p q : Path}

theorem isEmpty_iff : p.isEmpty = true ↔ p = .empty := by
  obtain ⟨segments⟩ := p
  simp [isEmpty, empty]

/-- There is no path for the place above `p`, or `p` has no name itself. -/
def Bare (p : Path) : Prop := p.isEmpty = true ∨ p.parent? = some .empty

instance (p : Path) : Decidable p.Bare := by unfold Bare; infer_instance

theorem segments_ne_nil_of_parent? (h : p.parent? = some q) : q.segments ≠ [] := by
  unfold parent? at h
  dsimp only at h
  split at h
  · cases h
  · cases h
    split
    · unfold ofNames
      split <;> simp
    · split
      · simp [empty]
      · next hkept => simpa using hkept

section

variable (hq : q.isAbsolute = false) (hne : q.segments ≠ [])
include hq

/-- How a relative path is put behind another one. -/
theorem segments_join_cases : (∃ pre, p.segments = pre ++ [""] ∧
      (p.join q).segments = pre ++ q.segments) ∨
    (p.segments.getLast? ≠ some "" ∧ (p.join q).segments = p.segments ++ q.segments) := by
  rw [join, hq, if_neg Bool.false_ne_true]
  split
  · next hlast =>
    obtain ⟨pre, hpre⟩ := List.getLast?_eq_some_iff.1 hlast
    exact .inl ⟨pre, hpre, by simp [hpre]⟩
  · next hlast => exact .inr ⟨hlast, rfl⟩

include hne

theorem text_isPrefix_join : p.text.toList <+: (p.join q).text.toList := by
  obtain ⟨s, rest, hs⟩ := List.exists_cons_of_ne_nil hne
  obtain ⟨pre, hp, hjoin⟩ | ⟨-, hjoin⟩ := segments_join_cases (p := p) hq
  · have htext : (Path.mk (pre ++ [""])).text.toList <+: (Path.mk (pre ++ s :: rest)).text.toList :=
      text_concat_isPrefix List.nil_prefix
    rwa [← hs, ← hp, ← hjoin] at htext
  · have htext : p.text.toList <+: (Path.mk (p.segments ++ q.segments)).text.toList := text_isPrefix
    rwa [← hjoin] at htext

theorem isAbsolute_join_eq (hp : p.isEmpty = false) (hsegs : p.segments ≠ []) :
    (p.join q).isAbsolute = p.isAbsolute := by
  rw [Bool.eq_iff_iff, isAbsolute_iff, isAbsolute_iff]
  obtain ⟨pre, hpre, hjoin⟩ | ⟨hlast, hjoin⟩ := segments_join_cases (p := p) hq
  · cases pre with
    | nil => simp [isEmpty, hpre] at hp
    | cons x pre => simp [hpre, hjoin, hne]
  · obtain ⟨x, xs, hx⟩ := List.exists_cons_of_ne_nil hsegs
    cases xs with
    | nil =>
      have hname : x ≠ "" := by
        rintro rfl
        exact hlast (by rw [hx]; rfl)
      simp [hx, hjoin, hname]
    | cons y ys => simp [hx, hjoin]

end

end Path

namespace Disk

variable {d : Disk} {p q : Path}

/-- What a relative path leads somewhere from is a directory. -/
theorem directory_of_join (hq : q.isAbsolute = false) (hne : q.segments ≠ [])
    (hp : p.isEmpty = false) (hsegs : p.segments ≠ [])
    (h : d.leadsSomewhere (p.join q) = true) :
    ∃ l, d.canonicalize p = .ok l ∧ d.node? l = some .directory := by
  obtain ⟨l', -, hl', -⟩ := leadsSomewhere_iff.1 h
  obtain ⟨hcheck, m', ht⟩ := locate_eq_ok_iff.1 hl'
  have hstart : d.startOf (p.join q) = d.startOf p := by
    unfold startOf
    rw [Path.isAbsolute_join_eq hq hne hp hsegs]
  rw [hstart] at ht
  -- the way along `p`, from which the way along `q` goes on
  obtain ⟨b, m, hway, hdir⟩ : ∃ b m, d.travel linkLimit (d.startOf p) p.segments = .ok (b, m) ∧
      d.node? b = some .directory := by
    obtain ⟨pre, hpre, hjoin⟩ | ⟨-, hjoin⟩ := Path.segments_join_cases (p := p) hq
    · rw [hjoin] at ht
      obtain ⟨b, m, hway, hdir⟩ := directory_of_travel_append hne ht
      refine ⟨b, m, ?_, hdir⟩
      rw [hpre, travel_append_of_ok hway, travel_idle hdir (.inl rfl), travel_nil]
    · rw [hjoin] at ht
      exact directory_of_travel_append hne ht
  have hcheck' : checkPath p = .ok () := by
    obtain ⟨hnul, -, hsize⟩ := checkPath_eq_ok_iff.1 hcheck
    have htext := Path.text_isPrefix_join (p := p) hq hne
    exact checkPath_eq_ok_iff.2 ⟨fun hc => hnul (htext.subset hc), hp,
      Nat.lt_of_le_of_lt (utf8ByteSize_le_of_isPrefix htext) hsize⟩
  exact ⟨b, canonicalize_of_locate (locate_eq_ok_iff.2 ⟨hcheck', m, hway⟩) hdir, hdir⟩

end Disk

theorem Path.parent?_ofNames_concat {above : List String} {name : String}
    (h : ∀ s ∈ above ++ [name], Disk.Ordinary s) :
    (ofNames (above ++ [name])).parent? = some (ofNames above) := by
  have hmoves : ∀ s ∈ above ++ [name], ¬ isIdle false s = true := by
    intro s hs
    rw [isIdle_iff, not_or]
    exact ⟨(h s hs).1, (h s hs).2.1⟩
  have htrim : trimmed false above = above := by
    obtain rfl | ⟨pre, last, rfl⟩ := above.eq_nil_or_concat
    · rfl
    · rw [List.concat_eq_append]
      exact trimmed_concat (hmoves last (by simp))
  rw [parent?_concat (segments_ofNames (by simp)) (hmoves name (by simp)), htrim]

namespace Root

variable {d : Disk} {start marker : Path} {l : Location}

/-- The place that a path leads to stands. -/
theorem stands_of_canonicalize (hd : d.WellFormed)
    (hw : ∀ name ∈ d.workingDirectory, Disk.Ordinary name) (hne : start.segments ≠ [])
    (h : d.canonicalize start = .ok l) : (Root.mk l).Stands d := by
  obtain ⟨hl, hn⟩ := Disk.locate_of_canonicalize h
  obtain ⟨-, m, ht⟩ := Disk.locate_eq_ok_iff.1 hl
  obtain ⟨s, rest, hs⟩ := List.exists_cons_of_ne_nil hne
  rw [hs] at ht
  have hdir := Disk.directory_of_travel_cons ht
  have ho : ∀ name ∈ d.startOf start, Disk.Ordinary name := by
    unfold Disk.startOf
    split
    · simp
    · exact hw
  exact ⟨hd, hn, Disk.not_link_of_travel hd ht (by simp [hdir]), Disk.ordinary_of_travel ht ho⟩

namespace Stands

variable {r : Root} (h : r.Stands d)
include h

/-- What is above a place that stands does too. -/
theorem dropLast : (Root.mk r.location.dropLast).Stands d where
  wellFormed := h.wellFormed
  root := by simp [h.wellFormed.dropLast h.root]
  notLink := by simp [h.wellFormed.dropLast h.root]
  ordinary name hname := h.ordinary name ((List.dropLast_sublist _).subset hname)

/-- The path of a place under which something exists leads to this place. -/
theorem ofPath_of_join (hrel : marker.isAbsolute = false) (hm : marker.segments ≠ [])
    (hmark : d.leadsSomewhere (r.path.join marker) = true) : ofPath d r.path = .ok r := by
  have habs : r.path.isAbsolute = true := Path.isAbsolute_ofNames _
  have hsegs : r.path.segments ≠ [] := by
    obtain ⟨names, hnames, -⟩ := Path.isAbsolute_iff.1 habs
    simp [hnames]
  obtain ⟨l, hl, -⟩ :=
    Disk.directory_of_join hrel hm (Disk.isEmpty_of_absolute habs) hsegs hmark
  obtain ⟨hcheck, -⟩ := Disk.locate_eq_ok_iff.1 (Disk.locate_of_canonicalize hl).1
  have hsame := (Disk.locate_of_canonicalize hl).1
  rw [path, Disk.locate_ofNames hcheck, h.travel_location] at hsame
  cases hsame
  rw [ofPath, hl]

end Stands

/-! ## The search -/

/-- Where a search begins: the place that the start leads to, or the start as it is written. -/
def begin (d : Disk) (start : Path) : Path :=
  match d.canonicalize start with
  | .ok l => .ofNames l
  | .error _ => start

theorem firstMarked_cons (c : Path) (more : List Path) : firstMarked d marker (c :: more) =
    if d.leadsSomewhere (c.join marker) then some c else firstMarked d marker more := by
  rw [firstMarked, List.find?_cons]
  cases d.leadsSomewhere (c.join marker) <;> rfl

/-- A search looks at two places and at no others. -/
theorem find_eq (d : Disk) (start marker : Path) : find d start marker =
    if d.leadsSomewhere ((begin d start).join marker) then
      (ofPath d (begin d start)).mapError .safety
    else match (begin d start).parent? with
      | none => .error (.rootNotFound start marker)
      | some above =>
        if d.leadsSomewhere (above.join marker) then (ofPath d above).mapError .safety
        else .error (.rootNotFound start marker) := by
  have hfind : find d start marker =
      match firstMarked d marker (begin d start :: (begin d start).parent?.toList) with
      | none => .error (.rootNotFound start marker)
      | some candidate => (ofPath d candidate).mapError .safety := rfl
  rw [hfind, firstMarked_cons]
  by_cases hhere : d.leadsSomewhere ((begin d start).join marker) = true
  · rw [if_pos hhere, if_pos hhere]
  · rw [if_neg hhere, if_neg hhere]
    cases (begin d start).parent? with
    | none => rfl
    | some above =>
      rw [Option.toList_some, firstMarked_cons]
      by_cases habove : d.leadsSomewhere (above.join marker) = true
      · simp [habove]
      · simp [habove, firstMarked]

theorem begin_of_canonicalize (h : d.canonicalize start = .ok l) :
    begin d start = .ofNames l := by
  rw [begin, h]

/-- A start that leads nowhere is where the search begins, as it is written. -/
theorem begin_of_not_leads (h : d.leadsSomewhere start = false) : begin d start = start := by
  unfold begin
  cases hc : d.canonicalize start with
  | error err => rfl
  | ok l => simp [Disk.leadsSomewhere_of_canonicalize hc] at h

theorem ofPath_of_canonicalize (h : d.canonicalize start = .ok l) :
    ofPath d start = .ok ⟨l⟩ := by
  rw [ofPath, h]

/-- Nothing is under a start that leads nowhere. -/
theorem not_leads_join (hrel : marker.isAbsolute = false) (hm : marker.segments ≠ [])
    (hne : start.isEmpty = false) (hsegs : start.segments ≠ [])
    (h : d.leadsSomewhere start = false) : d.leadsSomewhere (start.join marker) = false := by
  by_contra hleads
  obtain ⟨l, hl, -⟩ := Disk.directory_of_join hrel hm hne hsegs (by simpa using hleads)
  simp [Disk.leadsSomewhere_of_canonicalize hl] at h

/-- A search from a place that is there finds it, or else the place above it. -/
theorem find_of_canonicalize (hd : d.WellFormed)
    (hw : ∀ name ∈ d.workingDirectory, Disk.Ordinary name) (hrel : marker.isAbsolute = false)
    (hm : marker.segments ≠ []) (hsegs : start.segments ≠ [])
    (h : d.canonicalize start = .ok l) : find d start marker =
      if d.leadsSomewhere ((Root.mk l).path.join marker) then .ok ⟨l⟩
      else if l ≠ [] ∧ d.leadsSomewhere ((Root.mk l.dropLast).path.join marker) then
        .ok ⟨l.dropLast⟩
      else .error (.rootNotFound start marker) := by
  -- a place that stands has a path that leads back to it, and so has the place above it
  have hstands := stands_of_canonicalize hd hw hsegs h
  rw [find_eq, begin_of_canonicalize h]
  change (if d.leadsSomewhere ((Root.mk l).path.join marker) then _ else _) = _
  by_cases hhere : d.leadsSomewhere ((Root.mk l).path.join marker) = true
  · rw [if_pos hhere, if_pos hhere]
    exact congrArg _ (hstands.ofPath_of_join hrel hm hhere)
  · rw [if_neg hhere, if_neg hhere]
    obtain rfl | ⟨above, name, rfl⟩ := l.eq_nil_or_concat
    · rfl
    · rw [List.concat_eq_append] at hstands ⊢
      have habove := hstands.dropLast
      rw [List.dropLast_concat] at habove ⊢
      rw [Path.parent?_ofNames_concat hstands.ordinary]
      change (if d.leadsSomewhere ((Root.mk above).path.join marker) then _ else _) = _
      by_cases hup : d.leadsSomewhere ((Root.mk above).path.join marker) = true
      · rw [if_pos hup, if_pos ⟨by simp, hup⟩]
        exact congrArg _ (habove.ofPath_of_join hrel hm hup)
      · rw [if_neg hup, if_neg (fun hboth => hup hboth.2)]

/-- A search from a place that is not there finds what is above it, where that has a path. -/
theorem find_of_missing (hrel : marker.isAbsolute = false) (hm : marker.segments ≠ [])
    (hsegs : start.segments ≠ []) (h : d.leadsSomewhere start = false) (hbare : ¬ start.Bare) :
    (∃ above l, start.parent? = some above ∧ d.leadsSomewhere (above.join marker) = true ∧
      d.canonicalize above = .ok l ∧ find d start marker = .ok ⟨l⟩) ∨
    ((∀ above, start.parent? = some above → d.leadsSomewhere (above.join marker) = false) ∧
      find d start marker = .error (.rootNotFound start marker)) := by
  obtain ⟨hne, hup⟩ := not_or.1 hbare
  -- under a start that is not there is no marker, so only the place above it remains
  have hhere := not_leads_join hrel hm (by simpa using hne) hsegs h
  rw [find_eq, begin_of_not_leads h, hhere, if_neg Bool.false_ne_true]
  cases hq : start.parent? with
  | none => exact .inr ⟨by simp, rfl⟩
  | some above =>
    dsimp only
    cases habove : d.leadsSomewhere (above.join marker) with
    | false => exact .inr ⟨by simp [habove], rfl⟩
    | true =>
      have hempty : above.isEmpty = false := by
        by_contra hall
        exact hup (hq.trans (congrArg some (Path.isEmpty_iff.1 (by simpa using hall))))
      obtain ⟨l, hl, -⟩ :=
        Disk.directory_of_join hrel hm hempty (Path.segments_ne_nil_of_parent? hq) habove
      refine .inl ⟨above, l, rfl, habove, hl, ?_⟩
      rw [if_pos rfl, ofPath_of_canonicalize hl]
      rfl

/-- The empty path leads nowhere, but what is relative to it is looked for all the same. -/
theorem find_of_bare (hrel : marker.isAbsolute = false) (hm : marker.segments ≠ [])
    (hsegs : start.segments ≠ []) (h : d.leadsSomewhere start = false) (hbare : start.Bare) :
    find d start marker =
      if d.leadsSomewhere marker then .error (.safety (.canonicalize .noSuchFile))
      else .error (.rootNotFound start marker) := by
  have hempty : Path.empty.join marker = marker := by
    rw [Path.join, hrel, if_neg Bool.false_ne_true]
    rfl
  have hnone : ofPath d .empty = .error (.canonicalize .noSuchFile) := rfl
  rw [find_eq, begin_of_not_leads h]
  cases hne : start.isEmpty with
  | true =>
    rw [Path.isEmpty_iff.1 hne, hempty, hnone]
    rfl
  | false =>
    have hup : start.parent? = some .empty := hbare.resolve_left (by simp [hne])
    rw [not_leads_join hrel hm hne hsegs h, if_neg Bool.false_ne_true, hup]
    dsimp only
    rw [hempty, hnone]
    rfl

/-- A search from a place that is there finds the marker in it, or else above it, and the root is
the place where it is. From a place that is not there the path is taken as it is written; only
where that leaves no path for what is above does finding the marker end in an error of its own. -/
theorem find_exact (hd : d.WellFormed) (hw : ∀ name ∈ d.workingDirectory, Disk.Ordinary name)
    {start marker : String} (hrel : (Path.ofString marker).isAbsolute = false) :
    (∀ l, d.canonicalize (.ofString start) = .ok l →
      find d (.ofString start) (.ofString marker) =
        if d.leadsSomewhere ((Root.mk l).path.join (.ofString marker)) then .ok ⟨l⟩
        else if l ≠ [] ∧ d.leadsSomewhere ((Root.mk l.dropLast).path.join (.ofString marker)) then
          .ok ⟨l.dropLast⟩
        else .error (.rootNotFound (.ofString start) (.ofString marker))) ∧
    (d.leadsSomewhere (.ofString start) = false → ¬ (Path.ofString start).Bare →
      (∃ above l, (Path.ofString start).parent? = some above ∧
        d.leadsSomewhere (above.join (.ofString marker)) = true ∧
        d.canonicalize above = .ok l ∧
        find d (.ofString start) (.ofString marker) = .ok ⟨l⟩) ∨
      ((∀ above, (Path.ofString start).parent? = some above →
          d.leadsSomewhere (above.join (.ofString marker)) = false) ∧
        find d (.ofString start) (.ofString marker) =
          .error (.rootNotFound (.ofString start) (.ofString marker)))) ∧
    (d.leadsSomewhere (.ofString start) = false → (Path.ofString start).Bare →
      find d (.ofString start) (.ofString marker) =
        if d.leadsSomewhere (.ofString marker) then .error (.safety (.canonicalize .noSuchFile))
        else .error (.rootNotFound (.ofString start) (.ofString marker))) := by
  have hm := Path.segments_ofString_ne_nil marker
  have hsegs := Path.segments_ofString_ne_nil start
  exact ⟨fun l => find_of_canonicalize hd hw hrel hm hsegs,
    find_of_missing hrel hm hsegs, find_of_bare hrel hm hsegs⟩

end Root

/-- A marker in the directory that relative paths start from. -/
def Disk.marked : Disk where
  entries := [(["cwd"], .directory), (["cwd", "mark"], .directory)]
  workingDirectory := ["cwd"]

/-- From the marker itself, and from a place beside it that is not there but written with what is
above it, the directory that holds the marker is found; but not if nothing is written above. -/
theorem Root.find_exact_of_marked :
    find .marked (.ofString "mark") (.ofString "mark") = .ok ⟨["cwd"]⟩ ∧
    find .marked (.ofString "./gone") (.ofString "mark") = .ok ⟨["cwd"]⟩ ∧
    find .marked (.ofString "gone") (.ofString "mark") =
      .error (.safety (.canonicalize .noSuchFile)) := by
  have hd : Disk.marked.WellFormed := by decide
  have hw : ∀ name ∈ Disk.marked.workingDirectory, Disk.Ordinary name := by decide
  have hrel : (Path.ofString "mark").isAbsolute = false := by rfl
  refine ⟨?_, ?_, ?_⟩
  · have hthere : Disk.marked.canonicalize (.ofString "mark") = .ok ["cwd", "mark"] := by rfl
    exact ((find_exact hd hw hrel).1 _ hthere).trans (by rfl)
  · have hgone : Disk.marked.leadsSomewhere (.ofString "./gone") = false := by rfl
    obtain ⟨above, l, habove, -, hl, hfind⟩ | ⟨hnone, -⟩ :=
      (find_exact hd hw hrel).2.1 hgone (by decide)
    · cases habove
      cases hl
      exact hfind
    · exact absurd (hnone (.ofString ".") (by rfl)) (by decide)
  · have hgone : Disk.marked.leadsSomewhere (.ofString "gone") = false := by rfl
    exact ((find_exact hd hw hrel).2.2 hgone (by decide)).trans (by rfl)

/-- A start that is a bare name of nothing is above the marker's directory only once it is made
absolute, and the search does not do that. -/
theorem Root.find_refused :
    ¬ ∀ (d : Disk) (start marker : String) (above : Path) (l : Location),
      d.WellFormed → (∀ name ∈ d.workingDirectory, Disk.Ordinary name) →
      (Path.ofString marker).isTreeRelative = true → d.leadsSomewhere (.ofString start) = false →
      ((Path.ofNames d.workingDirectory).join (.ofString start)).parent? = some above →
      d.leadsSomewhere (above.join (.ofString marker)) = true → d.canonicalize above = .ok l →
      find d (.ofString start) (.ofString marker) = .ok ⟨l⟩ := by
  intro hall
  have hrun : find .marked (.ofString "gone") (.ofString "mark") =
      .error (.safety (.canonicalize .noSuchFile)) := by rfl
  have hroot := hall .marked "gone" "mark" (.ofNames ["cwd"]) ["cwd"] (by decide) (by decide)
    (by decide) (by rfl) (by rfl) (by rfl) (by rfl)
  rw [hrun] at hroot
  cases hroot

end SourcePatch
