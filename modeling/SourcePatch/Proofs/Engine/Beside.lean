import SourcePatch.Proofs.Engine.NewFile
import SourcePatch.Proofs.Tree.Beside

/-!
# Patches on trees side by side

On two disks of which one has more directories a patch does the same, unless its target notices
them: it plans the same, makes the same directories as far as they are missing, and writes to the
same entry. The disks are side by side afterwards as they were before.

## Main definitions

* `Root.Abreast`: two results that are the same, with disks side by side.

## Main statements

* `Root.Beside.plan_eq`, `Root.Beside.commit`: what a patch does on the two disks.
-/

namespace SourcePatch

/-- Two results are the same, and the disks that come with them are side by side. -/
def Root.Abreast {α : Type} (r : Root) (x y : α × Disk) : Prop := y.1 = x.1 ∧ r.Beside x.2 y.2

namespace Root.Beside

variable {r : Root} {d d' : Disk} {b e : Location} {name : String} (h : r.Beside d d')
include h

/-! ## One entry more -/

theorem put {data : ByteArray} {mode : Nat} (hparent : d.node? e.dropLast = some .directory)
    (he : d.node? e ≠ some .directory) (he' : d'.node? e ≠ some .directory)
    (hn : ∀ name ∈ e, IsSegment name) :
    r.Beside (d.put e (.file data mode)) (d'.put e (.file data mode)) where
  sound := h.sound.put hparent he hn (by simp [Node.targetNames])
  sound' := h.sound'.put (h.persists.directory _ hparent) he' hn (by simp [Node.targetNames])
  gains l := by
    rw [Disk.node?_put (Disk.ne_nil_of_node? he), Disk.node?_put (Disk.ne_nil_of_node? he)]
    split
    · exact .inl rfl
    · exact h.gains l
  root := by
    rw [Disk.node?_put (Disk.ne_nil_of_node? he)]
    split
    · simp
    · exact h.root
  ordinary := h.ordinary

theorem ensure (hb : d.node? b = some .directory) (hn : ∀ s ∈ b ++ [name], IsSegment s) :
    r.Beside (d.ensure (b ++ [name])) (d'.ensure (b ++ [name])) where
  sound := h.sound.ensure hb hn
  sound' := h.sound'.ensure (h.persists.directory b hb) hn
  gains l := by
    have hgain := h.gains l
    rw [Disk.node?_ensure, Disk.node?_ensure]
    grind
  root := by
    obtain ⟨n, hn⟩ := Option.ne_none_iff_exists'.1 h.root
    rw [(Disk.gainsDirectories_ensure d _).extends _ _ hn]
    simp
  ordinary := h.ordinary

/-- Digging goes the same way on both disks. -/
theorem dig {names : List String} (hb : d.node? b = some .directory) (hollow : d.Hollow b)
    (hs : ∀ s ∈ b, IsSegment s) (hn : ∀ s ∈ names, IsSegment s) :
    r.Abreast (d.dig b names) (d'.dig b names) := by
  refine ⟨Disk.dig_fst d' d b names, ?_⟩
  induction names generalizing d d' b with
  | nil => exact h
  | cons name rest ih =>
    rw [Disk.dig, Disk.dig]
    split
    · exact ih h hb hollow hs fun s hs => hn s (by simp [hs])
    · split
      · exact h
      · have hbelow := hollow.mono (List.prefix_append b [name])
        have hnext := Disk.SlashFree.concat hs (hn name (by simp))
        exact ih (h.ensure hb hnext) hbelow.ensure
          (hbelow.gains (Disk.gainsDirectories_ensure d _)) hnext fun s hs => hn s (by simp [hs])

/-- The same from a directory in which only what `name` names is hollow. -/
theorem dig_below {rest : List String} (hb : d.node? b = some .directory)
    (ho : Disk.Ordinary name) (hollow : d.Hollow (b ++ [name])) (hs : ∀ s ∈ b, IsSegment s)
    (hn : ∀ s ∈ name :: rest, IsSegment s) :
    r.Abreast (d.dig b (name :: rest)) (d'.dig b (name :: rest)) := by
  have hnext := Disk.SlashFree.concat hs (hn name (by simp))
  rw [Disk.dig_cons ho, Disk.dig_cons ho]
  exact (h.ensure hb hnext).dig hollow.ensure (hollow.gains (Disk.gainsDirectories_ensure d _))
    hnext fun s hs => hn s (by simp [hs])

end Root.Beside

/-! ## Directories for a new file -/

namespace Root.Beside

section

variable {r : Root} {d d' : Disk} {p : Path} {above idle : List String} {last : String}
  (h : r.Beside d d') (hends : p.EndsIn above last idle) (hup : ".." ∉ p.segments)
  (hn : ∀ name ∈ p.segments, IsSegment name)
include h hends hup hn

/-- The directories for a new file are made on both disks, as far as they are missing, and it can
be read on both or on neither afterwards. -/
theorem ensureParent (hread : readBytes d p = .ok none) (hread' : readBytes d' p = .ok none)
    (hrev : ¬ d.Revives d' p) :
    r.Abreast (r.ensureParent d p) (r.ensureParent d' p) ∧
      ((r.ensureParent d p).1 = .ok () →
        readBytes (r.ensureParent d' p).2 p = readBytes (r.ensureParent d p).2 p) := by
  have hparent := Path.parent?_of_endsIn hends
  have hens := ensureParent_eq r d hparent
  have hens' := ensureParent_eq r d' hparent
  by_cases hout : (Path.ofNames (Path.trimmed false above)).startsWith r.path = true
  swap
  · rw [if_neg hout] at hens hens'
    rw [hens, hens']
    exact ⟨⟨rfl, h⟩, fun hok => by cases hok⟩
  rw [if_pos hout] at hens hens'
  obtain ⟨hreach, hc⟩ | @⟨pre, rest, name, b, m, hmiss, hnode⟩ |
    @⟨pre, rest, name, b, m, hmiss, hfree⟩ := Disk.aboveMissing hends hup hread
  · rw [Disk.makeDirectories_of_ready hends hup hread hreach hc] at hens
    rw [Disk.makeDirectories_of_ready hends hup hread' (h.persists.way hreach hc)
      (h.persists.directory _ hc)] at hens'
    rw [hens, hens']
    exact ⟨⟨rfl, h⟩, fun _ => hread'.trans hread.symm⟩
  · have hpre : "" :: (pre ++ [name]) <+: p.segments := by
      rw [hends.segments, hmiss.names_eq]
      exact ⟨rest ++ last :: idle, by simp⟩
    have hcheck := Disk.checkPath_of_readBytes (Disk.isAbsolute_of_endsIn hends) hread
    rw [Disk.makeDirectories_of_missesAt_link hends hup hread hmiss hnode] at hens
    rw [Disk.makeDirectories_of_missesAt_link hends hup hread'
      (hmiss.persists hnode hpre hcheck h.persists hrev) (h.persists.entry _ hnode)] at hens'
    rw [hens, hens']
    exact ⟨⟨rfl, h⟩, fun hok => by cases hok⟩
  · have hollow := Disk.Hollow.of_free h.sound.wellFormed hfree
    have hollow' := hollow.gains h.gainsDirectories
    have hreach' := h.persists.way hmiss.reaches hmiss.directory
    have hb' := h.persists.directory b hmiss.directory
    have hsame := Disk.dig_fst d' d b (name :: rest)
    have habove : ∀ s ∈ above, IsSegment s := fun s hs => hn s (by simp [hends.segments, hs])
    rw [hmiss.names_eq] at habove
    have hs := h.sound.slashFree.of_travel (by simp) (fun s hs => habove s (by simp [hs]))
      hmiss.reaches
    have hdug := h.dig_below hmiss.directory hmiss.ordinary hollow hs fun s hs =>
      habove s (List.mem_append_right _ hs)
    rw [Disk.makeDirectories_of_missesAt_nothing hends hup hread h.sound.wellFormed hmiss.names_eq
      hmiss.reaches hmiss.directory hmiss.ordinary hollow] at hens
    rw [Disk.makeDirectories_of_missesAt_nothing hends hup hread' h.sound'.wellFormed hmiss.names_eq
      hreach' hb' hmiss.ordinary hollow'] at hens'
    rw [hens, hens']
    refine ⟨⟨by rw [hsame], hdug.2⟩, fun hok => ?_⟩
    cases hdig : (d.dig b (name :: rest)).1 with
    | error err => rw [hdig] at hok; cases hok
    | ok c =>
      rw [Disk.readBytes_of_dug hends hup hread h.sound.wellFormed hmiss.names_eq hmiss.reaches
          hmiss.directory hmiss.ordinary hollow hdig,
        Disk.readBytes_of_dug hends hup hread' h.sound'.wellFormed hmiss.names_eq hreach' hb'
          hmiss.ordinary hollow' (hsame.trans hdig)]

end

/-! ## Edits -/

section

variable {r : Root} {d d' : Disk} {e : Edit} {above idle : List String} {last : String}
  {c : Location} {m : Nat} (h : r.Beside d d') (hends : e.file.EndsIn above last idle)
  (hup : ".." ∉ e.file.segments) (hn : ∀ name ∈ e.file.segments, IsSegment name)
  (hreach : d.travel Disk.linkLimit [] above = .ok (c, m)) (hc : d.node? c = some .directory)
include h hends hup hn hreach hc

/-- The entry of the file is in the same directory on both disks, and there is none in its place. -/
theorem put_last {current current' : Option ByteArray} (hread : readBytes d e.file = .ok current)
    (hread' : readBytes d' e.file = .ok current') (data : ByteArray) (mode : Nat) :
    r.Beside (d.put (c ++ [last]) (.file data mode)) (d'.put (c ++ [last]) (.file data mode)) := by
  have hlast := Disk.last_ne hends hup
  have hnot := (Disk.last_of_readBytes hends hreach hc hlast hread).2.1
  have hnot' := (Disk.last_of_readBytes hends (h.persists.way hreach hc)
    (h.persists.directory c hc) hlast hread').2.1
  have hs := h.sound.slashFree.of_travel (by simp)
    (fun s hs => hn s (by simp [hends.segments, hs])) hreach
  exact h.put (by rwa [List.dropLast_concat]) hnot hnot'
    (Disk.SlashFree.concat hs (hn last (by simp [hends.segments])))

theorem applyIn_of_missing (hexp : e.expected = .ofCurrent none)
    (hread : readBytes d e.file = .ok none) (hread' : readBytes d' e.file = .ok none) :
    r.Abreast (e.applyIn d) (e.applyIn d') := by
  rw [Edit.applyIn_of_missing hends hup hread rfl hexp h.sound.slashFree hn hreach hc,
    Edit.applyIn_of_missing hends hup hread' rfl hexp h.sound'.slashFree hn
      (h.persists.way hreach hc) (h.persists.directory c hc)]
  cases Disk.checkPath ((Path.ofNames (Path.trimmed false above)).join ⟨[temporaryName 0]⟩) with
  | error err => exact ⟨rfl, h⟩
  | ok u =>
    dsimp only
    cases Path.endError? idle with
    | some err => exact ⟨rfl, h⟩
    | none => exact ⟨rfl, h.put_last hends hup hn hreach hc hread hread' _ _⟩

theorem applyIn_of_file {bytes : ByteArray}
    (hexp : e.expected.matchesCurrent (some bytes) = true)
    (hread : readBytes d e.file = .ok (some bytes)) :
    r.Abreast (e.applyIn d) (e.applyIn d') := by
  obtain ⟨l, mode, hl, hnode⟩ := Disk.readBytes_eq_some_iff.1 hread
  have hl' := h.locate_of_ok (Disk.isAbsolute_of_endsIn hends) hl
  have hnode' := h.gainsDirectories.extends l _ hnode
  have hread' := Disk.readBytes_eq_some_iff.2 ⟨l, mode, hl', hnode'⟩
  by_cases hsame : bytes = e.newText.toUTF8
  · subst hsame
    rw [Edit.applyIn_of_same hread, Edit.applyIn_of_same hread']
    exact ⟨rfl, h⟩
  rw [Edit.applyIn_of_file hends hup hl hnode hsame hexp h.sound.slashFree hn hreach hc,
    Edit.applyIn_of_file hends hup hl' hnode' hsame hexp h.sound'.slashFree hn
      (h.persists.way hreach hc) (h.persists.directory c hc)]
  cases Disk.checkPath ((Path.ofNames (Path.trimmed false above)).join ⟨[temporaryName 0]⟩) with
  | error err => exact ⟨rfl, h⟩
  | ok u => exact ⟨rfl, h.put_last hends hup hn hreach hc hread hread' _ _⟩

end

/-! ## Patches -/

section

variable {r : Root} {d d' : Disk} {p : Patch} {w : PlannedWrite} (h : r.Beside d d')
  (hnot : ¬ d.Notices d' (p.path r))
include h hnot

theorem plan_eq : p.plan r d' = p.plan r d := by
  have ht := Path.segments_ofString_ne_nil p.file
  refine Patch.plan_congr (h.resolve_eq ht hnot) fun file hf => ?_
  have habs := Root.isAbsolute_of_resolve hf ht
  have hup := Root.descends_of_ordinary hf h.ordinary
  obtain ⟨-, -, -, rfl⟩ := resolve_eq_ok_iff.1 hf
  exact h.readBytes_eq habs hup hnot

/-- A write that was planned on both disks is carried out on both. -/
theorem commit (hw : p.plan r d = .ok (.write w)) :
    r.Abreast ((Plan.write w).commit r d) ((Plan.write w).commit r d') := by
  obtain ⟨current, hf, hread, hexp, -⟩ := Patch.plan_write hw
  have ht := Path.segments_ofString_ne_nil p.file
  have habs := Root.isAbsolute_of_resolve hf ht
  have hup := Root.descends_of_ordinary hf h.ordinary
  have hn := Root.isSegment_of_resolve h.sound hf hread
  rw [← Patch.edit_file_eq hw] at hnot
  cases current with
  | some bytes =>
    obtain ⟨above, last, idle, c, m, hends, hreach, hc⟩ :=
      Disk.exists_endsIn_of_file h.sound.wellFormed habs hread
    have hmatch := hexp ▸ Verification.matchesCurrent_ofCurrent (some bytes)
    rw [PlannedWrite.commit_of_some hexp, PlannedWrite.commit_of_some hexp]
    exact h.applyIn_of_file hends hup hn hreach hc hmatch hread
  | none =>
    obtain ⟨above, last, idle, hends⟩ := Disk.exists_endsIn_of_missing habs hread
    have hread' := (h.readBytes_eq habs hup hnot).trans hread
    obtain ⟨⟨hsame, hdisks⟩, hreads⟩ := h.ensureParent hends hup hn hread hread'
      fun hrev => hnot (.link hrev)
    have hready := Root.ensureParent_ends hends hup hread r h.sound.wellFormed
    rw [PlannedWrite.commit_of_none hexp, PlannedWrite.commit_of_none hexp]
    -- from here on only the two results of making the directories matter
    generalize r.ensureParent d w.edit.file = made, r.ensureParent d' w.edit.file = made' at *
    obtain ⟨err | u, d₁⟩ := made <;> obtain ⟨err' | u', d₁'⟩ := made' <;> cases hsame
    · exact ⟨rfl, hdisks⟩
    obtain ⟨-, err, hens⟩ | ⟨-, ⟨c, m, hreach, hc⟩, hstill⟩ | ⟨err, herr, -⟩ := hready
    · cases hens
    · dsimp only at hdisks hreads hreach hc hstill ⊢
      cases hread₁ : readBytes d₁ w.edit.file with
      | error err =>
        rw [Edit.applyIn_of_error hread₁, Edit.applyIn_of_error ((hreads rfl).trans hread₁)]
        exact ⟨rfl, hdisks⟩
      | ok current =>
        cases current with
        | some bytes => exact absurd hread₁ (hstill bytes)
        | none =>
          exact hdisks.applyIn_of_missing hends hup hn hreach hc hexp hread₁
            ((hreads rfl).trans hread₁)
    · cases herr

end

end Root.Beside

end SourcePatch
