import SourcePatch.Proofs.Disk.Missing

/-!
# What stays

Files and links may be replaced, but what is there stays there, directories stay directories, and
the ways to them stay. This holds from one disk to the next when directories are made, and when a
file is put at an entry that no way to a directory passes by.

## Main definitions

* `Disk.Persists`: what is there stays there.
-/

namespace SourcePatch.Disk

/-- Whatever is in `d` is there in `d'`, and what led to a directory leads there still. -/
structure Persists (d d' : Disk) : Prop where
  directory : ∀ l, d.node? l = some .directory → d'.node? l = some .directory
  entry : ∀ l, d.node? l ≠ none → d'.node? l ≠ none
  way : ∀ {names l m}, d.travel linkLimit [] names = .ok (l, m) → d.node? l = some .directory →
    d'.travel linkLimit [] names = .ok (l, m)

namespace Persists

variable {d d₁ d₂ : Disk} {e : Location} {n : Node}

theorem refl (d : Disk) : d.Persists d := ⟨fun _ h => h, fun _ h => h, fun h _ => h⟩

theorem trans (h : d.Persists d₁) (h' : d₁.Persists d₂) : d.Persists d₂ where
  directory l hl := h'.directory l (h.directory l hl)
  entry l hl := h'.entry l (h.entry l hl)
  way hway hl := h'.way (h.way hway hl) (h.directory _ hl)

theorem of_extends (hd : d.WellFormed) (h : d.Extends d₁) : d.Persists d₁ where
  directory l hl := h l _ hl
  entry l hl := by
    obtain ⟨n, hn⟩ := Option.ne_none_iff_exists'.1 hl
    rw [h l n hn]
    simp
  way hway _ := travel_ok_of_extends hd h hway

theorem put (he : d.node? e ≠ some .directory) (hlink : ¬ d.LinkToDirectory e) :
    d.Persists (d.put e n) where
  directory l hl := by rwa [node?_put_of_ne (by rintro rfl; exact he hl)]
  entry l hl := by
    rw [node?_put (ne_nil_of_node? he)]
    split
    · simp
    · exact hl
  way hway hl := travel_of_agree (fun _ hne => node?_put_of_ne hne n) he hlink hway hl

end Persists

/-- A link on the way along `p` that did not lead on does not do so now. -/
theorem MissesAt.persists {d d' : Disk} {p : Path} {names above rest : List String} {name : String}
    {b : Location} {m : Nat} (h : d.MissesAt names above name rest b m)
    (hn : d.node? (b ++ [name]) ≠ none) (hp : "" :: (above ++ [name]) <+: p.segments)
    (hcheck : checkPath p = .ok ()) (hpers : d.Persists d') (hrev : ¬ d.Revives d' p) :
    d'.MissesAt names above name rest b m := by
  have hreach := hpers.way h.reaches h.directory
  refine ⟨h.names_eq, hreach, hpers.directory b h.directory, h.ordinary, ?_⟩
  obtain hfree | ⟨target, hlink⟩ := h.node?_cases
  · exact absurd hfree hn
  -- the path that ends with the link
  have habs : (Path.mk ("" :: (above ++ [name]))).isAbsolute = true :=
    Path.isAbsolute_iff.2 ⟨_, rfl, by simp⟩
  have hcheck' : checkPath ⟨"" :: (above ++ [name])⟩ = .ok () := by
    obtain ⟨segments⟩ := p
    obtain ⟨more, rfl⟩ := hp
    exact checkPath_of_append more (by simp) hcheck
  have hway : ∀ d : Disk, d.travel linkLimit [] above = .ok (b, m) →
      d.locate ⟨"" :: (above ++ [name])⟩ = (d.travel m b [name]).map Prod.fst := by
    intro d hd
    rw [locate_eq, hcheck', startOf_of_absolute habs, travel_root rfl, travel_append_of_ok hd]
    rfl
  have hold : d.locate ⟨"" :: (above ++ [name])⟩ = .error .noSuchFile := by
    rw [hway d h.reaches, h.missing]
    rfl
  have hentry : d.locateEntry ⟨"" :: (above ++ [name])⟩ = .ok ⟨some (b ++ [name]), false⟩ := by
    refine locateEntry_eq_ok_iff.2 ⟨hcheck', "" :: above, name, b, m, rfl, ?_, h.directory,
      h.ordinary, rfl⟩
    rw [startOf_of_absolute habs, travel_idle rfl (.inl rfl), h.reaches]
  have hnew : d'.locate ⟨"" :: (above ++ [name])⟩ = .error .noSuchFile := by
    by_contra hleads
    exact hrev ⟨_, _, target, hp, hentry, hlink, hold, hleads⟩
  rw [hway d' hreach] at hnew
  cases ht : d'.travel m b [name] with
  | ok l => rw [ht] at hnew; cases hnew
  | error err => rw [ht] at hnew; cases hnew; rfl

end SourcePatch.Disk
