import SourcePatch.Proofs.Disk.Directories

/-!
# Ways on which something is missing

A way that does not go up and on which something is missing comes to a directory in which the next
name names nothing, or a link that does not lead on.

## Main definitions

* `Disk.MissesAt`: where on a way something is missing.
* `Disk.Revives`: a link leads on that did not before.

## Main statements

* `Disk.exists_missesAt`: every way on which something is missing comes to such a place.
-/

namespace SourcePatch.Disk

variable {d d' : Disk} {links m : Nat} {here b l : Location} {name : String}
  {names above rest : List String} {err : IoError}

theorem travel_append_of_ok (h : d.travel links here names = .ok (b, m)) (more : List String) :
    d.travel links here (names ++ more) = d.travel m b more := by
  rw [travel_append, h]
  rfl

theorem travel_append_of_error (h : d.travel links here names = .error err)
    (more : List String) : d.travel links here (names ++ more) = .error err := by
  rw [travel_append, h]
  rfl

theorem travel_ok_of_extends (hd : d.WellFormed) (hext : d.Extends d')
    (h : d.travel links [] names = .ok (b, m)) : d'.travel links [] names = .ok (b, m) := by
  have hway : d'.travel links [] names = d.travel links [] names ∨
      d.travel links [] names = .error .noSuchFile := travel_of_extends hd hext (by simp)
  obtain hsame | hmiss := hway
  · rw [hsame, h]
  · rw [h] at hmiss
    cases hmiss

/-! ## Where something is missing -/

/-- On the way along `names` something is missing in the directory `b`, to which `above` leads:
there `name` names nothing, or a link that leads to nothing. -/
structure MissesAt (d : Disk) (names above : List String) (name : String) (rest : List String)
    (b : Location) (m : Nat) : Prop where
  names_eq : names = above ++ name :: rest
  reaches : d.travel linkLimit [] above = .ok (b, m)
  directory : d.node? b = some .directory
  ordinary : Ordinary name
  missing : d.travel m b [name] = .error .noSuchFile

theorem travel_cons_eq_noSuchFile (hup : ".." ∉ names)
    (h : d.travel links here names = .error .noSuchFile) :
    ∃ above name rest b m, names = above ++ name :: rest ∧
      d.travel links here above = .ok (b, m) ∧ d.node? b = some .directory ∧ Ordinary name ∧
      d.travel m b [name] = .error .noSuchFile := by
  induction names generalizing links here with
  | nil => rw [travel_nil] at h; cases h
  | cons name names ih =>
    have hdir : d.node? here = some .directory := by
      by_contra hn
      rw [travel_of_not_directory hn] at h
      cases h
    rw [List.mem_cons, not_or] at hup
    have hsplit : name :: names = [name] ++ names := rfl
    cases hone : d.travel links here [name] with
    | ok r =>
      rw [hsplit, travel_append_of_ok hone] at h
      obtain ⟨above, name', rest, b, m, rfl, hb, hrest⟩ := ih hup.2 h
      refine ⟨name :: above, name', rest, b, m, rfl, ?_, hrest⟩
      rw [← hb]
      exact travel_append_of_ok hone above
    | error err =>
      rw [hsplit, travel_append_of_error hone] at h
      cases h
      have ho : Ordinary name := by
        by_contra hnot
        by_cases hi : name = "" ∨ name = "."
        · rw [travel_idle hdir hi, travel_nil] at hone
          cases hone
        · have hlong : nameLimit < name.utf8ByteSize := by grind [Ordinary]
          rw [travel_long hdir hi (Ne.symm hup.1) hlong] at hone
          cases hone
      exact ⟨[], name, names, here, links, rfl, travel_nil .., hdir, ho, hone⟩

/-- A way that does not go up and on which something is missing comes to where it is. -/
theorem exists_missesAt (hup : ".." ∉ names)
    (h : d.travel linkLimit [] names = .error .noSuchFile) :
    ∃ above name rest b m, d.MissesAt names above name rest b m := by
  obtain ⟨above, name, rest, b, m, heq, hb, hdir, ho, hmiss⟩ := travel_cons_eq_noSuchFile hup h
  exact ⟨above, name, rest, b, m, heq, hb, hdir, ho, hmiss⟩

namespace MissesAt

variable (h : d.MissesAt names above name rest b m)
include h

theorem travel_eq (more : List String) :
    d.travel linkLimit [] (above ++ name :: more) = .error .noSuchFile := by
  rw [travel_append_of_ok h.reaches]
  exact travel_append_of_error h.missing more

/-- What is named is missing, or a link. -/
theorem node?_cases : d.node? (b ++ [name]) = none ∨
    ∃ target, d.node? (b ++ [name]) = some (.link target) := by
  cases hn : d.node? (b ++ [name]) with
  | none => exact .inl rfl
  | some n =>
    cases n with
    | link target => exact .inr ⟨target, rfl⟩
    | directory | file =>
      have hmiss := h.missing
      rw [travel_enter h.directory h.ordinary hn (by simp), travel_nil] at hmiss
      cases hmiss

end MissesAt

/-- A link on the way along `p` that led to something missing leads elsewhere. -/
def Revives (d d' : Disk) (p : Path) : Prop :=
  ∃ segments e target, segments <+: p.segments ∧
    d.locateEntry ⟨segments⟩ = .ok ⟨some e, false⟩ ∧ d.node? e = some (.link target) ∧
    d.locate ⟨segments⟩ = .error .noSuchFile ∧ d'.locate ⟨segments⟩ ≠ .error .noSuchFile

end SourcePatch.Disk
