import SourcePatch.Edit.Basic

/-!
# What is kept of a file

A file that was read and has not changed since passes the check that was made for it. Any other file
passes it only if the bytes are the same, or if just the digest was kept and the digests are.
-/

namespace SourcePatch

/-! ## Texts and their bytes -/

theorem bytes_beq_iff {a b : ByteArray} : (a == b) = true ↔ a = b := by
  change (a.data == b.data) = true ↔ a = b
  rw [beq_iff_eq, ByteArray.ext_iff]

theorem fromUTF8?_toUTF8 (s : String) : String.fromUTF8? s.toUTF8 = some s := by
  have hv : s.toUTF8.IsValidUTF8 := s.isValidUTF8
  rw [String.fromUTF8?, dif_pos hv]
  rfl

theorem toUTF8_of_fromUTF8? {bytes : ByteArray} {s : String}
    (h : String.fromUTF8? bytes = some s) : s.toUTF8 = bytes := by
  unfold String.fromUTF8? at h
  split at h
  · cases h; rfl
  · cases h

theorem toUTF8_injective {s t : String} (h : s.toUTF8 = t.toUTF8) : s = t := by
  have hs := fromUTF8?_toUTF8 s
  rw [h, fromUTF8?_toUTF8] at hs
  exact (Option.some.inj hs).symm

theorem lossy_toUTF8 (s : String) : Decoding.lossy s.toUTF8 = s := by
  rw [Decoding.lossy, fromUTF8?_toUTF8]

theorem decodeText_toUTF8 (s : String) : decodeText s.toUTF8 = .ok s := by
  rw [decodeText, fromUTF8?_toUTF8]

theorem decodeText_eq_ok {bytes : ByteArray} {s : String} (h : decodeText bytes = .ok s) :
    bytes = s.toUTF8 := by
  unfold decodeText at h
  split at h
  · next hs => cases h; exact (toUTF8_of_fromUTF8? hs).symm
  · cases h

theorem readText_of_readBytes {d : Disk} {p : Path} {s : String}
    (h : readBytes d p = .ok (some s.toUTF8)) : readText d p = .ok (some s) := by
  rw [readText, h]
  simp only [bind, Except.bind, decodeText_toUTF8]
  rfl

theorem readText_eq_ok {d : Disk} {p : Path} {text : Option String}
    (h : readText d p = .ok text) : readBytes d p = .ok (text.map String.toUTF8) := by
  unfold readText at h
  cases hr : readBytes d p with
  | error err => rw [hr] at h; cases h
  | ok current =>
    rw [hr] at h
    cases current with
    | none => cases h; rfl
    | some bytes =>
      simp only [bind, Except.bind] at h
      cases hd : decodeText bytes with
      | error err => rw [hd] at h; cases h
      | ok s =>
        rw [hd] at h
        cases h
        rw [decodeText_eq_ok hd]
        rfl

namespace Verification

/-- Whether a file, or its absence, stands for the one that was read, as far as that is kept. -/
def SameState : Option ByteArray → Option ByteArray → Prop
  | none, none => True
  | some old, some new =>
    if (String.fromUTF8? old).isSome ∧ old.size ≤ exactLimit then new = old
    else Xxh3.digest new = Xxh3.digest old
  | _, _ => False

theorem SameState.refl (current : Option ByteArray) : SameState current current := by
  cases current with
  | none => trivial
  | some bytes => simp [SameState]

theorem matchesCurrent_ofCurrent_iff (old new : Option ByteArray) :
    (ofCurrent old).matchesCurrent new = true ↔ SameState old new := by
  cases old with
  | none => cases new <;> simp [ofCurrent, matchesCurrent, SameState]
  | some old =>
    cases hs : String.fromUTF8? old with
    | none => cases new <;> simp [ofCurrent, ofBytes, matchesCurrent, SameState, hs]
    | some text =>
      have htext := toUTF8_of_fromUTF8? hs
      by_cases hsize : old.size ≤ exactLimit
      · cases new <;> simp [ofCurrent, ofBytes, matchesCurrent, SameState, hs, hsize]
        next new => rw [← htext]; exact bytes_beq_iff
      · cases new <;> simp [ofCurrent, ofBytes, matchesCurrent, SameState, hs, hsize]

/-- What was read is what is expected, as long as it is there. -/
theorem matchesCurrent_ofCurrent (current : Option ByteArray) :
    (ofCurrent current).matchesCurrent current = true :=
  (matchesCurrent_ofCurrent_iff current current).2 (.refl current)

theorem ofCurrent_eq_absent_iff {current : Option ByteArray} :
    ofCurrent current = absent ↔ current = none := by
  cases current with
  | none => simp [ofCurrent]
  | some bytes =>
    simp only [ofCurrent, ofBytes, reduceCtorEq, iff_false]
    split
    · split <;> simp
    · simp

end Verification

end SourcePatch
