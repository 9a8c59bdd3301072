import SourcePatch.Disk.Lookup
import SourcePatch.Proofs.Disk.Shape

/-!
# Ways along names

`Disk.travel` follows names like `Disk.follow`, in one recursion over the names and the links that
may still be followed, and also gives the number of links that are left. It turns a way along two
lists of names into two ways, one behind the other, and says what of a disk a way depends on.

## Main definitions

* `Disk.travel`: where names lead, and how many links may still be followed.
* `Disk.LinkToDirectory`: at a location there is a link to a directory.
-/

namespace SourcePatch.Disk

/-- A name that leads from a directory to one of its entries. -/
def Ordinary (name : String) : Prop :=
  name ≠ "" ∧ name ≠ "." ∧ name ≠ ".." ∧ name.utf8ByteSize ≤ nameLimit

instance (name : String) : Decidable (Ordinary name) := by unfold Ordinary; infer_instance

/-- Where the target of a link in `here` starts. -/
def linkStart (here : Location) (target : Path) : Location := if target.isAbsolute then [] else here

/-- Where `names` lead from `here`, and the links that are left of `links`. -/
def travel (d : Disk) (links : Nat) (here : Location) :
    List String → Except IoError (Location × Nat)
  | [] => .ok (here, links)
  | name :: rest =>
    if d.node? here = some .directory then
      if name = "" ∨ name = "." then d.travel links here rest
      else if name = ".." then d.travel links here.dropLast rest
      else if nameLimit < name.utf8ByteSize then .error .nameTooLong
      else match d.node? (here ++ [name]) with
        | none => .error .noSuchFile
        | some (.link target) =>
          match links with
          | 0 => .error .tooManyLinks
          | links + 1 => d.travel links (linkStart here target) (target.segments ++ rest)
        | some _ => d.travel links (here ++ [name]) rest
    else .error .notADirectory
termination_by names => (links, names.length)

theorem travel_nil (d : Disk) (links : Nat) (here : Location) :
    d.travel links here [] = .ok (here, links) := by
  simp [travel]

/-! ## One step of a way -/

section

variable {d : Disk} {links : Nat} {here : Location} {name : String} {rest : List String}

theorem travel_of_not_directory (h : d.node? here ≠ some .directory) :
    d.travel links here (name :: rest) = .error .notADirectory := by
  simp [travel, h]

theorem travel_idle (h : d.node? here = some .directory) (hn : name = "" ∨ name = ".") :
    d.travel links here (name :: rest) = d.travel links here rest := by
  rw [travel, if_pos h, if_pos hn]

theorem travel_up (h : d.node? here = some .directory) :
    d.travel links here (".." :: rest) = d.travel links here.dropLast rest := by
  rw [travel, if_pos h, if_neg (by decide), if_pos rfl]

theorem travel_long (h : d.node? here = some .directory) (hi : ¬(name = "" ∨ name = "."))
    (hu : name ≠ "..") (hl : nameLimit < name.utf8ByteSize) :
    d.travel links here (name :: rest) = .error .nameTooLong := by
  rw [travel, if_pos h, if_neg hi, if_neg hu, if_pos hl]

variable (h : d.node? here = some .directory) (ho : Ordinary name)
include h ho

theorem travel_missing (hn : d.node? (here ++ [name]) = none) :
    d.travel links here (name :: rest) = .error .noSuchFile := by
  obtain ⟨h₁, h₂, h₃, h₄⟩ := ho
  rw [travel, if_pos h, if_neg (by simp [h₁, h₂]), if_neg h₃, if_neg (by omega), hn]

theorem travel_link {target : Path} (hn : d.node? (here ++ [name]) = some (.link target)) :
    d.travel (links + 1) here (name :: rest) =
      d.travel links (linkStart here target) (target.segments ++ rest) := by
  obtain ⟨h₁, h₂, h₃, h₄⟩ := ho
  rw [travel, if_pos h, if_neg (by simp [h₁, h₂]), if_neg h₃, if_neg (by omega), hn]

theorem travel_link_zero {target : Path} (hn : d.node? (here ++ [name]) = some (.link target)) :
    d.travel 0 here (name :: rest) = .error .tooManyLinks := by
  obtain ⟨h₁, h₂, h₃, h₄⟩ := ho
  rw [travel, if_pos h, if_neg (by simp [h₁, h₂]), if_neg h₃, if_neg (by omega), hn]

theorem travel_enter {n : Node} (hn : d.node? (here ++ [name]) = some n)
    (hl : ∀ target, n ≠ .link target) :
    d.travel links here (name :: rest) = d.travel links (here ++ [name]) rest := by
  obtain ⟨h₁, h₂, h₃, h₄⟩ := ho
  rw [travel, if_pos h, if_neg (by simp [h₁, h₂]), if_neg h₃, if_neg (by omega), hn]
  cases n with
  | link target => exact absurd rfl (hl target)
  | directory | file => rfl

end

/-- Induction along a way: one case for each thing that a name can do. -/
theorem travel_induction (d : Disk) {motive : Nat → Location → List String → Prop}
    (nil : ∀ links here, motive links here [])
    (blocked : ∀ links here name rest, d.node? here ≠ some .directory →
      motive links here (name :: rest))
    (idle : ∀ links here name rest, d.node? here = some .directory → (name = "" ∨ name = ".") →
      motive links here rest → motive links here (name :: rest))
    (up : ∀ links here rest, d.node? here = some .directory →
      motive links here.dropLast rest → motive links here (".." :: rest))
    (long : ∀ links here name rest, d.node? here = some .directory → ¬(name = "" ∨ name = ".") →
      name ≠ ".." → nameLimit < name.utf8ByteSize → motive links here (name :: rest))
    (missing : ∀ links here name rest, d.node? here = some .directory → Ordinary name →
      d.node? (here ++ [name]) = none → motive links here (name :: rest))
    (exhausted : ∀ here name rest target, d.node? here = some .directory → Ordinary name →
      d.node? (here ++ [name]) = some (.link target) → motive 0 here (name :: rest))
    (link : ∀ links here name rest target, d.node? here = some .directory → Ordinary name →
      d.node? (here ++ [name]) = some (.link target) →
      motive links (linkStart here target) (target.segments ++ rest) →
      motive (links + 1) here (name :: rest))
    (enter : ∀ links here name rest n, d.node? here = some .directory → Ordinary name →
      d.node? (here ++ [name]) = some n → (∀ target, n ≠ .link target) →
      motive links (here ++ [name]) rest → motive links here (name :: rest))
    (links : Nat) (here : Location) (names : List String) : motive links here names := by
  fun_induction travel d links here names with
  | case1 => exact nil _ _
  | case2 links here name rest h hi ih => exact idle _ _ _ _ h hi ih
  | case3 links here rest h hi ih => exact up _ _ _ h ih
  | case4 links here name rest h hi hu hl => exact long _ _ _ _ h hi hu hl
  | case5 links here name rest h hi hu hl hn => exact missing _ _ _ _ h (by grind [Ordinary]) hn
  | case6 here name rest h hi hu hl target hn =>
    exact exhausted _ _ _ target h (by grind [Ordinary]) hn
  | case7 here name rest h hi hu hl target hn links ih =>
    exact link _ _ _ _ target h (by grind [Ordinary]) hn ih
  | case8 links here name rest h hi hu hl n hlink hn ih =>
    exact enter _ _ _ _ n h (by grind [Ordinary]) hn (by grind) ih
  | case9 links here name rest h => exact blocked _ _ _ _ h

/-! ## What a way does -/

theorem directory_of_travel_cons {d : Disk} {links : Nat} {here : Location} {name : String}
    {rest : List String} {r : Location × Nat} (h : d.travel links here (name :: rest) = .ok r) :
    d.node? here = some .directory := by
  by_contra hn
  rw [travel_of_not_directory hn] at h
  cases h

/-- Following comes down to walking to the next link, with one link less behind it. -/
theorem follow_eq_walk (d : Disk) (links : Nat) (here : Location) (names : List String) :
    d.follow links here names =
      match d.walk here names with
      | .reached l => .ok l
      | .failed e => .error e
      | .redirected start names =>
        match links with
        | 0 => .error .tooManyLinks
        | links + 1 => d.follow links start names :=
  (follow.eq_def d links here names).trans (by cases links <;> rfl)

theorem follow_eq_travel (d : Disk) (links : Nat) (here : Location) (names : List String) :
    d.follow links here names = (d.travel links here names).map Prod.fst := by
  induction links, here, names using travel_induction d with
  | nil links here => rw [travel_nil, follow_eq_walk, walk]; rfl
  | blocked links here name rest h =>
    rw [travel_of_not_directory h, follow_eq_walk, walk, if_neg h]; rfl
  | idle links here name rest h hi ih =>
    rw [travel_idle h hi, ← ih, follow_eq_walk, walk, if_pos h, if_pos hi, ← follow_eq_walk]
  | up links here rest h ih =>
    rw [travel_up h, ← ih, follow_eq_walk, walk, if_pos h, if_neg (by decide), if_pos rfl,
      ← follow_eq_walk]
  | long links here name rest h hi hu hl =>
    rw [travel_long h hi hu hl, follow_eq_walk, walk, if_pos h, if_neg hi, if_neg hu, if_pos hl]
    rfl
  | missing links here name rest h ho hn =>
    rw [travel_missing h ho hn, follow_eq_walk, walk, if_pos h, if_neg (by simp [ho.1, ho.2.1]),
      if_neg ho.2.2.1, if_neg (by simpa using ho.2.2.2), hn]
    rfl
  | exhausted here name rest target h ho hn =>
    rw [travel_link_zero h ho hn, follow_eq_walk, walk, if_pos h, if_neg (by simp [ho.1, ho.2.1]),
      if_neg ho.2.2.1, if_neg (by simpa using ho.2.2.2), hn]
    rfl
  | link links here name rest target h ho hn ih =>
    rw [travel_link h ho hn, ← ih, follow_eq_walk, walk, if_pos h, if_neg (by simp [ho.1, ho.2.1]),
      if_neg ho.2.2.1, if_neg (by simpa using ho.2.2.2), hn]
    rfl
  | enter links here name rest n h ho hn hl ih =>
    rw [travel_enter h ho hn hl, ← ih, follow_eq_walk, walk, if_pos h,
      if_neg (by simp [ho.1, ho.2.1]), if_neg ho.2.2.1, if_neg (by simpa using ho.2.2.2), hn]
    cases n with
    | link target => exact absurd rfl (hl target)
    | directory | file => exact (follow_eq_walk d links (here ++ [name]) rest).symm

/-- A way along two lists of names is a way along the first and, from there, along the second. -/
theorem travel_append (d : Disk) (links : Nat) (here : Location) (names more : List String) :
    d.travel links here (names ++ more) =
      (d.travel links here names).bind fun r => d.travel r.2 r.1 more := by
  induction links, here, names using travel_induction d with
  | nil links here => rw [travel_nil]; rfl
  | blocked links here name rest h =>
    rw [travel_of_not_directory h, List.cons_append, travel_of_not_directory h]; rfl
  | idle links here name rest h hi ih =>
    rw [List.cons_append, travel_idle h hi, travel_idle h hi, ih]
  | up links here rest h ih => rw [List.cons_append, travel_up h, travel_up h, ih]
  | long links here name rest h hi hu hl =>
    rw [travel_long h hi hu hl, List.cons_append, travel_long h hi hu hl]; rfl
  | missing links here name rest h ho hn =>
    rw [travel_missing h ho hn, List.cons_append, travel_missing h ho hn]; rfl
  | exhausted here name rest target h ho hn =>
    rw [travel_link_zero h ho hn, List.cons_append, travel_link_zero h ho hn]; rfl
  | link links here name rest target h ho hn ih =>
    rw [travel_link h ho hn, List.cons_append, travel_link h ho hn, ← List.append_assoc, ih]
  | enter links here name rest n h ho hn hl ih =>
    rw [travel_enter h ho hn hl, List.cons_append, travel_enter h ho hn hl, ih]

/-- A way that goes on beyond a place comes to a directory there. -/
theorem directory_of_travel_append {d : Disk} {links m' : Nat} {here l' : Location}
    {names more : List String} (hne : more ≠ [])
    (h : d.travel links here (names ++ more) = .ok (l', m')) :
    ∃ b m, d.travel links here names = .ok (b, m) ∧ d.node? b = some .directory := by
  rw [travel_append] at h
  obtain ⟨s, rest, rfl⟩ := List.exists_cons_of_ne_nil hne
  cases hway : d.travel links here names with
  | error err => rw [hway] at h; cases h
  | ok r =>
    rw [hway] at h
    exact ⟨r.1, r.2, rfl, directory_of_travel_cons h⟩

/-- Induction along a way that has an end. -/
theorem travel_ok_induction {d : Disk} {l : Location} {m : Nat}
    {motive : (links : Nat) → (here : Location) → (names : List String) →
      d.travel links here names = .ok (l, m) → Prop}
    (nil : motive m l [] (travel_nil d m l))
    (idle : ∀ links here name rest (hd : d.node? here = some .directory)
      (hi : name = "" ∨ name = ".") (h : d.travel links here rest = .ok (l, m)),
      motive links here rest h → motive links here (name :: rest) ((travel_idle hd hi).trans h))
    (up : ∀ links here rest (hd : d.node? here = some .directory)
      (h : d.travel links here.dropLast rest = .ok (l, m)),
      motive links here.dropLast rest h → motive links here (".." :: rest) ((travel_up hd).trans h))
    (link : ∀ links here name rest target (hd : d.node? here = some .directory)
      (ho : Ordinary name) (hn : d.node? (here ++ [name]) = some (.link target))
      (h : d.travel links (linkStart here target) (target.segments ++ rest) = .ok (l, m)),
      motive links (linkStart here target) (target.segments ++ rest) h →
      motive (links + 1) here (name :: rest) ((travel_link hd ho hn).trans h))
    (enter : ∀ links here name rest n (hd : d.node? here = some .directory) (ho : Ordinary name)
      (hn : d.node? (here ++ [name]) = some n) (hl : ∀ target, n ≠ .link target)
      (h : d.travel links (here ++ [name]) rest = .ok (l, m)),
      motive links (here ++ [name]) rest h →
      motive links here (name :: rest) ((travel_enter hd ho hn hl).trans h))
    (links : Nat) (here : Location) (names : List String)
    (h : d.travel links here names = .ok (l, m)) : motive links here names h := by
  induction links, here, names using travel_induction d with
  | nil links here => rw [travel_nil] at h; cases h; exact nil
  | blocked links here name rest hd => rw [travel_of_not_directory hd] at h; cases h
  | idle links here name rest hd hi ih => exact idle _ _ _ _ hd hi _ (ih ((travel_idle hd hi) ▸ h))
  | up links here rest hd ih => exact up _ _ _ hd _ (ih ((travel_up hd) ▸ h))
  | long links here name rest hd hi hu hl => rw [travel_long hd hi hu hl] at h; cases h
  | missing links here name rest hd ho hn => rw [travel_missing hd ho hn] at h; cases h
  | exhausted here name rest target hd ho hn => rw [travel_link_zero hd ho hn] at h; cases h
  | link links here name rest target hd ho hn ih =>
    exact link _ _ _ _ _ hd ho hn _ (ih ((travel_link hd ho hn) ▸ h))
  | enter links here name rest n hd ho hn hl ih =>
    exact enter _ _ _ _ n hd ho hn hl _ (ih ((travel_enter hd ho hn hl) ▸ h))

/-- With another number of links a way leads to the same place, or is given up. -/
theorem travel_of_links {d : Disk} {links m : Nat} {here l : Location} {names : List String}
    (h : d.travel links here names = .ok (l, m)) (links' : Nat) :
    (∃ m', d.travel links' here names = .ok (l, m')) ∨
      d.travel links' here names = .error .tooManyLinks := by
  induction links, here, names, h using travel_ok_induction generalizing links' with
  | nil => exact .inl ⟨links', travel_nil ..⟩
  | idle links here name rest hd hi _ ih => rw [travel_idle hd hi]; exact ih links'
  | up links here rest hd _ ih => rw [travel_up hd]; exact ih links'
  | link links here name rest target hd ho hn _ ih =>
    cases links' with
    | zero => exact .inr (travel_link_zero hd ho hn)
    | succ links' => rw [travel_link hd ho hn]; exact ih links'
  | enter links here name rest n hd ho hn hl _ ih => rw [travel_enter hd ho hn hl]; exact ih links'

/-- A way reaches its end by names of entries, whatever it went along. -/
theorem ordinary_of_travel {d : Disk} {links m : Nat} {here l : Location} {names : List String}
    (h : d.travel links here names = .ok (l, m)) (hh : ∀ name ∈ here, Ordinary name) :
    ∀ name ∈ l, Ordinary name := by
  induction links, here, names, h using travel_ok_induction with
  | nil => exact hh
  | idle links here name rest hd hi _ ih => exact ih hh
  | up links here rest hd _ ih =>
    exact ih fun name hn => hh name ((List.dropLast_sublist here).subset hn)
  | link links here name rest target hd ho hn _ ih =>
    refine ih ?_
    unfold linkStart
    split
    · simp
    · exact hh
  | enter links here name rest n hd ho hn hl _ ih =>
    refine ih fun x hx => ?_
    obtain hx | hx := List.mem_append.1 hx
    · exact hh x hx
    · rwa [List.mem_singleton.1 hx]

/-- A way ends at something that is there. -/
theorem exists_of_travel {d : Disk} (hd : d.WellFormed) {links m : Nat} {here l : Location}
    {names : List String} (h : d.travel links here names = .ok (l, m)) (hh : d.node? here ≠ none) :
    d.node? l ≠ none := by
  induction links, here, names, h using travel_ok_induction with
  | nil => exact hh
  | idle links here name rest hdir hi _ ih => exact ih hh
  | up links here rest hdir _ ih => exact ih (by rw [hd.dropLast hh]; simp)
  | link links here name rest target hdir ho hn _ ih =>
    refine ih ?_
    unfold linkStart
    split
    · simp
    · exact hh
  | enter links here name rest n hdir ho hn hl _ ih => exact ih (by simp [hn])

/-- Down along the names of an entry that is there one comes to it. -/
theorem travel_of_location {d : Disk} (hd : d.WellFormed) {links : Nat} {here : Location}
    {names : List String} {n : Node} (ho : ∀ name ∈ names, Ordinary name)
    (hn : d.node? (here ++ names) = some n) (hl : ∀ target, n ≠ .link target) :
    d.travel links here names = .ok (here ++ names, links) := by
  induction names generalizing here with
  | nil => rw [travel_nil, List.append_nil]
  | cons name names ih =>
    have hsplit : here ++ name :: names = (here ++ [name]) ++ names := by simp
    have hh := hd.directory_of_append (l := here) (List.cons_ne_nil name names) (by simp [hn])
    rw [hsplit] at hn ⊢
    obtain ⟨k, hk, hkl⟩ : ∃ k, d.node? (here ++ [name]) = some k ∧ ∀ target, k ≠ .link target := by
      by_cases hnil : names = []
      · subst hnil
        rw [List.append_nil] at hn
        exact ⟨n, hn, hl⟩
      · exact ⟨.directory, hd.directory_of_append hnil (by rw [hn]; simp), by simp⟩
    rw [travel_enter hh (ho name (by simp)) hk hkl]
    exact ih (fun s hs => ho s (by simp [hs])) hn

/-! ## Ways on a changed disk -/

/-- At `e` there is a link, and it leads to a directory. -/
def LinkToDirectory (d : Disk) (e : Location) : Prop :=
  ∃ target links l m, d.node? e = some (.link target) ∧
    d.travel links (linkStart e.dropLast target) target.segments = .ok (l, m) ∧
    d.node? l = some .directory

/-- A way to a directory passes by an entry that neither is a directory nor leads to one: whatever
is there instead, the way stays the same. -/
theorem travel_of_agree {d d' : Disk} {e : Location}
    (hagree : ∀ l, l ≠ e → d'.node? l = d.node? l) (he : d.node? e ≠ some .directory)
    (hlink : ¬ d.LinkToDirectory e) {links m : Nat} {here l : Location} {names : List String}
    (h : d.travel links here names = .ok (l, m)) (hl : d.node? l = some .directory) :
    d'.travel links here names = .ok (l, m) := by
  have same : ∀ l, d.node? l = some .directory → d'.node? l = some .directory := by
    intro l hd
    rwa [hagree l (by rintro rfl; exact he hd)]
  induction links, here, names, h using travel_ok_induction with
  | nil => exact travel_nil ..
  | idle links here name rest hd hi _ ih => rwa [travel_idle (same _ hd) hi]
  | up links here rest hd _ ih => rwa [travel_up (same _ hd)]
  | link links here name rest target hd ho hn h ih =>
    have hne : here ++ [name] ≠ e := by
      rintro rfl
      -- the way goes on from where the link leads, so a directory must be there
      rw [travel_append] at h
      cases hseg : d.travel links (linkStart here target) target.segments with
      | error err => rw [hseg] at h; cases h
      | ok r =>
        rw [hseg] at h
        refine hlink ⟨target, links, r.1, r.2, hn, by simpa using hseg, ?_⟩
        cases rest with
        | nil =>
          have hr : d.travel r.2 r.1 [] = .ok (l, m) := h
          rw [travel_nil] at hr
          cases hr
          exact hl
        | cons next rest => exact directory_of_travel_cons h
    rwa [travel_link (same _ hd) ho (by rw [hagree _ hne, hn])]
  | enter links here name rest n hd ho hn hnl h ih =>
    have hne : here ++ [name] ≠ e := by
      rintro rfl
      cases rest with
      | nil => rw [travel_nil] at h; cases h; exact he hl
      | cons next rest => exact he (directory_of_travel_cons h)
    rwa [travel_enter (same _ hd) ho (by rw [hagree _ hne, hn]) hnl]

/-- On a disk that holds more a way ends as before, unless something was missing on it. -/
theorem travel_of_extends {d d' : Disk} (hd : d.WellFormed) (hext : d.Extends d') {links : Nat}
    {here : Location} {names : List String} (hh : d.node? here ≠ none) :
    d'.travel links here names = d.travel links here names ∨
      d.travel links here names = .error .noSuchFile := by
  induction links, here, names using travel_induction d with
  | nil links here => left; rw [travel_nil, travel_nil]
  | blocked links here name rest hn =>
    left
    obtain ⟨n, hnode⟩ := Option.ne_none_iff_exists'.1 hh
    have hn' : d'.node? here ≠ some .directory := by rw [hext _ _ hnode, ← hnode]; exact hn
    rw [travel_of_not_directory hn, travel_of_not_directory hn']
  | idle links here name rest hn hi ih =>
    rw [travel_idle hn hi, travel_idle (hext _ _ hn) hi]
    exact ih hh
  | up links here rest hn ih =>
    rw [travel_up hn, travel_up (hext _ _ hn)]
    exact ih (by rw [hd.dropLast hh]; simp)
  | long links here name rest hn hi hu hl =>
    left
    rw [travel_long hn hi hu hl, travel_long (hext _ _ hn) hi hu hl]
  | missing links here name rest hn ho hm => exact .inr (travel_missing hn ho hm)
  | exhausted here name rest target hn ho hm =>
    left
    rw [travel_link_zero hn ho hm, travel_link_zero (hext _ _ hn) ho (hext _ _ hm)]
  | link links here name rest target hn ho hm ih =>
    rw [travel_link hn ho hm, travel_link (hext _ _ hn) ho (hext _ _ hm)]
    refine ih ?_
    unfold linkStart
    split
    · simp
    · exact hh
  | enter links here name rest n hn ho hm hl ih =>
    rw [travel_enter hn ho hm hl, travel_enter (hext _ _ hn) ho (hext _ _ hm) hl]
    exact ih (by simp [hm])

end SourcePatch.Disk
