import SourcePatch.Proofs.Regex.Ways
import SourcePatch.Regex.Basic

/-!
# Parts of an expression

How the first way goes through the parts of an expression: through characters of a set, a counted
repetition of them, a greedy and a lazy loop over them, and one part behind another.

## Main definitions

* `Form.Plain`: the form stands for a plain pattern, whose choices need no numbers.
* `Form.first`: the outcome of the first way through a form.

## Main statements

* `Form.first_allOf`: the first way through a sequence goes through its parts in turn.
* `Form.first_lazy`: a lazy loop stops at the first place from which it goes on.
* `occurrences_eq`: the matches of a plain expression are those of the first ways.
-/

namespace SourcePatch.Regex

variable {chars : CharSet} {next : List Char → Outcome} {text : List Char} {t : Trail}

/-! ## One set -/

namespace Pattern

theorem first_set_cons (c : Char) (text : List Char) :
    (set chars ()).first next (c :: text) =
      if chars.contains c then next text else none := by
  rw [first, ways]
  split <;> simp

/-- A set takes one of its characters. -/
theorem first_set : (set chars ()).first next text = some t ↔
    ∃ c rest, text = c :: rest ∧ chars.contains c = true ∧ next rest = some t := by
  cases text with
  | nil => simp [first, ways]
  | cons c text => simp [first_set_cons]

theorem rounds_set_nil (greedy : Bool) : rounds greedy (set chars ()).ways [] = [[]] := by
  rw [rounds]
  cases greedy <;> simp [ways]

theorem rounds_set_cons (greedy : Bool) (c : Char) (text : List Char) :
    rounds greedy (set chars ()).ways (c :: text) =
      let more := if chars.contains c then rounds greedy (set chars ()).ways text else []
      if greedy then more ++ [c :: text] else (c :: text) :: more := by
  rw [rounds]
  cases h : chars.contains c <;> simp [ways, h]

/-- A loop over a set takes any number of its characters. -/
theorem mem_rounds_set {greedy : Bool} {rest : List Char} :
    rest ∈ rounds greedy (set chars ()).ways text ↔
      ∃ taken, text = taken ++ rest ∧ ∀ c ∈ taken, chars.contains c = true := by
  induction text with
  | nil =>
    rw [rounds_set_nil, List.mem_singleton]
    constructor
    · rintro rfl
      exact ⟨[], rfl, by simp⟩
    · rintro ⟨taken, htext, -⟩
      exact (List.append_eq_nil_iff.1 htext.symm).2
  | cons c text ih =>
    have hmem : rest ∈ rounds greedy (set chars ()).ways (c :: text) ↔
        rest = c :: text ∨ chars.contains c = true ∧
          rest ∈ rounds greedy (set chars ()).ways text := by
      rw [rounds_set_cons]
      cases greedy <;> cases chars.contains c <;> simp [or_comm]
    rw [hmem, ih]
    constructor
    · rintro (rfl | ⟨hc, taken, rfl, htaken⟩)
      · exact ⟨[], rfl, by simp⟩
      · exact ⟨c :: taken, rfl, by simpa using ⟨hc, htaken⟩⟩
    · rintro ⟨taken, htext, htaken⟩
      cases taken with
      | nil => exact .inl htext.symm
      | cons d taken =>
        obtain ⟨rfl, rfl⟩ := List.cons.inj htext
        exact .inr ⟨htaken c (by simp), taken, rfl, fun d hd => htaken d (by simp [hd])⟩

/-- A lazy loop over all characters stops at the first place from which `next` goes on. -/
theorem findSome?_rounds_lazy (hall : ∀ c, chars.contains c = true) :
    (rounds false (set chars ()).ways text).findSome? next = some t ↔
      ∃ taken rest, text = taken ++ rest ∧ next rest = some t ∧
        ∀ part more, taken = part ++ more → more ≠ [] → next (more ++ rest) = none := by
  induction text with
  | nil =>
    rw [rounds_set_nil]
    constructor
    · intro h
      exact ⟨[], [], rfl, by simpa using h, by simp⟩
    · rintro ⟨taken, rest, htext, hrest, -⟩
      simpa [(List.append_eq_nil_iff.1 htext.symm).2] using hrest
  | cons c text ih =>
    have hcons : (rounds false (set chars ()).ways (c :: text)).findSome? next =
        (next (c :: text)).or ((rounds false (set chars ()).ways text).findSome? next) := by
      rw [rounds_set_cons, hall c]
      cases h : next (c :: text) <;> simp [h]
    rw [hcons]
    constructor
    · intro h
      cases hc : next (c :: text) with
      | some o => exact ⟨[], c :: text, rfl, by simpa [hc] using h, by simp⟩
      | none =>
        rw [hc, Option.none_or] at h
        obtain ⟨taken, rest, rfl, hrest, hfirst⟩ := ih.1 h
        refine ⟨c :: taken, rest, rfl, hrest, fun part more htaken hmore => ?_⟩
        cases part with
        | nil => rw [← htaken.trans (List.nil_append more)]; exact hc
        | cons d part => exact hfirst part more (List.cons.inj htaken).2 hmore
    · rintro ⟨taken, rest, htext, hrest, hfirst⟩
      cases taken with
      | nil => rw [htext, List.nil_append, hrest, Option.some_or]
      | cons d taken =>
        obtain ⟨rfl, rfl⟩ := List.cons.inj htext
        have hfront : next (c :: (taken ++ rest)) = none := hfirst [] (c :: taken) rfl (by simp)
        change (next (c :: (taken ++ rest))).or _ = _
        rw [hfront, Option.none_or]
        exact ih.2 ⟨taken, rest, rfl, hrest, fun part more htaken =>
          hfirst (c :: part) more (by rw [htaken, List.cons_append])⟩

end Pattern

namespace Form

open Pattern

/-- The form stands for a plain pattern, whose choices need no numbers. -/
def Plain (f : Form) : Prop := f.spelledOut.isPlain = true ∧ f.spelledOut.ambiguous = false

/-- The outcome of the first way that `next` can go on from. -/
def first (f : Form) (next : List Char → Outcome) (text : List Char) : Outcome :=
  f.spelledOut.first next text

theorem toPattern_of_plain {f : Form} (h : f.Plain) : f.toPattern = f.spelledOut := by
  rw [toPattern, numbered, h.2]
  rfl

/-! ## Sequences -/

theorem allOf_cons (f : Form) (forms : List Form) :
    (f = .empty ∧ allOf (f :: forms) = allOf forms) ∨
      (allOf forms = .empty ∧ allOf (f :: forms) = f) ∨
      allOf (f :: forms) = .seq f (allOf forms) := by
  cases f <;> cases hforms : allOf forms <;> simp [allOf, hforms]

theorem plain_allOf {forms : List Form} (h : ∀ f ∈ forms, f.Plain) : (allOf forms).Plain := by
  induction forms with
  | nil => exact ⟨rfl, rfl⟩
  | cons f forms ih =>
    have hf := h f (by simp)
    have hforms := ih fun f hf => h f (by simp [hf])
    obtain ⟨-, heq⟩ | ⟨-, heq⟩ | heq := allOf_cons f forms <;> rw [heq]
    · exact hforms
    · exact hf
    · exact ⟨by simp [spelledOut, isPlain, hf.1, hforms.1],
        by simp [spelledOut, ambiguous, hf.2, hforms.2]⟩

theorem first_empty : Form.empty.first next = next := by
  funext text
  simp [first, spelledOut, Pattern.first, ways]

/-- The first way through a sequence goes through its parts in turn. -/
theorem first_allOf (f : Form) (forms : List Form) :
    (allOf (f :: forms)).first next = f.first ((allOf forms).first next) := by
  obtain ⟨hempty, heq⟩ | ⟨hempty, heq⟩ | heq := allOf_cons f forms
  · rw [heq, hempty, first_empty]
  · rw [heq, hempty, first_empty]
  · funext text
    rw [heq, first, spelledOut, Pattern.first, ways, findSome?_flatMap]
    rfl

/-! ## Characters of a set -/

theorem plain_set (chars : CharSet) : (Form.set chars).Plain := ⟨rfl, rfl⟩

theorem first_set : (Form.set chars).first next text = some t ↔
    ∃ c rest, text = c :: rest ∧ chars.contains c = true ∧ next rest = some t :=
  Pattern.first_set

/-- A text is taken character by character. -/
theorem first_letters (letters : List Char) (forms : List Form) :
    (allOf (letters.map (fun c => .set (.singleton c)) ++ forms)).first next text = some t ↔
      ∃ rest, text = letters ++ rest ∧ (allOf forms).first next rest = some t := by
  induction letters generalizing text with
  | nil => simp
  | cons c letters ih =>
    rw [List.map_cons, List.cons_append, first_allOf, first_set]
    constructor
    · rintro ⟨d, rest, rfl, hd, hrest⟩
      obtain rfl := CharSet.contains_singleton.1 hd
      obtain ⟨rest, rfl, hlater⟩ := ih.1 hrest
      exact ⟨rest, rfl, hlater⟩
    · rintro ⟨rest, rfl, hrest⟩
      exact ⟨c, _, rfl, CharSet.contains_singleton.2 rfl, ih.2 ⟨rest, rfl, hrest⟩⟩

/-! ## Repetitions -/

theorem spelledOut_loop (greedy : Bool) (chars : CharSet) :
    (rep 0 none greedy (.set chars)).spelledOut = .star none greedy (.set chars ()) := rfl

theorem plain_loop (greedy : Bool) (chars : CharSet) : (rep 0 none greedy (.set chars)).Plain :=
  ⟨rfl, rfl⟩

/-- A loop over a set can be passed if `next` goes on behind some of its characters. -/
theorem first_loop_ne_none (greedy : Bool) :
    (rep 0 none greedy (.set chars)).first next text ≠ none ↔
      ∃ taken rest, text = taken ++ rest ∧ (∀ c ∈ taken, chars.contains c = true) ∧
        next rest ≠ none := by
  rw [first, spelledOut_loop, Pattern.first, ways, Ne, List.findSome?_eq_none_iff]
  simp only [mem_rounds_set]
  grind

theorem exists_of_first_loop {greedy : Bool}
    (h : (rep 0 none greedy (.set chars)).first next text = some t) :
    ∃ taken rest, text = taken ++ rest ∧ (∀ c ∈ taken, chars.contains c = true) ∧
      next rest = some t := by
  obtain ⟨rest, hrest, hnext⟩ := List.exists_of_findSome?_eq_some h
  obtain ⟨taken, rfl, htaken⟩ := mem_rounds_set.1 hrest
  exact ⟨taken, rest, rfl, htaken, hnext⟩

/-- A lazy loop over all characters stops at the first place from which `next` goes on. -/
theorem first_lazy (hall : ∀ c, chars.contains c = true) :
    (rep 0 none false (.set chars)).first next text = some t ↔
      ∃ taken rest, text = taken ++ rest ∧ next rest = some t ∧
        ∀ part more, taken = part ++ more → more ≠ [] → next (more ++ rest) = none :=
  findSome?_rounds_lazy hall

theorem first_times {last : Pattern Unit} (n : Nat) :
    (times (.set chars ()) last n).first next text = some t ↔
      ∃ taken rest, text = taken ++ rest ∧ taken.length = n ∧
        (∀ c ∈ taken, chars.contains c = true) ∧ last.first next rest = some t := by
  induction n generalizing text with
  | zero =>
    constructor
    · intro h
      exact ⟨[], text, rfl, rfl, by simp, h⟩
    · rintro ⟨taken, rest, rfl, hlength, -, hlast⟩
      rw [List.length_eq_zero_iff.1 hlength]
      exact hlast
  | succ n ih =>
    rw [times, Pattern.first, ways, findSome?_flatMap]
    refine Pattern.first_set.trans ?_
    constructor
    · rintro ⟨c, rest, rfl, hc, hrest⟩
      obtain ⟨taken, rest, rfl, rfl, htaken, hlast⟩ := ih.1 hrest
      exact ⟨c :: taken, rest, rfl, rfl, by simpa using ⟨hc, htaken⟩, hlast⟩
    · rintro ⟨taken, rest, rfl, hlength, htaken, hlast⟩
      cases taken with
      | nil => cases hlength
      | cons c taken =>
        refine ⟨c, taken ++ rest, rfl, htaken c (by simp), ih.2 ?_⟩
        exact ⟨taken, rest, rfl, by simpa using hlength, fun d hd => htaken d (by simp [hd]), hlast⟩

theorem spelledOut_counted (n : Nat) (chars : CharSet) :
    (repeated n (some n) true (.set chars)).spelledOut = times (.set chars ()) .empty n ∨
      ∃ m, n = m + 1 ∧ (repeated n (some n) true (.set chars)).spelledOut =
        times (.set chars ()) (.set chars ()) m := by
  match n with
  | 0 => exact .inl rfl
  | 1 => exact .inr ⟨0, rfl, rfl⟩
  | m + 2 => exact .inr ⟨m + 1, rfl, by simp [repeated, takesNothing, spelledOut]⟩

theorem isPlain_times {body last : Pattern Unit} (hbody : body.isPlain = true)
    (hlast : last.isPlain = true) (n : Nat) : (times body last n).isPlain = true := by
  induction n with
  | zero => exact hlast
  | succ n ih => simp [times, isPlain, hbody, ih]

theorem ambiguous_times {body last : Pattern Unit} (hbody : body.ambiguous = false)
    (hlast : last.ambiguous = false) (n : Nat) : (times body last n).ambiguous = false := by
  induction n with
  | zero => exact hlast
  | succ n ih => simp [times, ambiguous, hbody, ih]

theorem plain_counted (n : Nat) (chars : CharSet) :
    (repeated n (some n) true (.set chars)).Plain := by
  obtain h | ⟨m, -, h⟩ := spelledOut_counted n chars <;> rw [Plain, h]
  · exact ⟨isPlain_times rfl rfl _, ambiguous_times rfl rfl _⟩
  · exact ⟨isPlain_times rfl rfl _, ambiguous_times rfl rfl _⟩

/-- A counted repetition takes just as many characters. -/
theorem first_counted (n : Nat) :
    (repeated n (some n) true (.set chars)).first next text = some t ↔
      ∃ taken rest, text = taken ++ rest ∧ taken.length = n ∧
        (∀ c ∈ taken, chars.contains c = true) ∧ next rest = some t := by
  obtain h | ⟨m, rfl, h⟩ := spelledOut_counted n chars <;> rw [first, h]
  · have hempty : Pattern.empty.first next = next := first_empty
    rw [first_times, hempty]
  · rw [first_times]
    constructor
    · rintro ⟨taken, rest, rfl, rfl, htaken, hlast⟩
      obtain ⟨c, rest, rfl, hc, hnext⟩ := Pattern.first_set.1 hlast
      refine ⟨taken ++ [c], rest, by simp, by simp, fun d hd => ?_, hnext⟩
      rw [List.mem_append, List.mem_singleton] at hd
      exact hd.elim (htaken d) fun hd => hd ▸ hc
    · rintro ⟨taken, rest, rfl, hlength, htaken, hnext⟩
      obtain rfl | ⟨taken, c, rfl⟩ := List.eq_nil_or_concat taken
      · cases hlength
      · exact ⟨taken, c :: rest, by simp, by simpa using hlength,
          fun d hd => htaken d (by simp [hd]),
          Pattern.first_set.2 ⟨c, rest, rfl, htaken c (by simp), hnext⟩⟩

end Form

/-! ## Searching -/

theorem matchesAt_tails (find : List Char → Outcome) (text : List Char) :
    matchesAt text text.length (text.tails.map find) =
      text.tails.map fun s => (find s).map fun t => ⟨s.length - t.left, ⟨s, s.length, t⟩⟩ := by
  induction text with
  | nil => rfl
  | cons c text ih => exact congrArg (_ :: ·) ih

/-- The match at the front of a text. -/
def found (p : Pattern Unit) (text : List Char) : Option (Occurrence Match) :=
  (p.first Pattern.stop text).map fun t => ⟨text.length - t.left, ⟨text, text.length, t⟩⟩

/-- What is left behind a match says how long it is. -/
theorem exists_found {p : Pattern Unit} {span rest : List Char}
    (h : p.first Pattern.stop (span ++ rest) = some ⟨rest.length, []⟩) :
    ∃ detail, found p (span ++ rest) = some ⟨span.length, detail⟩ := by
  have hlength : (span ++ rest).length - rest.length = span.length := by simp
  have hfound : found p (span ++ rest) = some ⟨(span ++ rest).length - rest.length,
      ⟨span ++ rest, (span ++ rest).length, ⟨rest.length, []⟩⟩⟩ := congrArg (Option.map _) h
  exact ⟨_, hlength ▸ hfound⟩

theorem occurrences_eq {r : Regex} (h : r.pattern.isPlain = true) (text : List Char) :
    r.occurrences text = text.tails.map (found r.pattern) := by
  rw [occurrences, Pattern.outcomes_eq h, matchesAt_tails]
  rfl

end SourcePatch.Regex
