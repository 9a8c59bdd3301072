import SourcePatch.Proofs.Rule.BlockRegex
import SourcePatch.Proofs.Text.Scan

/-!
# Blocks

A block starts with a line break, white space and the header of a rule, and goes up to the first
closing behind the header: a line break, just as many blanks as the rule says, and a brace. A rule
for blocks replaces them as a scan does.

## Main definitions

* `Closing`: the line break, the blanks and the brace that end a block.
* `IsBlock`: a block, and what stands behind it.

## Main statements

* `IsBlock.unique`: where a block starts, its end is settled.
* `Rule.apply_block`: a rule for blocks does what a scan for blocks does.
-/

namespace SourcePatch

/-- A line break, just `indent` blanks or tabs, and a closing brace. -/
def Closing (indent : Nat) (text : List Char) : Prop :=
  ∃ blanks, text = '\n' :: (blanks ++ ['\x7d']) ∧ blanks.length = indent ∧
    ∀ c ∈ blanks, c = ' ' ∨ c = '\t'

/-- A block in front of `rest`. The closing is the first one from the end of the header on. -/
def IsBlock (header : List Char) (indent : Nat) (block rest : List Char) : Prop :=
  ∃ white body closing, block = '\n' :: (white ++ (header ++ (body ++ closing))) ∧
    (∀ c ∈ white, isWhite c = true) ∧ Closing indent closing ∧
    ∀ part more, body = part ++ more → more ≠ [] →
      ¬ ∃ earlier, Closing indent earlier ∧ earlier <+: more ++ (closing ++ rest)

variable {header : List Char} {indent : Nat}

theorem Closing.length_eq {closing : List Char} (h : Closing indent closing) :
    closing.length = indent + 2 := by
  obtain ⟨blanks, rfl, rfl, -⟩ := h
  simp

/-- White space in front of a header that has more than white space is settled. -/
theorem white_unique (hheader : ∃ c ∈ header, isWhite c = false)
    {white white' rest rest' : List Char}
    (hwhite : ∀ c ∈ white, isWhite c = true) (hwhite' : ∀ c ∈ white', isWhite c = true)
    (heq : white ++ (header ++ rest) = white' ++ (header ++ rest')) : white = white' := by
  have htake (rest : List Char) :
      (header ++ rest).takeWhile isWhite = header.takeWhile isWhite := by
    refine (List.takeWhile_append).trans (if_neg fun hlength => ?_)
    obtain ⟨c, hc, hcw⟩ := hheader
    rw [← (List.takeWhile_prefix isWhite).eq_of_length hlength] at hc
    rw [List.all_eq_true.1 List.all_takeWhile c hc] at hcw
    cases hcw
  have hlong (white rest : List Char) (hwhite : ∀ c ∈ white, isWhite c = true) :
      (white ++ (header ++ rest)).takeWhile isWhite = white ++ header.takeWhile isWhite := by
    rw [List.takeWhile_append_of_pos hwhite, htake]
  have hsame : white ++ header.takeWhile isWhite = white' ++ header.takeWhile isWhite := by
    rw [← hlong white rest hwhite, heq, hlong white' rest' hwhite']
  exact List.append_cancel_right hsame

/-- Where a block starts, its end is settled. -/
theorem IsBlock.unique (hheader : ∃ c ∈ header, isWhite c = false)
    {block rest block' rest' : List Char} (h : IsBlock header indent block rest)
    (h' : IsBlock header indent block' rest') (heq : block ++ rest = block' ++ rest') :
    block = block' := by
  obtain ⟨white, body, closing, rfl, hwhite, hclosing, hfirst⟩ := h
  obtain ⟨white', body', closing', rfl, hwhite', hclosing', hfirst'⟩ := h'
  simp only [List.cons_append, List.append_assoc, List.cons.injEq, true_and] at heq
  obtain rfl := white_unique hheader hwhite hwhite' heq
  have hbody := List.append_cancel_left (List.append_cancel_left heq)
  obtain rfl : body = body' := by
    obtain ⟨more, hmore, htext⟩ | ⟨more, hmore, htext⟩ := List.append_eq_append_iff.1 hbody
    · by_cases hnil : more = []
      · simpa [hnil] using hmore.symm
      · exact absurd ⟨closing, hclosing, rest, htext⟩ (hfirst' body more hmore hnil)
    · by_cases hnil : more = []
      · simpa [hnil] using hmore
      · exact absurd ⟨closing', hclosing', rest', htext⟩ (hfirst body' more hmore hnil)
  have hlength : closing.length = closing'.length :=
    hclosing.length_eq.trans hclosing'.length_eq.symm
  rw [List.append_inj_left (List.append_cancel_left hbody) hlength]

namespace Regex

open Form

variable {text : List Char} {t : Trail}

/-- The parts of an expression that end a block. -/
def closingParts (indent : Nat) : List Form :=
  [.set (.singleton '\n'), .repeated indent (some indent) true (.set blankChar),
    .set (.singleton '\x7d')]

theorem first_closingParts : (allOf (closingParts indent)).first Pattern.stop text = some t ↔
    ∃ closing rest, text = closing ++ rest ∧ Closing indent closing ∧ t = ⟨rest.length, []⟩ := by
  have hend : (allOf []).first Pattern.stop = Pattern.stop := first_empty
  rw [closingParts, first_allOf, first_allOf, first_allOf, hend, first_set]
  simp only [first_counted, first_set, CharSet.contains_singleton, contains_blankChar, Pattern.stop,
    Option.some.injEq]
  constructor
  · rintro ⟨_, _, rfl, rfl, blanks, _, rfl, hlength, hblanks, _, rest, rfl, rfl, rfl⟩
    exact ⟨_, rest, by simp, ⟨blanks, rfl, hlength, hblanks⟩, rfl⟩
  · rintro ⟨_, rest, rfl, ⟨blanks, rfl, hlength, hblanks⟩, rfl⟩
    exact ⟨'\n', blanks ++ '\x7d' :: rest, by simp, rfl, blanks, _, rfl, hlength, hblanks, '\x7d',
      rest, rfl, rfl, rfl⟩

/-- A lazy body goes up to the first closing. -/
theorem first_body : (allOf (.rep 0 none false (.set anyChar) :: closingParts indent)).first
      Pattern.stop text = some t ↔
    ∃ body closing rest, text = body ++ (closing ++ rest) ∧ Closing indent closing ∧
      t = ⟨rest.length, []⟩ ∧ ∀ part more, body = part ++ more → more ≠ [] →
        ¬ ∃ earlier, Closing indent earlier ∧ earlier <+: more ++ (closing ++ rest) := by
  have hnone (text : List Char) : (allOf (closingParts indent)).first Pattern.stop text = none ↔
      ¬ ∃ earlier, Closing indent earlier ∧ earlier <+: text := by
    rw [← not_iff_not, not_not, ← Ne, Option.ne_none_iff_exists']
    constructor
    · rintro ⟨t, ht⟩
      obtain ⟨closing, rest, rfl, hclosing, -⟩ := first_closingParts.1 ht
      exact ⟨closing, hclosing, List.prefix_append _ _⟩
    · rintro ⟨closing, hclosing, rest, rfl⟩
      exact ⟨_, first_closingParts.2 ⟨closing, rest, rfl, hclosing, rfl⟩⟩
  rw [first_allOf, first_lazy contains_anyChar]
  simp only [hnone, first_closingParts]
  constructor
  · rintro ⟨body, _, rfl, ⟨closing, rest, rfl, hclosing, rfl⟩, hfirst⟩
    exact ⟨body, closing, rest, rfl, hclosing, rfl, hfirst⟩
  · rintro ⟨body, closing, rest, rfl, hclosing, rfl, hfirst⟩
    exact ⟨body, _, rfl, ⟨closing, rest, rfl, hclosing, rfl⟩, hfirst⟩

/-- The parts of an expression from the header on. -/
def headedParts (header : List Char) (indent : Nat) : List Form :=
  header.map (fun c => .set (.singleton c)) ++
    .rep 0 none false (.set anyChar) :: closingParts indent

theorem first_headedParts : (allOf (headedParts header indent)).first Pattern.stop text = some t ↔
    ∃ body closing rest, text = header ++ (body ++ (closing ++ rest)) ∧ Closing indent closing ∧
      t = ⟨rest.length, []⟩ ∧ ∀ part more, body = part ++ more → more ≠ [] →
        ¬ ∃ earlier, Closing indent earlier ∧ earlier <+: more ++ (closing ++ rest) := by
  rw [headedParts, first_letters]
  simp only [first_body]
  constructor
  · rintro ⟨_, rfl, body, closing, rest, rfl, h⟩
    exact ⟨body, closing, rest, rfl, h⟩
  · rintro ⟨body, closing, rest, rfl, h⟩
    exact ⟨_, rfl, body, closing, rest, rfl, h⟩

theorem first_blockForm : (blockForm header indent).first Pattern.stop text = some t ↔
    ∃ rest, text = '\n' :: rest ∧ (Form.rep 0 none true (.set .whiteSpace)).first
      ((allOf (headedParts header indent)).first Pattern.stop) rest = some t := by
  have hparts : blockForm header indent = allOf (.set (.singleton '\n') ::
      .rep 0 none true (.set .whiteSpace) :: headedParts header indent) := rfl
  rw [hparts, first_allOf, first_allOf, first_set]
  simp [CharSet.contains_singleton]

/-- What an expression for blocks matches is a block. -/
theorem isBlock_of_first (h : (blockForm header indent).first Pattern.stop text = some t) :
    ∃ block rest, text = block ++ rest ∧ IsBlock header indent block rest ∧
      t = ⟨rest.length, []⟩ := by
  obtain ⟨_, rfl, hloop⟩ := first_blockForm.1 h
  obtain ⟨white, _, rfl, hwhite, hheaded⟩ := exists_of_first_loop hloop
  obtain ⟨body, closing, rest, rfl, hclosing, rfl, hfirst⟩ := first_headedParts.1 hheaded
  exact ⟨'\n' :: (white ++ (header ++ (body ++ closing))), rest, by simp,
    ⟨white, body, closing, rfl, hwhite, hclosing, hfirst⟩, rfl⟩

/-- Where a block starts, an expression for blocks matches. -/
theorem exists_first_of_isBlock {block rest : List Char} (h : IsBlock header indent block rest) :
    ∃ t, (blockForm header indent).first Pattern.stop (block ++ rest) = some t := by
  obtain ⟨white, body, closing, rfl, hwhite, hclosing, hfirst⟩ := h
  have hheaded : (allOf (headedParts header indent)).first Pattern.stop
      (header ++ (body ++ (closing ++ rest))) ≠ none :=
    Option.ne_none_iff_exists'.2
      ⟨_, first_headedParts.2 ⟨body, closing, rest, rfl, hclosing, rfl, hfirst⟩⟩
  have hloop := (first_loop_ne_none true).2 ⟨white, _, rfl, hwhite, hheaded⟩
  obtain ⟨t, ht⟩ := Option.ne_none_iff_exists'.1 hloop
  exact ⟨t, first_blockForm.2 ⟨_, by simp, ht⟩⟩

/-- An expression for blocks finds them wherever they start. -/
theorem finds_blockForm (hheader : ∃ c ∈ header, isWhite c = false) :
    Finds (IsBlock header indent) (found (blockForm header indent).spelledOut) where
  starts {text o} ho := by
    obtain ⟨t, ht, -⟩ := Option.map_eq_some_iff.1 ho
    obtain ⟨block, rest, htext, hblock, -⟩ := isBlock_of_first ht
    exact ⟨block, rest, htext, hblock⟩
  find_append {block rest} hblock := by
    obtain ⟨t, ht⟩ := exists_first_of_isBlock hblock
    obtain ⟨block', rest', htext, hblock', rfl⟩ := isBlock_of_first ht
    obtain rfl := hblock.unique hheader hblock' htext
    obtain rfl := List.append_cancel_left htext
    exact exists_found ht
  ne_nil := by
    rintro _ _ ⟨white, body, closing, rfl, -⟩
    simp

theorem occurrences_ofBlock (header : String) (indent : Nat) (text : List Char) :
    (ofBlock header indent).occurrences text =
      text.tails.map (found (blockForm header.toList indent).spelledOut) :=
  occurrences_eq (plain_blockForm header.toList indent).1 text

theorem occursIn_ofBlock_iff {header : String} (hheader : ∃ c ∈ header.toList, isWhite c = false)
    (indent : Nat) (text : List Char) : (ofBlock header indent).occursIn text = true ↔
      ∃ rest, rest <:+ text ∧ Starts (IsBlock header.toList indent) rest := by
  rw [occursIn, occurrences_ofBlock, (finds_blockForm hheader).anyOccurrence_iff]

/-- An empty text has no block. -/
theorem not_occursIn_nil {header : String} (hheader : ∃ c ∈ header.toList, isWhite c = false)
    (indent : Nat) : (ofBlock header indent).occursIn [] = false := by
  rw [occursIn, occurrences_ofBlock]
  exact (finds_blockForm hheader).not_anyOccurrence_nil

/-- A template without references stands for itself. -/
theorem expand_verbatim (text : List Char) (group : Reference → List Char) :
    Template.expand (text.map .char) group = text := by
  simp [Template.expand, List.flatMap_map]

/-- An expression that finds its matches wherever they start replaces them as a scan does. -/
theorem scan_replaceAll {r : Regex} {At : List Char → List Char → Prop}
    (hplain : r.pattern.isPlain = true) (h : Finds At (found r.pattern))
    (replacement text : List Char) :
    ∃ spans, Scan At replacement text spans (r.replaceAll (replacement.map .char) text) ∧
      (r.occursIn text = true ↔ spans ≠ []) := by
  have hrender (m : Match) :
      Template.expand (replacement.map .char) (m.reference r.names) = replacement :=
    expand_verbatim _ _
  rw [replaceAll, occursIn, occurrences_eq hplain]
  exact h.scan hrender text

/-- The expression for blocks replaces them as a scan does. -/
theorem scan_ofBlock {header : String} (hheader : ∃ c ∈ header.toList, isWhite c = false)
    (indent : Nat) (replacement text : List Char) :
    ∃ blocks, Scan (IsBlock header.toList indent) replacement text blocks
        ((ofBlock header indent).replaceAll (replacement.map .char) text) ∧
      ((ofBlock header indent).occursIn text = true ↔ blocks ≠ []) :=
  scan_replaceAll (plain_blockForm header.toList indent).1 (finds_blockForm hheader) _ _

end Regex

/-! ## Rules for blocks -/

namespace Rule

variable {r : Rule} {c : CompiledRule} {header : String}

theorem compile_block_of_isBlank (htarget : r.target = .block header indent)
    (h : isBlank header = true) : r.compile = .error (.emptySearch r.name) := by
  simp [compile, htarget, h]

/-- A rule for blocks that has a header runs the expression for its blocks, unless that is too
large. -/
theorem compile_block (htarget : r.target = .block header indent) (h : isBlank header = false) :
    r.compile = if Regex.TooLarge header.toList indent then .error (.invalidPattern r.name)
      else .ok ⟨r.name, .verbatim (.ofBlock header indent) r.replacement⟩ := by
  have hregex : r.compileRegex (blockRegex header indent) =
      if Regex.TooLarge header.toList indent then .error (.invalidPattern r.name)
      else .ok (.ofBlock header indent) := by
    have hnil := Regex.not_occursIn_nil (isBlank_eq_false_iff.1 h) indent
    rw [compileRegex, Regex.compile?_blockRegex]
    by_cases hlarge : Regex.TooLarge header.toList indent
    · rw [if_pos hlarge, if_pos hlarge]
    · rw [if_neg hlarge, if_neg hlarge]
      dsimp only
      rw [hnil]
      rfl
  simp only [compile, htarget, h, Bool.false_eq_true, if_false, hregex]
  split <;> rfl

theorem eq_of_compile_block (htarget : r.target = .block header indent)
    (hcompile : r.compile = .ok c) :
    isBlank header = false ∧ c = ⟨r.name, .verbatim (.ofBlock header indent) r.replacement⟩ := by
  cases hblank : isBlank header with
  | true =>
    rw [compile_block_of_isBlank htarget hblank] at hcompile
    cases hcompile
  | false =>
    rw [compile_block htarget hblank] at hcompile
    split at hcompile
    · cases hcompile
    · exact ⟨rfl, (Except.ok.inj hcompile).symm⟩

/-- A rule for blocks that can run does what a scan for blocks does: it replaces the same blocks,
and finds something just if there are any. -/
theorem apply_block (htarget : r.target = .block header indent) (hcompile : r.compile = .ok c)
    (text : String) :
    ∃ blocks,
      (∀ found out,
        Scan (IsBlock header.toList indent) r.replacement.toList text.toList found out ↔
          found = blocks ∧ out = (c.apply text).toList) ∧
      (c.isPresent text = true ↔ blocks ≠ []) := by
  obtain ⟨hblank, rfl⟩ := eq_of_compile_block htarget hcompile
  have hheader := isBlank_eq_false_iff.1 hblank
  obtain ⟨blocks, hscan, hpresent⟩ :=
    Regex.scan_ofBlock hheader indent r.replacement.toList text.toList
  refine ⟨blocks, fun found out => ⟨fun hfound => ?_, ?_⟩, hpresent⟩
  · have hunique := hfound.unique (fun _ _ _ _ h h' => h.unique hheader h') hscan
    exact ⟨hunique.1, hunique.2.trans String.toList_ofList.symm⟩
  · rintro ⟨rfl, rfl⟩
    rw [CompiledRule.apply, String.toList_ofList]
    exact hscan

/-- Two blocks are cut out of a text. The brace inside the first one stands too deep to end it, and
the second one has a blank line before its header. -/
theorem apply_block_metacharacters :
    let r : Rule := ⟨"drop", .block "f (.*) \x7b" 1, "$1"⟩
    let text := "a\n  f (.*) \x7b\n  \x7d\n \x7db\n\n\tf (.*) \x7b\n\t\x7d c"
    ∃ c, r.target = .block "f (.*) \x7b" 1 ∧ r.compile = .ok c ∧ c.apply text = "a$1b$1 c" ∧
      ∃ blocks,
        (∀ found out,
          Scan (IsBlock "f (.*) \x7b".toList 1) r.replacement.toList text.toList found out ↔
            found = blocks ∧ out = (c.apply text).toList) ∧
        (c.isPresent text = true ↔ blocks ≠ []) := by
  intro r text
  have hsmall : ¬ Regex.TooLarge "f (.*) \x7b".toList 1 := by
    rw [Regex.TooLarge, Regex.blockForm_eq]
    decide
  have hcompile := (compile_block (r := r) rfl (by decide)).trans (if_neg hsmall)
  have happly : CompiledRule.apply ⟨"drop", .verbatim (.ofBlock "f (.*) \x7b" 1) "$1"⟩ text =
      "a$1b$1 c" := by
    rw [Regex.ofBlock, Regex.blockForm_eq]
    decide +kernel
  exact ⟨_, rfl, hcompile, happly, apply_block rfl hcompile text⟩

end Rule

end SourcePatch
