import SourcePatch.Proofs.Regex.Parts
import SourcePatch.Rule.Basic

/-!
# The regular expression of a block

The expression of a block is read as what it is meant to be: a line break, white space, the
characters of the header, anything, a line break, blanks and a brace.

## Main definitions

* `blockForm`: these parts one behind the other.

## Main statements

* `read?_blockRegex`: the expression is read as this form, if the indentation can be counted.
-/

namespace SourcePatch.Regex

/-- Every character, by way of a set and its complement. -/
def anyChar : CharSet := .unions [CharSet.whiteSpace.complement, .whiteSpace]

/-- A blank or a tab. -/
def blankChar : CharSet := .unions [.singleton '\t', .singleton ' ']

/-- The parts of the expression of a block. -/
def blockParts (header : List Char) (indent : Nat) : List Form :=
  .set (.singleton '\n') :: .rep 0 none true (.set .whiteSpace) ::
    (header.map fun c => .set (.singleton c)) ++
      [.rep 0 none false (.set anyChar), .set (.singleton '\n'),
        .repeated indent (some indent) true (.set blankChar), .set (.singleton '}')]

def blockForm (header : List Char) (indent : Nat) : Form := .allOf (blockParts header indent)

/-! ## Reading -/

/-- Reading has come behind `items`, the last of which is named first. -/
def Reading.behind (items : List Item) : Reading := ⟨⟨.initial, items, []⟩, [], 0, []⟩

/-- One character of a set. -/
def Item.oneOf (chars : CharSet) (height : Nat) : Item := ⟨.set chars, height, true⟩

variable {fuel : Nat} {items : List Item} {c : Char} {text rest : List Char}

theorem readOn_cons (items' : List Item)
    (h : step? (.behind items) c text = some (.behind items', rest)) :
    readOn (fuel + 1) (.behind items) (c :: text) = readOn fuel (.behind items') rest := by
  change (step? (.behind items) c text).bind _ = _
  rw [h]
  rfl

/-- What follows a repetition is no question mark, so it is greedy. -/
theorem step?_star {chars : CharSet} {height : Nat} (h : ∀ rest, text ≠ '?' :: rest) :
    step? (.behind (.oneOf chars height :: items)) '*' text =
      some (.behind (⟨.rep 0 none true (.set chars), height + 1, true⟩ :: items), text) := by
  cases text with
  | nil => rfl
  | cons c text =>
    by_cases hc : c = '?'
    · exact absurd (hc ▸ rfl) (h text)
    · simp [step?]
      rfl

theorem isEscapable_of_isSpecial (h : isSpecial c = true) : isEscapable c = true := by
  have hall : ['\\', '.', '+', '*', '?', '(', ')', '|', '[', ']', '\x7b', '\x7d', '^', '$', '#',
      '&', '-', '~'].all isEscapable = true := rfl
  exact List.all_eq_true.1 hall c (List.contains_iff_mem.1 h)

theorem step?_escape (h : isSpecial c = true) :
    step? (.behind items) '\\' (c :: text) =
      some (.behind (.oneOf (.singleton c) 0 :: items), text) := by
  have hatom : atom? .initial ('\\' :: c :: text) = some (.letter c, text) :=
    if_pos (isEscapable_of_isSpecial h)
  change (atom? .initial ('\\' :: c :: text)).bind _ = _
  rw [hatom]
  rfl

theorem step?_letter (h : isSpecial c = false) :
    step? (.behind items) c text = some (.behind (.oneOf (.singleton c) 0 :: items), text) := by
  have hatom : atom? .initial (c :: text) = some (.letter c, text) := by
    unfold atom?
    split <;> simp_all [isSpecial]
  unfold step?
  split
  all_goals first
    | cases h
    | (change (atom? .initial (_ :: text)).bind _ = _
       rw [hatom]
       rfl)

/-- A text that is escaped is read as its characters. -/
theorem readOn_escape (letters : List Char) :
    readOn (fuel + letters.length) (.behind items) (escape letters ++ rest) =
      readOn fuel (.behind ((letters.map fun c => .oneOf (.singleton c) 0).reverse ++ items))
        rest := by
  induction letters generalizing items with
  | nil => rfl
  | cons c letters ih =>
    have hc : readOn (fuel + letters.length + 1) (.behind items)
        (escape [c] ++ (escape letters ++ rest)) =
        readOn (fuel + letters.length) (.behind (.oneOf (.singleton c) 0 :: items))
          (escape letters ++ rest) := by
      cases h : isSpecial c with
      | true => simpa [escape, h] using readOn_cons _ (step?_escape h)
      | false => simpa [escape, h] using readOn_cons _ (step?_letter h)
    rw [← List.singleton_append, escape_append, List.append_assoc, List.length_append,
      List.length_singleton, Nat.add_comm 1, ← Nat.add_assoc, hc, ih]
    simp

/-! ## Counting -/

theorem not_isWhite_of_isDigit (h : c.isDigit = true) : isWhite c = false := by
  rw [Char.isDigit_iff_toNat] at h
  simp only [isWhite, CharSet.contains, CharSet.containsCode, CharSet.whiteSpace, CharSet.memRanges]
  grind

theorem run_append {p : Char → Bool} {taken : List Char} (h : ∀ c ∈ taken, p c = true)
    (hc : p c = false) : Mode.initial.run p false (taken ++ c :: rest) = (taken, c :: rest) := by
  induction taken with
  | nil => simp [Mode.run, Mode.initial, hc]
  | cons d taken ih =>
    rw [List.cons_append, Mode.run, ih fun c hc => h c (by simp [hc])]
    simp [Mode.initial, h d (by simp)]

/-- A number is read in front of a closing brace, unless it is too large. -/
theorem count?_toDigits (n : Nat) (rest : List Char) :
    count? .initial (Nat.toDigits 10 n ++ '\x7d' :: rest) =
      (if countLimit < n then none else some n, '\x7d' :: rest) := by
  have hdigits : ∀ c ∈ Nat.toDigits 10 n, c.isDigit = true := fun c hc =>
    Nat.isDigit_of_mem_toDigits (by decide) (by decide) hc
  have hfront : (Nat.toDigits 10 n ++ '\x7d' :: rest).dropWhile isWhite =
      Nat.toDigits 10 n ++ '\x7d' :: rest := by
    obtain ⟨d, digits, heq⟩ := List.exists_cons_of_ne_nil (Nat.toDigits_ne_nil (n := n) (b := 10))
    have hd := not_isWhite_of_isDigit (hdigits d (by simp [heq]))
    simp [heq, hd]
  have hvalue : (Nat.toDigits 10 n).foldl (fun n c => 10 * n + (c.toNat - '0'.toNat)) 0 = n :=
    Nat.ofDigitChars_toDigits (by decide) (by decide)
  have hbehind : ('\x7d' :: rest).dropWhile isWhite = '\x7d' :: rest := rfl
  have hne : (Nat.toDigits 10 n).isEmpty = false := by simp [Nat.toDigits_ne_nil]
  rw [count?, hfront, run_append hdigits rfl]
  simp only [hvalue, hbehind, hne, Bool.false_or, decide_eq_true_eq]

theorem counts?_toDigits (n : Nat) (rest : List Char) :
    counts? .initial (Nat.toDigits 10 n ++ '\x7d' :: rest) =
      if countLimit < n then none else some (n, some n, rest) := by
  have hskip (text : List Char) : Mode.initial.skip text = text := rfl
  rw [counts?, hskip, count?_toDigits]
  by_cases h : countLimit < n
  · rw [if_pos h, if_pos h]; rfl
  · rw [if_neg h, if_neg h]; rfl

/-! ## The whole expression -/

/-- What the parts of the expression of a block are read as, from last to first. -/
def blockItems (header : List Char) (indent : Nat) : List Item :=
  [.oneOf (.singleton '\x7d') 0, ⟨.repeated indent (some indent) true (.set blankChar), 3, true⟩,
    .oneOf (.singleton '\n') 0, ⟨.rep 0 none false (.set anyChar), 3, true⟩] ++
    ((header.map fun c => .oneOf (.singleton c) 0).reverse ++
      [⟨.rep 0 none true (.set .whiteSpace), 1, true⟩, .oneOf (.singleton '\n') 0])

theorem escape_append_ne (letters rest rest' : List Char) :
    escape letters ++ '[' :: rest ≠ '?' :: rest' := by
  cases letters with
  | nil => simp [escape]
  | cons c letters =>
    rw [← List.singleton_append, escape_append]
    cases hc : isSpecial c with
    | true => simp [escape, hc]
    | false =>
      have hne : c ≠ '?' := by rintro rfl; cases hc
      simp [escape, hc, hne]

theorem step?_counted {chars : CharSet} {height : Nat} (n : Nat) (rest : List Char) :
    step? (.behind (.oneOf chars height :: items)) '\x7b'
        (Nat.toDigits 10 n ++ '\x7d' :: '\\' :: rest) =
      if countLimit < n then none
      else some (.behind (⟨.repeated n (some n) true (.set chars), height + 1, true⟩ :: items),
        '\\' :: rest) := by
  change (counts? .initial (Nat.toDigits 10 n ++ '\x7d' :: '\\' :: rest)).bind _ = _
  rw [counts?_toDigits]
  split <;> rfl

theorem toList_blockRegex (header : String) (indent : Nat) :
    (blockRegex header indent).toList =
      '\\' :: 'n' :: '\\' :: 's' :: '*' :: (escape header.toList ++
        '[' :: '\\' :: 's' :: '\\' :: 'S' :: ']' :: '*' :: '?' :: '\\' :: 'n' ::
          '[' :: ' ' :: '\\' :: 't' :: ']' :: '\x7b' ::
            (Nat.toDigits 10 indent ++ ['\x7d', '\\', '\x7d'])) := by
  simp [blockRegex]

theorem readOn_blockRegex (header : String) (indent : Nat) :
    readOn (fuel + 7 + header.toList.length + 3) .start (blockRegex header indent).toList =
      if countLimit < indent then none else some (.behind (blockItems header.toList indent)) := by
  have hbefore (rest : List Char) : readOn (fuel + 7 + header.toList.length + 3) (.behind [])
      ('\\' :: 'n' :: '\\' :: 's' :: '*' :: (escape header.toList ++ '[' :: rest)) =
      readOn (fuel + 7) (.behind ((header.toList.map fun c => .oneOf (.singleton c) 0).reverse ++
        [⟨.rep 0 none true (.set .whiteSpace), 1, true⟩, .oneOf (.singleton '\n') 0]))
        ('[' :: rest) := by
    rw [readOn_cons ([.oneOf (.singleton '\n') 0]) rfl,
      readOn_cons ([.oneOf .whiteSpace 0, .oneOf (.singleton '\n') 0]) rfl,
      readOn_cons _ (step?_star (escape_append_ne _ _)), readOn_escape]
  have hbehind (items : List Item) : readOn (fuel + 7) (.behind items)
      ('[' :: '\\' :: 's' :: '\\' :: 'S' :: ']' :: '*' :: '?' :: '\\' :: 'n' ::
        '[' :: ' ' :: '\\' :: 't' :: ']' :: '\x7b' ::
          (Nat.toDigits 10 indent ++ ['\x7d', '\\', '\x7d'])) =
      if countLimit < indent then none else some (.behind
        (.oneOf (.singleton '\x7d') 0 ::
          ⟨.repeated indent (some indent) true (.set blankChar), 3, true⟩ ::
          .oneOf (.singleton '\n') 0 :: ⟨.rep 0 none false (.set anyChar), 3, true⟩ :: items)) := by
    rw [readOn_cons (.oneOf anyChar 2 :: items) rfl,
      readOn_cons (⟨.rep 0 none false (.set anyChar), 3, true⟩ :: items) rfl,
      readOn_cons (.oneOf (.singleton '\n') 0 ::
        ⟨.rep 0 none false (.set anyChar), 3, true⟩ :: items) rfl,
      readOn_cons (.oneOf blankChar 2 :: .oneOf (.singleton '\n') 0 ::
        ⟨.rep 0 none false (.set anyChar), 3, true⟩ :: items) rfl]
    change (step? _ '\x7b' _).bind _ = _
    rw [step?_counted]
    by_cases h : countLimit < indent
    · rw [if_pos h, if_pos h]; rfl
    · rw [if_neg h, if_neg h]; exact readOn_cons _ (step?_escape rfl)
  rw [toList_blockRegex]
  exact (hbefore _).trans (hbehind _)

theorem length_le_escape (letters : List Char) : letters.length ≤ (escape letters).length := by
  induction letters with
  | nil => exact Nat.le_refl 0
  | cons c letters ih =>
    rw [← List.singleton_append, escape_append, List.length_append, List.length_append]
    refine Nat.add_le_add ?_ ih
    cases hc : isSpecial c <;> simp [escape, hc]

theorem foldl_max_le {l : List Nat} {a b : Nat} (ha : a ≤ b) (h : ∀ n ∈ l, n ≤ b) :
    l.foldl max a ≤ b := by
  induction l generalizing a with
  | nil => exact ha
  | cons n l ih =>
    exact ih (Nat.max_le.2 ⟨ha, h n (by simp)⟩) fun m hm => h m (by simp [hm])

/-- The parts of the expression of a block are hardly nested. -/
theorem height_blockItems {header : List Char} {indent : Nat} {i : Item}
    (h : i ∈ blockItems header indent) : i.height ≤ 3 := by
  simp only [blockItems, List.mem_append, List.mem_reverse, List.mem_map, List.mem_cons,
    List.not_mem_nil, or_false] at h
  obtain (rfl | rfl | rfl | rfl) | ⟨_, _, rfl⟩ | rfl | rfl := h <;> simp [Item.oneOf]

/-- The expression of a block is read as the form of a block, unless the indentation is too large
to be counted. -/
theorem read?_blockRegex (header : String) (indent : Nat) :
    read? (blockRegex header indent).toList =
      if countLimit < indent then none else some (blockForm header.toList indent, []) := by
  obtain ⟨fuel, hfuel⟩ : ∃ fuel,
      (blockRegex header indent).toList.length + 1 = fuel + 7 + header.toList.length + 3 := by
    have hlength := length_le_escape header.toList
    refine ⟨(blockRegex header indent).toList.length - header.toList.length - 9, ?_⟩
    simp only [toList_blockRegex, List.length_cons, List.length_append]
    omega
  rw [read?, hfuel, readOn_blockRegex]
  by_cases h : countLimit < indent
  · rw [if_pos h, if_pos h]; rfl
  · have hwhole : (Reading.behind (blockItems header.toList indent)).level.whole =
        ⟨.allOf ((blockItems header.toList indent).reverse.map (·.form)),
          ((blockItems header.toList indent).map (·.height)).foldl max 0 + 1, true⟩ := rfl
    have hheight : ((blockItems header.toList indent).map (·.height)).foldl max 0 ≤ 3 :=
      foldl_max_le (by decide) fun n hn => by
        obtain ⟨i, hi, rfl⟩ := List.mem_map.1 hn
        exact height_blockItems hi
    have hform : (blockItems header.toList indent).reverse.map (·.form) =
        blockParts header.toList indent := by
      simp [blockItems, blockParts, Item.oneOf, Function.comp_def]
    have hlimit : ((blockItems header.toList indent).map (·.height)).foldl max 0 + 1 ≤
        heightLimit := by
      unfold heightLimit
      omega
    have houter : (Reading.behind (blockItems header.toList indent)).outer.isEmpty = true := rfl
    rw [if_neg h, if_neg h, Option.bind_eq_bind, Option.bind_some, hwhole, hform, guard, guard,
      if_pos houter, if_pos hlimit]
    rfl

/-! ## The form -/

theorem anyChar_eq : anyChar = .full := by
  simp [anyChar, CharSet.unions, CharSet.whiteSpace, CharSet.complement, CharSet.gaps,
    CharSet.ofRanges, CharSet.coalesce, CharSet.full, CharSet.maxCode, List.mergeSort,
    List.MergeSort.Internal.splitInTwo]

theorem blankChar_eq : blankChar = ⟨[(0x9, 0x9), (0x20, 0x20)]⟩ := by
  simp [blankChar, CharSet.unions, CharSet.singleton, CharSet.range, CharSet.ofRanges,
    CharSet.coalesce, List.mergeSort, List.MergeSort.Internal.splitInTwo]

/-- The form with its sets spelled out, which can be run. -/
theorem blockForm_eq (header : List Char) (indent : Nat) : blockForm header indent =
    .allOf (.set (.singleton '\n') :: .rep 0 none true (.set .whiteSpace) ::
      (header.map fun c => .set (.singleton c)) ++
        [.rep 0 none false (.set .full), .set (.singleton '\n'),
          .repeated indent (some indent) true (.set ⟨[(0x9, 0x9), (0x20, 0x20)]⟩),
          .set (.singleton '\x7d')]) := by
  rw [blockForm, blockParts, anyChar_eq, blankChar_eq]

theorem contains_anyChar (c : Char) : anyChar.contains c = true :=
  anyChar_eq ▸ CharSet.contains_full c

theorem contains_blankChar : blankChar.contains c = true ↔ c = ' ' ∨ c = '\t' := by
  have hblank := CharSet.contains_singleton (c := ' ') (d := c)
  have htab := CharSet.contains_singleton (c := '\t') (d := c)
  rw [← hblank, ← htab, blankChar_eq]
  simp only [CharSet.contains, CharSet.containsCode, CharSet.singleton, CharSet.range,
    CharSet.memRanges]
  grind

theorem plain_blockForm (header : List Char) (indent : Nat) : (blockForm header indent).Plain := by
  refine Form.plain_allOf fun f hf => ?_
  simp only [blockParts, List.cons_append, List.mem_cons, List.mem_append, List.mem_map,
    List.not_mem_nil, or_false] at hf
  obtain rfl | rfl | ⟨c, -, rfl⟩ | rfl | rfl | rfl | rfl := hf
  all_goals first
    | exact Form.plain_set _
    | exact Form.plain_loop _ _
    | exact Form.plain_counted _ _

/-- The expression of a block counts too far, or takes too many bytes. -/
def TooLarge (header : List Char) (indent : Nat) : Prop :=
  countLimit < indent ∨ Form.costLimit < (blockForm header indent).cost

instance (header : List Char) (indent : Nat) : Decidable (TooLarge header indent) :=
  inferInstanceAs (Decidable (_ ∨ _))

/-- The regular expression for blocks of a header. -/
def ofBlock (header : String) (indent : Nat) : Regex :=
  ⟨(blockForm header.toList indent).spelledOut, []⟩

theorem compile?_blockRegex (header : String) (indent : Nat) :
    compile? (blockRegex header indent).toList =
      if TooLarge header.toList indent then none else some (.ofBlock header indent) := by
  have hform := Form.toPattern_of_plain (plain_blockForm header.toList indent)
  rw [compile?, read?_blockRegex]
  by_cases hcount : countLimit < indent
  · rw [if_pos hcount, if_pos (show TooLarge _ _ from .inl hcount)]
    rfl
  · rw [if_neg hcount, Option.bind_eq_bind, Option.bind_some]
    dsimp only
    by_cases hcost : Form.costLimit < (blockForm header.toList indent).cost
    · rw [if_pos (show TooLarge _ _ from .inr hcost), guard, if_neg (Nat.not_le.2 hcost)]
      rfl
    · rw [if_neg (show ¬ TooLarge _ _ from not_or.2 ⟨hcount, hcost⟩), guard,
        if_pos (Nat.not_lt.1 hcost), hform]
      rfl

end SourcePatch.Regex
