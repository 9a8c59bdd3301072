import SourcePatch.Json.Value
import SourcePatch.Text.Hex
import Mathlib.Data.List.Infix

/-!
# Reading the tokens of JSON

A text is cut into tokens, with white space between them left out. Of the numbers only those without
a sign, a fraction and an exponent are read, as values hold no others.

## Main definitions

* `Json.Token`, and `Json.Value.tokens`: the tokens that a value is written with.
* `Json.tokens?`: the tokens of a text.

## Main statements

* `Json.tokens?_render`: the text of a value is cut into the tokens of the value.
-/

namespace SourcePatch.Json

inductive Token
  | openArray
  | closeArray
  | openObject
  | closeObject
  | comma
  | colon
  | bool (b : Bool)
  | number (n : Nat)
  | string (s : String)
  deriving DecidableEq, Repr

/-! ## Strings -/

/-- What a letter behind a backslash stands for. -/
def escaped? : Char → Option Char
  | '"' => some '"'
  | '\\' => some '\\'
  | '/' => some '/'
  | 'b' => some '\x08'
  | 'f' => some '\x0C'
  | 'n' => some '\n'
  | 'r' => some '\r'
  | 't' => some '\t'
  | _ => none

/-- The number that the first four characters give, which have to be hexadecimal digits. -/
def unit? (text : List Char) : Option Nat :=
  let digits := text.take 4
  if digits.length = 4 ∧ digits.all isHexDigit then some (hexValue digits) else none

/-- The character that two surrogates stand for. -/
def paired? (high low : Nat) : Option Char :=
  if high < 0xDC00 ∧ 0xDC00 ≤ low ∧ low < 0xE000 then
    some (Char.ofNat (0x10000 + (high - 0xD800) * 0x400 + (low - 0xDC00)))
  else none

/-- What the text behind a backslash stands for, and how many characters of it belong to the escape.
A number of four digits is a character, or else a surrogate that another one has to follow. -/
def escape? : List Char → Option (Char × Nat)
  | 'u' :: text => do
    let n ← unit? text
    if n.isValidChar then some (Char.ofNat n, 5)
    else match text.drop 4 with
      | '\\' :: 'u' :: rest => (paired? n (← unit? rest)).map (·, 11)
      | _ => none
  | c :: _ => (escaped? c).map (·, 1)
  | [] => none

/-- What a string holds up to its closing quote, and the text behind the quote. The first `skip`
characters belong to an escape that has been read. -/
def stringFrom? : (skip : Nat) → List Char → Option (List Char × List Char)
  | _, [] => none
  | skip + 1, _ :: text => stringFrom? skip text
  | 0, c :: text =>
    if c = '"' then some ([], text)
    else if c = '\\' then do
      let (e, length) ← escape? text
      (stringFrom? length text).map fun (s, rest) => (e :: s, rest)
    else if c.toNat < 0x20 then none
    else (stringFrom? 0 text).map fun (s, rest) => (c :: s, rest)

/-! ## Tokens -/

/-- The number at the start of a text, and the text behind it. A number does not start with a zero
unless it is zero. -/
def number? (text : List Char) : Option (Nat × List Char) :=
  let digits := text.takeWhile Char.isDigit
  if digits = [] ∨ digits.head? = some '0' ∧ digits ≠ ['0'] then none
  else some (Nat.ofDigitChars 10 digits 0, text.dropWhile Char.isDigit)

/-- The tokens that are a single character. -/
def mark? : Char → Option Token
  | '[' => some .openArray
  | ']' => some .closeArray
  | '{' => some .openObject
  | '}' => some .closeObject
  | ',' => some .comma
  | ':' => some .colon
  | _ => none

/-- The token at the start of a text, and the text behind it. -/
def token? : List Char → Option (Token × List Char)
  | [] => none
  | '"' :: rest => (stringFrom? 0 rest).map fun (s, rest) => (.string (.ofList s), rest)
  | 't' :: 'r' :: 'u' :: 'e' :: rest => some (.bool true, rest)
  | 'f' :: 'a' :: 'l' :: 's' :: 'e' :: rest => some (.bool false, rest)
  | c :: rest =>
    match mark? c with
    | some t => some (t, rest)
    | none => (number? (c :: rest)).map fun (n, rest) => (.number n, rest)

/-- White space between tokens. -/
def isSpace (c : Char) : Bool := c == ' ' || c == '\t' || c == '\n' || c == '\r'

theorem length_lt_of_stringFrom? {skip : Nat} {text s rest : List Char}
    (h : stringFrom? skip text = some (s, rest)) : rest.length < text.length := by
  induction text generalizing skip s with
  | nil => simp [stringFrom?] at h
  | cons c text ih =>
    refine Nat.lt_succ_iff_lt_or_eq.2 ?_
    cases skip with
    | succ skip => exact .inl (ih h)
    | zero =>
      simp only [stringFrom?] at h
      split_ifs at h with hquote hescape hcontrol
      · cases h
        exact .inr rfl
      · simp only [Option.bind_eq_bind, Option.bind_eq_some_iff, Option.map_eq_some_iff,
          Prod.exists, Prod.mk.injEq] at h
        obtain ⟨_, _, -, _, _, hs, -, rfl⟩ := h
        exact .inl (ih hs)
      · simp only [Option.map_eq_some_iff, Prod.exists, Prod.mk.injEq] at h
        obtain ⟨_, _, hs, -, rfl⟩ := h
        exact .inl (ih hs)

theorem length_lt_of_number? {text rest : List Char} {n : Nat}
    (h : number? text = some (n, rest)) : rest.length < text.length := by
  simp only [number?] at h
  split_ifs at h with hnone
  cases h
  have hdigits : 0 < (text.takeWhile Char.isDigit).length :=
    List.length_pos_of_ne_nil fun hnil => hnone (.inl hnil)
  calc (text.dropWhile Char.isDigit).length
      < (text.takeWhile Char.isDigit).length + (text.dropWhile Char.isDigit).length := by omega
    _ = text.length := by rw [← List.length_append, List.takeWhile_append_dropWhile]

/-- A token takes at least one character. -/
theorem length_lt_of_token? {text rest : List Char} {t : Token}
    (h : token? text = some (t, rest)) : rest.length < text.length := by
  unfold token? at h
  split at h
  · cases h
  · simp only [Option.map_eq_some_iff, Prod.exists, Prod.mk.injEq] at h
    obtain ⟨_, _, hstring, -, rfl⟩ := h
    exact (length_lt_of_stringFrom? hstring).trans (Nat.lt_succ_self _)
  · cases h
    grind
  · cases h
    grind
  · split at h
    · cases h
      exact Nat.lt_succ_self _
    · simp only [Option.map_eq_some_iff, Prod.exists, Prod.mk.injEq] at h
      obtain ⟨_, _, hnumber, -, rfl⟩ := h
      exact length_lt_of_number? hnumber

/-- The tokens of a text. -/
def tokens? : List Char → Option (List Token)
  | [] => some []
  | c :: text =>
    if isSpace c then tokens? text
    else
      match _h : token? (c :: text) with
      | some (t, rest) => (tokens? rest).map (t :: ·)
      | none => none
termination_by text => text.length
decreasing_by
  · exact Nat.lt_succ_self _
  · exact length_lt_of_token? _h

/-! ## The tokens of a value -/

mutual

/-- The tokens that a value is written with. -/
def Value.tokens : Value → List Token
  | .bool b => [.bool b]
  | .number n => [.number n]
  | .string s => [.string s]
  | .array [] => [.openArray, .closeArray]
  | .array (v :: rest) => .openArray :: v.tokens ++ itemTokens rest ++ [.closeArray]
  | .object [] => [.openObject, .closeObject]
  | .object ((key, v) :: rest) =>
    .openObject :: .string key :: .colon :: v.tokens ++ fieldTokens rest ++ [.closeObject]

/-- Further items, each behind a comma. -/
def itemTokens : List Value → List Token
  | [] => []
  | v :: rest => .comma :: v.tokens ++ itemTokens rest

/-- Further fields, each behind a comma. -/
def fieldTokens : List (String × Value) → List Token
  | [] => []
  | (key, v) :: rest => .comma :: .string key :: .colon :: v.tokens ++ fieldTokens rest

end

/-! ## White space and strings -/

variable {c : Char} {n depth : Nat} {t : Token} {text rest : List Char}

theorem tokens?_space (h : isSpace c = true) : tokens? (c :: text) = tokens? text := by
  rw [tokens?, if_pos h]

theorem tokens?_newline : tokens? (newline depth ++ text) = tokens? text := by
  have hblanks (k : Nat) : tokens? (List.replicate k ' ' ++ text) = tokens? text := by
    induction k with
    | zero => rfl
    | succ k ih => rw [List.replicate_succ, List.cons_append, tokens?_space rfl, ih]
  rw [newline, List.cons_append, tokens?_space rfl, hblanks]

theorem tokens?_cons (hspace : isSpace c = false) (h : token? (c :: text) = some (t, rest)) :
    tokens? (c :: text) = (tokens? rest).map (t :: ·) := by
  rw [tokens?, if_neg (by simp [hspace])]
  split
  · simp_all
  · simp_all

theorem isHexDigit_hexDigit : ∀ n < 16, isHexDigit (hexDigit n) = true := by decide

theorem hexDigitValue_hexDigit : ∀ n < 16, hexDigitValue (hexDigit n) = n := by decide

theorem unit?_hexDigit (h : n < 256) :
    unit? ('0' :: '0' :: hexDigit (n / 16) :: hexDigit (n % 16) :: text) = some n := by
  have hzero : isHexDigit '0' = true ∧ hexDigitValue '0' = 0 := by decide
  have hhigh : n / 16 < 16 := by omega
  have hlow : n % 16 < 16 := by omega
  have hvalue : hexValue ['0', '0', hexDigit (n / 16), hexDigit (n % 16)] = n := by
    simp only [hexValue, List.foldl, hzero.2, hexDigitValue_hexDigit _ hhigh,
      hexDigitValue_hexDigit _ hlow]
    omega
  simp [unit?, hvalue, hzero.1, isHexDigit_hexDigit _ hhigh, isHexDigit_hexDigit _ hlow]

/-- What is written for a character is read as the character. -/
theorem stringFrom?_escapeChar (c : Char) (text : List Char) :
    stringFrom? 0 (escapeChar c ++ text) =
      (stringFrom? 0 text).map fun (s, rest) => (c :: s, rest) := by
  unfold escapeChar
  split_ifs with h h h h h h h h
  -- seven characters are named by a letter behind the backslash
  iterate 7
    · subst h
      simp [stringFrom?, escape?, escaped?]
  · have hcode : unit? ('0' :: '0' :: hexDigit (c.toNat / 16) :: hexDigit (c.toNat % 16) :: text) =
        some c.toNat := unit?_hexDigit (by omega)
    have hvalid : c.toNat.isValidChar := c.valid
    simp [stringFrom?, escape?, hcode, hvalid]
  · simp [stringFrom?, *]

theorem stringFrom?_escaped (s text : List Char) :
    stringFrom? 0 (s.flatMap escapeChar ++ '"' :: text) = some (s, text) := by
  induction s with
  | nil => simp [stringFrom?]
  | cons c s ih => simp [stringFrom?_escapeChar, ih]

theorem tokens?_quoted (s : String) :
    tokens? (quoted s ++ text) = (tokens? text).map (.string s :: ·) := by
  have h : token? (quoted s ++ text) = some (.string s, text) := by
    simp [quoted, token?, stringFrom?_escaped]
  exact tokens?_cons rfl h

/-! ## Numbers -/

/-- A text that does not go on with a number in front of it. -/
def EndsNumber (text : List Char) : Prop := ∀ c ∈ text.head?, c.isDigit = false

/-- Only zero is written with a zero in front. -/
theorem toDigits_of_head?_eq_zero (n : Nat) (h : (Nat.toDigits 10 n).head? = some '0') :
    Nat.toDigits 10 n = ['0'] := by
  induction n using Nat.strongRecOn with
  | ind n ih =>
    by_cases hn : n < 10
    · rw [Nat.toDigits_of_lt_base hn] at h ⊢
      simpa using h
    · -- the leading digit is that of `n / 10`, which is not zero
      rw [Nat.toDigits_of_base_le (by decide) (by omega),
        List.head?_append_of_ne_nil _ Nat.toDigits_ne_nil] at h
      have hvalue := Nat.ofDigitChars_toDigits (b := 10) (n := n / 10) (by decide) (by decide)
      rw [ih (n / 10) (by omega) h] at hvalue
      have hzero : Nat.ofDigitChars 10 ['0'] 0 = 0 := rfl
      omega

theorem number?_toDigits (h : EndsNumber text) :
    number? (Nat.toDigits 10 n ++ text) = some (n, text) := by
  have hdigits : ∀ c ∈ Nat.toDigits 10 n, c.isDigit = true := fun c hc =>
    Nat.isDigit_of_mem_toDigits (by decide) (by decide) hc
  have htake : text.takeWhile Char.isDigit = [] := by cases text <;> simp_all [EndsNumber]
  have hdrop : text.dropWhile Char.isDigit = text := by cases text <;> simp_all [EndsNumber]
  rw [number?, List.takeWhile_append_of_pos hdigits, htake, List.append_nil,
    List.dropWhile_append_of_pos hdigits, hdrop, if_neg,
    Nat.ofDigitChars_toDigits (by decide) (by decide)]
  rintro (hnil | ⟨hzero, hne⟩)
  · exact Nat.toDigits_ne_nil hnil
  · exact hne (toDigits_of_head?_eq_zero n hzero)

theorem mark?_of_isDigit (h : c.isDigit = true) : mark? c = none := by
  unfold mark?
  split <;> simp_all

theorem isSpace_of_isDigit (h : c.isDigit = true) : isSpace c = false := by
  by_contra hspace
  simp only [isSpace, Bool.not_eq_false, Bool.or_eq_true, beq_iff_eq] at hspace
  rcases hspace with ((rfl | rfl) | rfl) | rfl <;> simp at h

theorem token?_of_isDigit (h : c.isDigit = true) :
    token? (c :: text) = (number? (c :: text)).map fun (n, rest) => (.number n, rest) := by
  have hmark := mark?_of_isDigit h
  unfold token?
  split <;> simp_all

theorem tokens?_toDigits (h : EndsNumber text) :
    tokens? (Nat.toDigits 10 n ++ text) = (tokens? text).map (.number n :: ·) := by
  obtain ⟨c, digits, hcons⟩ := List.exists_cons_of_ne_nil (Nat.toDigits_ne_nil (n := n) (b := 10))
  have hc : c.isDigit = true :=
    Nat.isDigit_of_mem_toDigits (n := n) (b := 10) (by decide) (by decide) (by simp [hcons])
  have hnumber := number?_toDigits (n := n) h
  rw [hcons, List.cons_append] at hnumber ⊢
  exact tokens?_cons (isSpace_of_isDigit hc) (by rw [token?_of_isDigit hc, hnumber]; rfl)

/-! ## Values -/

theorem tokens?_mark (h : mark? c = some t) :
    tokens? (c :: text) = (tokens? text).map (t :: ·) := by
  unfold mark? at h
  split at h <;> cases h <;> exact tokens?_cons rfl rfl

theorem endsNumber_newline : EndsNumber (newline depth ++ text) := by
  simp [EndsNumber, newline]

theorem endsNumber_renderItems (depth : Nat) (vs : List Value) (h : EndsNumber text) :
    EndsNumber (renderItems depth vs ++ text) := by
  cases vs with
  | nil => exact h
  | cons v vs => simp [EndsNumber, renderItems]

theorem endsNumber_renderFields (depth : Nat) (fields : List (String × Value))
    (h : EndsNumber text) : EndsNumber (renderFields depth fields ++ text) := by
  cases fields with
  | nil => exact h
  | cons field fields => simp [EndsNumber, renderFields]

theorem tokens?_key (key : String) : tokens? (quoted key ++ ':' :: ' ' :: text) =
    (tokens? text).map (.string key :: .colon :: ·) := by
  rw [tokens?_quoted, tokens?_mark (c := ':') rfl, tokens?_space rfl]
  simp [Function.comp_def]

mutual

/-- The text of a value is cut into its tokens. -/
theorem tokens?_render (depth : Nat) {text : List Char} (h : EndsNumber text) :
    (v : Value) → tokens? (v.render depth ++ text) = (tokens? text).map (v.tokens ++ ·)
  | .bool b => by cases b <;> exact tokens?_cons rfl rfl
  | .number n => tokens?_toDigits h
  | .string s => tokens?_quoted s
  | .array [] => by
    simp [Value.render, Value.tokens, tokens?_mark (c := '[') rfl, tokens?_mark (c := ']') rfl,
      Function.comp_def]
  | .array (v :: rest) => by
    have hclose : EndsNumber (newline depth ++ ']' :: text) := endsNumber_newline
    have hv := tokens?_render (depth + 1) (endsNumber_renderItems (depth + 1) rest hclose) v
    have hrest := tokens?_renderItems (depth + 1) hclose rest
    simp [Value.render, Value.tokens, tokens?_mark (c := '[') rfl, tokens?_mark (c := ']') rfl,
      tokens?_newline, hv, hrest, Function.comp_def]
  | .object [] => by
    simp [Value.render, Value.tokens, tokens?_mark (c := '{') rfl, tokens?_mark (c := '}') rfl,
      Function.comp_def]
  | .object ((key, v) :: rest) => by
    have hclose : EndsNumber (newline depth ++ '}' :: text) := endsNumber_newline
    have hv := tokens?_render (depth + 1) (endsNumber_renderFields (depth + 1) rest hclose) v
    have hrest := tokens?_renderFields (depth + 1) hclose rest
    simp [Value.render, Value.tokens, tokens?_mark (c := '{') rfl, tokens?_mark (c := '}') rfl,
      tokens?_key, tokens?_newline, hv, hrest, Function.comp_def]

theorem tokens?_renderItems (depth : Nat) {text : List Char} (h : EndsNumber text) :
    (vs : List Value) →
      tokens? (renderItems depth vs ++ text) = (tokens? text).map (itemTokens vs ++ ·)
  | [] => by simp [renderItems, itemTokens]
  | v :: rest => by
    have hv := tokens?_render depth (endsNumber_renderItems depth rest h) v
    have hrest := tokens?_renderItems depth h rest
    simp [renderItems, itemTokens, tokens?_mark (c := ',') rfl, tokens?_newline, hv, hrest,
      Function.comp_def]

theorem tokens?_renderFields (depth : Nat) {text : List Char} (h : EndsNumber text) :
    (fields : List (String × Value)) →
      tokens? (renderFields depth fields ++ text) = (tokens? text).map (fieldTokens fields ++ ·)
  | [] => by simp [renderFields, fieldTokens]
  | (key, v) :: rest => by
    have hv := tokens?_render depth (endsNumber_renderFields depth rest h) v
    have hrest := tokens?_renderFields depth h rest
    simp [renderFields, fieldTokens, tokens?_mark (c := ',') rfl, tokens?_key, tokens?_newline, hv,
      hrest, Function.comp_def]

end

end SourcePatch.Json
