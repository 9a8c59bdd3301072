import SourcePatch.Proofs.Json.Lexer

/-!
# Reading JSON

Tokens are read from left to right. The arrays and objects that are still open lie on a stack, the
innermost on top.

## Main definitions

* `Json.read?`: the value that a text is the JSON of.

## Main statements

* `Json.value?_eq_some_iff`: just the tokens of a value are read as the value.
* `Json.read?_pretty`: the text of a value is read as the value.
-/

namespace SourcePatch.Json

/-- An array or an object that is still open, with what has been read of it, last first. In an
object, the value of `key` comes next. -/
inductive Open
  | array (items : List Value)
  | object (fields : List (String × Value)) (key : String)

mutual

/-- Reads on where a value has to come. -/
def value? : List Open → List Token → Option Value
  | stack, .bool b :: rest => behind? stack (.bool b) rest
  | stack, .number n :: rest => behind? stack (.number n) rest
  | stack, .string s :: rest => behind? stack (.string s) rest
  | stack, .openArray :: .closeArray :: rest => behind? stack (.array []) rest
  | stack, .openArray :: rest => value? (.array [] :: stack) rest
  | stack, .openObject :: .closeObject :: rest => behind? stack (.object []) rest
  | stack, .openObject :: .string key :: .colon :: rest => value? (.object [] key :: stack) rest
  | _, _ => none

/-- Reads on behind the value `v`. -/
def behind? : List Open → (v : Value) → List Token → Option Value
  | [], v, [] => some v
  | .array items :: stack, v, .comma :: rest => value? (.array (v :: items) :: stack) rest
  | .array items :: stack, v, .closeArray :: rest =>
    behind? stack (.array (v :: items).reverse) rest
  | .object fields key :: stack, v, .comma :: .string next :: .colon :: rest =>
    value? (.object ((key, v) :: fields) next :: stack) rest
  | .object fields key :: stack, v, .closeObject :: rest =>
    behind? stack (.object ((key, v) :: fields).reverse) rest
  | _, _, _ => none

end

/-- The value that a text is the JSON of. -/
def read? (text : String) : Option Value := do value? [] (← tokens? text.toList)

/-! ## Tokens of a value are read -/

variable {stack : List Open} {rest : List Token}

theorem head?_tokens (v : Value) (rest : List Token) :
    (v.tokens ++ rest).head? ≠ some .closeArray := by
  unfold Value.tokens
  split <;> simp

theorem value?_openArray {ts : List Token} (h : ts.head? ≠ some .closeArray) :
    value? stack (.openArray :: ts) = value? (.array [] :: stack) ts := by
  rw [value?]
  rintro rest rfl
  exact h rfl

mutual

/-- The tokens of a value are read as the value, wherever it stands. -/
theorem value?_tokens (stack : List Open) (rest : List Token) :
    (v : Value) → value? stack (v.tokens ++ rest) = behind? stack v rest
  | .bool _ | .number _ | .string _ | .array [] | .object [] => by
    simp [Value.tokens, value?]
  | .array (v :: items) => by
    simp [Value.tokens, value?_openArray (head?_tokens v _), value?_tokens _ _ v,
      behind?_itemTokens stack rest items]
  | .object ((key, v) :: fields) => by
    simp [Value.tokens, value?, value?_tokens _ _ v, behind?_fieldTokens stack rest fields]

theorem behind?_itemTokens (stack : List Open) (rest : List Token) :
    (items : List Value) → ∀ (before : List Value) (v : Value),
      behind? (.array before :: stack) v (itemTokens items ++ .closeArray :: rest) =
        behind? stack (.array (before.reverse ++ v :: items)) rest
  | [], before, v => by simp [itemTokens, behind?]
  | w :: items, before, v => by
    simp [itemTokens, behind?, value?_tokens _ _ w, behind?_itemTokens stack rest items]

theorem behind?_fieldTokens (stack : List Open) (rest : List Token) :
    (fields : List (String × Value)) →
      ∀ (before : List (String × Value)) (key : String) (v : Value),
      behind? (.object before key :: stack) v (fieldTokens fields ++ .closeObject :: rest) =
        behind? stack (.object (before.reverse ++ (key, v) :: fields)) rest
  | [], before, key, v => by simp [fieldTokens, behind?]
  | (next, w) :: fields, before, key, v => by
    simp [fieldTokens, behind?, value?_tokens _ _ w, behind?_fieldTokens stack rest fields]

end

/-! ## Nothing else is read -/

theorem itemTokens_append (items others : List Value) :
    itemTokens (items ++ others) = itemTokens items ++ itemTokens others := by
  induction items with
  | nil => rfl
  | cons v items ih => simp [itemTokens, ih]

theorem fieldTokens_append (fields others : List (String × Value)) :
    fieldTokens (fields ++ others) = fieldTokens fields ++ fieldTokens others := by
  induction fields with
  | nil => rfl
  | cons field fields ih => simp [fieldTokens, ih]

theorem tokens_array (items : List Value) :
    (Value.array items).tokens = .openArray :: (itemTokens items).tail ++ [.closeArray] := by
  cases items <;> simp [Value.tokens, itemTokens]

theorem tokens_object (fields : List (String × Value)) :
    (Value.object fields).tokens = .openObject :: (fieldTokens fields).tail ++ [.closeObject] := by
  cases fields <;> simp [Value.tokens, fieldTokens]

/-- The tokens of what has been read of an array or an object, up to where a value comes next. -/
def Open.tokens : Open → List Token
  | .array items => .openArray :: (itemTokens items.reverse ++ [Token.comma]).tail
  | .object fields key =>
    .openObject :: (fieldTokens fields.reverse ++ [Token.comma]).tail ++ [.string key, .colon]

/-- The tokens that have been read. -/
def stackTokens : List Open → List Token
  | [] => []
  | o :: stack => stackTokens stack ++ o.tokens

variable {v : Value} {items : List Value} {fields : List (String × Value)} {key : String}

theorem tail_append_cons (xs : List Token) (t : Token) (ts : List Token) :
    (xs ++ t :: ts).tail = (xs ++ [t]).tail ++ ts := by
  cases xs <;> simp

theorem Open.tokens_array_cons :
    (Open.array (v :: items)).tokens = (Open.array items).tokens ++ v.tokens ++ [.comma] := by
  have htail := tail_append_cons (itemTokens items.reverse) .comma (v.tokens ++ [.comma])
  simp [Open.tokens, itemTokens_append, itemTokens, htail]

theorem Open.tokens_object_cons {next : String} :
    (Open.object ((key, v) :: fields) next).tokens =
      (Open.object fields key).tokens ++ v.tokens ++ [.comma, .string next, .colon] := by
  have htail := tail_append_cons (fieldTokens fields.reverse) .comma
    (.string key :: .colon :: (v.tokens ++ [.comma]))
  simp [Open.tokens, fieldTokens_append, fieldTokens, htail]

theorem tokens_array_append : (Value.array (items.reverse ++ [v])).tokens =
    (Open.array items).tokens ++ v.tokens ++ [.closeArray] := by
  have htail := tail_append_cons (itemTokens items.reverse) .comma v.tokens
  simp [Open.tokens, tokens_array, itemTokens_append, itemTokens, htail]

theorem tokens_object_append : (Value.object (fields.reverse ++ [(key, v)])).tokens =
    (Open.object fields key).tokens ++ v.tokens ++ [.closeObject] := by
  have htail := tail_append_cons (fieldTokens fields.reverse) .comma
    (.string key :: .colon :: v.tokens)
  simp [Open.tokens, tokens_object, fieldTokens_append, fieldTokens, htail]

mutual

/-- The value that is read in the end has the tokens that have been read and those to come. -/
theorem tokens_of_value? {stack : List Open} {ts : List Token} {w : Value}
    (h : value? stack ts = some w) : w.tokens = stackTokens stack ++ ts := by
  unfold value? at h
  split at h
  case h_1 | h_2 | h_3 | h_4 | h_6 => simpa [Value.tokens] using tokens_of_behind? h
  case h_5 | h_7 =>
    simpa [stackTokens, Open.tokens, itemTokens, fieldTokens] using tokens_of_value? h
  case h_8 => cases h
termination_by ts.length

theorem tokens_of_behind? {stack : List Open} {v : Value} {ts : List Token} {w : Value}
    (h : behind? stack v ts = some w) : w.tokens = stackTokens stack ++ v.tokens ++ ts := by
  unfold behind? at h
  split at h
  case h_1 =>
    cases h
    simp [stackTokens]
  case h_2 => simpa [stackTokens, Open.tokens_array_cons] using tokens_of_value? h
  case h_3 => simpa [stackTokens, tokens_array_append] using tokens_of_behind? h
  case h_4 => simpa [stackTokens, Open.tokens_object_cons] using tokens_of_value? h
  case h_5 => simpa [stackTokens, tokens_object_append] using tokens_of_behind? h
  case h_6 => cases h
termination_by ts.length

end

/-- Just the tokens of a value are read as the value. -/
theorem value?_eq_some_iff {ts : List Token} : value? [] ts = some v ↔ ts = v.tokens := by
  constructor
  · intro h
    simpa [stackTokens] using (tokens_of_value? h).symm
  · rintro rfl
    simpa [behind?] using value?_tokens [] [] v

theorem read?_eq_some_iff {text : String} :
    read? text = some v ↔ tokens? text.toList = some v.tokens := by
  simp [read?, Option.bind_eq_some_iff, value?_eq_some_iff]

theorem read?_pretty (v : Value) : read? v.pretty = some v := by
  have hend : EndsNumber [] := by simp [EndsNumber]
  have htokens := tokens?_render 0 hend v
  rw [read?_eq_some_iff, Value.pretty, String.toList_ofList]
  simpa [tokens?] using htokens

end SourcePatch.Json
