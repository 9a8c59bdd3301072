import SourcePatch.Unicode.BinaryProperty
import SourcePatch.Unicode.Category
import SourcePatch.Unicode.Script
import SourcePatch.Unicode.ScriptExtension

/-!
# Properties by name

A character property is asked for by a single name (`Greek`, `Lu`, `Alphabetic`) or by a property
and a value (`Script=Greek`). Names are compared loosely: without regard to case, blanks, hyphens,
underscores and a leading `is`.

## Main definitions

* `Unicode.named?`: the set behind a single name, which may be that of a binary property, of a
  general category or of a script, looked up in this order.
* `Unicode.valued?`: the set behind a property and a value.
* `Unicode.wordChars`, `Unicode.digits`: what patterns call a word character and a digit.
-/

namespace SourcePatch.Unicode

/-- The form in which names of properties and of their values are compared. -/
def looseName (name : String) : String :=
  let strip (cs : List Char) := cs.filterMap fun c =>
    if c = ' ' ∨ c = '_' ∨ c = '-' ∨ 0x7F < c.toNat then none else some c.toLower
  let stripped : List Char := match name.toList with
    | a :: b :: rest =>
      if a.toLower = 'i' ∧ b.toLower = 's' then
        if strip rest = ['c'] then ['i', 's', 'c'] else strip rest
      else strip (a :: b :: rest)
    | short => strip short
  String.ofList stripped

/-- Categories that unite others. -/
def categoryGroups : List (List String × List String) := [
  (["l", "letter"], ["lu", "ll", "lt", "lm", "lo"]),
  (["lc", "casedletter"], ["lu", "ll", "lt"]),
  (["m", "mark", "combiningmark"], ["mn", "mc", "me"]),
  (["n", "number"], ["nd", "nl", "no"]),
  (["p", "punctuation", "punct"], ["pc", "pd", "ps", "pe", "pi", "pf", "po"]),
  (["s", "symbol"], ["sm", "sc", "sk", "so"]),
  (["z", "separator"], ["zs", "zl", "zp"])]

/-- Every code point that has been assigned, private use included. -/
def assigned : CharSet := .unions (categories.map Row.set)

/-- Code points without a character, surrogates apart. -/
def unassigned : CharSet := assigned.complement.difference (.range 0xD800 0xDFFF)

/-- The set of a general category, of a group of categories or of one of the classes `any`,
`assigned` and `ascii`. -/
def category? (name : String) : Option CharSet :=
  if name = "any" then some .full
  else if name = "ascii" then some (.range 0 0x7F)
  else if name = "assigned" then some assigned
  else if name = "cn" ∨ name = "unassigned" then some unassigned
  else if name = "c" ∨ name = "other" then
    some (.unions [unassigned, .unions (["cc", "cf", "co"].filterMap (find? categories))])
  else match categoryGroups.find? (·.1.contains name) with
    | some group => some (.unions (group.2.filterMap (find? categories)))
    | none => find? categories name

/-- The set behind a single name. Three abbreviations that are also names of properties stand for
the category. -/
def named? (name : String) : Option CharSet :=
  let name := looseName name
  let asProperty := if ["cf", "sc", "lc"].contains name then none else find? binaryProperties name
  asProperty <|> category? name <|> find? scripts name

/-- The set behind a property and one of its values. -/
def valued? (property value : String) : Option CharSet :=
  let property := looseName property
  let value := looseName value
  if ["gc", "generalcategory", "category"].contains property then category? value
  else if ["sc", "script"].contains property then find? scripts value
  else if ["scx", "scriptextensions"].contains property then find? scriptExtensions value
  else none

/-- The set behind the name of a binary property or category in a table, empty for other names. -/
def known (table : List Row) (name : String) : CharSet := (find? table name).getD .empty

/-- Decimal digits of all scripts. -/
def digits : CharSet := known categories "nd"

/-- Letters, marks, digits, connectors and joiners: what words are made of. -/
def wordChars : CharSet :=
  .unions [known binaryProperties "alphabetic", digits,
    .unions (["mn", "mc", "me", "pc"].map (known categories)), known binaryProperties "joincontrol"]

/-- Letters and letter-like characters. -/
def alphabetic : CharSet := known binaryProperties "alphabetic"

/-- Numbers of all kinds. -/
def numeric : CharSet := .unions (["nd", "nl", "no"].map (known categories))

end SourcePatch.Unicode
