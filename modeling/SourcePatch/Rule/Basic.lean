import SourcePatch.Regex.Basic
import SourcePatch.Text.Blank
import SourcePatch.Text.Literal

/-!
# Rules

A rule finds parts of a text and puts something else in their place. The text is opaque: whatever
language it is written in, a rule looks for a literal, for a regular expression, or for a block that
runs from a header line to the closing brace at a given indentation.

## Main definitions

* `Rule`: a rule as configured.
* `Rule.compile`: the rule ready to run, or the reason why it can never run.
* `CompiledRule.isPresent`, `CompiledRule.apply`: whether it finds anything, and the changed text.
-/

namespace SourcePatch

/-- What a rule looks for. -/
inductive Target
  /-- Every occurrence of a text. -/
  | literal (search : String)
  /-- Every match of a regular expression; the replacement may refer to its groups. -/
  | regex (pattern : String)
  /-- Every block from a line that starts with `header` to the first brace at column `indent`. -/
  | block (header : String) (indent : Nat)
  deriving DecidableEq, Repr

structure Rule where
  name : String
  target : Target
  replacement : String
  deriving DecidableEq, Repr

/-- Why rules cannot run, or must not. -/
inductive RuleError
  | invalidPattern (rule : String)
  | matchesEmpty (rule : String)
  | emptySearch (rule : String)
  | emptyRuleSet
  /-- A second pass would change the text again; the rules that find something are named. -/
  | notIdempotent (rules : List String)
  deriving DecidableEq, Repr

def RuleError.message : RuleError → String
  | invalidPattern rule => "rule '" ++ rule ++ "': invalid pattern: <regex error>"
  | matchesEmpty rule => "rule '" ++ rule ++ "': pattern matches the empty string"
  | emptySearch rule => "rule '" ++ rule ++ "': search text is empty"
  | emptyRuleSet => "rule set is empty"
  | notIdempotent rules =>
    "rule set is not idempotent: a second pass still changes the file (rules: "
      ++ ", ".intercalate rules ++ ")"

/-- The regular expression for a block: the blanks before the header, the header taken literally,
and as little as possible up to a closing brace behind exactly `indent` blanks of its line. -/
def blockRegex (header : String) (indent : Nat) : String :=
  "\\n\\s*" ++ String.ofList (Regex.escape header.toList) ++ "[\\s\\S]*?\\n[ \\t]\x7b"
    ++ toString indent ++ "\x7d\\\x7d"

/-- How a rule finds what it looks for, and what it puts in place. -/
inductive Matcher
  | literal (search replacement : String)
  | template (regex : Regex) (template : Regex.Template)
  | verbatim (regex : Regex) (replacement : String)

structure CompiledRule where
  name : String
  matcher : Matcher

namespace Rule

/-- The regular expression `source`, which must not match the empty text. -/
def compileRegex (r : Rule) (source : String) : Except RuleError Regex :=
  match Regex.compile? source.toList with
  | none => .error (.invalidPattern r.name)
  | some regex => if regex.occursIn [] then .error (.matchesEmpty r.name) else .ok regex

/-- Makes a rule ready to run. -/
def compile (r : Rule) : Except RuleError CompiledRule :=
  match r.target with
  | .literal search =>
    if search.isEmpty then .error (.emptySearch r.name)
    else .ok ⟨r.name, .literal search r.replacement⟩
  | .regex pattern =>
    (r.compileRegex pattern).map fun regex =>
      ⟨r.name, .template regex (.ofList r.replacement.toList)⟩
  | .block header indent =>
    if isBlank header then .error (.emptySearch r.name)
    else (r.compileRegex (blockRegex header indent)).map fun regex =>
      ⟨r.name, .verbatim regex r.replacement⟩

end Rule

namespace CompiledRule

/-- Whether the rule finds anything in `text`. -/
def isPresent (r : CompiledRule) (text : String) : Bool :=
  match r.matcher with
  | .literal search _ => Literal.occursIn search text
  | .template regex _ | .verbatim regex _ => regex.occursIn text.toList

/-- `text` with all that the rule finds replaced. -/
def apply (r : CompiledRule) (text : String) : String :=
  .ofList <| match r.matcher with
  | .literal search replacement => Literal.replaceAll search.toList replacement.toList text.toList
  | .template regex template => regex.replaceAll template text.toList
  | .verbatim regex replacement => regex.replaceAll (replacement.toList.map .char) text.toList

theorem apply_of_not_isPresent (r : CompiledRule) {text : String} (h : r.isPresent text = false) :
    r.apply text = text := by
  obtain ⟨name, matcher⟩ := r
  cases matcher <;>
    exact (congrArg String.ofList (replaceOccurrences_of_none _ _ h)).trans String.ofList_toList

end CompiledRule

end SourcePatch
