import SourcePatch.Rule.Basic

/-!
# Rule sets

The rules of a set run one after the other, each on the result of the one before. A result
that a second pass would change again is refused, so that running a set again does nothing.
-/

namespace SourcePatch

structure RuleSet where
  rules : List CompiledRule

namespace RuleSet

/-- Makes all rules ready to run; the first that cannot run is reported. -/
def compile (rules : List Rule) : Except RuleError RuleSet :=
  if rules.isEmpty then .error .emptyRuleSet else (rules.mapM Rule.compile).map RuleSet.mk

/-- The names of the rules that find something in `text`. -/
def presentIn (s : RuleSet) (text : String) : List String :=
  (s.rules.filter (·.isPresent text)).map (·.name)

def apply (s : RuleSet) (text : String) : String := s.rules.foldl (fun t r => r.apply t) text

/-- Whether another pass leaves `text` as it is. -/
def checkIdempotent (s : RuleSet) (text : String) : Except RuleError Unit :=
  let present := s.presentIn text
  if present.isEmpty || s.apply text == text then .ok () else .error (.notIdempotent present)

end RuleSet

end SourcePatch
