import SourcePatch.Text.Literal

/-!
# Line endings

A text that contains CR LF anywhere is taken to end its lines with CR LF, any other text with LF.
A fragment that is appended to a text is brought to the line endings of the text, starts on a line
of its own, and is closed with a line ending if the text was.
-/

namespace SourcePatch

def crLf : List Char := ['\r', '\n']

/-- Whether CR LF occurs in `text`. -/
def hasCrLf (text : List Char) : Bool := anyOccurrence (Literal.occurrences crLf text)

/-- Ends every line with CR LF: those that do already are brought to LF first. -/
def toCrLf (text : List Char) : List Char :=
  Literal.replaceAll ['\n'] crLf (Literal.replaceAll crLf ['\n'] text)

def endsLine (text : List Char) : Bool := text.getLast? == some '\n'

/-- `content` with `fragment` behind it on lines of its own. -/
def joinFragment (content fragment : String) : String :=
  let old := content.toList
  let newline := if hasCrLf old then crLf else ['\n']
  let separator := if old.isEmpty || endsLine old then [] else newline
  let added := if hasCrLf old then toCrLf fragment.toList else fragment.toList
  let closing := if endsLine old && !endsLine added then newline else []
  String.ofList (old ++ separator ++ added ++ closing)

end SourcePatch
