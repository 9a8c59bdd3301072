/-!
# What a command prints

A command prints results on one stream, and errors and warnings on another.
-/

namespace SourcePatch.Command

/-- A piece of text, and the stream it goes to. -/
inductive Printed
  | result (text : String)
  | problem (text : String)
  deriving DecidableEq, Repr

def resultLine (text : String) : Printed := .result (text ++ "\n")

def problemLine (text : String) : Printed := .problem (text ++ "\n")

def warning (text : String) : Printed := problemLine ("WARN " ++ text)

/-- What goes to the stream of results. -/
def resultsOf : List Printed → String
  | [] => ""
  | .result text :: rest => text ++ resultsOf rest
  | .problem _ :: rest => resultsOf rest

/-- What goes to the stream of errors and warnings. -/
def problemsOf : List Printed → String
  | [] => ""
  | .result _ :: rest => problemsOf rest
  | .problem text :: rest => text ++ problemsOf rest

end SourcePatch.Command
