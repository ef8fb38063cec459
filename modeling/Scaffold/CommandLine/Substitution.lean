import Scaffold.Table
import Scaffold.Text.Blank

/-!
# Substitutions on the command line

A substitution is written `KEY=VALUE`. Blanks around the key do not count, and the value may hold
further equals signs.
-/

namespace Scaffold.CommandLine

/-- Why a text is not a substitution. -/
inductive SubstitutionError where
  | noEquals (text : String)
  | emptyKey (text : String)
deriving Repr, DecidableEq

/-- The message for an error. -/
def SubstitutionError.message : SubstitutionError → String
  | .noEquals text => "expected KEY=VALUE, got '" ++ text ++ "'"
  | .emptyKey text => "empty key in '" ++ text ++ "'"

/-- Reads a substitution: its key and its value. -/
def parseSubstitution (text : String) : Except SubstitutionError (String × String) :=
  match text.toList.dropWhile (· != '=') with
  | [] => .error (.noEquals text)
  | _ :: value =>
      match Text.trim (text.toList.takeWhile (· != '=')) with
      | [] => .error (.emptyKey text)
      | key => .ok (String.ofList key, String.ofList value)

end Scaffold.CommandLine
