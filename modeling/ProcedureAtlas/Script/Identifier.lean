import ProcedureAtlas.Text.Blank

/-!
# Identifiers

An identifier is written bare or in brackets. The bare form is kept; brackets come back only when a
name is shown. Taking the bare form drops blanks at both ends, then every opening bracket in front
and every closing bracket behind, then blanks once more. It is not idempotent: blanks between
brackets shield the inner brackets.
-/

namespace ProcedureAtlas.Identifier

set_option autoImplicit false

/-- The schema of a procedure whose schema is not written. -/
def defaultSchema : Text := ['d', 'b', 'o']

def bare (identifier : Text) : Text :=
  Text.trim (Text.dropEndWhile (· == ']') ((Text.trim identifier).dropWhile (· == '[')))

def isEmpty (identifier : Text) : Bool :=
  (bare identifier).isEmpty

def isBracketed (identifier : Text) : Bool :=
  (Text.trim identifier).head? == some '[' && (Text.trim identifier).getLast? == some ']'

/-- The identifier in brackets. One that is bracketed already keeps what it has. -/
def bracketed (identifier : Text) : Text :=
  if isBracketed identifier then
    Text.trim identifier
  else
    '[' :: (bare (Text.trim identifier) ++ [']'])

def qualified (schema name : Text) : Text :=
  bracketed schema ++ '.' :: bracketed name

end ProcedureAtlas.Identifier
