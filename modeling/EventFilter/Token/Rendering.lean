import EventFilter.Fault

/-!
The two written forms of tokens.

`render` writes tokens as an expression reads, `listing` with a space between any two. Both fail at
an integer with too many digits.
-/

namespace EventFilter.Token

def written (token : Token) : Except Fault Text :=
  if token.isWritable then .ok token.text else .error .tooManyDigits

def bindsNext (bound : Bool) (text : Text) : Bool :=
  match text.getLast? with
  | some last => last == '(' || last == '!'
  | none => bound

def glueAfter (bound : Bool) : List Text → Text
  | [] => []
  | text :: rest =>
    let attached := bound || text == [')']
    (if attached then text else ' ' :: text) ++ glueAfter (bindsNext bound text) rest

/-- Texts with single spaces between them, except after `(` and `!` and before `)`. -/
def glue : List Text → Text
  | [] => []
  | text :: rest => text ++ glueAfter (bindsNext false text) rest

def render (tokens : List Token) : Except Fault Text := do
  pure (glue (← tokens.mapM written))

def listing (tokens : List Token) : Except Fault Text := do
  pure (Text.joinWith [' '] (← tokens.mapM written))

end EventFilter.Token
