/-!
# Tokens of patterns

A pattern is read token by token, a token being a character or a backslash with the character
behind it.
-/

namespace Intake.Pattern

/-- A token with its position. A lone backslash can only be the last token. -/
structure Token where
  position : Nat
  text : List Char
  deriving DecidableEq, Repr

namespace Token

/-- The tokens of a text that begins at a position. -/
def ofTextAt (position : Nat) : List Char → List Token
  | [] => []
  | ['\\'] => [⟨position, ['\\']⟩]
  | '\\' :: c :: rest => ⟨position, ['\\', c]⟩ :: ofTextAt (position + 2) rest
  | c :: rest => ⟨position, [c]⟩ :: ofTextAt (position + 1) rest

/-- The tokens of a text. -/
def ofText (s : List Char) : List Token :=
  ofTextAt 0 s

/-- The token is a backslash without a character behind it. -/
def isBroken (t : Token) : Bool :=
  t.text == ['\\']

end Token

end Intake.Pattern
