/-!
# Tokens of a pattern's text

A backslash and the character after it are one token; every other character is a token. A backslash
that ends the text has nothing to escape: it is a token of its own, which no reader accepts.

A place in a pattern is given by what is left of the text from there on, so that it does not depend
on what stood before.

## Main definitions

* `Regex.Token`, `Regex.tokenize`
* `Regex.left` — the count of characters in tokens
-/

namespace Patternwright.Regex

/-- A token of a pattern's text. -/
inductive Token where
  | plain (c : Char)
  | escaped (c : Char)
  /-- A backslash at the end of the text. -/
  | dangling
  deriving DecidableEq, Repr

/-- The characters of a token. -/
def Token.text : Token → List Char
  | plain c => [c]
  | escaped c => ['\\', c]
  | dangling => ['\\']

/-- The tokens of a text. -/
def tokenize : List Char → List Token
  | [] => []
  | '\\' :: c :: rest => .escaped c :: tokenize rest
  | ['\\'] => [.dangling]
  | c :: rest => .plain c :: tokenize rest

/-- The characters of tokens in a row. -/
def tokenText (tokens : List Token) : List Char := tokens.flatMap Token.text

/-- How many characters tokens hold. -/
def left : List Token → Nat
  | [] => 0
  | token :: rest => token.text.length + left rest

end Patternwright.Regex
