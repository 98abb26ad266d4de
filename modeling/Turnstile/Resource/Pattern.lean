import Turnstile.Regex.Match
import Turnstile.Regex.Parser

/-! Expressions over resource names, sorted by the shape that decides how they are looked up. -/
namespace Turnstile

/-- The two simple shapes hold their literal part. -/
inductive ResourcePattern where
  | startsWith (literal : List Char)
  | endsWith (literal : List Char)
  | everything
  | generic
deriving DecidableEq

namespace ResourcePattern

/-- The characters that a literal part may have: ASCII letters, digits, `_` and `/`. -/
def isLiteral (c : Char) : Bool := c.isAlphanum || c = '_' || c = '/'

def anything : List Char := ['.', '*']

def dropCaret : List Char → List Char
  | '^' :: r => r
  | r => r

/-- `word.*` starts with a word, `.*word` ends with one, `.*` matches everything; a caret in front
and a dollar at the end make no difference. -/
def classify (expression : String) : ResourcePattern :=
  let body := dropCaret expression.toList
  let (word, rest) := body.span isLiteral
  if word.isEmpty then
    match body with
    | '.' :: '*' :: r =>
      let (word, rest) := r.span isLiteral
      if rest = [] || rest = ['$'] then if word.isEmpty then everything else endsWith word
      else generic
    | _ => generic
  else if rest = anything || rest = anything ++ ['$'] then startsWith word
  else generic

end ResourcePattern

/-- An expression matches anywhere in a resource; `none` for an invalid expression. -/
def expressionMatches? (expression resource : String) : Option Bool :=
  (Regex.parse? expression).map (·.isMatch resource)

/-- An invalid expression matches nothing. -/
def expressionMatches (expression resource : String) : Bool :=
  (expressionMatches? expression resource).getD false

end Turnstile
