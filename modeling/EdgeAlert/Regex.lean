import EdgeAlert.Regex.Extent
import EdgeAlert.Regex.Match
import EdgeAlert.Regex.Meaning
import EdgeAlert.Regex.Reader

/-!
# Regular expressions as patterns

A regular expression as it is read from text and asked whether it matches. `Regex.read?` refuses
texts that are not in the grammar, that need the Unicode flag where it is off, or that are too large.
-/

namespace EdgeAlert

structure Regex where
  expr : Regex.Expr
  fits : expr.fits

namespace Regex

def read? (text : List Char) : Option Regex := do
  let tree ← Syntax.read? text
  let (expr, _) ← tree.expr? {}
  if h : expr.fits then return ⟨expr, h⟩ else none

def isMatch (r : Regex) (text : List Char) : Bool := r.expr.matchesWithin text

end Regex
end EdgeAlert
