import SolidityGateway.Text.Decimal
import SolidityGateway.Text.Category

/-!
Texts quoted inside messages. The quote is `'` unless the text holds that and no `"`; the quote and
the backslash are escaped, and so is whatever would not show.
-/

namespace SolidityGateway.Text

/-- The quote that needs fewer escapes: `"` if the text holds `'` and no `"`, and else `'`. -/
def quoteFor (t : Text) : CodePoint :=
  if t.contains (CodePoint.ofChar '\'') && !t.contains (CodePoint.ofChar '"') then '"' else '\''

def quotedPoint (quote c : CodePoint) : Text :=
  if c = quote ∨ c = '\\' then ['\\', c]
  else if c = '\n' then "\\n"
  else if c = '\r' then "\\r"
  else if c = '\t' then "\\t"
  else if c.isPrintable then [c]
  else if c.val < 0x100 then "\\x" ++ hex 2 c.val
  else if c.val < 0x10000 then "\\u" ++ hex 4 c.val
  else "\\U" ++ hex 8 c.val

def quoted (t : Text) : Text :=
  let quote := quoteFor t
  quote :: t.flatMap (quotedPoint quote) ++ [quote]

end SolidityGateway.Text
