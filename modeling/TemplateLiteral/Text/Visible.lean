import TemplateLiteral.Text.Ranges
import TemplateLiteral.Text.Visible.Table

/-!
# Visible characters

A character is visible if a reader sees it where it stands: it draws a sign of its own, or is
the blank between two words. What is not visible has to be shown by its number.

## Main definitions

* `Text.isVisible`
-/

namespace TemplateLiteral.Text

/-- The character can be seen on its own. -/
def isVisible (c : Char) : Bool :=
  !inRanges c.toNat hiddenRanges

end TemplateLiteral.Text
