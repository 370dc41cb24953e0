import Mathlib.Tactic.Linarith
import TemplateLiteral.Proofs.Expr.Parts

/-!
# How high trees get

The bound on nesting is a bound on what an expression is charged for it, and the tree may be higher
than that. An operand is charged for what stands in it and for the operators of its chain up to it,
but the operators that come after it are above it in the tree as well. The same holds of a receiver
and the links that come after it. So a path in a tree has no more steps than the expression is
charged for, except for those steps back along a chain from which it goes on for longer than the
chain does. As there is room for a chain of links and a chain of operators at each level, the number
of these has a bound of the order of the square of the charge.

## Main definitions

* `Expr.Path`: the paths from an expression to a leaf
* `Expr.Path.length`: how many steps of a path count
* `Expr.Path.back`: how many of the steps are not charged for

## Main results

* `Expr.Path.length_le_charge`: what is charged bounds the other steps
* `Grammar.Derives.length_le`: how long paths in phrases of each kind are
* `Expr.Path.length_le_of_ofTokens`: both bounds for the expressions of markers
-/

namespace TemplateLiteral

open Grammar

/-! ## Paths -/

/-- The paths from an expression to a leaf of its tree. -/
inductive Expr.Path : Expr → Type where
  | literal {value : Literal} {region : Region} : Path (.literal value region)
  | name {name : String} {region : Region} : Path (.name name region)
  | member {receiver : Expr} {name : String} {place : Region} {optional : Bool} {region : Region} :
      Path receiver → Path (.member receiver name place optional region)
  | receiver {receiver key : Expr} {optional : Bool} {region : Region} :
      Path receiver → Path (.index receiver key optional region)
  | key {receiver key : Expr} {optional : Bool} {region : Region} :
      Path key → Path (.index receiver key optional region)
  | operand {op : UnaryOperator} {operand : Expr} {region : Region} :
      Path operand → Path (.unary op operand region)
  | left {op : BinaryOperator} {left right : Expr} {region : Region} :
      Path left → Path (.binary op left right region)
  | right {op : BinaryOperator} {left right : Expr} {region : Region} :
      Path right → Path (.binary op left right region)
  | test {test yes no : Expr} {region : Region} :
      Path test → Path (.conditional test yes no region)
  | yes {test yes no : Expr} {region : Region} :
      Path yes → Path (.conditional test yes no region)
  | no {test yes no : Expr} {region : Region} :
      Path no → Path (.conditional test yes no region)
  | inner {inner : Expr} {region : Region} :
      Path inner → Path (.group inner region)

namespace Expr.Path

/-- The number of steps of a path. A step to the test of a choice does not count. -/
def length : {e : Expr} → e.Path → Nat
  | _, .literal | _, .name => 0
  | _, .test path => path.length
  | _, .member path | _, .receiver path | _, .key path | _, .operand path | _, .left path
  | _, .right path | _, .yes path | _, .no path | _, .inner path => path.length + 1

/-- The number of steps of a path that lead back along a chain, to the operand on the left or to the
receiver, and from which the path goes on for longer than the chain does. -/
def back : {e : Expr} → e.Path → Nat
  | _, .literal | _, .name => 0
  | .member chain _ _ _ _, .member path | .index chain _ _ _, .receiver path =>
    if path.length ≤ chain.linkCount then path.back else path.back + 1
  | .binary _ chain _ _, .left path =>
    if path.length ≤ chain.operatorCount then path.back else path.back + 1
  | _, .key path | _, .operand path | _, .right path | _, .test path | _, .yes path | _, .no path
  | _, .inner path => path.back

end Expr.Path

/-! ## Chains are charged for their length -/

namespace Expr

theorem operatorCount_le_charge (e : Expr) : e.operatorCount ≤ e.charge := by
  induction e with
  | binary => exact Nat.le_trans (Nat.le_add_right _ _) (Nat.le_max_right _ _)
  | _ => exact Nat.zero_le _

theorem linkCount_le_charge (e : Expr) : e.linkCount ≤ e.charge := by
  induction e with
  | member => exact Nat.le_max_right _ _
  | index => exact Nat.le_trans (Nat.le_add_right _ _) (Nat.le_max_right _ _)
  | _ => exact Nat.zero_le _

/-- What an expression is charged bounds the steps of a path, up to those back along a chain. -/
theorem Path.length_le_charge {e : Expr} (path : e.Path) : path.length ≤ e.charge + path.back := by
  induction path with
  | literal | name => exact Nat.zero_le _
  | member _ ih | receiver _ ih | left _ ih =>
    simp only [length, back, charge]
    split <;> omega
  | key _ ih | operand _ ih | right _ ih | test _ ih | yes _ ih | no _ ih | inner _ ih =>
    simp only [length, back, charge]
    omega

end Expr

/-! ## A bound for all paths -/

namespace Grammar

/-- How high the tree of a phrase may be that is charged `room` at most. -/
def Phrase.height (room : Nat) (e : Expr) : Phrase → Nat
  | .expression => room * room + room + room
  | .level _ => room * room + room + e.operatorCount
  | .unary => room * room + room
  | .member => room * room + e.linkCount
  | .primary => room * room

section Height

variable {room less : Nat} {e : Expr}

/-- A phrase of any kind is no higher than an expression. -/
theorem Phrase.height_le_expression (c : Phrase) (hroom : e.charge ≤ room) :
    c.height room e ≤ Phrase.expression.height room e := by
  have hoperators := e.operatorCount_le_charge
  have hlinks := e.linkCount_le_charge
  cases c <;> simp only [height] <;> omega

/-- A phrase with less room and the step to it count no more than a primary expression may. -/
theorem Phrase.succ_le_square {c : Phrase} {n : Nat} (hn : n ≤ c.height less e)
    (hless : e.charge ≤ less) (hroom : less + 1 ≤ room) : n + 1 ≤ room * room := by
  have hheight := Nat.le_trans hn (c.height_le_expression hless)
  have hsquare := Nat.mul_self_le_mul_self hroom
  simp only [height] at hheight
  linarith

/-- No path from a phrase to a leaf is longer than the room for the phrase allows. -/
theorem Derives.length_le {c : Phrase} {ts : List Token} (h : Derives c ts e) (path : e.Path)
    (hroom : e.charge ≤ room) : path.length ≤ c.height room e := by
  -- A part that is charged less than the whole has less room, and its height is below the square;
  -- only the beginning of a chain has the same room, and there the steps of the chain are counted.
  induction h generalizing room with
  | test _ ih => exact Nat.le_trans (ih path hroom) (Phrase.height_le_expression _ hroom)
  | conditional _ _ _ _ _ ihTest ihYes ihNo =>
    simp only [Expr.charge, Nat.max_le] at hroom
    obtain ⟨htest, hyes, hno⟩ := hroom
    simp only [Phrase.height]
    cases path with
    | test path =>
      have := Nat.le_trans (ihTest path htest) (Phrase.height_le_expression _ htest)
      simp only [Phrase.height] at this
      exact this
    | yes path =>
      have := Phrase.succ_le_square (ihYes path (Nat.le_refl _)) (Nat.le_refl _) hyes
      simp only [Expr.Path.length]
      omega
    | no path =>
      have := Phrase.succ_le_square (ihNo path (Nat.le_refl _)) (Nat.le_refl _) hno
      simp only [Expr.Path.length]
      omega
  | tighter _ ih => exact ih path hroom
  | binary _ _ _ ihLeft ihRight =>
    simp only [Expr.charge, Nat.max_le] at hroom
    obtain ⟨hleft, hright⟩ := hroom
    simp only [Phrase.height, Expr.operatorCount]
    cases path with
    | left path =>
      have := ihLeft path hleft
      simp only [Phrase.height] at this
      simp only [Expr.Path.length]
      omega
    | right path =>
      have := Phrase.succ_le_square (ihRight path (Nat.le_refl _)) (Nat.le_refl _)
        (by omega : _ + 1 ≤ room)
      simp only [Expr.Path.length]
      omega
  | operand h ih =>
    have := ih path hroom
    simp only [Phrase.height] at this ⊢
    omega
  | unary _ _ ih =>
    simp only [Expr.charge] at hroom
    cases path with
    | operand path =>
      have := Phrase.succ_le_square (ih path (Nat.le_refl _)) (Nat.le_refl _) hroom
      simp only [Phrase.height, Expr.Path.length]
      omega
  | @chain _ e _ ih =>
    have hlinks := e.linkCount_le_charge
    have := ih path hroom
    simp only [Phrase.height] at this ⊢
    omega
  | base h ih =>
    have := ih path hroom
    simp only [Phrase.height] at this ⊢
    omega
  | property _ _ _ ih | optionalProperty _ _ _ ih =>
    simp only [Expr.charge, Nat.max_le] at hroom
    cases path with
    | member path =>
      have := ih path hroom.1
      simp only [Phrase.height, Expr.linkCount, Expr.Path.length] at this ⊢
      omega
  | index _ _ _ _ ih ihKey | optionalIndex _ _ _ _ _ ih ihKey =>
    simp only [Expr.charge, Nat.max_le] at hroom
    obtain ⟨hreceiver, hkey⟩ := hroom
    simp only [Phrase.height, Expr.linkCount]
    cases path with
    | receiver path =>
      have := ih path hreceiver
      simp only [Phrase.height] at this
      simp only [Expr.Path.length]
      omega
    | key path =>
      have := Phrase.succ_le_square (ihKey path (Nat.le_refl _)) (Nat.le_refl _)
        (by omega : _ + 1 ≤ room)
      simp only [Expr.Path.length]
      omega
  | literal | name =>
    cases path
    exact Nat.zero_le _
  | group _ _ _ ih =>
    simp only [Expr.charge] at hroom
    cases path with
    | inner path => exact Phrase.succ_le_square (ih path (Nat.le_refl _)) (Nat.le_refl _) hroom

end Height

end Grammar

/-- In an expression that is read from a marker, what the bound on nesting allows is a bound for the
steps of a path that are charged for, and the square of it is one for all steps. -/
theorem Expr.Path.length_le_of_ofTokens {tokens : TokenStream} {e s : Expr}
    (he : Expr.ofTokens tokens = .ok e) (hs : s.Within e) (path : s.Path) :
    path.length < maxNesting + path.back ∧ path.length < maxNesting * maxNesting := by
  obtain ⟨ts, _, -, hderives, -, hnesting⟩ := Expr.ofTokens_eq_ok_iff.1 he
  obtain ⟨_, us, _, -, hus⟩ := hderives.within hs
  have hcharge : s.charge ≤ 63 := Nat.le_trans hs.charge_le (Nat.le_of_succ_le_succ hnesting)
  refine ⟨?_, Nat.lt_succ_of_le (hus.length_le path hcharge)⟩
  have hlength := path.length_le_charge
  simp only [maxNesting]
  omega

end TemplateLiteral
