import TemplateLiteral.Proofs.Expr.Evaluation
import TemplateLiteral.Proofs.Expr.Parts

/-!
# Parentheses

Parentheses say how a text is read, and the tree knows that without them. They have a meaning of
their own in one place: around a chain that is the receiver of another link. There they end the
chain, so that a link inside them that finds nothing does not cut short what stands outside. All
others can be taken away at once, at any depth, and the value stays the same, and so does the fault
if there is no value. This is true of the type of a name as well, which is asked for without a look
at the parentheses around the name.

## Main definitions

* `Expr.strip`: an expression without the parentheses that mean nothing
* `Expr.Tidy`: no other parentheses are left

## Main results

* `Expr.tidy_strip`: the parentheses that are left
* `Scope.evaluate_strip`: the value of an expression without the others
-/

namespace TemplateLiteral

namespace Expr

/-! ## Parentheses that are taken away -/

/-- What a link reads from, where the parentheses around a chain are kept: they end it. -/
def endChain (receiver stripped : Expr) : Expr :=
  match receiver with
  | .group inner r => if inner.ungroup.isLink then .group stripped r else stripped
  | _ => stripped

/-- The expression without parentheses, but for those that end a chain in front of a link. -/
def strip : Expr → Expr
  | .literal value r => .literal value r
  | .name x r => .name x r
  | .member receiver x place optional r =>
    .member (receiver.endChain receiver.strip) x place optional r
  | .index receiver key optional r =>
    .index (receiver.endChain receiver.strip) key.strip optional r
  | .unary op operand r => .unary op operand.strip r
  | .binary op left right r => .binary op left.strip right.strip r
  | .conditional test yes no r => .conditional test.strip yes.strip no.strip r
  | .group inner _ => inner.strip

/-- What is left has no parentheses around it. -/
theorem ungroup_strip (e : Expr) : e.strip.ungroup = e.strip := by
  induction e with
  | group inner r ih => exact ih
  | _ => rfl

theorem isLink_strip (e : Expr) : e.strip.isLink = e.ungroup.isLink := by
  induction e with
  | group inner r ih => exact ih
  | _ => rfl

theorem strip_eq_name_iff {e : Expr} {x : String} {r : Region} :
    e.strip = .name x r ↔ e.ungroup = .name x r := by
  induction e with
  | group inner r ih => exact ih
  | name => rfl
  | _ => exact ⟨nofun, nofun⟩

/-! ## Parentheses that are left -/

/-- What a link reads from, if the expression has one at its end. -/
def receiver? : Expr → Option Expr
  | .member receiver _ _ _ _ | .index receiver _ _ _ => some receiver
  | _ => none

/-- The only parentheses in the expression stand around a chain that a link reads from. -/
def Tidy (e : Expr) : Prop :=
  ∀ s : Expr, s.Within e → ∀ inner r, .group inner r ∈ s.parts →
    s.receiver? = some (.group inner r) ∧ inner.isLink

theorem strip_ne_group (e inner : Expr) (r : Region) : e.strip ≠ .group inner r := by
  induction e with
  | group _ _ ih => exact ih
  | _ => exact nofun

theorem Tidy.of_parts {e : Expr} (hparts : ∀ p ∈ e.parts, p.Tidy)
    (h : ∀ inner r, .group inner r ∈ e.parts →
      e.receiver? = some (.group inner r) ∧ inner.isLink) : e.Tidy := by
  intro s hs
  cases hs with
  | refl => exact h
  | part hp hs => exact hparts _ hp s hs

/-- Where no part is in parentheses, the parts decide. -/
theorem Tidy.of_strips {e : Expr} (h : ∀ p ∈ e.parts, p.Tidy ∧ ∃ p' : Expr, p = p'.strip) :
    e.Tidy := by
  refine .of_parts (fun p hp => (h p hp).1) fun inner r hmem => ?_
  obtain ⟨-, p, hp⟩ := h _ hmem
  exact absurd hp.symm (strip_ne_group p inner r)

/-- What a link reads from is left without parentheses, or is a chain in parentheses. -/
theorem endChain_cases (receiver : Expr) : receiver.endChain receiver.strip = receiver.strip ∨
    ∃ r, receiver.endChain receiver.strip = .group receiver.strip r ∧ receiver.strip.isLink := by
  cases receiver with
  | group inner r =>
    rw [endChain]
    split
    next hinner =>
      rw [isLink_strip]
      exact .inr ⟨r, rfl, hinner⟩
    next => exact .inl rfl
  | _ => exact .inl rfl

/-- A link with its receiver tidied is tidy. -/
theorem Tidy.of_receiver {e receiver : Expr} (h : receiver.strip.Tidy)
    (hreceiver : e.receiver? = some (receiver.endChain receiver.strip))
    (hparts : ∀ p ∈ e.parts, p = receiver.endChain receiver.strip ∨
      p.Tidy ∧ ∃ p' : Expr, p = p'.strip) : e.Tidy := by
  rcases receiver.endChain_cases with hends | ⟨r, hends, hlink⟩
  · refine .of_strips fun p hp => ?_
    rcases hparts p hp with rfl | hp
    · rw [hends]
      exact ⟨h, receiver, rfl⟩
    · exact hp
  · rw [hends] at hreceiver hparts
    refine .of_parts (fun p hp => ?_) fun inner r' hmem => ?_
    · rcases hparts p hp with rfl | hp
      · refine .of_strips fun q hq => ?_
        obtain rfl := List.mem_singleton.1 hq
        exact ⟨h, receiver, rfl⟩
      · exact hp.1
    · rcases hparts _ hmem with hgroup | ⟨-, p, hp⟩
      · obtain ⟨rfl, rfl⟩ := Expr.group.inj hgroup
        exact ⟨hreceiver, hlink⟩
      · exact absurd hp.symm (strip_ne_group p inner r')

/-- What is left has no parentheses but those that mean something. -/
theorem tidy_strip (e : Expr) : e.strip.Tidy := by
  induction e with
  | literal | name => exact .of_strips nofun
  | member receiver x place optional r ih =>
    exact .of_receiver ih rfl fun p hp => .inl (List.mem_singleton.1 hp)
  | index receiver key optional r ihReceiver ihKey =>
    refine .of_receiver ihReceiver rfl fun p hp => ?_
    simp only [strip, parts, List.mem_cons, List.not_mem_nil, or_false] at hp
    rcases hp with rfl | rfl
    · exact .inl rfl
    · exact .inr ⟨ihKey, key, rfl⟩
  | unary op operand r ih =>
    exact .of_strips fun p hp => List.mem_singleton.1 hp ▸ ⟨ih, operand, rfl⟩
  | binary op left right r ihLeft ihRight =>
    refine .of_strips fun p hp => ?_
    simp only [strip, parts, List.mem_cons, List.not_mem_nil, or_false] at hp
    rcases hp with rfl | rfl
    · exact ⟨ihLeft, left, rfl⟩
    · exact ⟨ihRight, right, rfl⟩
  | conditional test yes no r ihTest ihYes ihNo =>
    refine .of_strips fun p hp => ?_
    simp only [strip, parts, List.mem_cons, List.not_mem_nil, or_false] at hp
    rcases hp with rfl | rfl | rfl
    · exact ⟨ihTest, test, rfl⟩
    · exact ⟨ihYes, yes, rfl⟩
    · exact ⟨ihNo, no, rfl⟩
  | group inner r ih => exact ih

end Expr

/-! ## Values without parentheses -/

namespace Scope

variable {scope : Scope}

theorem chain_group (inner : Expr) (r : Region) :
    scope.chain (.group inner r) = do return some (← scope.evaluate inner) := by
  rw [chain_eq_of_isLink_eq_false rfl, evaluate_group]

/-- A link reads from the same value, and is skipped in the same cases. -/
theorem chain_endChain {receiver : Expr}
    (hvalue : scope.evaluate receiver.strip = scope.evaluate receiver)
    (hchain : receiver.isLink → scope.chain receiver.strip = scope.chain receiver) :
    scope.chain (receiver.endChain receiver.strip) = scope.chain receiver := by
  -- A receiver that is a chain hands its signal on. Any other has a value, and with a value the
  -- signals are the same, as long as no chain comes to stand where none stood.
  by_cases hlink : receiver.isLink
  · cases receiver with
    | member | index => exact hchain hlink
    | _ => cases hlink
  have hlink : receiver.isLink = false := Bool.eq_false_iff.2 hlink
  cases receiver with
  | group inner r =>
    rw [Expr.endChain]
    split
    next => rw [chain_group, hvalue, chain_eq_of_isLink_eq_false hlink]
    next hinner =>
    have hstripped : (Expr.group inner r).strip.isLink = false := by
      rw [Expr.isLink_strip]
      exact Bool.eq_false_iff.2 hinner
    rw [chain_eq_of_isLink_eq_false hstripped, hvalue, chain_eq_of_isLink_eq_false hlink]
  | member | index => cases hlink
  | _ =>
    change scope.chain (Expr.strip _) = _
    rw [chain_eq_of_isLink_eq_false rfl, hvalue, chain_eq_of_isLink_eq_false hlink]

/-- A chain with a link is cut short, and fails, as it is without the parentheses. -/
theorem chain_member_congr {receiver receiver' : Expr}
    (h : scope.chain receiver' = scope.chain receiver) (x : String) (place : Region)
    (optional : Bool) (r : Region) :
    scope.chain (.member receiver' x place optional r) =
      scope.chain (.member receiver x place optional r) := by
  rw [chain, chain, h]

theorem chain_index_congr {receiver receiver' key key' : Expr}
    (h : scope.chain receiver' = scope.chain receiver)
    (hkey : scope.evaluate key' = scope.evaluate key) (optional : Bool) (r : Region) :
    scope.chain (.index receiver' key' optional r) =
      scope.chain (.index receiver key optional r) := by
  rw [chain_index, chain_index, h, hkey]

theorem evaluate_congr {e e' : Expr} (h : scope.chain e' = scope.chain e) :
    scope.evaluate e' = scope.evaluate e := by
  rw [evaluate, evaluate, h]

/-- What is not a chain in parentheses in front of a link means the same without parentheses. -/
theorem strip_means (e : Expr) : scope.evaluate e.strip = scope.evaluate e ∧
    (e.isLink → scope.chain e.strip = scope.chain e) := by
  have hlink : ∀ {e e' : Expr}, scope.chain e' = scope.chain e →
      scope.evaluate e' = scope.evaluate e ∧ (e.isLink → scope.chain e' = scope.chain e) :=
    fun h => ⟨evaluate_congr h, fun _ => h⟩
  -- Signals are compared of chains only: where parentheses go from around a chain that no link
  -- reads from, the signal of what is left is another one with the same value.
  induction e with
  | literal | name => exact ⟨rfl, nofun⟩
  | member receiver x place optional r ih =>
    exact hlink (chain_member_congr (chain_endChain ih.1 ih.2) x place optional r)
  | index receiver key optional r ihReceiver ihKey =>
    exact hlink
      (chain_index_congr (chain_endChain ihReceiver.1 ihReceiver.2) ihKey.1 optional r)
  | unary op operand r ih =>
    refine ⟨?_, nofun⟩
    by_cases hname : op = .typeof ∧ ∃ x r, operand.ungroup = .name x r
    · -- The operand is a name, and is asked for its type without its parentheses.
      obtain ⟨rfl, x, r', hungroup⟩ := hname
      have hstripped : operand.strip.ungroup = .name x r' := by
        rw [Expr.ungroup_strip, Expr.strip_eq_name_iff, hungroup]
      rw [Expr.strip, evaluate_typeof_name scope hstripped, evaluate_typeof_name scope hungroup]
    · have hstripped : ¬ (op = .typeof ∧ ∃ x r, operand.strip.ungroup = .name x r) := by
        simpa only [Expr.ungroup_strip, Expr.strip_eq_name_iff] using hname
      rw [Expr.strip, evaluate_unary scope hstripped, evaluate_unary scope hname, ih.1]
  | binary op left right r ihLeft ihRight =>
    refine ⟨?_, nofun⟩
    rw [Expr.strip, evaluate_binary, evaluate_binary, ihLeft.1, ihRight.1]
  | conditional test yes no r ihTest ihYes ihNo =>
    refine ⟨?_, nofun⟩
    rw [Expr.strip, evaluate_conditional, evaluate_conditional, ihTest.1, ihYes.1, ihNo.1]
  | group inner r ih =>
    refine ⟨?_, nofun⟩
    rw [Expr.strip, evaluate_group]
    exact ih.1

/-- The value of an expression is its value without parentheses, and so is the fault in it; only
parentheses around a chain in front of a link stay, and no others are left. -/
theorem evaluate_strip (scope : Scope) (e : Expr) :
    scope.evaluate e.strip = scope.evaluate e ∧ e.strip.Tidy ∧
      ∀ inner r, e.strip ≠ .group inner r :=
  ⟨(strip_means e).1, e.tidy_strip, e.strip_ne_group⟩

end Scope

end TemplateLiteral
