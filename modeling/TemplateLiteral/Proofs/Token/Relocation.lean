import Mathlib.Order.Lattice
import Mathlib.Order.MinMax
import TemplateLiteral.Proofs.Token.Stream

/-!
# Markers at another place

The same text at another place has the same tokens, with their regions at that place. Tokens are
moved by a map of places. It has to keep the distances to the places after the beginning of the
text; and it has to keep the order of places, so that what covers two regions is moved to what
covers the moved ones.

## Main definitions

* `Region.relocate`, `Token.relocate`, `TokenStream.relocate`
* `nowhere`: the map that moves all places to one, and so forgets them
* `Shifts`: a map of places keeps the distances to the places after one

## Main results

* `Region.relocate_cover`: moving keeps what covers two regions
* `scan_relocate`: the tokens of a text at another place
* `Encloses.relocate`: a closed marker is closed at any place
-/

namespace TemplateLiteral

/-! ## Moving regions -/

/-- The region with its places moved. -/
def Region.relocate (φ : Nat → Nat) (r : Region) : Region :=
  ⟨φ r.start, φ r.stop⟩

theorem Region.relocate_cover {φ : Nat → Nat} (hφ : Monotone φ) (a b : Region) :
    (a.cover b).relocate φ = (a.relocate φ).cover (b.relocate φ) := by
  unfold relocate cover
  rw [hφ.map_min, hφ.map_max]

/-- The token with its region moved. -/
def Token.relocate (φ : Nat → Nat) (t : Token) : Token :=
  { t with region := t.region.relocate φ }

namespace TokenStream

/-- The stream with all of its places moved. -/
def relocate (φ : Nat → Nat) : TokenStream → TokenStream
  | token t rest => token (t.relocate φ) (rest.relocate φ)
  | close region => close (region.relocate φ)
  | endOfText place => endOfText (φ place)
  | fault f => fault ⟨f.cause, f.region.relocate φ⟩

theorem relocate_prepend (φ : Nat → Nat) (ts : List Token) (rest : TokenStream) :
    (prepend ts rest).relocate φ = prepend (ts.map (Token.relocate φ)) (rest.relocate φ) := by
  induction ts with
  | nil => rfl
  | cons t ts ih => exact congrArg (token (t.relocate φ)) ih

theorem closes_relocate (φ : Nat → Nat) (tokens : TokenStream) :
    (tokens.relocate φ).Closes ↔ tokens.Closes := by
  induction tokens with
  | token t rest ih => exact ih
  | close => rfl
  | endOfText => rfl
  | fault => rfl

end TokenStream

/-! ## Forgetting places -/

/-- All places moved to one, which forgets them. -/
def nowhere (_ : Nat) : Nat := 0

@[simp] theorem Region.relocate_nowhere (φ : Nat → Nat) (r : Region) :
    (r.relocate φ).relocate nowhere = r.relocate nowhere := rfl

theorem TokenStream.relocate_nowhere (φ : Nat → Nat) (tokens : TokenStream) :
    (tokens.relocate φ).relocate nowhere = tokens.relocate nowhere := by
  induction tokens with
  | token t rest ih => exact congrArg (token (t.relocate nowhere)) ih
  | _ => rfl

/-! ## Moving markers -/

/-- The map keeps all distances to the places after one. -/
def Shifts (φ : Nat → Nat) (place : Nat) : Prop :=
  ∀ n, φ (place + n) = φ place + n

theorem Shifts.add {φ : Nat → Nat} {place : Nat} (h : Shifts φ place) (n : Nat) :
    Shifts φ (place + n) := by
  intro m
  rw [Nat.add_assoc, h, h, Nat.add_assoc]

theorem shifts_add (d place : Nat) : Shifts (· + d) place :=
  fun n => Nat.add_right_comm place n d

theorem shifts_sub (place : Nat) : Shifts (· - place) place := by
  intro n
  dsimp only
  rw [Nat.add_sub_cancel_left, Nat.sub_self, Nat.zero_add]

/-- The tokens of a text at another place. -/
theorem scan_relocate [Text.Alphabet] {φ : Nat → Nat} {start : Nat} (hφ : Shifts φ start)
    (text : List Char) :
    scan (φ start) text =
      ⟨(scan start text).tokens.relocate φ, (scan start text).body, (scan start text).rest⟩ := by
  -- What token comes first depends on the text alone, and only its region on the place.
  fun_induction scan start text with
  | case1 start =>
    rw [scan_nil]
    rfl
  | case2 start c rest hblank next ih =>
    rw [scan_blank _ hblank, ← hφ, ih (hφ.add _)]
  | case3 start rest =>
    have hstop : φ (start + '}'.utf8Size) = φ start + 1 := hφ 1
    rw [scan_closingBrace, TokenStream.relocate, Region.relocate, hstop]
  | case4 start c rest hblank hbrace cause more hfirst =>
    rw [scan_fault _ hblank hbrace hfirst, TokenStream.relocate, Region.relocate, hφ]
  | case5 start c rest hblank hbrace kind more hfirst lexeme stop next ih =>
    rw [scan_lexeme _ hblank hbrace hfirst]
    dsimp only
    rw [← hφ, ih (hφ.add _), TokenStream.relocate, Token.relocate, Region.relocate]

/-- A closed marker is closed at any place. -/
theorem Encloses.relocate [Text.Alphabet] {φ : Nat → Nat} {start : Nat} {body : List Char}
    {tokens : TokenStream} (hφ : Shifts φ start) (h : Encloses start body tokens) :
    Encloses (φ start) body (tokens.relocate φ) := by
  refine ⟨(TokenStream.closes_relocate φ tokens).2 h.1, fun rest => ?_⟩
  rw [scan_relocate hφ, h.2 rest]

end TemplateLiteral
