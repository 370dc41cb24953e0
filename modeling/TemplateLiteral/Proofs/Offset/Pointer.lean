import TemplateLiteral.Diagnostic.Basic
import TemplateLiteral.Proofs.Offset.Basic

/-!
# Pointers by byte offsets

The line of a place is found by adding up the lengths of lines, and the place in it is the
difference to what has been added up. The difference is never negative, and where a region fits,
the pointer at it is found with the slice of the region.

## Main definitions

* `Offset.lineAt?`, `Offset.locate?`: the line of a place, and the text before it in that line
* `Offset.pointer?`: the pointer at a region

## Main results

* `Offset.locate?_eq`, `Offset.pointer?_eq`
-/

namespace TemplateLiteral.Offset

/-! ## The line of a place -/

/-- The number of the line that holds a place, and the text before the place in it. There is none if
the place is behind all lines. The lines are the ones from a number on, and so many bytes are in
the lines before them. -/
def lineAt? (number passed place : Nat) : List (List Char) → Option (Option (Nat × List Char))
  | [] => some none
  | line :: rest =>
    let length := Text.byteLength line + 1
    if place < passed + length then do
      let within ← sub? place passed
      return some (number, Text.lineBefore line within)
    else
      lineAt? (number + 1) (passed + length) place rest

/-- The number of the line that holds a place, and the text before the place in it. Behind all lines
it is the end of the last one. -/
def locate? (lines : List (List Char)) (place : Nat) : Option (Nat × List Char) := do
  match ← lineAt? 0 0 place lines with
  | some found => return found
  | none => return (lines.length - 1, lines.getLast?.getD [])

section Lines

variable {line : List Char} {n : Nat}

/-- Past the end of a line the whole line is shown. -/
theorem lineBefore_of_lt (h : Text.byteLength line < n) : Text.lineBefore line n = line := by
  unfold Text.lineBefore
  split
  next before after hsplit =>
    obtain ⟨rfl, rfl⟩ := splitAtByte?_eq_some hsplit
    rw [Text.byteLength_append] at h
    omega
  · rfl

/-- The difference is taken only where the place is not before the line. -/
theorem lineAt?_eq (lines : List (List Char)) (number passed place : Nat) :
    ∃ found, lineAt? number passed (passed + place) lines = some found ∧
      found.getD (number + (lines.length - 1), lines.getLast?.getD []) =
        (number + (Text.locate lines place).1, (Text.locate lines place).2) := by
  -- The number of the line and the bytes before it grow along the lines, so they are general.
  induction lines generalizing number passed place with
  | nil => exact ⟨none, rfl, rfl⟩
  | cons line rest ih =>
    rw [lineAt?]
    by_cases hhere : place ≤ Text.byteLength line
    · have hlocate : Text.locate (line :: rest) place = (0, Text.lineBefore line place) := by
        cases rest with
        | nil => rfl
        | cons next others => exact if_pos hhere
      rw [if_pos (by omega), sub?_add, hlocate]
      exact ⟨_, rfl, rfl⟩
    · rw [if_neg (by omega)]
      cases rest with
      | nil =>
        -- Behind the last line the whole line is before the place.
        refine ⟨none, rfl, ?_⟩
        rw [Text.locate, lineBefore_of_lt (Nat.lt_of_not_le hhere)]
        rfl
      | cons next others =>
        have hplace : passed + place = passed + (Text.byteLength line + 1) +
            (place - (Text.byteLength line + 1)) := by omega
        have hlocate : Text.locate (line :: next :: others) place =
            ((Text.locate (next :: others) (place - (Text.byteLength line + 1))).1 + 1,
              (Text.locate (next :: others) (place - (Text.byteLength line + 1))).2) :=
          if_neg hhere
        obtain ⟨found, hfound, hsame⟩ := ih (number + 1) (passed + (Text.byteLength line + 1))
          (place - (Text.byteLength line + 1))
        refine ⟨found, by rw [hplace]; exact hfound, ?_⟩
        have hlast : number + ((line :: next :: others).length - 1) =
            number + 1 + ((next :: others).length - 1) := by
          simp only [List.length_cons]
          omega
        rw [hlocate, hlast, List.getLast?_cons_cons, hsame, Nat.add_assoc, Nat.add_comm 1]

theorem locate?_eq (lines : List (List Char)) (place : Nat) :
    locate? lines place = some (Text.locate lines place) := by
  obtain ⟨found, hfound, hlocate⟩ := lineAt?_eq lines 0 0 place
  simp only [Nat.zero_add] at hfound hlocate
  rw [locate?, hfound, ← Prod.eta (Text.locate lines place), ← hlocate]
  cases found <;> rfl

end Lines

/-! ## The pointer at a region -/

/-- The pointer at a region, which has to fit. -/
def pointer? (source : String) (region : Region) : Option Pointer := do
  let lines := Text.lines source.toList
  let (line, before) ← locate? lines region.start
  let marked ← region.slice? source.toList
  return {
    line
    column := Text.width before
    length := max 1 (Text.width marked)
    text := String.ofList (lines[line]?.getD []) }

theorem pointer?_eq {source : String} {region : Region} (h : Fits source.toList region) :
    pointer? source region = some (.ofRegion source region) := by
  obtain ⟨marked, hmarked⟩ := Option.isSome_iff_exists.1 h.isSome_slice?
  rw [pointer?, locate?_eq, hmarked, Pointer.ofRegion, hmarked]
  rfl

/-- The diagnostic points at a region, which has to fit. -/
def pointing? (d : Diagnostic) (source : String) (region : Region) : Option Diagnostic :=
  (pointer? source region).map fun pointer => { d with pointer := some pointer }

theorem pointing?_eq {source : String} {region : Region} (d : Diagnostic)
    (h : Fits source.toList region) :
    pointing? d source region = some (d.pointingAt source region) := by
  rw [pointing?, pointer?_eq h]
  rfl

end TemplateLiteral.Offset
