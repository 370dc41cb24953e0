import TemplateLiteral.Proofs.Offset.Lexeme

/-!
# The tokens of a marker by byte offsets

Tokens that know where they stand, but not how they are written: their texts are slices of the
source, which are taken when they are asked for. They are the tokens of the marker, and each of
their regions is a slice that has the text of the token.

## Main definitions

* `Offset.Stream`, `Offset.stream`: the tokens of the marker at a place, and where it ends
* `Offset.Spelled`, `Offset.Matches`: a region has the text of a token, and those of a stream have
  the texts of its tokens

## Main results

* `Offset.exists_stream_eq`: the tokens at a place are those of the text that stands there
-/

namespace TemplateLiteral.Offset

/-! ## Tokens without texts -/

/-- Tokens without their texts in order, and what stands after them. -/
inductive Stream where
  /-- A token before others. -/
  | token (kind : TokenKind) (region : Region) (rest : Stream)
  /-- The brace that closes the marker. -/
  | close (region : Region)
  /-- The text ends. -/
  | endOfText (place : Nat)
  /-- No token can be read. -/
  | fault (fault : SyntaxFault)

/-- The tokens of the marker at a place, and where the marker ends. The place has to move on, and to
stay in the source. -/
def stream [Text.Alphabet] (source : List Char) (start : Nat) : Option (Stream × Nat) :=
  match (lexeme source start).run with
  | none => none
  | some (.error fault) => some (.fault fault, Text.byteLength source)
  | some (.ok none) => some (.endOfText (Text.byteLength source), Text.byteLength source)
  | some (.ok (some (.close stop))) => some (.close ⟨start, stop⟩, stop)
  -- The tests never fail, since nothing that is found is empty; the recursion ends by them.
  | some (.ok (some (.blanks stop))) =>
    if start < stop ∧ stop ≤ Text.byteLength source then stream source stop else none
  | some (.ok (some (.token kind stop))) =>
    if start < stop ∧ stop ≤ Text.byteLength source then do
      let (rest, last) ← stream source stop
      return (.token kind ⟨start, stop⟩ rest, last)
    else none
termination_by Text.byteLength source - start

/-! ## Tokens with their texts -/

/-- The text stands between two quotes. -/
def Enquoted (text : List Char) : Prop :=
  ∃ quote inside, quote.utf8Size = 1 ∧ text = quote :: (inside ++ [quote])

/-- The region has the text of the token, which stands between quotes if it is a string. -/
structure Spelled (source : List Char) (kind : TokenKind) (region : Region) (text : List Char) :
    Prop where
  fits : Fits source region
  slice : region.slice? source = some text
  enquoted : kind = .string → Enquoted text

/-- The regions of a stream have the texts of its tokens. -/
inductive Matches (source : List Char) : Stream → TokenStream → Prop where
  | token {kind : TokenKind} {region : Region} {text : List Char} {rest : Stream}
      {rest' : TokenStream} : Spelled source kind region text → Matches source rest rest' →
      Matches source (.token kind region rest) (.token ⟨kind, text, region⟩ rest')
  | close {region : Region} : Fits source region → Matches source (.close region) (.close region)
  | endOfText {place : Nat} : Cuts source place →
      Matches source (.endOfText place) (.endOfText place)
  | fault {fault : SyntaxFault} : Fits source fault.region →
      Matches source (.fault fault) (.fault fault)

/-! ## Strings stand between quotes -/

section Stream

variable [Text.Alphabet] {source text rest : List Char} {start : Nat} {c : Char} {kind : TokenKind}
  {more : Nat}

theorem enquoted_of_first (h : Lexeme.first c rest = .ok (.string, more)) :
    Enquoted (c :: rest.take more) := by
  have hquote := Lexeme.quote_of_first_string h
  have hlength := ((Lexeme.first_quote hquote).1 h).2
  obtain ⟨inside, hinside⟩ := Quoted.exists_take_of_length? hlength
  have hsize : c.utf8Size = 1 := by
    rcases hquote with rfl | rfl <;> rfl
  exact ⟨c, inside, hsize, congrArg (c :: ·) hinside⟩

theorem stream_of_blanks {stop : Nat} (h : lexeme source start = pure (some (.blanks stop)))
    (hmoves : start < stop ∧ stop ≤ Text.byteLength source) :
    stream source start = stream source stop := by
  rw [stream, h]
  exact if_pos hmoves

theorem stream_of_token {stop : Nat} (h : lexeme source start = pure (some (.token kind stop)))
    (hmoves : start < stop ∧ stop ≤ Text.byteLength source) :
    stream source start =
      (stream source stop).map fun found => (.token kind ⟨start, stop⟩ found.1, found.2) := by
  rw [stream, h]
  exact (if_pos hmoves).trans (Option.map_eq_bind).symm

/-- The tokens at a place are those of the text that stands there. -/
theorem exists_stream_eq (h : Stands source start text) :
    ∃ tokens, stream source start = some (tokens, start + Text.byteLength (scan start text).body) ∧
      Matches source tokens (scan start text).tokens := by
  -- By induction on the length, since a token may take many characters of the text.
  induction hlength : text.length using Nat.strongRecOn generalizing start text with
  | ind n ih =>
  subst hlength
  have hlexeme := lexeme_eq h
  cases text with
  | nil =>
    have hend : Text.byteLength source = start := h.byteLength_eq
    rw [stream, hlexeme, scan_nil, hend]
    exact ⟨_, rfl, .endOfText h.cuts⟩
  | cons c rest =>
  rw [lexed] at hlexeme
  by_cases hblank : Text.isBlank c
  · -- All blank characters are taken at once.
    obtain ⟨blanks, after, htext, hne, hall, hblanks⟩ : ∃ blanks after,
        c :: rest = blanks ++ after ∧ blanks ≠ [] ∧ (∀ b ∈ blanks, Text.isBlank b) ∧
        (c :: rest).takeWhile Text.isBlank = blanks :=
      ⟨_, _, List.takeWhile_append_dropWhile.symm, by simp [hblank],
        fun _ => List.mem_takeWhile_imp, rfl⟩
    rw [if_pos hblank, hblanks] at hlexeme
    rw [htext] at h ih ⊢
    have hshorter : after.length < (blanks ++ after).length := by
      have := List.length_pos_of_ne_nil hne
      rw [List.length_append]
      omega
    obtain ⟨tokens, hstream, hmatches⟩ := ih _ hshorter h.append rfl
    rw [stream_of_blanks hlexeme (h.moves hne), hstream, scan_blanks hall]
    refine ⟨tokens, ?_, hmatches⟩
    rw [Text.byteLength_append, Nat.add_assoc]
  rw [if_neg hblank] at hlexeme
  by_cases hbrace : c = '}'
  · subst hbrace
    rw [stream, hlexeme, scan_closingBrace]
    exact ⟨_, rfl, .close (@Stands.fits source ['}'] rest start h)⟩
  rw [if_neg hbrace] at hlexeme
  cases hfirst : Lexeme.first c rest with
  | error fault =>
    obtain ⟨cause, more⟩ := fault
    have hlexed : lexeme source start =
        throw ⟨cause, ⟨start, start + Text.byteLength (c :: rest.take more)⟩⟩ := by
      rw [hlexeme, hfirst]
      rfl
    have hfits : Stands source start ((c :: rest.take more) ++ rest.drop more) := by
      rw [List.cons_append, List.take_append_drop]
      exact h
    rw [scan_fault start hblank hbrace hfirst, ← h.byteLength_eq, stream, hlexed]
    exact ⟨_, rfl, .fault hfits.fits⟩
  | ok token =>
    obtain ⟨kind, more⟩ := token
    have hlexed : lexeme source start =
        pure (some (.token kind (start + Text.byteLength (c :: rest.take more)))) := by
      rw [hlexeme, hfirst]
      rfl
    have htoken : Stands source start ((c :: rest.take more) ++ rest.drop more) := by
      rw [List.cons_append, List.take_append_drop]
      exact h
    have hshorter : (rest.drop more).length < (c :: rest).length := by
      rw [List.length_drop, List.length_cons]
      omega
    obtain ⟨tokens, hstream, hmatches⟩ := ih _ hshorter htoken.append rfl
    rw [stream_of_token hlexed (htoken.moves (List.cons_ne_nil _ _)), hstream,
      scan_lexeme start hblank hbrace hfirst, Text.byteLength_append, ← Nat.add_assoc]
    refine ⟨_, rfl, .token ⟨htoken.fits, htoken.slice?_eq, ?_⟩ hmatches⟩
    rintro rfl
    exact enquoted_of_first hfirst

end Stream

end TemplateLiteral.Offset
