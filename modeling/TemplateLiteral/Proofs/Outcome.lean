import Mathlib.Data.List.Forall2

/-!
# Outcomes

What a step after a step says about both, for computations that end in a value or a fault, and
what a whole list of steps says about each. Two computations are run side by side: they fail
together or succeed together.

## Main definitions

* `Together`: two computations fail both or succeed both, with results that are related

## Main results

* `bind_eq_ok_iff`: two steps succeed if the first does, and the second does on its value
* `bind_eq_error_iff`: two steps fail if the first does, or the second does on its value
* `mapM_eq_ok_iff`: a list of steps succeeds if each of them does
* `mapM_append_cons_eq_ok_iff`: a list of steps around one of them
* `exists_append_cons_of_mapM_eq_error`: the step that a list of steps fails with
* `Together.bind`: steps that are run side by side
-/

namespace TemplateLiteral

variable {ε α β : Type}

/-- Two steps succeed if the first does, and the second does on its value. -/
theorem bind_eq_ok_iff {x : Except ε α} {f : α → Except ε β} {b : β} :
    x >>= f = .ok b ↔ ∃ a, x = .ok a ∧ f a = .ok b := by
  cases x with
  | error e => exact ⟨fun h => (nomatch h), fun ⟨_, h, _⟩ => (nomatch h)⟩
  | ok a =>
    constructor
    · intro h
      exact ⟨a, rfl, h⟩
    · intro h
      obtain ⟨_, ⟨⟩, h⟩ := h
      exact h

/-- Two steps fail if the first does, or the second does on its value. -/
theorem bind_eq_error_iff {x : Except ε α} {f : α → Except ε β} {e : ε} :
    x >>= f = .error e ↔ x = .error e ∨ ∃ a, x = .ok a ∧ f a = .error e := by
  cases x with
  | error e' =>
    constructor
    · exact fun h => .inl (by cases h; rfl)
    · rintro (h | ⟨_, h, _⟩)
      · cases h
        rfl
      · cases h
  | ok a =>
    constructor
    · exact fun h => .inr ⟨a, rfl, h⟩
    · rintro (h | ⟨_, h, hf⟩)
      · cases h
      · cases h
        exact hf

/-- Two steps succeed if the first does, and the second does whatever the first has led to. -/
theorem exists_bind_eq_ok {x : Except ε α} {f : α → Except ε β} (hx : ∃ a, x = .ok a)
    (hf : ∀ a, ∃ b, f a = .ok b) : ∃ b, x >>= f = .ok b := by
  obtain ⟨a, rfl⟩ := hx
  exact hf a

theorem map_eq_ok_iff {x : Except ε α} {f : α → β} {b : β} :
    x.map f = .ok b ↔ ∃ a, x = .ok a ∧ f a = b := by
  cases x with
  | error e => exact ⟨fun h => (nomatch h), fun ⟨_, h, _⟩ => (nomatch h)⟩
  | ok a => exact ⟨fun h => ⟨a, rfl, Except.ok.inj h⟩, fun ⟨_, h, hb⟩ => by cases h; exact hb ▸ rfl⟩

section Lists

variable {f : α → Except ε β} {x : α} {xs : List α} {ys : List β}

theorem mapM_cons_eq_ok_iff :
    (x :: xs).mapM f = .ok ys ↔ ∃ b bs, f x = .ok b ∧ xs.mapM f = .ok bs ∧ ys = b :: bs := by
  rw [List.mapM_cons]
  constructor
  · intro h
    obtain ⟨b, hb, h⟩ := bind_eq_ok_iff.1 h
    obtain ⟨bs, hbs, h⟩ := bind_eq_ok_iff.1 h
    exact ⟨b, bs, hb, hbs, (Except.ok.inj h).symm⟩
  · intro h
    obtain ⟨b, bs, hb, hbs, rfl⟩ := h
    rw [hb, hbs]
    rfl

/-- A list of steps succeeds if each of them does, whatever it means for each of them. -/
theorem mapM_eq_ok_iff {r : α → β → Prop} (h : ∀ x ∈ xs, ∀ y, f x = .ok y ↔ r x y) :
    xs.mapM f = .ok ys ↔ List.Forall₂ r xs ys := by
  induction xs generalizing ys with
  | nil =>
    rw [List.forall₂_nil_left_iff]
    exact ⟨fun h => (Except.ok.inj h).symm, fun h => h ▸ rfl⟩
  | cons x xs ih =>
    obtain ⟨hx, hxs⟩ := List.forall_mem_cons.1 h
    rw [mapM_cons_eq_ok_iff, List.forall₂_cons_left_iff]
    simp only [hx, ih hxs]

/-- A list of steps succeeds if each of them has a value. -/
theorem exists_mapM_eq_ok (h : ∀ x ∈ xs, ∃ y, f x = .ok y) : ∃ ys, xs.mapM f = .ok ys := by
  induction xs with
  | nil => exact ⟨[], rfl⟩
  | cons x xs ih =>
    obtain ⟨⟨y, hy⟩, hxs⟩ := List.forall_mem_cons.1 h
    obtain ⟨ys, hys⟩ := ih hxs
    exact ⟨y :: ys, mapM_cons_eq_ok_iff.2 ⟨y, ys, hy, hys, rfl⟩⟩

/-- A list of steps around one of them succeeds if both parts and that one do. -/
theorem mapM_append_cons_eq_ok_iff {before : List α} :
    (before ++ x :: xs).mapM f = .ok ys ↔ ∃ bs b cs, before.mapM f = .ok bs ∧ f x = .ok b ∧
      xs.mapM f = .ok cs ∧ ys = bs ++ b :: cs := by
  rw [List.mapM_append]
  constructor
  · intro h
    obtain ⟨bs, hbs, h⟩ := bind_eq_ok_iff.1 h
    obtain ⟨tail, htail, h⟩ := bind_eq_ok_iff.1 h
    obtain ⟨b, cs, hb, hcs, rfl⟩ := mapM_cons_eq_ok_iff.1 htail
    exact ⟨bs, b, cs, hbs, hb, hcs, (Except.ok.inj h).symm⟩
  · intro h
    obtain ⟨bs, b, cs, hbs, hb, hcs, rfl⟩ := h
    rw [hbs, mapM_cons_eq_ok_iff.2 ⟨b, cs, hb, hcs, rfl⟩]
    rfl

/-- A list of steps fails with the first of them that fails. -/
theorem mapM_append_cons_eq_error {before : List α} {e : ε}
    (hbefore : ∀ y ∈ before, ∃ b, f y = .ok b) (hx : f x = .error e) :
    (before ++ x :: xs).mapM f = .error e := by
  induction before with
  | nil =>
    rw [List.nil_append, List.mapM_cons, hx]
    rfl
  | cons y before ih =>
    obtain ⟨⟨b, hb⟩, hbefore⟩ := List.forall_mem_cons.1 hbefore
    rw [List.cons_append, List.mapM_cons, hb, ih hbefore]
    rfl

/-- A list of steps that fails has a step that fails so, with none before it that does. -/
theorem exists_append_cons_of_mapM_eq_error {e : ε} (h : xs.mapM f = .error e) :
    ∃ before y after, xs = before ++ y :: after ∧ (∀ z ∈ before, ∃ b, f z = .ok b) ∧
      f y = .error e := by
  induction xs with
  | nil => cases h
  | cons x xs ih =>
    rw [List.mapM_cons] at h
    rcases bind_eq_error_iff.1 h with hx | ⟨b, hb, h⟩
    · exact ⟨[], x, xs, rfl, List.forall_mem_nil _, hx⟩
    rcases bind_eq_error_iff.1 h with hxs | ⟨_, _, h⟩
    · obtain ⟨before, y, after, rfl, hbefore, hy⟩ := ih hxs
      exact ⟨x :: before, y, after, rfl, List.forall_mem_cons.2 ⟨⟨b, hb⟩, hbefore⟩, hy⟩
    · cases h

end Lists

/-! ## Side by side -/

/-- The two computations fail both or succeed both, with faults or values that are related. -/
inductive Together {ε ε' α β : Type} (q : ε → ε' → Prop) (r : α → β → Prop) :
    Except ε α → Except ε' β → Prop where
  | ok {a : α} {b : β} : r a b → Together q r (.ok a) (.ok b)
  | error {e : ε} {e' : ε'} : q e e' → Together q r (.error e) (.error e')

/-- What fails or succeeds in the same way is the same. -/
theorem Together.eq {ε α : Type} {x y : Except ε α} (h : Together Eq Eq x y) : x = y := by
  cases h with
  | ok h => rw [h]
  | error h => rw [h]

/-- Two steps are made together if the first is, and the second is from values that are related. -/
theorem Together.bind {ε ε' α β α' β' : Type} {q : ε → ε' → Prop} {r : α → β → Prop}
    {s : α' → β' → Prop} {x : Except ε α} {y : Except ε' β} {f : α → Except ε α'}
    {g : β → Except ε' β'} (h : Together q r x y)
    (hfg : ∀ a b, r a b → Together q s (f a) (g b)) : Together q s (x >>= f) (y >>= g) := by
  cases h with
  | ok h => exact hfg _ _ h
  | error h => exact .error h

theorem Together.imp {ε ε' α β : Type} {q q' : ε → ε' → Prop} {r r' : α → β → Prop}
    {x : Except ε α} {y : Except ε' β} (h : Together q r x y) (hq : ∀ e e', q e e' → q' e e')
    (hr : ∀ a b, r a b → r' a b) : Together q' r' x y := by
  cases h with
  | ok h => exact .ok (hr _ _ h)
  | error h => exact .error (hq _ _ h)

/-- Two lists of steps are made together if each step of one is made together with that of the
other. -/
theorem Together.mapM {ε ε' α β γ : Type} {q : ε → ε' → Prop} {f : α → Except ε γ}
    {g : β → Except ε' γ} {xs : List α} {ys : List β}
    (h : List.Forall₂ (fun x y => Together q Eq (f x) (g y)) xs ys) :
    Together q Eq (xs.mapM f) (ys.mapM g) := by
  induction h with
  | nil => exact .ok rfl
  | cons hxy _ ih =>
    rw [List.mapM_cons, List.mapM_cons]
    exact hxy.bind fun _ _ hc => ih.bind fun _ _ hcs => .ok (congrArg₂ List.cons hc hcs)

end TemplateLiteral
