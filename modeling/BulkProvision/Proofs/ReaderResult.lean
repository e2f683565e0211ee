import BulkProvision.Text.Reader

/-!
# Results of readers

`Reader.Yields` says what every result of a reader is like, whatever text it is read from.  It goes
through the ways of putting readers together, so that a property of the parts becomes one of the
whole.
-/

namespace BulkProvision

namespace Text.Reader

variable {α β : Type} {P : α → Prop}

/-- Every result of the reader has the property. -/
def Yields (reader : Reader α) (P : α → Prop) : Prop :=
  ∀ s result rest, reader s = some (result, rest) → P result

theorem yields_any (reader : Reader α) : Yields reader fun _ => True := fun _ _ _ _ => trivial

theorem yields_pure {a : α} (h : P a) : Yields (pure a) P := by
  rintro s result rest ⟨⟩
  exact h

theorem yields_failure : Yields (failure : Reader α) P := by
  rintro s result rest ⟨⟩

theorem Yields.bind {reader : Reader β} {next : β → Reader α} {Q : β → Prop}
    (h : Yields reader Q) (hnext : ∀ b, Q b → Yields (next b) P) : Yields (reader >>= next) P := by
  intro s result rest hread
  obtain ⟨⟨b, s'⟩, hb, hresult⟩ := Option.bind_eq_some_iff.1 hread
  exact hnext b (h s b s' hb) s' result rest hresult

theorem yields_bind {reader : Reader β} {next : β → Reader α}
    (hnext : ∀ b, Yields (next b) P) : Yields (reader >>= next) P :=
  (yields_any reader).bind fun b _ => hnext b

theorem Yields.map {reader : Reader β} {f : β → α} (h : Yields reader fun b => P (f b)) :
    Yields (f <$> reader) P := by
  intro s result rest hread
  obtain ⟨⟨b, s'⟩, hb, hresult⟩ := Option.bind_eq_some_iff.1 hread
  cases hresult
  exact h s b _ hb

theorem Yields.orElse {first second : Reader α} (hfirst : Yields first P)
    (hsecond : Yields second P) : Yields (first <|> second) P := by
  intro s result rest hread
  have hor : (first <|> second) s = (first s <|> second s) := rfl
  rw [hor] at hread
  cases hs : first s with
  | none =>
    rw [hs] at hread
    exact hsecond s result rest hread
  | some found =>
    rw [hs] at hread
    cases hread
    exact hfirst s result rest hs

theorem yields_lift {x : Option α} (h : ∀ a, x = some a → P a) :
    Yields (StateT.lift x : Reader α) P := by
  intro s result rest hread
  obtain ⟨a, ha, hresult⟩ := Option.bind_eq_some_iff.1 hread
  cases hresult
  exact h _ ha

theorem Yields.separated {item : Reader α} (h : Yields item P) (separator : Reader Bool)
    (rounds : Nat) : Yields (separated item separator rounds) fun items => ∀ a ∈ items, P a := by
  induction rounds with
  | zero =>
    rw [Reader.separated]
    exact h.bind fun a ha => yields_pure (by simpa using ha)
  | succ rounds ih =>
    rw [Reader.separated]
    refine h.bind fun a ha => yields_bind fun more => ?_
    cases more with
    | false => exact yields_pure (by simpa using ha)
    | true => exact ih.bind fun others hothers => yields_pure (List.forall_mem_cons.2 ⟨ha, hothers⟩)

theorem Yields.readAll {reader : Reader α} (h : Yields reader P) {s : List Char} {a : α}
    (hread : readAll reader s = some a) : P a := by
  rw [Reader.readAll] at hread
  split at hread
  · next value hvalue =>
    cases hread
    exact h s a [] hvalue
  · cases hread

end Text.Reader

end BulkProvision
