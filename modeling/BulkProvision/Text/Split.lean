/-!
# Splitting

Parts of a text between separators.
-/

namespace BulkProvision

namespace Text

/-- The parts between the occurrences of a separator; a text without one is one part. -/
def splitOn (separator : Char) : List Char → List (List Char)
  | [] => [[]]
  | c :: rest =>
    if c = separator then [] :: splitOn separator rest
    else
      match splitOn separator rest with
      | [] => [[c]]
      | part :: parts => (c :: part) :: parts

/-- The parts of a string between the occurrences of a separator. -/
def splitString (separator : Char) (s : String) : List String :=
  (splitOn separator s.toList).map String.ofList

/-- What follows, if the text starts with the given one. -/
def dropStart? : List Char → List Char → Option (List Char)
  | [], s => some s
  | _ :: _, [] => none
  | c :: start, d :: s => if c = d then dropStart? start s else none

/-- Splits at the first occurrence of a pattern: the text before it and the text after it. -/
def splitAt? (pattern : List Char) : List Char → Option (List Char × List Char)
  | [] => if pattern = [] then some ([], []) else none
  | c :: rest =>
    match dropStart? pattern (c :: rest) with
    | some after => some ([], after)
    | none => (splitAt? pattern rest).map fun (before, after) => (c :: before, after)

/-- Whether a pattern occurs in a text. -/
def contains (pattern s : List Char) : Bool := (splitAt? pattern s).isSome

/-- The parts of a splitting put together again. -/
theorem append_of_splitAt? {pattern s before after : List Char}
    (h : splitAt? pattern s = some (before, after)) : before ++ pattern ++ after = s := by
  induction s generalizing before with
  | nil =>
    rw [splitAt?] at h
    split at h
    · simp_all
    · simp at h
  | cons c rest ih =>
    rw [splitAt?] at h
    split at h
    · next a ha =>
      simp only [Option.some.injEq, Prod.mk.injEq] at h
      obtain ⟨rfl, rfl⟩ := h
      exact append_of_dropStart? ha
    · rw [Option.map_eq_some_iff] at h
      obtain ⟨⟨b, a⟩, hs, heq⟩ := h
      simp only [Prod.mk.injEq] at heq
      obtain ⟨rfl, rfl⟩ := heq
      rw [List.cons_append, List.cons_append, ih hs]
where
  /-- A dropped start and the rest are the text. -/
  append_of_dropStart? {start s after : List Char} (h : dropStart? start s = some after) :
      start ++ after = s := by
    induction start generalizing s with
    | nil => simpa [dropStart?] using h.symm
    | cons c start ih =>
      cases s with
      | nil => simp [dropStart?] at h
      | cons d s =>
        rw [dropStart?] at h
        split at h
        · next hc => rw [List.cons_append, ih h, hc]
        · simp at h

theorem dropStart?_append (start after : List Char) :
    dropStart? start (start ++ after) = some after := by
  induction start with
  | nil => rfl
  | cons c start ih => rw [List.cons_append, dropStart?, if_pos rfl, ih]

/-- A pattern occurs in a text exactly when it is a part of it. -/
theorem contains_iff {pattern s : List Char} : contains pattern s = true ↔ pattern <:+: s := by
  constructor
  · intro h
    obtain ⟨⟨before, after⟩, hsplit⟩ := Option.isSome_iff_exists.1 h
    exact ⟨before, after, append_of_splitAt? hsplit⟩
  · intro h
    rw [contains]
    induction s with
    | nil =>
      obtain rfl := List.infix_nil.1 h
      rfl
    | cons c rest ih =>
      rw [splitAt?]
      rcases List.infix_cons_iff.1 h with ⟨after, hafter⟩ | hrest
      · rw [← hafter, dropStart?_append]
        rfl
      · split
        · rfl
        · rw [Option.isSome_map]
          exact ih hrest

end Text

end BulkProvision
