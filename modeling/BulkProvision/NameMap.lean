/-!
# Maps from names

`NameMap α` is a finite map from names to values.  Its entries are kept in strictly ascending
order of name (by code point, which is also the order of the UTF-8 bytes), and the order is part
of the type: two maps with the same entries are equal (`NameMap.ext`), and a walk over a map
meets the names in ascending order.

The view of a map is `NameMap.get?`; `get?_insert` and `get?_erase` say what the operations do
to it.
-/

namespace BulkProvision

/-- A finite map from names, its entries in strictly ascending order of name. -/
structure NameMap (α : Type) where
  /-- The entries, each name once. -/
  entries : List (String × α)
  ascending : entries.Pairwise (fun a b => a.1 < b.1)
  deriving DecidableEq

namespace NameMap

variable {α β : Type}

/-! ### Ordered entries -/

/-- Inserts an entry before the first greater name, replacing an entry of the same name. -/
def insertEntry (name : String) (value : α) : List (String × α) → List (String × α)
  | [] => [(name, value)]
  | (n, v) :: rest =>
    if name < n then (name, value) :: (n, v) :: rest
    else if name = n then (name, value) :: rest
    else (n, v) :: insertEntry name value rest

/-- The value of the first entry of that name. -/
def findEntry (name : String) : List (String × α) → Option α
  | [] => none
  | (n, v) :: rest => if n = name then some v else findEntry name rest

theorem mem_insertEntry {name : String} {value : α} {e : String × α} {l : List (String × α)}
    (h : e ∈ insertEntry name value l) : e = (name, value) ∨ e ∈ l := by
  induction l with
  | nil => exact .inl (by simpa [insertEntry] using h)
  | cons a rest ih =>
    rw [insertEntry] at h
    split at h
    · exact (List.mem_cons.1 h)
    · split at h
      · exact (List.mem_cons.1 h).imp_right (List.mem_cons_of_mem _)
      · rcases List.mem_cons.1 h with h | h
        · exact .inr (h ▸ List.mem_cons_self)
        · exact (ih h).imp_right (List.mem_cons_of_mem _)

theorem lt_of_not_lt_of_ne {a b : String} (h : ¬ a < b) (hne : a ≠ b) : b < a := by
  rcases Std.lt_trichotomy a b with h' | h' | h'
  · exact absurd h' h
  · exact absurd h' hne
  · exact h'

theorem pairwise_insertEntry (name : String) (value : α) {l : List (String × α)}
    (h : l.Pairwise (fun a b => a.1 < b.1)) :
    (insertEntry name value l).Pairwise (fun a b => a.1 < b.1) := by
  induction l with
  | nil => simp [insertEntry]
  | cons a rest ih =>
    obtain ⟨n, v⟩ := a
    obtain ⟨hn, hrest⟩ := List.pairwise_cons.1 h
    rw [insertEntry]
    split
    · next hlt =>
      refine List.pairwise_cons.2 ⟨fun e he => ?_, h⟩
      rcases List.mem_cons.1 he with rfl | he
      · exact hlt
      · exact String.lt_trans hlt (hn e he)
    · next hnlt =>
      split
      · next heq => exact List.pairwise_cons.2 ⟨fun e he => heq ▸ hn e he, hrest⟩
      · next hne =>
        refine List.pairwise_cons.2 ⟨fun e he => ?_, ih hrest⟩
        rcases mem_insertEntry he with rfl | he
        · exact lt_of_not_lt_of_ne hnlt hne
        · exact hn e he

theorem findEntry_insertEntry (name key : String) (value : α) (l : List (String × α)) :
    findEntry key (insertEntry name value l) =
      if name = key then some value else findEntry key l := by
  induction l with
  | nil => simp [insertEntry, findEntry]
  | cons a rest ih =>
    obtain ⟨n, v⟩ := a
    rw [insertEntry]
    split
    · simp [findEntry]
    · split
      · next heq => subst heq; by_cases h : name = key <;> simp [findEntry, h]
      · next hne =>
        by_cases h : n = key
        · subst h; simp [findEntry, hne]
        · simp [findEntry, h, ih]

theorem findEntry_eq_none {key : String} {l : List (String × α)}
    (h : ∀ e ∈ l, key < e.1) : findEntry key l = none := by
  induction l with
  | nil => rfl
  | cons a rest ih =>
    have ha : a.1 ≠ key := fun he => String.lt_irrefl key (he ▸ h a List.mem_cons_self)
    rw [findEntry, if_neg ha]
    exact ih fun e he => h e (List.mem_cons_of_mem _ he)

theorem findEntry_filter_ne (name key : String) (l : List (String × α)) :
    findEntry key (l.filter fun e => e.1 ≠ name) =
      if name = key then none else findEntry key l := by
  induction l with
  | nil => simp [findEntry]
  | cons a rest ih =>
    obtain ⟨n, v⟩ := a
    by_cases hn : n = name
    · subst hn
      by_cases h : n = key <;> simp_all [findEntry]
    · by_cases h : n = key
      · subst h; simp_all [findEntry, Ne.symm hn]
      · simp_all [findEntry]

/-- Ascending entries are determined by their look-ups. -/
theorem entries_ext {l₁ l₂ : List (String × α)}
    (h₁ : l₁.Pairwise (fun a b => a.1 < b.1)) (h₂ : l₂.Pairwise (fun a b => a.1 < b.1))
    (h : ∀ key, findEntry key l₁ = findEntry key l₂) : l₁ = l₂ := by
  induction l₁ generalizing l₂ with
  | nil =>
    cases l₂ with
    | nil => rfl
    | cons b t => simpa [findEntry] using h b.1
  | cons a s ih =>
    cases l₂ with
    | nil => simpa [findEntry] using h a.1
    | cons b t =>
      obtain ⟨ha, hs⟩ := List.pairwise_cons.1 h₁
      obtain ⟨hb, ht⟩ := List.pairwise_cons.1 h₂
      have hab : a.1 = b.1 := by
        rcases Std.lt_trichotomy a.1 b.1 with hlt | heq | hgt
        · have hn : findEntry a.1 (b :: t) = none := findEntry_eq_none fun e he => by
            rcases List.mem_cons.1 he with rfl | he
            · exact hlt
            · exact String.lt_trans hlt (hb e he)
          have := h a.1
          rw [hn] at this
          simp [findEntry] at this
        · exact heq
        · have hn : findEntry b.1 (a :: s) = none := findEntry_eq_none fun e he => by
            rcases List.mem_cons.1 he with rfl | he
            · exact hgt
            · exact String.lt_trans hgt (ha e he)
          have := h b.1
          rw [hn] at this
          simp [findEntry] at this
      have hv : a.2 = b.2 := by
        have := h a.1
        simpa [findEntry, hab] using this
      have hst : s = t := by
        refine ih hs ht fun key => ?_
        by_cases hk : a.1 = key
        · subst hk
          rw [findEntry_eq_none fun e he => ha e he,
            findEntry_eq_none fun e he => hab ▸ hb e he]
        · have := h key
          simpa [findEntry, hk, hab ▸ hk] using this
      rw [Prod.ext hab hv, hst]

/-! ### Maps -/

/-- The map without an entry. -/
def empty : NameMap α := ⟨[], List.Pairwise.nil⟩

instance : EmptyCollection (NameMap α) := ⟨empty⟩
instance : Inhabited (NameMap α) := ⟨empty⟩

/-- The value held under a name. -/
def get? (m : NameMap α) (name : String) : Option α := findEntry name m.entries

/-- Whether a name has an entry. -/
def contains (m : NameMap α) (name : String) : Bool := (m.get? name).isSome

/-- Holds a value under a name, in place of any earlier value. -/
def insert (m : NameMap α) (name : String) (value : α) : NameMap α :=
  ⟨insertEntry name value m.entries, pairwise_insertEntry name value m.ascending⟩

/-- Drops the entry of a name. -/
def erase (m : NameMap α) (name : String) : NameMap α :=
  ⟨m.entries.filter fun e => e.1 ≠ name, m.ascending.filter _⟩

/-- Number of entries. -/
def size (m : NameMap α) : Nat := m.entries.length

/-- Whether there is no entry. -/
def isEmpty (m : NameMap α) : Bool := m.entries.isEmpty

/-- The names, ascending. -/
def names (m : NameMap α) : List String := m.entries.map (·.1)

/-- The map of a list of entries; of two entries of one name the later one counts. -/
def ofList (entries : List (String × α)) : NameMap α :=
  entries.foldl (fun m e => m.insert e.1 e.2) empty

/-- Applies a function to every value. -/
def map (f : α → β) (m : NameMap α) : NameMap β :=
  ⟨m.entries.map fun e => (e.1, f e.2), m.ascending.map _ fun _ _ h => h⟩

@[simp] theorem get?_empty (key : String) : (empty : NameMap α).get? key = none := rfl

theorem get?_insert (m : NameMap α) (name key : String) (value : α) :
    (m.insert name value).get? key = if name = key then some value else m.get? key :=
  findEntry_insertEntry name key value m.entries

@[simp] theorem get?_insert_self (m : NameMap α) (name : String) (value : α) :
    (m.insert name value).get? name = some value := by rw [get?_insert, if_pos rfl]

theorem get?_insert_of_ne (m : NameMap α) {name key : String} (h : name ≠ key) (value : α) :
    (m.insert name value).get? key = m.get? key := by rw [get?_insert, if_neg h]

theorem get?_erase (m : NameMap α) (name key : String) :
    (m.erase name).get? key = if name = key then none else m.get? key :=
  findEntry_filter_ne name key m.entries

/-- Two maps with the same look-ups are equal. -/
@[ext] theorem ext {m₁ m₂ : NameMap α} (h : ∀ key, m₁.get? key = m₂.get? key) : m₁ = m₂ := by
  cases m₁ with
  | mk l₁ h₁ =>
    cases m₂ with
    | mk l₂ h₂ =>
      have : l₁ = l₂ := entries_ext h₁ h₂ h
      subst this
      rfl

@[simp] theorem insert_insert (m : NameMap α) (name : String) (v w : α) :
    (m.insert name v).insert name w = m.insert name w := by
  ext key
  by_cases h : name = key <;> simp [get?_insert, h]

theorem insert_eq_self {m : NameMap α} {name : String} {value : α} (h : m.get? name = some value) :
    m.insert name value = m := by
  ext key
  by_cases hkey : name = key
  · subst hkey
    rw [get?_insert_self, h]
  · rw [get?_insert_of_ne m hkey]

theorem get?_foldl_insert (m : NameMap α) (entries : List (String × α)) (key : String) :
    (entries.foldl (fun m e => m.insert e.1 e.2) m).get? key =
      ((entries.reverse.find? fun e => e.1 = key).map (·.2)).or (m.get? key) := by
  induction entries generalizing m with
  | nil => rfl
  | cons e rest ih =>
    rw [List.foldl_cons, ih, List.reverse_cons, List.find?_append, get?_insert]
    by_cases hkey : e.1 = key
    · cases rest.reverse.find? fun e => e.1 = key <;> simp [hkey]
    · simp [hkey]

theorem get?_ofList (entries : List (String × α)) (key : String) :
    (ofList entries).get? key = (entries.reverse.find? fun e => e.1 = key).map (·.2) := by
  rw [ofList, get?_foldl_insert, get?_empty, Option.or_none]

end NameMap

/-- A finite set of names, walked in ascending order. -/
abbrev NameSet := NameMap Unit

namespace NameSet

/-- The set of the listed names. -/
def ofList (names : List String) : NameSet := NameMap.ofList (names.map fun n => (n, ()))

end NameSet

end BulkProvision
