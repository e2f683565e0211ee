import BulkProvision.Proofs.FirstFault
import BulkProvision.Settings.Decode
import Mathlib.Data.List.TakeWhile

/-!
# Which settings are accepted

Settings are accepted exactly when the store and its database are named, both time-outs are
positive, and the datasets have names that are distinct and not blank (`Settings.check_eq_ok_iff`).

Otherwise the message is that of the first check that fails (`Settings.Refused`); of the datasets
it is the first entry whose name is blank or was there before (`Settings.check_eq_error_iff`).
-/

namespace BulkProvision

namespace Text

/-- Trimming leaves nothing of a text exactly when all of it is blank. -/
theorem trim_eq_nil_iff {s : List Char} : trim s = [] ↔ ∀ c ∈ s, isBlank c = true := by
  rw [trim, dropEnd, List.reverse_eq_nil_iff, List.dropWhile_eq_nil_iff]
  simp only [List.mem_reverse]
  constructor
  · intro h c hc
    rw [← List.takeWhile_append_dropWhile (p := isBlank) (l := s)] at hc
    rcases List.mem_append.1 hc with hc | hc
    · exact List.mem_takeWhile_imp hc
    · exact h c hc
  · exact fun h c hc => h c ((List.dropWhile_sublist isBlank).mem hc)

end Text

namespace Settings

/-- Nothing is left of a text without the blanks at both ends. -/
def Blank (text : String) : Prop := Text.trim text.toList = []

/-- What settings are accepted. -/
structure Acceptable (s : Settings) : Prop where
  uri : ¬ Blank s.store.uri
  database : ¬ Blank s.store.database
  connectTimeout : 0 < s.store.connectTimeoutMs
  selectionTimeout : 0 < s.store.serverSelectionTimeoutMs
  named : ∀ entry ∈ s.datasets, ¬ Blank entry.name
  distinct : (s.datasets.map DatasetEntry.name).Nodup

/-- What is wrong with the entry at an index: its name is blank, or that of an earlier entry. -/
inductive EntryFault (entries : List DatasetEntry) (index : Nat) (entry : DatasetEntry) :
    String → Prop
  | blank (h : Blank entry.name) :
      EntryFault entries index entry "dataset name must not be empty"
  | duplicate {earlier : DatasetEntry} (hnamed : ¬ Blank entry.name)
      (hmem : earlier ∈ entries.take index) (h : earlier.name = entry.name) :
      EntryFault entries index entry ("duplicate dataset '" ++ entry.name ++ "'")

/-- What settings are refused for: the first check that fails. -/
inductive Refused (s : Settings) : String → Prop
  | uri (h : Blank s.store.uri) : Refused s "store.uri must not be empty"
  | database (huri : ¬ Blank s.store.uri) (h : Blank s.store.database) :
      Refused s "store.database must not be empty"
  | timeouts (huri : ¬ Blank s.store.uri) (hdatabase : ¬ Blank s.store.database)
      (h : s.store.connectTimeoutMs = 0 ∨ s.store.serverSelectionTimeoutMs = 0) :
      Refused s "store timeouts must be greater than zero"
  | datasets {text : String} (huri : ¬ Blank s.store.uri) (hdatabase : ¬ Blank s.store.database)
      (hconnect : 0 < s.store.connectTimeoutMs)
      (hselection : 0 < s.store.serverSelectionTimeoutMs)
      (h : FirstFault (EntryFault s.datasets) s.datasets text) : Refused s text

theorem isAllBlank_iff {text : String} : Text.isAllBlank text = true ↔ Blank text := by
  rw [Text.isAllBlank, Blank, Text.trim_eq_nil_iff, List.all_eq_true]

/-! ### The names of the datasets -/

section Names

variable {seen : List String} {before rest : List DatasetEntry} {text : String}

theorem checkNames_eq_ok_iff :
    checkNames seen rest = .ok () ↔
      (∀ entry ∈ rest, ¬ Blank entry.name) ∧ (rest.map DatasetEntry.name).Nodup ∧
        ∀ entry ∈ rest, entry.name ∉ seen := by
  induction rest generalizing seen with
  | nil => simp [checkNames]
  | cons first rest ih =>
    rw [checkNames]
    by_cases hblank : Blank first.name
    · rw [if_pos (isAllBlank_iff.2 hblank)]
      simp [hblank]
    · rw [if_neg (mt isAllBlank_iff.1 hblank)]
      by_cases hseen : first.name ∈ seen
      · rw [if_pos hseen]
        simp [hseen]
      · rw [if_neg hseen, ih]
        have hlater : (∀ entry ∈ rest, entry.name ∉ first.name :: seen) ↔
            first.name ∉ rest.map DatasetEntry.name ∧ ∀ entry ∈ rest, entry.name ∉ seen := by
          simp only [List.mem_cons, not_or, List.mem_map, not_exists, not_and, forall_and]
        rw [hlater, List.map_cons, List.nodup_cons, List.forall_mem_cons, List.forall_mem_cons]
        tauto

section EntryFault

variable {entries : List DatasetEntry} {index : Nat} {entry : DatasetEntry}

theorem entryFault_of_blank (h : Blank entry.name) :
    EntryFault entries index entry text ↔ text = "dataset name must not be empty" := by
  constructor
  · rintro (- | ⟨hnamed, -, -⟩)
    · rfl
    · exact absurd h hnamed
  · rintro rfl
    exact .blank h

theorem entryFault_of_duplicate (hnamed : ¬ Blank entry.name)
    (h : ∃ earlier ∈ entries.take index, earlier.name = entry.name) :
    EntryFault entries index entry text ↔ text = "duplicate dataset '" ++ entry.name ++ "'" := by
  constructor
  · rintro (hblank | -)
    · exact absurd hblank hnamed
    · rfl
  · rintro rfl
    obtain ⟨earlier, hmem, hname⟩ := h
    exact .duplicate hnamed hmem hname

theorem not_entryFault (hnamed : ¬ Blank entry.name)
    (h : ¬ ∃ earlier ∈ entries.take index, earlier.name = entry.name) :
    ¬ EntryFault entries index entry text := by
  rintro (hblank | ⟨-, hmem, hname⟩)
  · exact hnamed hblank
  · exact h ⟨_, hmem, hname⟩

end EntryFault

theorem refuses_iff {fault : Fault} :
    (Except.error fault : Except Fault Unit).mapError Fault.message = .error text ↔
      text = fault.message := by
  rw [Except.mapError, Except.error.injEq, eq_comm]

/-- The entries after those whose names were seen are checked up to the first that is faulty. -/
theorem checkNames_eq_error_iff
    (hseen : ∀ name, name ∈ seen ↔ ∃ earlier ∈ before, earlier.name = name) :
    (checkNames seen rest).mapError Fault.message = .error text ↔
      FirstFault (fun index => EntryFault (before ++ rest) (before.length + index)) rest text := by
  induction rest generalizing seen before with
  | nil => simp [checkNames, Except.mapError, not_firstFault_nil]
  | cons first rest ih =>
    have htake : (before ++ first :: rest).take before.length = before := List.take_left
    rw [checkNames]
    by_cases hblank : Blank first.name
    · rw [if_pos (isAllBlank_iff.2 hblank), refuses_iff,
        firstFault_of_faulty fun other => entryFault_of_blank hblank]
      rfl
    · rw [if_neg (mt isAllBlank_iff.1 hblank)]
      by_cases hmem : first.name ∈ seen
      · rw [if_pos hmem, refuses_iff, firstFault_of_faulty fun other =>
          entryFault_of_duplicate hblank (htake.symm ▸ (hseen first.name).1 hmem)]
        rfl
      · have hseen' (name : String) : name ∈ first.name :: seen ↔
            ∃ earlier ∈ before ++ [first], earlier.name = name := by
          simp [hseen, or_and_right, exists_or, eq_comm, or_comm]
        have hrest := ih hseen'
        rw [List.append_assoc, List.singleton_append, List.length_append] at hrest
        rw [if_neg hmem, hrest, firstFault_of_faultless fun other =>
          not_entryFault hblank (htake.symm ▸ mt (hseen first.name).2 hmem)]
        rfl

end Names

/-! ### Settings -/

variable {s : Settings}

/-- **Which settings are accepted.** -/
theorem check_eq_ok_iff : s.check = .ok () ↔ s.Acceptable := by
  rw [check]
  constructor
  · intro h
    split_ifs at h with huri hdatabase htimeout
    obtain ⟨hnamed, hdistinct, -⟩ := checkNames_eq_ok_iff.1 h
    rw [not_or] at htimeout
    exact ⟨mt isAllBlank_iff.2 huri, mt isAllBlank_iff.2 hdatabase,
      Nat.pos_of_ne_zero htimeout.1, Nat.pos_of_ne_zero htimeout.2, hnamed, hdistinct⟩
  · rintro ⟨huri, hdatabase, hconnect, hselection, hnamed, hdistinct⟩
    rw [if_neg (mt isAllBlank_iff.1 huri), if_neg (mt isAllBlank_iff.1 hdatabase),
      if_neg (not_or.2 ⟨hconnect.ne', hselection.ne'⟩)]
    exact checkNames_eq_ok_iff.2 ⟨hnamed, hdistinct, by simp⟩

/-- **What settings are refused for.** -/
theorem check_eq_error_iff {text : String} :
    s.check.mapError Fault.message = .error text ↔ s.Refused text := by
  have hnames : (checkNames [] s.datasets).mapError Fault.message = .error text ↔
      FirstFault (EntryFault s.datasets) s.datasets text := by
    simpa using @checkNames_eq_error_iff [] [] s.datasets text (by simp)
  rw [check]
  constructor
  · intro h
    split_ifs at h with huri hdatabase htimeout
    · cases h
      exact .uri (isAllBlank_iff.1 huri)
    · cases h
      exact .database (mt isAllBlank_iff.2 huri) (isAllBlank_iff.1 hdatabase)
    · cases h
      exact .timeouts (mt isAllBlank_iff.2 huri) (mt isAllBlank_iff.2 hdatabase) htimeout
    · rw [not_or] at htimeout
      exact .datasets (mt isAllBlank_iff.2 huri) (mt isAllBlank_iff.2 hdatabase)
        (Nat.pos_of_ne_zero htimeout.1) (Nat.pos_of_ne_zero htimeout.2) (hnames.1 h)
  · rintro (huri | ⟨huri, hdatabase⟩ | ⟨huri, hdatabase, htimeout⟩ |
      ⟨huri, hdatabase, hconnect, hselection, hfirst⟩)
    · rw [if_pos (isAllBlank_iff.2 huri)]
      rfl
    · rw [if_neg (mt isAllBlank_iff.1 huri), if_pos (isAllBlank_iff.2 hdatabase)]
      rfl
    · rw [if_neg (mt isAllBlank_iff.1 huri), if_neg (mt isAllBlank_iff.1 hdatabase),
        if_pos htimeout]
      rfl
    · rw [if_neg (mt isAllBlank_iff.1 huri), if_neg (mt isAllBlank_iff.1 hdatabase),
        if_neg (not_or.2 ⟨hconnect.ne', hselection.ne'⟩)]
      exact hnames.2 hfirst

end Settings

end BulkProvision
