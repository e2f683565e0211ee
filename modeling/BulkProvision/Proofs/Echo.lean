import BulkProvision.Proofs.Requests

/-!
# Names that a cluster repeats

A cluster that fails a request mostly says which collection it speaks of: its text is a `Template`
around the quoted name.  A failure by a code that does not stand for a goal met before is read by
its text, and the text is searched for the word "already" as a whole, the name included.

So the name decides: where the rest of the text does not have the word, the failure is read as a
goal met before if the name has it, and as a refusal if it has not (`decided_of_template`).  Two
names put into the same text are read alike exactly when both have the word or neither has it.
A quotation mark keeps the word from beginning in the text and ending in the name
(`saysAlready_message`).
-/

namespace BulkProvision

namespace Remote

open Store Provision

/-! ### The word in a text -/

/-- A text has the word "already" in it, in any letter case. -/
def SaysAlready (text : String) : Prop := "already".toList <:+: text.toList.map Char.toLower

theorem mentionsAlready_iff {text : String} : mentionsAlready text = true ↔ SaysAlready text :=
  Text.contains_iff

instance (text : String) : Decidable (SaysAlready text) :=
  decidable_of_iff (mentionsAlready text = true) mentionsAlready_iff

section Infix

variable {α : Type} {pattern before after : List α} {mark : α}

theorem isPrefix_of_isPrefix_append_cons (before : List α) (hmark : mark ∉ pattern)
    (h : pattern <+: before ++ mark :: after) : pattern <+: before := by
  obtain ⟨rest, hrest⟩ := h
  rcases List.append_eq_append_iff.1 hrest with ⟨between, hbefore, -⟩ | ⟨between, hpattern, hcons⟩
  · exact ⟨between, hbefore.symm⟩
  · cases between with
    | nil =>
      rw [List.append_nil] at hpattern
      exact hpattern ▸ List.prefix_rfl
    | cons c between =>
      obtain rfl : mark = c := (List.cons.inj hcons).1
      rw [hpattern] at hmark
      exact absurd (List.mem_append_right _ List.mem_cons_self) hmark

/-- What does not have a mark in it lies before the mark or after it. -/
theorem isInfix_append_cons_iff (hmark : mark ∉ pattern) :
    pattern <:+: before ++ mark :: after ↔ pattern <:+: before ∨ pattern <:+: after := by
  constructor
  -- what begins before the mark ends before it, and the rest begins after it
  · intro h
    induction before with
    | nil =>
      rcases List.infix_cons_iff.1 h with hprefix | hafter
      · exact .inl (isPrefix_of_isPrefix_append_cons [] hmark hprefix).isInfix
      · exact .inr hafter
    | cons c before ih =>
      rcases List.infix_cons_iff.1 h with hprefix | hrest
      · exact .inl (isPrefix_of_isPrefix_append_cons (c :: before) hmark hprefix).isInfix
      · exact (ih hrest).imp_left fun hbefore => List.infix_cons_iff.2 (.inr hbefore)
  · rintro (h | h)
    · exact h.trans (List.prefix_append ..).isInfix
    · exact h.trans ⟨before ++ [mark], [], by simp⟩

end Infix

/-- A character that is no letter of the word keeps what is before it apart from what is after. -/
theorem saysAlready_append_iff {before after : String} {mark : Char}
    (hmark : mark.toLower ∉ "already".toList) :
    SaysAlready (before ++ String.singleton mark ++ after) ↔
      SaysAlready before ∨ SaysAlready after := by
  unfold SaysAlready
  simp only [String.toList_append, String.toList_singleton, List.map_append, List.map_cons,
    List.append_assoc, List.singleton_append]
  exact isInfix_append_cons_iff hmark

/-! ### Texts around a name -/

/-- A text around a quoted name, which says "already" neither before nor after the name. -/
structure Template where
  opening : String
  openingMark : Char
  closingMark : Char
  closing : String
  openingMark_notMem : openingMark.toLower ∉ "already".toList
  closingMark_notMem : closingMark.toLower ∉ "already".toList
  not_opening : ¬ SaysAlready opening
  not_closing : ¬ SaysAlready closing

namespace Template

/-- The text around a name. -/
def message (t : Template) (name : String) : String :=
  t.opening ++ String.singleton t.openingMark ++
    (name ++ String.singleton t.closingMark ++ t.closing)

/-- The text says "already" exactly when the name does. -/
theorem saysAlready_message (t : Template) (name : String) :
    SaysAlready (t.message name) ↔ SaysAlready name := by
  rw [message, saysAlready_append_iff t.openingMark_notMem,
    saysAlready_append_iff t.closingMark_notMem]
  simp [t.not_opening, t.not_closing]

/-- How a step fares whose failure the cluster puts into such a text. -/
def reading (t : Template) (operation target : String) : Except Error Outcome :=
  if SaysAlready target then
    .ok (.alreadySatisfied (operation ++ " on " ++ target ++ ": " ++ t.message target))
  else .error (.rejected operation target (t.message target))

/-- A failure that repeats a name, by another code than the one for a goal met before. -/
structure Echoes (t : Template) (name : String) (code : Int) (failure : Failure) : Prop where
  text : failure.text = t.message name
  code : failure.code? ≠ some code
  transport : failure.isTransport = false

end Template

/-! ### Kinds of results -/

/-- What kind of result a failed request comes to. -/
inductive Kind where
  | satisfied
  | rejected
  | unreachable
  deriving DecidableEq

/-- The kind of a result; what no failed request comes to is of none. -/
def kind? : Except Error Outcome → Option Kind
  | .ok (.alreadySatisfied _) => some .satisfied
  | .error (.rejected ..) => some .rejected
  | .error (.unreachable ..) => some .unreachable
  | _ => none

section Classified

variable {t : Template} {operation target target' : String} {code : Option Int}
  {already : List Int}

theorem goalMet_message {unreachable : Bool} (halready : already ≠ [])
    (hcode : ∀ c ∈ code, c ∉ already) :
    (Signs.mk code (t.message target) unreachable).goalMet already = true ↔
      SaysAlready target := by
  have hother : code.any already.contains = false := by
    rw [Option.any_eq_false]
    intro c hc
    simpa using hcode c hc
  rw [Signs.goalMet, hother, Bool.false_or, Bool.and_eq_true, mentionsAlready_iff,
    t.saysAlready_message]
  simp [halready]

/-- The name in the text of a failure decides what the failure is read as. -/
theorem classify_message (halready : already ≠ []) (hcode : ∀ c ∈ code, c ∉ already) :
    classify operation target ⟨code, t.message target, false⟩ already =
      t.reading operation target := by
  rw [classify, Template.reading, Bool.not_false, Bool.true_and]
  simp only [goalMet_message halready hcode]
  rfl

theorem classify_message_of_unreachable :
    classify operation target ⟨code, t.message target, true⟩ already =
      .error (.unreachable operation (t.message target)) :=
  rfl

theorem kind?_reading (t : Template) (operation target : String) :
    kind? (t.reading operation target) =
      if SaysAlready target then some .satisfied else some .rejected := by
  rw [Template.reading]
  split <;> rfl

/-- Two names are read alike exactly when both have the word or neither has it. -/
theorem kind?_reading_eq_iff :
    kind? (t.reading operation target) = kind? (t.reading operation target') ↔
      (SaysAlready target ↔ SaysAlready target') := by
  rw [kind?_reading, kind?_reading]
  by_cases h : SaysAlready target
  · by_cases h' : SaysAlready target' <;> simp [h, h']
  · by_cases h' : SaysAlready target' <;> simp [h, h']

theorem classify_of_echoes {c : Int} {failure : Failure} (h : t.Echoes target c failure) :
    classify operation target failure.signs [c] = t.reading operation target := by
  rw [Failure.signs, h.text, h.transport]
  refine classify_message (List.cons_ne_nil c []) fun c' hc' hmem => ?_
  obtain rfl := List.mem_singleton.1 hmem
  exact h.code hc'

end Classified

/-- What becomes of failures whose text repeats a name. -/
structure DecidedByName (t : Template) : Prop where
  /-- Out of reach is out of reach, whatever the name. -/
  lost : ∀ operation target code already,
    classify operation target ⟨code, t.message target, true⟩ already =
      .error (.unreachable operation (t.message target))
  classified : ∀ operation target code already, already ≠ [] → (∀ c ∈ code, c ∉ already) →
    classify operation target ⟨code, t.message target, false⟩ already =
      t.reading operation target
  /-- One text with two names. -/
  sameKind : ∀ operation target target' code unreachable already, already ≠ [] →
    (∀ c ∈ code, c ∉ already) →
      (kind? (classify operation target ⟨code, t.message target, unreachable⟩ already) =
          kind? (classify operation target' ⟨code, t.message target', unreachable⟩ already) ↔
        unreachable = true ∨ (SaysAlready target ↔ SaysAlready target'))
  /-- A collection that the cluster does not make. -/
  created : ∀ (σ : Type) (cluster : Cluster σ) (files : FileTree) (database name : String)
    (schema : Schema) (level : Enforcement) (s s' : σ) (failure : Failure),
    cluster (.create ⟨database, name⟩ (Document.validator schema) level) s =
      (.error failure, s') → t.Echoes name namespaceExists failure →
    (backend cluster files database).handle (.createCollection name schema level) s =
      (t.reading "create_collection" name, s')
  /-- A collection that the cluster does not partition. -/
  partitioned : ∀ (σ : Type) (cluster : Cluster σ) (files : FileTree)
    (database name field : String) (strategy : KeyStrategy) (s s' : σ) (failure : Failure),
    cluster (.command adminDatabase (partitionCommand ⟨database, name⟩ field strategy)) s =
      (.error failure, s') → t.Echoes name alreadyInitialized failure →
    (backend cluster files database).handle (.partitionCollection name field strategy) s =
      (t.reading "partition_collection" name, s')

/-- **The name decides.**  A failure that a cluster reports in a text around the quoted name, and
not by a code for a goal met before, is read as a refusal if the name does not have the word
"already" in it, and as a goal met before if it has; so with such a name a collection that was
neither made nor partitioned passes for one that was. -/
theorem decided_of_template (t : Template) : DecidedByName t := by
  refine ⟨fun _ _ _ _ => classify_message_of_unreachable,
    fun _ _ _ _ halready hcode => classify_message halready hcode, ?_, ?_, ?_⟩
  · intro operation target target' code unreachable already halready hcode
    cases unreachable with
    | true => simp only [classify_message_of_unreachable, kind?, true_or]
    | false =>
      rw [classify_message halready hcode, classify_message halready hcode, kind?_reading_eq_iff]
      simp
  · intro σ cluster files database name schema level s s' failure hanswer hechoes
    rw [handle_of_carried (carried_createCollection name schema level), hanswer]
    exact congrArg (·, s') (classify_of_echoes hechoes)
  · intro σ cluster files database name field strategy s s' failure hanswer hechoes
    rw [handle_of_carried (carried_partitionCollection name field strategy), hanswer]
    exact congrArg (·, s') (classify_of_echoes hechoes)

/-- The text by which a cluster says that a user may not make a collection. -/
def notAuthorized : Template where
  opening := "Kind: Command failed: Error code 13 (Unauthorized): " ++
    "not authorized on weatherDB to execute command \x7b create: "
  openingMark := '"'
  closingMark := '"'
  closing := " \x7d"
  openingMark_notMem := by decide
  closingMark_notMem := by decide
  not_opening := by decide
  not_closing := by decide

/-- The same refusal of two collections, one of which counts as there. -/
theorem decided_of_template_notAuthorized :
    let refused (name : String) : Signs := ⟨some 13, notAuthorized.message name, false⟩
    classify "create_collection" "archived" (refused "archived") [namespaceExists] =
        .error (.rejected "create_collection" "archived" (notAuthorized.message "archived")) ∧
      kind? (classify "create_collection" "alreadyArchived" (refused "alreadyArchived")
        [namespaceExists]) = some .satisfied := by
  intro refused
  have hcode : ∀ c ∈ some 13, c ∉ [namespaceExists] := by decide
  obtain ⟨-, hclassified, -, -, -⟩ := decided_of_template notAuthorized
  refine ⟨?_, ?_⟩
  · rw [hclassified _ _ _ _ (List.cons_ne_nil _ _) hcode]
    exact if_neg (by decide)
  · rw [hclassified _ _ _ _ (List.cons_ne_nil _ _) hcode, kind?_reading]
    exact if_pos (by decide)

end Remote

end BulkProvision
