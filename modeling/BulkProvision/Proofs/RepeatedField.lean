import BulkProvision.Json.Reader
import BulkProvision.Proofs.ReaderResult
import BulkProvision.Record
import Mathlib.Data.List.Find
import Mathlib.Data.List.Induction
import Mathlib.Data.List.Nodup
import Mathlib.Data.Option.Basic

/-!
# Fields that are written twice

A JSON text may give an object the same field more than once.  `Json.writtenOfText?` keeps all that
is written, and `Json.settle` is what the reader makes of it (`ofText?_eq`): a field stands where it
is written first and has the value that is written last.  So an object is read as a record, or
refused for one of its fields, by the last value of each (`Record.ofFields_eq_ok_iff`,
`Record.ofFields_eq_error_iff`).
-/

namespace BulkProvision

open Text Text.Reader

namespace Text.Reader

variable {α β : Type}

theorem map_apply (f : α → β) (reader : Reader α) (s : List Char) :
    (f <$> reader) s = (reader s).map fun read => (f read.1, read.2) := by
  cases h : reader s <;> simp [Functor.map, StateT.map, h]

/-- A function of every item is a function of the list of items. -/
theorem separated_map (f : α → β) (item : Reader α) (separator : Reader Bool) (rounds : Nat) :
    separated (f <$> item) separator rounds = List.map f <$> separated item separator rounds := by
  induction rounds with
  | zero => simp [separated]
  | succ rounds ih =>
    simp only [separated, ih, map_bind, bind_map_left]
    refine bind_congr fun first => bind_congr fun more => ?_
    cases more <;> simp

end Text.Reader

namespace Json

/-! ### Texts as they are written -/

/-- A value with the fields of objects as they stand, read by the inner reader; anything else as it
is read otherwise. -/
def writtenWith (inner : Option (Reader Json)) : Reader Json := fun s =>
  match (s.dropWhile isSpace).head? with
  | some '[' =>
    (do
      skipSpace
      let item ← StateT.lift inner
      char '['
      array <$> group item ']' : Reader Json) s
  | some '\x7b' =>
    (do
      skipSpace
      let item ← StateT.lift inner
      char '\x7b'
      object <$> group (field item) '\x7d' : Reader Json) s
  | _ => valueWith none s

/-- A value with at most `depth` arrays and objects around one another, as it is written. -/
def written : (depth : Nat) → Reader Json
  | 0 => writtenWith none
  | depth + 1 => writtenWith (some (written depth))

/-- A text that holds one value and blanks, as it is written. -/
def writtenDocument : Reader Json := do
  let v ← written depthLimit
  skipSpace
  atEnd
  pure v

/-- A JSON text as it is written, with all its fields; nothing when it is not well formed. -/
def writtenOfText? (s : String) : Option Json := readAll writtenDocument s.toList

mutual

/-- A value as it is read: each field of an object once. -/
def settle : Json → Json
  | array items => array (settleItems items)
  | object fields => objectOf (settleFields fields)
  | v => v

/-- Items as they are read. -/
def settleItems : List Json → List Json
  | [] => []
  | item :: rest => settle item :: settleItems rest

/-- Fields with their values as they are read. -/
def settleFields : List (String × Json) → List (String × Json)
  | [] => []
  | (name, value) :: rest => (name, settle value) :: settleFields rest

end

theorem settleItems_eq (items : List Json) : settleItems items = items.map settle := by
  induction items with
  | nil => rfl
  | cons item rest ih => rw [settleItems, ih, List.map_cons]

theorem settleFields_eq (fields : List (String × Json)) :
    settleFields fields = fields.map fun f => (f.1, settle f.2) := by
  induction fields with
  | nil => rfl
  | cons f rest ih => rw [settleFields, ih, List.map_cons]

theorem settle_array (items : List Json) : settle (array items) = array (items.map settle) := by
  rw [settle, settleItems_eq]

theorem settle_object (fields : List (String × Json)) :
    settle (object fields) = objectOf (fields.map fun f => (f.1, settle f.2)) := by
  rw [settle, settleFields_eq]

/-! ### Reading settles what is written -/

theorem group_map {α β : Type} (f : α → β) (item : Reader α) (close : Char) :
    group (f <$> item) close = List.map f <$> group item close := by
  simp only [group, separated_map, map_bind]
  refine bind_congr fun _ => bind_congr fun closed => ?_
  cases closed <;> simp

theorem field_map (f : Json → Json) (value : Reader Json) :
    field (f <$> value) = (fun pair => (pair.1, f pair.2)) <$> field value := by
  simp [field]

theorem skipSpace_bind {α : Type} (next : Unit → Reader α) (s : List Char) :
    (skipSpace >>= next) s = next () (s.dropWhile isSpace) := rfl

theorem lift_some {α : Type} (a : α) : (StateT.lift (some a) : Reader α) = pure a := rfl

theorem peek_bind {α : Type} (next : Option Char → Reader α) (s : List Char) :
    (peek >>= next) s = next s.head? s := rfl

/-- What no bracket and no brace starts is read without an inner reader. -/
theorem valueWith_of_head? {s : List Char} (hbracket : (s.dropWhile isSpace).head? ≠ some '[')
    (hbrace : (s.dropWhile isSpace).head? ≠ some '\x7b') (inner : Option (Reader Json)) :
    valueWith inner s = valueWith none s := by
  rw [valueWith, valueWith, skipSpace_bind, skipSpace_bind, peek_bind, peek_bind]
  refine congrFun ?_ _
  split
  any_goals rfl
  · next h => exact absurd h hbracket
  · next h => exact absurd h hbrace

theorem settle_of_numberText {t : NumberText} {v : Json} (h : t.value = some v) :
    settle v = v := by
  rw [NumberText.value] at h
  dsimp only at h
  split at h
  · cases h
    rw [wholeValue]
    split
    · split <;> rfl
    · rfl
  · obtain ⟨x, -, rfl⟩ := Option.map_eq_some_iff.1 h
    rfl

/-- What holds of the value of every text of a number holds of what is read of one. -/
theorem yields_number {P : Json → Prop} (h : ∀ t v, NumberText.value t = some v → P v) :
    Yields number P := by
  refine yields_bind fun negative => yields_bind fun whole => ?_
  have hvalue : ∀ t : NumberText, Yields (StateT.lift t.value : Reader Json) P :=
    fun t => yields_lift (h t)
  dsimp only
  split
  · exact (yields_failure (P := fun _ => False)).bind fun _ h => h.elim
  · refine yields_bind fun point => ?_
    split
    all_goals
      refine yields_bind fun fraction => yields_bind fun letter => ?_
      split
      · exact yields_bind fun _ => yields_bind fun _ => hvalue _
      · exact yields_bind fun _ => hvalue _

theorem settle_of_number : Yields number fun v => settle v = v :=
  yields_number fun _ _ => settle_of_numberText

/-- What is read without an inner reader has no fields. -/
theorem settle_of_valueWith_none : Yields (valueWith none) fun v => settle v = v := by
  refine yields_bind fun _ => yields_bind fun c => ?_
  have hlift : ∀ next : Reader Json → Reader Json,
      Yields (StateT.lift none >>= next) fun v => settle v = v :=
    fun next => (yields_lift (P := fun _ => False) fun _ h => by cases h).bind fun _ h => h.elim
  split
  any_goals exact yields_bind fun _ => yields_pure rfl
  · exact .map fun _ _ _ _ => rfl
  · exact hlift _
  · exact hlift _
  · exact settle_of_number

theorem valueWith_eq (inner : Option (Reader Json)) :
    valueWith (inner.map (settle <$> ·)) = settle <$> writtenWith inner := by
  funext s
  rw [map_apply, writtenWith]
  split
  · next h =>
    -- items are settled one by one
    rw [← map_apply, valueWith, skipSpace_bind, peek_bind, h]
    cases inner with
    | none => rfl
    | some item =>
      have hgroup : (array <$> group (settle <$> item) ']' : Reader Json) =
          settle <$> array <$> group item ']' := by
        simp only [group_map, Functor.map_map, settle_array]
      rw [map_bind, skipSpace_bind]
      simp only [Option.map_some, lift_some, pure_bind, map_bind, hgroup]
  · next h =>
    -- fields are settled one by one, and then each name once
    rw [← map_apply, valueWith, skipSpace_bind, peek_bind, h]
    cases inner with
    | none => rfl
    | some item =>
      have hgroup : (objectOf <$> group (field (settle <$> item)) '\x7d' : Reader Json) =
          settle <$> object <$> group (field item) '\x7d' := by
        simp only [field_map, group_map, Functor.map_map, settle_object]
      rw [map_bind, skipSpace_bind]
      simp only [Option.map_some, lift_some, pure_bind, map_bind, hgroup]
  · next hbracket hbrace =>
    rw [valueWith_of_head? hbracket hbrace]
    cases hread : valueWith none s with
    | none => rfl
    | some read =>
      rw [Option.map_some, settle_of_valueWith_none s read.1 read.2 hread]

theorem value_eq (depth : Nat) : value depth = settle <$> written depth := by
  induction depth with
  | zero => exact valueWith_eq none
  | succ depth ih =>
    rw [value, ih]
    exact valueWith_eq (some (written depth))

/-- **Reading a text settles what it says.** -/
theorem ofText?_eq (s : String) : ofText? s = (writtenOfText? s).map settle := by
  have hdocument : document = settle <$> writtenDocument := by
    simp only [document, writtenDocument, value_eq, map_bind, bind_map_left, map_pure]
  rw [ofText?, writtenOfText?, hdocument, readAll, readAll, map_apply]
  rcases writtenDocument s.toList with - | ⟨v, - | ⟨c, rest⟩⟩ <;> rfl

/-! ### Each field once -/

/-- The names of fields, in the order in which they are first written. -/
def fieldNames (fields : List (String × Json)) : List String := (fields.map (·.1)).eraseDups

/-- The value that a field is given last. -/
def lastValue? (name : String) (fields : List (String × Json)) : Option Json :=
  fields.reverse.lookup name

/-- The fields of an object as it is read. -/
def settledFields (fields : List (String × Json)) : List (String × Json) :=
  (fields.map fun f => (f.1, settle f.2)).foldl (fun fs f => setField f.1 f.2 fs) []

theorem settle_object_eq (fields : List (String × Json)) :
    settle (object fields) = object (settledFields fields) := settle_object fields

theorem keys_setField (name : String) (value : Json) (fields : List (String × Json)) :
    (setField name value fields).map (·.1) =
      if name ∈ fields.map (·.1) then fields.map (·.1) else fields.map (·.1) ++ [name] := by
  induction fields with
  | nil => rfl
  | cons f rest ih =>
    obtain ⟨n, v⟩ := f
    rw [setField]
    split
    · next hn => simp [hn]
    · next hn =>
      rw [List.map_cons, ih]
      by_cases h : name ∈ rest.map (·.1) <;> simp [h, Ne.symm hn]

theorem lookup_cons_eq (name : String) (f : String × Json) (rest : List (String × Json)) :
    (f :: rest).lookup name = if name = f.1 then some f.2 else rest.lookup name := by
  rw [List.lookup_cons]
  split
  · next h => rw [if_pos (beq_iff_eq.1 h)]
  · next h => rw [if_neg (beq_eq_false_iff_ne.1 h)]

theorem lookup_setField (name key : String) (value : Json) (fields : List (String × Json)) :
    (setField name value fields).lookup key =
      if key = name then some value else fields.lookup key := by
  induction fields with
  | nil => exact lookup_cons_eq key (name, value) []
  | cons f rest ih =>
    obtain ⟨n, v⟩ := f
    rw [setField]
    split
    · next hn =>
      subst hn
      by_cases h : key = n <;> simp [lookup_cons_eq, h]
    · next hn =>
      rw [lookup_cons_eq, lookup_cons_eq, ih]
      by_cases h : key = n
      · subst h; simp [hn]
      · simp [h]

/-- A field stands where it is written first. -/
theorem keys_foldl_setField (fields : List (String × Json)) :
    (fields.foldl (fun fs f => setField f.1 f.2 fs) []).map (·.1) = fieldNames fields := by
  induction fields using List.reverseRecOn with
  | nil => rfl
  | append_singleton fields f ih =>
    rw [List.foldl_append, List.foldl_cons, List.foldl_nil, keys_setField, ih, fieldNames,
      fieldNames, List.map_append, List.eraseDups_append]
    by_cases h : f.1 ∈ fields.map (·.1)
    · simp [h, List.removeAll]
    · simp [h, List.removeAll, List.eraseDups_cons]

/-- A field has the value that is written last. -/
theorem lookup_foldl_setField (name : String) (fields : List (String × Json)) :
    (fields.foldl (fun fs f => setField f.1 f.2 fs) []).lookup name = lastValue? name fields := by
  induction fields using List.reverseRecOn with
  | nil => rfl
  | append_singleton fields f ih =>
    rw [List.foldl_append, List.foldl_cons, List.foldl_nil, lookup_setField, ih, lastValue?,
      lastValue?, List.reverse_append, List.reverse_singleton, List.singleton_append,
      lookup_cons_eq]

theorem keys_settledFields (fields : List (String × Json)) :
    (settledFields fields).map (·.1) = fieldNames fields := by
  rw [settledFields, keys_foldl_setField, fieldNames, fieldNames, List.map_map]
  rfl

theorem lookup_settledFields (name : String) (fields : List (String × Json)) :
    (settledFields fields).lookup name = (lastValue? name fields).map settle := by
  rw [settledFields, lookup_foldl_setField, lastValue?, lastValue?, ← List.map_reverse]
  induction fields.reverse with
  | nil => rfl
  | cons f rest ih =>
    rw [List.map_cons, lookup_cons_eq, lookup_cons_eq, ih]
    split <;> rfl

theorem nodup_fieldNames (fields : List (String × Json)) : (fieldNames fields).Nodup := by
  rw [← keys_foldl_setField]
  induction fields using List.reverseRecOn with
  | nil => exact List.nodup_nil
  | append_singleton fields f ih =>
    rw [List.foldl_append, List.foldl_cons, List.foldl_nil, keys_setField]
    split
    · exact ih
    · next h => exact List.concat_eq_append ▸ List.Nodup.concat h ih

/-! ### Records -/

/-- Whether a value is an array or an object. -/
def isNested : Json → Bool
  | array _ => true
  | object _ => true
  | _ => false

/-- The first field, where fields are first written, whose last value is an array or an object. -/
def firstNested? (fields : List (String × Json)) : Option String :=
  (fieldNames fields).find? fun name => (lastValue? name fields).any isNested

theorem ofJson?_settle (v : Json) : Scalar.ofJson? (settle v) = Scalar.ofJson? v := by
  cases v with
  | array items => rw [settle_array]; rfl
  | object fields => rw [settle_object_eq]; rfl
  | _ => rfl

theorem ofJson?_eq_none_iff {v : Json} : Scalar.ofJson? v = none ↔ v.isNested = true := by
  cases v <;> simp [Scalar.ofJson?, isNested]

end Json

namespace Record

open Json

/-- The fields are read in order, up to the first that is no scalar. -/
theorem go_eq_error_iff {record : Record} {fields : List (String × Json)} {e : NotScalar} :
    ofFields.go record fields = .error e ↔
      (fields.find? fun f => (Scalar.ofJson? f.2).isNone).map (·.1) = some e.field := by
  induction fields generalizing record with
  | nil => simp [ofFields.go]
  | cons f rest ih =>
    obtain ⟨name, value⟩ := f
    rw [ofFields.go, List.find?_cons]
    cases hvalue : Scalar.ofJson? value with
    | none =>
      obtain ⟨field⟩ := e
      simp
    | some scalar => simpa using ih

theorem get?_of_go {record read : Record} {fields : List (String × Json)}
    (hnodup : (fields.map (·.1)).Nodup) (h : ofFields.go record fields = .ok read)
    (name : String) :
    (read.get? name).map some =
      ((fields.lookup name).map Scalar.ofJson?).or ((record.get? name).map some) := by
  induction fields generalizing record with
  | nil =>
    cases h
    rfl
  | cons f rest ih =>
    obtain ⟨n, v⟩ := f
    obtain ⟨hn, hrest⟩ := List.nodup_cons.1 hnodup
    rw [ofFields.go] at h
    split at h
    · cases h
    · next scalar hv =>
      rw [ih hrest h, lookup_cons_eq]
      by_cases hname : name = n
      · -- the rest does not give the field again
        subst hname
        have hnone : rest.lookup name = none := List.lookup_eq_none_iff.2 fun f hf => by
          have hne : f.1 ≠ name := fun heq => hn (List.mem_map.2 ⟨f, hf, heq⟩)
          simpa using Ne.symm hne
        rw [hnone, NameMap.get?_insert_self]
        simp [hv]
      · rw [NameMap.get?_insert_of_ne _ (Ne.symm hname), if_neg hname]

/-- In fields that stand once each, the first that is no scalar is found by its name. -/
theorem find?_map_name {fields : List (String × Json)} (hnodup : (fields.map (·.1)).Nodup)
    (p : Json → Bool) :
    (fields.find? fun f => p f.2).map (·.1) =
      (fields.map (·.1)).find? fun name => (fields.lookup name).any p := by
  induction fields with
  | nil => rfl
  | cons f rest ih =>
    obtain ⟨n, v⟩ := f
    obtain ⟨hn, hrest⟩ := List.nodup_cons.1 hnodup
    have hothers : ((rest.map (·.1)).find? fun name => (((n, v) :: rest).lookup name).any p) =
        (rest.map (·.1)).find? fun name => (rest.lookup name).any p := by
      refine List.find?_congr fun name hname => ?_
      have hne : name ≠ n := fun heq => hn (heq ▸ hname)
      rw [lookup_cons_eq, if_neg hne]
    rw [List.find?_cons, List.map_cons, List.find?_cons, hothers, ← ih hrest, lookup_cons_eq,
      if_pos rfl, Option.any_some]
    cases p v <;> rfl

/-- **The field that keeps an object from being a record.** -/
theorem ofFields_eq_error_iff {fields : List (String × Json)} {e : NotScalar} :
    ofFields (settledFields fields) = .error e ↔ firstNested? fields = some e.field := by
  have hnodup : ((settledFields fields).map (·.1)).Nodup :=
    keys_settledFields fields ▸ nodup_fieldNames fields
  rw [ofFields, go_eq_error_iff,
    find?_map_name hnodup fun v => (Scalar.ofJson? v).isNone, keys_settledFields, firstNested?]
  have hnested : ∀ name, ((settledFields fields).lookup name).any
      (fun v => (Scalar.ofJson? v).isNone) = (lastValue? name fields).any isNested := by
    intro name
    rw [lookup_settledFields, Option.any_map]
    refine congrArg (Option.any · _) (funext fun v => ?_)
    rw [ofJson?_settle, Bool.eq_iff_iff, Option.isNone_iff_eq_none, ofJson?_eq_none_iff]
  simp only [hnested]

/-- A record holds what is read of each field of an object. -/
def Holds (record : Record) (fields : List (String × Json)) : Prop :=
  ∀ name, (record.get? name).map some = (lastValue? name fields).map Scalar.ofJson?

theorem Holds.unique {r r' : Record} {fields : List (String × Json)} (h : r.Holds fields)
    (h' : r'.Holds fields) : r = r' :=
  NameMap.ext fun name =>
    Option.map_injective (Option.some_injective _) ((h name).trans (h' name).symm)

/-- **The record that an object of scalars is read as.** -/
theorem ofFields_eq_ok_iff {fields : List (String × Json)} {record : Record} :
    ofFields (settledFields fields) = .ok record ↔
      firstNested? fields = none ∧ record.Holds fields := by
  have hnodup : ((settledFields fields).map (·.1)).Nodup :=
    keys_settledFields fields ▸ nodup_fieldNames fields
  have hholds : ∀ r, ofFields (settledFields fields) = .ok r → r.Holds fields := by
    intro r h name
    rw [get?_of_go hnodup h, NameMap.get?_empty, Option.map_none, Option.or_none,
      lookup_settledFields, Option.map_map]
    exact congrArg (Option.map · _) (funext ofJson?_settle)
  constructor
  · intro h
    refine ⟨?_, hholds record h⟩
    cases hname : firstNested? fields with
    | none => rfl
    | some name =>
      have herror := ofFields_eq_error_iff.2 (show _ = some (NotScalar.mk name).field from hname)
      rw [h] at herror
      cases herror
  · rintro ⟨hnone, hrecord⟩
    cases h : ofFields (settledFields fields) with
    | error e => rw [ofFields_eq_error_iff.1 h] at hnone; cases hnone
    | ok r => rw [(hholds r h).unique hrecord]

end Record

end BulkProvision
