import BulkProvision.Coercion
import Mathlib.Data.List.Basic
import Mathlib.Data.List.Induction

/-!
# The first rule for a field

Coercion applies its rules in order to the record it rewrites, so a later rule reads what an
earlier one wrote.  A conversion leaves no text, and only texts are converted: the first rule that
names a field decides, and every later one finds a number (`converts_apply`).  So a record is
converted field by field (`conversion?`), a field is counted once however many rules name it, and
coercing again does nothing.
-/

namespace BulkProvision

namespace NameMap

variable {α β : Type}

theorem names_insertEntry {name : String} {value : α} (v : α) {l : List (String × α)}
    (hl : l.Pairwise (fun a b => a.1 < b.1)) (h : findEntry name l = some value) :
    (insertEntry name v l).map (·.1) = l.map (·.1) := by
  induction l with
  | nil => cases h
  | cons a rest ih =>
    obtain ⟨n, w⟩ := a
    obtain ⟨hn, hrest⟩ := List.pairwise_cons.1 hl
    rw [findEntry] at h
    rw [insertEntry]
    split at h
    · next heq =>
      rw [heq, if_neg (String.lt_irrefl name), if_pos rfl, List.map_cons, List.map_cons]
    · next hne =>
      have hnlt : ¬ name < n := fun hlt => by
        rw [findEntry_eq_none fun e he => String.lt_trans hlt (hn e he)] at h
        cases h
      rw [if_neg hnlt, if_neg (Ne.symm hne), List.map_cons, List.map_cons, ih hrest h]

/-- A new value for a name that is there adds no name. -/
theorem names_insert {m : NameMap α} {name : String} {value : α} (v : α)
    (h : m.get? name = some value) : (m.insert name v).names = m.names :=
  names_insertEntry v m.ascending h

theorem get?_eq_some_of_mem {m : NameMap α} {e : String × α} (h : e ∈ m.entries) :
    m.get? e.1 = some e.2 := by
  obtain ⟨entries, hentries⟩ := m
  rw [get?]
  induction entries with
  | nil => cases h
  | cons a rest ih =>
    obtain ⟨ha, hrest⟩ := List.pairwise_cons.1 hentries
    rw [findEntry]
    rcases List.mem_cons.1 h with rfl | hmem
    · exact if_pos rfl
    · rw [if_neg fun heq => String.lt_irrefl _ (heq ▸ ha e hmem)]
      exact ih hrest hmem

/-- Two ways of picking from the entries of a map that differ at one name, where the first picks
nothing. -/
theorem filterMap_entries_perm {m : NameMap α} {name : String} {value : α} {b : β}
    {f g : String × α → Option β} (h : m.get? name = some value) (hf : f (name, value) = none)
    (hg : g (name, value) = some b) (hne : ∀ e, e.1 ≠ name → g e = f e) :
    (m.entries.filterMap g).Perm (b :: m.entries.filterMap f) := by
  obtain ⟨entries, hentries⟩ := m
  rw [get?] at h
  induction entries with
  | nil => cases h
  | cons a rest ih =>
    obtain ⟨ha, hrest⟩ := List.pairwise_cons.1 hentries
    rw [findEntry] at h
    split at h
    · next heq =>
      obtain rfl : a = (name, value) := Prod.ext heq (Option.some.inj h)
      have hothers : rest.filterMap g = rest.filterMap f :=
        List.filterMap_congr fun e he => hne e fun heq => String.lt_irrefl _ (heq ▸ ha e he)
      rw [List.filterMap_cons_some hg, List.filterMap_cons_none hf, hothers]
    · next hname =>
      have hperm := ih hrest h
      cases hfa : f a with
      | none =>
        rwa [List.filterMap_cons_none hfa, List.filterMap_cons_none ((hne a hname).trans hfa)]
      | some c =>
        rw [List.filterMap_cons_some hfa, List.filterMap_cons_some ((hne a hname).trans hfa)]
        exact (hperm.cons c).trans (.swap b c _)

end NameMap

namespace Coercion

/-! ### What a field is converted to -/

/-- The rule that decides about a field: the first that names it. -/
def ruleFor? (rules : List Rule) (field : String) : Option Rule := rules.find? (·.field = field)

/-- What a value in a field is converted to; nothing where no rule names the field or the value is
no text. -/
def conversion? (rules : List Rule) (field : String) : Scalar → Option Scalar
  | .text s => (ruleFor? rules field).map fun rule => readText s rule.kind
  | _ => none

/-- The values that conversion puts into a record, by field. -/
def conversions (rules : List Rule) (record : Record) : List Scalar :=
  record.entries.filterMap fun e => conversion? rules e.1 e.2

/-- The counts for values that were put in. -/
def Stats.ofValues (values : List Scalar) : Stats :=
  ⟨values.countP (!·.isNaN), values.countP (·.isNaN)⟩

/-- A number is read, whatever the text: no text is left. -/
theorem asText_readText (s : String) (kind : NumericKind) : (readText s kind).asText = none := by
  cases kind with
  | float => rfl
  | integer =>
    rw [readText, IntegerText.value]
    split
    · rfl
    · split <;> rfl

theorem conversion?_of_asText {rules : List Rule} {field : String} {value : Scalar}
    (h : value.asText = none) : conversion? rules field value = none := by
  cases value with
  | text s => cases h
  | _ => rfl

theorem asText_of_conversion? {rules : List Rule} {field : String} {value converted : Scalar}
    (h : conversion? rules field value = some converted) : converted.asText = none := by
  cases value with
  | text s =>
    obtain ⟨rule, -, rfl⟩ := Option.map_eq_some_iff.1 h
    exact asText_readText s rule.kind
  | _ => cases h

@[simp] theorem conversion?_nil (field : String) (value : Scalar) :
    conversion? [] field value = none := by
  cases value <;> rfl

/-- One more rule converts the texts of its field, where no earlier rule names it. -/
theorem conversion?_concat (rules : List Rule) (rule : Rule) (field : String) (value : Scalar) :
    conversion? (rules ++ [rule]) field value =
      (conversion? rules field value).or
        (if rule.field = field then value.asText.map (readText · rule.kind) else none) := by
  cases value with
  | text s =>
    simp only [conversion?, ruleFor?, List.find?_append, Scalar.asText]
    cases rules.find? (·.field = field) with
    | some first => rfl
    | none => by_cases h : rule.field = field <;> simp [h]
  | _ => simp [conversion?, Scalar.asText]

theorem Stats.ofValues_cons (value : Scalar) (values : List Scalar) :
    Stats.ofValues (value :: values) =
      Stats.ofValues values + if value.isNaN then ⟨0, 1⟩ else ⟨1, 0⟩ := by
  cases h : value.isNaN <;> simp [Stats.ofValues, h] <;> rfl

theorem Stats.ofValues_perm {l m : List Scalar} (h : l.Perm m) :
    Stats.ofValues l = Stats.ofValues m := by
  rw [Stats.ofValues, Stats.ofValues, h.countP_eq, h.countP_eq]

theorem Stats.ofValues_total (values : List Scalar) :
    (Stats.ofValues values).converted + (Stats.ofValues values).unparseable = values.length := by
  rw [List.length_eq_countP_add_countP (·.isNaN), Nat.add_comm]
  simp [Stats.ofValues]

/-! ### What the rules do to a record -/

/-- Where a run of rules has got to: every field holds its conversion or what it held, and the
conversions are counted. -/
structure Converted (rules : List Rule) (record : Record) (state : Record × Stats) : Prop where
  names : state.1.names = record.names
  get? : ∀ field, state.1.get? field =
    (record.get? field).map fun value => (conversion? rules field value).getD value
  stats : state.2 = Stats.ofValues (conversions rules record)

theorem converted_nil (record : Record) : Converted [] record (record, Stats.zero) where
  names := rfl
  get? field := by simp
  stats := by
    have hnone : conversions [] record = [] :=
      List.filterMap_eq_nil_iff.2 fun e _ => conversion?_nil e.1 e.2
    rw [hnone]
    rfl

/-- **One rule more.**  It reads the record as the rules before it left it. -/
theorem Converted.concat {rules : List Rule} {record : Record} {state : Record × Stats}
    (h : Converted rules record state) (rule : Rule) :
    Converted (rules ++ [rule]) record (applyRule state rule) := by
  -- a text that is still there was there at the start, and no earlier rule names its field
  by_cases htext : ∃ s, state.1.get? rule.field = some (.text s)
  · obtain ⟨s, hs⟩ := htext
    have hget := h.get? rule.field
    rw [hs] at hget
    obtain ⟨value, hvalue, hstill⟩ := Option.map_eq_some_iff.1 hget.symm
    have hnone : conversion? rules rule.field value = none := by
      cases hconv : conversion? rules rule.field value with
      | none => rfl
      | some converted =>
        rw [hconv, Option.getD_some] at hstill
        cases hstill ▸ asText_of_conversion? hconv
    rw [hnone, Option.getD_none] at hstill
    subst hstill
    have hnew : conversion? (rules ++ [rule]) rule.field (.text s) =
        some (readText s rule.kind) := by
      rw [conversion?_concat, hnone, Option.none_or, if_pos rfl]
      rfl
    have hothers : ∀ e : String × Scalar, e.1 ≠ rule.field →
        conversion? (rules ++ [rule]) e.1 e.2 = conversion? rules e.1 e.2 := by
      intro e he
      rw [conversion?_concat, if_neg (Ne.symm he), Option.or_none]
    have happly : applyRule state rule =
        (state.1.insert rule.field (readText s rule.kind),
          state.2 + if (readText s rule.kind).isNaN then ⟨0, 1⟩ else ⟨1, 0⟩) := by
      rw [applyRule, hs]
      rfl
    rw [happly]
    refine ⟨(NameMap.names_insert _ hs).trans h.names, fun field => ?_, ?_⟩
    · by_cases hfield : rule.field = field
      · subst hfield
        rw [NameMap.get?_insert_self, hvalue, Option.map_some, hnew, Option.getD_some]
      · rw [NameMap.get?_insert_of_ne _ hfield, h.get?]
        refine Option.map_congr fun value _ => ?_
        rw [hothers (field, value) (Ne.symm hfield)]
    · rw [h.stats, ← Stats.ofValues_cons]
      exact (Stats.ofValues_perm
        (NameMap.filterMap_entries_perm hvalue hnone hnew hothers)).symm
  · -- nothing is left to read: the rule adds no conversion
    have hstate : applyRule state rule = state := by
      rw [applyRule]
      cases hvalue : state.1.get? rule.field with
      | none => rfl
      | some value =>
        cases value with
        | text s => exact absurd ⟨s, hvalue⟩ htext
        | _ => rfl
    have hsame : ∀ field value, record.get? field = some value →
        conversion? (rules ++ [rule]) field value = conversion? rules field value := by
      intro field value hvalue
      rw [conversion?_concat]
      cases hconv : conversion? rules field value with
      | some converted => rfl
      | none =>
        by_cases hfield : rule.field = field
        · cases value with
          | text s =>
            refine absurd ⟨s, ?_⟩ htext
            rw [hfield, h.get?, hvalue, Option.map_some, hconv, Option.getD_none]
          | _ => simp [Scalar.asText]
        · simp [hfield]
    rw [hstate]
    refine ⟨h.names, fun field => ?_, ?_⟩
    · rw [h.get?]
      exact Option.map_congr fun value hvalue => by rw [hsame field value hvalue]
    · rw [h.stats, conversions, conversions]
      exact congrArg Stats.ofValues (List.filterMap_congr fun e he =>
        (hsame e.1 e.2 (NameMap.get?_eq_some_of_mem he)).symm)

/-- **Rules convert a record field by field**, however many of them name a field. -/
theorem converted_apply (rules : List Rule) (record : Record) :
    Converted rules record (apply rules record) := by
  induction rules using List.reverseRecOn with
  | nil => exact converted_nil record
  | append_singleton rules rule ih =>
    rw [apply, List.foldl_append]
    exact ih.concat rule

/-! ### What a caller sees -/

/-- The fields that are converted: those with a text that some rule names. -/
def convertedFields (rules : List Rule) (record : Record) : List String :=
  (record.entries.filter fun e => (ruleFor? rules e.1).isSome && e.2.asText.isSome).map (·.1)

theorem isSome_conversion? (rules : List Rule) (field : String) (value : Scalar) :
    (conversion? rules field value).isSome =
      ((ruleFor? rules field).isSome && value.asText.isSome) := by
  cases value with
  | text s => simp [conversion?, Scalar.asText]
  | _ => simp [conversion?, Scalar.asText]

theorem conversion?_congr {rules others : List Rule} {field : String}
    (h : ruleFor? others field = ruleFor? rules field) (value : Scalar) :
    conversion? others field value = conversion? rules field value := by
  cases value with
  | text s => rw [conversion?, conversion?, h]
  | _ => rfl

theorem length_conversions (rules : List Rule) (record : Record) :
    (conversions rules record).length = (convertedFields rules record).length := by
  rw [conversions, List.length_filterMap_eq_countP, convertedFields, List.length_map,
    ← List.countP_eq_length_filter]
  exact List.countP_congr fun e _ => by rw [isSome_conversion?]

/-- The NaNs that conversion put in are found again in the converted fields. -/
theorem Converted.countP_isNaN {rules : List Rule} {record : Record} {state : Record × Stats}
    (h : Converted rules record state) :
    (conversions rules record).countP (·.isNaN) =
      ((convertedFields rules record).filter
        fun field => (state.1.get? field).any Scalar.isNaN).length := by
  rw [conversions, List.countP_filterMap, convertedFields, ← List.countP_eq_length_filter,
    List.countP_map, List.countP_filter]
  refine List.countP_congr fun e he => ?_
  rw [Function.comp_apply, ← isSome_conversion?, h.get?, NameMap.get?_eq_some_of_mem he,
    Option.map_some]
  cases conversion? rules e.1 e.2 <;> simp

/-- What becomes of a record to which rules are applied. -/
structure Converts (rules : List Rule) (record out : Record) (stats : Stats) : Prop where
  /-- No field comes and none goes. -/
  names : out.names = record.names
  /-- A text is read as the first rule for its field says. -/
  read : ∀ field s rule, record.get? field = some (.text s) → ruleFor? rules field = some rule →
    out.get? field = some (readText s rule.kind)
  /-- A field without a rule or without a text keeps its value. -/
  kept : ∀ field, ruleFor? rules field = none ∨ (record.get? field).bind Scalar.asText = none →
    out.get? field = record.get? field
  /-- Every field that is converted counts once. -/
  counted : stats.converted + stats.unparseable = (convertedFields rules record).length
  /-- The unparseable ones are those that became NaN. -/
  unparseable : stats.unparseable =
    ((convertedFields rules record).filter
      fun field => (out.get? field).any Scalar.isNaN).length
  /-- Nothing else about the rules matters than the first one for each field. -/
  determined : ∀ others, (∀ field, ruleFor? others field = ruleFor? rules field) →
    apply others record = (out, stats)
  /-- There is nothing left to convert. -/
  settled : apply rules out = (out, Stats.zero)

/-- Two runs that have got equally far are in the same state. -/
theorem Converted.unique {rules others : List Rule} {record : Record}
    {state state' : Record × Stats} (h : Converted rules record state)
    (h' : Converted others record state')
    (hrules : ∀ field, ruleFor? others field = ruleFor? rules field) : state' = state := by
  have hconv : ∀ e : String × Scalar, conversion? others e.1 e.2 = conversion? rules e.1 e.2 :=
    fun e => conversion?_congr (hrules e.1) e.2
  refine Prod.ext (NameMap.ext fun field => ?_) ?_
  · rw [h'.get?, h.get?]
    exact Option.map_congr fun value _ => by rw [hconv (field, value)]
  · rw [h'.stats, h.stats, conversions, conversions]
    exact congrArg Stats.ofValues (List.filterMap_congr fun e _ => hconv e)

/-- Rules find nothing to convert where they have been applied. -/
theorem Converted.conversion?_eq_none {rules : List Rule} {record : Record}
    {state : Record × Stats} (h : Converted rules record state) {field : String} {value : Scalar}
    (hvalue : state.1.get? field = some value) : conversion? rules field value = none := by
  rw [h.get?] at hvalue
  obtain ⟨before, -, rfl⟩ := Option.map_eq_some_iff.1 hvalue
  cases hconv : conversion? rules field before with
  | none => exact hconv
  | some converted => exact conversion?_of_asText (asText_of_conversion? hconv)

theorem Converted.settled {rules : List Rule} {record : Record} {state : Record × Stats}
    (h : Converted rules record state) : apply rules state.1 = (state.1, Stats.zero) := by
  have hagain := converted_apply rules state.1
  refine Prod.ext (NameMap.ext fun field => ?_) ?_
  · rw [hagain.get?]
    cases hvalue : state.1.get? field with
    | none => rfl
    | some value => simp [h.conversion?_eq_none hvalue]
  · have hnone : conversions rules state.1 = [] := List.filterMap_eq_nil_iff.2 fun e he =>
      h.conversion?_eq_none (NameMap.get?_eq_some_of_mem he)
    rw [hagain.stats, hnone]
    rfl

/-- **The first rule for a field decides**: what coercion makes of a record, and what it counts,
for every list of rules. -/
theorem converts_apply (rules : List Rule) (record : Record) :
    Converts rules record (apply rules record).1 (apply rules record).2 := by
  have h := converted_apply rules record
  refine ⟨h.names, fun field s rule hs hrule => ?_, fun field hfield => ?_, ?_, ?_,
    fun others hothers => h.unique (converted_apply others record) hothers, h.settled⟩
  · rw [h.get?, hs, Option.map_some, conversion?, hrule]
    rfl
  · rw [h.get?]
    cases hvalue : record.get? field with
    | none => rfl
    | some value =>
      have hnone : conversion? rules field value = none := by
        rw [← Option.isNone_iff_eq_none, ← Option.not_isSome, isSome_conversion?]
        rcases hfield with hrule | htext
        · simp [hrule]
        · rw [hvalue, Option.bind_some] at htext
          simp [htext]
      rw [Option.map_some, hnone, Option.getD_none]
  · rw [h.stats, Stats.ofValues_total, length_conversions]
  · rw [h.stats, Stats.ofValues, h.countP_isNaN]

/-- Two rules for each of two fields: the first two rules decide, so their order does not. -/
theorem converts_apply_conflicting :
    let record : Record :=
      NameMap.ofList [("humidity", .text "65.7%"), ("note", .text "dry"), ("wind", .text "calm")]
    let rules : List Rule :=
      [⟨"wind", .float⟩, ⟨"humidity", .integer⟩, ⟨"humidity", .float⟩, ⟨"wind", .integer⟩]
    let others : List Rule := [⟨"humidity", .integer⟩, ⟨"wind", .float⟩]
    (apply rules record).1.get? "humidity" = some (.int 65) ∧
      (apply rules record).1.get? "note" = some (.text "dry") ∧
      (apply rules record).2 = ⟨1, 1⟩ ∧ apply others record = apply rules record := by
  intro record rules others
  have h := converts_apply rules record
  have hothers : ∀ field, ruleFor? others field = ruleFor? rules field := by
    intro field
    by_cases hwind : "wind" = field
    · subst hwind
      rfl
    · by_cases hhumidity : "humidity" = field
      · subst hhumidity
        rfl
      · simp [ruleFor?, others, rules, hwind, hhumidity]
  refine ⟨?_, ?_, ?_, h.determined others hothers⟩
  · rw [h.read "humidity" "65.7%" ⟨"humidity", .integer⟩ (by decide +kernel) (by decide +kernel)]
    decide +kernel
  · rw [h.kept "note" (.inl (by decide +kernel))]
    decide +kernel
  · decide +kernel

end Coercion

end BulkProvision
