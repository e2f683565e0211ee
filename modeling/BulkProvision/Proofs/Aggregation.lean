import BulkProvision.Analytics.Report
import BulkProvision.Proofs.Rounding
import BulkProvision.Width

/-!
# Pipelines on a server

A report is a pipeline, and a server runs it.  `Analytics.Server` is what such a server does, and
`Server.Documented` what its documentation says of it, as far as reports that count need it: how
values are ordered, what comparisons and sums come to, which documents a match lets through and what
grouping, adding, sorting and projecting make of rows.  Of a stage that no server takes, such as one
that names a field twice, it says nothing, and of a sum only if 64 bits can hold it.

Two ways of comparing stand side by side.  A match holds a field against a bound as numbers; a field
without a number passes no bound.  An expression compares by the order of all values, in which a
missing field, null and NaN come before every number (`Document.isBlank`).  Numbers are compared by
their exact values (`Document.Value.number?`), and among doubles this is the comparison of doubles
(`Binary64.numericLt_iff`).
-/

namespace BulkProvision

/-! ### Numbers in their order -/

/-- A whole number, or an infinity. -/
inductive Extended where
  | negativeInfinity
  | whole (n : ℤ)
  | positiveInfinity

namespace Extended

/-- Whether a number is less than another. -/
def isLess : Extended → Extended → Bool
  | negativeInfinity, negativeInfinity => false
  | negativeInfinity, _ => true
  | whole m, whole n => m < n
  | whole _, positiveInfinity => true
  | _, _ => false

instance : LT Extended where
  lt v w := v.isLess w = true

instance (v w : Extended) : Decidable (v < w) := decEq (v.isLess w) true

theorem lt_iff {v w : Extended} : v < w ↔ v.isLess w = true := Iff.rfl

theorem whole_lt_whole {m n : ℤ} : whole m < whole n ↔ m < n := decide_eq_true_iff

end Extended

namespace Binary64

/-- The value of a sign and a code, in units. -/
def extendedUnits (negative : Bool) (code : ℕ) : Extended :=
  if code = infiniteCode then if negative then .negativeInfinity else .positiveInfinity
  else .whole (signedUnits negative code)

/-- The value of a double that is not a NaN. -/
def value? : Binary64 → Option Extended
  | nan => none
  | signed s c => some (extendedUnits s c.val)

/-- A whole number in units. -/
def wholeUnits (n : ℤ) : Extended := .whole (n * unitsPerOne)

theorem wholeUnits_lt_iff {m n : ℤ} : wholeUnits m < wholeUnits n ↔ m < n := by
  have hpos : (0 : ℤ) < unitsPerOne := by decide +kernel
  rw [wholeUnits, wholeUnits, Extended.whole_lt_whole]
  exact Int.mul_lt_mul_right hpos

theorem signedUnits_lt_iff {s t : Bool} {a b : ℕ} :
    signedUnits s a < signedUnits t b ↔ rank s a < rank t b := by
  have hzero : units 0 = 0 := rfl
  have hab := units_strictMono.lt_iff_lt (a := a) (b := b)
  have hba := units_strictMono.lt_iff_lt (a := b) (b := a)
  have ha := units_strictMono.lt_iff_lt (a := 0) (b := a)
  have hb := units_strictMono.lt_iff_lt (a := 0) (b := b)
  rw [hzero] at ha hb
  unfold signedUnits rank
  -- negative numbers lie the other way round, and zero has two signs but one value
  cases s <;> cases t <;> simp only [if_true, if_false, Bool.false_eq_true] <;> omega

theorem extendedUnits_lt_iff {s t : Bool} {a b : ℕ} (ha : a ≤ infiniteCode)
    (hb : b ≤ infiniteCode) :
    extendedUnits s a < extendedUnits t b ↔ rank s a < rank t b := by
  have hpos : 0 < infiniteCode := by decide
  unfold extendedUnits
  -- no code is past that of the infinities, so a finite number ranks between them
  by_cases hai : a = infiniteCode
  · by_cases hbi : b = infiniteCode
    · cases s <;> cases t <;> simp [hai, hbi, rank, Extended.lt_iff, Extended.isLess]; omega
    · cases s <;> cases t <;> simp [hai, hbi, rank, Extended.lt_iff, Extended.isLess] <;> omega
  · by_cases hbi : b = infiniteCode
    · cases s <;> cases t <;> simp [hai, hbi, rank, Extended.lt_iff, Extended.isLess] <;> omega
    · rw [if_neg hai, if_neg hbi, Extended.whole_lt_whole, signedUnits_lt_iff]

/-- A double is less than another exactly when its value is. -/
theorem numericLt_iff {x y : Binary64} :
    x.numericLt y = true ↔ ∃ v w, x.value? = some v ∧ y.value? = some w ∧ v < w := by
  cases x with
  | nan => simp [numericLt, value?]
  | signed s a =>
    cases y with
    | nan => simp [numericLt, value?]
    | signed t b =>
      simp [numericLt, value?,
        extendedUnits_lt_iff (Nat.le_of_lt_succ a.isLt) (Nat.le_of_lt_succ b.isLt)]

/-- A whole number of at most 53 bits is a double of its own value. -/
theorem value?_ofInt {n : ℤ} (h : n.natAbs ≤ 2 ^ 53) :
    (ofInt n).value? = some (wholeUnits n) := by
  have hmagnitude : magnitude (nearest (n.natAbs * unitsPerOne) 1) = n.natAbs :=
    (rounded_natCast n.natAbs).magnitude_eq (isDouble_natCast h)
  have hfinite : nearest (n.natAbs * unitsPerOne) 1 ≠ infiniteCode :=
    ne_infiniteCode (hmagnitude ▸ isDouble_natCast h)
  have hunits : units (nearest (n.natAbs * unitsPerOne) 1) = n.natAbs * unitsPerOne := by
    rw [magnitude, div_eq_iff unitsPerOne_pos.ne'] at hmagnitude
    exact_mod_cast hmagnitude
  show some (extendedUnits (n < 0) (nearest (n.natAbs * unitsPerOne) 1)) = _
  rw [extendedUnits, if_neg hfinite, signedUnits, hunits, wholeUnits]
  congr 3
  by_cases hneg : n < 0
  · simp only [hneg, decide_true, if_true]
    push_cast
    rw [abs_of_neg hneg, neg_mul, neg_neg]
  · simp only [hneg, decide_false, Bool.false_eq_true, if_false]
    push_cast
    rw [abs_of_nonneg (not_lt.1 hneg)]

end Binary64

namespace Document

open Binary64

/-- The value of a number that is not a NaN. -/
def Value.number? : Value → Option (Extended)
  | int32 n => some (wholeUnits n)
  | int64 n => some (wholeUnits n)
  | double x => x.value?
  | _ => none

/-- What comes before every number: a missing field, null and NaN. -/
def isBlank : Option Value → Bool
  | none => true
  | some .null => true
  | some (.double x) => x.isNaN
  | _ => false

theorem number?_of_isBlank {a : Option Value} (h : isBlank a = true) :
    a.bind Value.number? = none := by
  cases a with
  | none => rfl
  | some value =>
    cases value with
    | null => rfl
    | double x =>
      cases x with
      | nan => rfl
      | signed s c => cases h
    | _ => cases h

/-- An integer of either width. -/
def Value.integer? : Value → Option ℤ
  | int32 n => some n
  | int64 n => some n
  | _ => none

/-- A name that stands for a field of the document itself: it is no path and no operator. -/
def isPlain (name : String) : Bool :=
  !name.toList.isEmpty && name.toList.all fun c => c != '.' && c != '$'

/-- Names that the fields of one document can have. -/
def areFields (names : List String) : Bool := names.Nodup && names.all isPlain

/-- The field that a text stands for in an expression. -/
def fieldOf? (text : String) : Option String :=
  match text.toList with
  | '$' :: name => if isPlain (.ofList name) then some (.ofList name) else none
  | _ => none

end Document

namespace Analytics

open Document Binary64

/-! ### Servers -/

/-- What a server does with the parts of a pipeline that it takes. -/
structure Server where
  /-- Whether a value comes before another in the order of all values; none is a missing field. -/
  before : Option Value → Option Value → Bool
  /-- Whether two values are the same key of a group. -/
  sameKey : Value → Value → Bool
  /-- The value of an expression over a document; none where it comes to a missing field. -/
  eval : Document → Value → Option Value
  /-- Whether a document meets the condition of a match. -/
  meets : Document → Value → Bool
  /-- What an accumulator makes of the members of a group. -/
  accumulate : List Document → Value → Value
  /-- What a stage makes of documents. -/
  perform : List Document → Document → List Document

namespace Server

section Groups

variable (server : Server) (key : Value) (docs : List Document)

/-- The key of a document; what is missing counts as null. -/
def keyOf (d : Document) : Value := (server.eval d key).getD .null

/-- The documents of a key. -/
def members (k : Value) : List Document :=
  docs.filter fun d => server.sameKey (server.keyOf key d) k

/-- The row of a key. -/
def groupRow (fields : List (String × Value)) (k : Value) : Document :=
  ("_id", k) :: fields.map fun e => (e.1, server.accumulate (server.members key docs k) e.2)

/-- Keys of documents, each once. -/
structure Keys (keys : List Value) : Prop where
  pairwise : keys.Pairwise fun a b => server.sameKey a b = false
  exists_iff : ∀ v, (∃ k ∈ keys, server.sameKey k v = true) ↔
    ∃ d ∈ docs, server.sameKey (server.keyOf key d) v = true

end Groups

/-- What a pipeline makes of documents, stage by stage. -/
def aggregate (server : Server) (pipeline : List Document) (docs : List Document) :
    List Document :=
  pipeline.foldl server.perform docs

/-- What the documentation of a server says of it. -/
structure Documented (server : Server) : Prop where
  before_of_number : ∀ {a b : Value} {v w : Extended}, a.number? = some v →
    b.number? = some w → server.before (some a) (some b) = decide (v < w)
  before_of_isBlank : ∀ {a : Option Value} {b : Value} {w : Extended},
    isBlank a = true → b.number? = some w → server.before a (some b) = true
  not_before_isBlank : ∀ {a : Value} {b : Option Value} {v : Extended},
    a.number? = some v → isBlank b = true → server.before (some a) b = false
  sameKey_equivalence : Equivalence fun a b => server.sameKey a b = true
  eval_int32 : ∀ d n, server.eval d (.int32 n) = some (.int32 n)
  eval_field : ∀ {text name : String}, fieldOf? text = some name → ∀ d,
    server.eval d (.text text) = d.get? name
  eval_gt : ∀ d a b, server.eval d (apply "$gt" [a, b]) =
    some (.bool (server.before (server.eval d b) (server.eval d a)))
  eval_lt : ∀ d a b, server.eval d (apply "$lt" [a, b]) =
    some (.bool (server.before (server.eval d a) (server.eval d b)))
  eval_cond : ∀ {d : Document} {condition : Value} {b : Bool},
    server.eval d condition = some (.bool b) → ∀ yes no,
      server.eval d (apply "$cond" [condition, yes, no]) =
        if b then server.eval d yes else server.eval d no
  eval_add : ∀ {d : Document} {terms : List Value} {counts : List ℕ},
    List.Forall₂ (fun term (n : ℕ) => (server.eval d term).bind Value.integer? = some (n : ℤ))
      terms counts →
    Width.Signed 64 counts.sum →
    (server.eval d (apply "$add" terms)).bind Value.integer? = some (counts.sum : ℤ)
  meets_or : ∀ d {alternatives : List Value}, alternatives ≠ [] →
    server.meets d (apply "$or" alternatives) = alternatives.any (server.meets d)
  /-- A field that is no array is held against a number as a number. -/
  meets_gt : ∀ {d : Document} {field : String} {bound : Value} {w : Extended},
    isPlain field = true → (∀ items, d.get? field ≠ some (.array items)) →
    bound.number? = some w →
    server.meets d (.single field (.single "$gt" bound)) =
      ((d.get? field).bind Value.number?).any (w < ·)
  meets_lt : ∀ {d : Document} {field : String} {bound : Value} {w : Extended},
    isPlain field = true → (∀ items, d.get? field ≠ some (.array items)) →
    bound.number? = some w →
    server.meets d (.single field (.single "$lt" bound)) =
      ((d.get? field).bind Value.number?).any (· < w)
  accumulate_sum : ∀ {members : List Document} {summand : Value} {counts : List ℕ},
    List.Forall₂ (fun d (n : ℕ) => (server.eval d summand).bind Value.integer? = some (n : ℤ))
      members counts →
    Width.Signed 64 counts.sum →
    (server.accumulate members (.single "$sum" summand)).integer? = some (counts.sum : ℤ)
  perform_match : ∀ docs condition,
    server.perform docs [("$match", condition)] = docs.filter (server.meets · condition)
  /-- One row for each key, in any order. -/
  perform_group : ∀ docs key fields, areFields ("_id" :: fields.map Prod.fst) = true →
    ∃ keys, server.Keys key docs keys ∧
      server.perform docs [("$group", .document (("_id", key) :: fields))] =
        keys.map (server.groupRow key docs fields)
  perform_addFields : ∀ docs {name : String} terms, isPlain name = true →
    ∃ f : Document → Document,
      server.perform docs [("$addFields", .single name (apply "$add" terms))] = docs.map f ∧
      ∀ d, (∀ field, name ≠ field → (f d).get? field = d.get? field) ∧
        ∀ v, server.eval d (apply "$add" terms) = some v → (f d).get? name = some v
  perform_sort : ∀ docs order, (server.perform docs [("$sort", order)]).Perm docs
  /-- A projection shows the fields that it keeps, and others by another name. -/
  perform_project : ∀ docs {spec : List (String × Value)},
    areFields (spec.map Prod.fst) = true → ∃ f : Document → Document,
      server.perform docs [("$project", .document spec)] = docs.map f ∧
      ∀ {d name v}, d.get? name = some v →
        (get? spec name = some 1 → (f d).get? name = some v) ∧
        ∀ {shown text}, get? spec shown = some (.text text) → fieldOf? text = some name →
          (f d).get? shown = some v

/-! ### Counting -/

section Counting

variable {server : Server}

theorem sum_map_ite {α : Type} (p : α → Bool) (l : List α) :
    (l.map fun a => if p a then 1 else 0).sum = l.countP p := by
  induction l with
  | nil => rfl
  | cons a rest ih =>
    rw [List.map_cons, List.sum_cons, ih]
    by_cases h : p a = true
    · rw [if_pos h, List.countP_cons_of_pos h, add_comm]
    · rw [if_neg h, List.countP_cons_of_neg h, zero_add]

/-- The members of a group that meet a condition, counted. -/
theorem Documented.accumulate_countIf (hserver : server.Documented) {α : Type} {l : List α}
    {member : α → Document} {condition : Value} {p : α → Bool}
    (h : ∀ a ∈ l, server.eval (member a) condition = some (.bool (p a)))
    (hfits : Width.Signed 64 (l.countP p)) :
    (server.accumulate (l.map member) (countIf condition)).integer? = some (l.countP p : ℤ) := by
  rw [← sum_map_ite p l] at hfits ⊢
  refine hserver.accumulate_sum ?_ hfits
  rw [List.forall₂_map_left_iff, List.forall₂_map_right_iff]
  refine List.forall₂_same.2 fun a ha => ?_
  rw [hserver.eval_cond (h a ha)]
  show (if p a then server.eval (member a) (.int32 1) else server.eval (member a) (.int32 0)).bind
    _ = _
  rw [hserver.eval_int32, hserver.eval_int32]
  cases p a <;> rfl

/-- Of keys that stand once at most one is the same as a value. -/
theorem Documented.countP_sameKey_le_one (hserver : server.Documented) {keys : List Value}
    (hkeys : keys.Pairwise fun a b => server.sameKey a b = false) (v : Value) :
    keys.countP (server.sameKey · v) ≤ 1 := by
  obtain ⟨-, hsymm, htrans⟩ := hserver.sameKey_equivalence
  -- a second key that is the same as the value would be the same as the first
  induction keys with
  | nil => exact Nat.zero_le 1
  | cons k rest ih =>
    obtain ⟨hk, hrest⟩ := List.pairwise_cons.1 hkeys
    by_cases hsame : server.sameKey k v = true
    · have hothers : rest.countP (server.sameKey · v) = 0 := by
        rw [List.countP_eq_zero]
        intro other hmem hother
        exact Bool.false_ne_true ((hk other hmem).symm.trans (htrans hsame (hsymm hother)))
      rw [List.countP_cons, if_pos hsame, hothers]
    · rw [List.countP_cons, if_neg hsame]
      exact ih hrest

end Counting

end Server

end Analytics

end BulkProvision
