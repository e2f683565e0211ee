import BulkProvision.Document.Text
import BulkProvision.Proofs.Aggregation
import Mathlib.Algebra.BigOperators.Ring.Finset
import Mathlib.Data.List.Pairwise

/-!
# A server that can be run

`Analytics.evaluator` is a server of plain functions over documents.  It knows the operators and
stages of the reports that count, has only whole numbers to round and tells keys apart by their
text.  It does what the documentation says (`documented_evaluator`), so what is proved of documented
servers can be seen on examples.
-/

namespace BulkProvision

namespace Document

/-- A whole number in the narrowest type; past 64 bits it is a double. -/
def Value.ofInteger (n : ℤ) : Value :=
  if Width.Signed 32 n then .int32 n
  else if Width.Signed 64 n then .int64 n
  else .double (.ofInt n)

theorem integer?_ofInteger {n : ℤ} (h : Width.Signed 64 n) :
    (Value.ofInteger n).integer? = some n := by
  rw [Value.ofInteger, if_pos h]
  split <;> rfl

/-- Whether a value counts as true where a condition is asked for. -/
def isTrue : Option Value → Bool
  | none => false
  | some .null => false
  | some (.bool b) => b
  | some (.int32 n) => n != 0
  | some (.int64 n) => n != 0
  | some (.double x) => !x.isZero
  | some _ => true

/-- Whether a name is that of an operator. -/
def isOperator (name : String) : Bool := name.toList.head? = some '$'

/-- Gives a field a value, or takes it away. -/
def setField (d : Document) (name : String) : Option Value → Document
  | some value =>
    if (d.get? name).isSome then d.map fun e => if e.1 = name then (name, value) else e
    else d ++ [(name, value)]
  | none => d.filter (·.1 ≠ name)

/-! ### Views of documents -/

theorem get?_append (d e : Document) (name : String) :
    get? (d ++ e) name = (d.get? name).or (e.get? name) := by
  rw [get?, List.find?_append, Option.map_or]
  rfl

theorem get?_cons (entry : String × Value) (d : Document) (name : String) :
    get? (entry :: d) name = if entry.1 = name then some entry.2 else d.get? name := by
  rw [get?, List.find?_cons]
  by_cases h : entry.1 = name <;> simp [h, get?]

theorem get?_filter (d : Document) (kept : String → Bool) (name : String) :
    get? (d.filter fun e => kept e.1) name = if kept name then d.get? name else none := by
  induction d with
  | nil => simp [get?]
  | cons e rest ih =>
    rw [List.filter_cons, get?_cons]
    by_cases hname : e.1 = name
    · subst hname
      by_cases hkept : kept e.1 = true <;> simp [hkept, get?_cons, ih]
    · by_cases hkept : kept e.1 = true <;> simp [hkept, get?_cons, hname, ih]

theorem get?_map_replace (d : Document) (name key : String) (value : Value) :
    get? (d.map fun e => if e.1 = name then (name, value) else e) key =
      if name = key then (d.get? key).map fun _ => value else d.get? key := by
  induction d with
  | nil => simp [get?]
  | cons e rest ih =>
    rw [List.map_cons, get?_cons, get?_cons, ih]
    by_cases hname : e.1 = name
    · by_cases hkey : name = key <;> simp [hname, hkey]
    · by_cases hkey : name = key
      · subst hkey
        simp [hname]
      · simp [hname, hkey]

theorem get?_setField_some (d : Document) (name key : String) (value : Value) :
    get? (setField d name (some value)) key = if name = key then some value else d.get? key := by
  rw [setField]
  split
  · next hsome =>
    rw [get?_map_replace]
    split
    · next heq =>
      subst heq
      obtain ⟨held, hheld⟩ := Option.isSome_iff_exists.1 hsome
      rw [hheld, Option.map_some]
    · rfl
  · next hnone =>
    rw [get?_append, get?_cons]
    split
    · next heq =>
      subst heq
      rw [Option.not_isSome_iff_eq_none.1 hnone, Option.none_or]
    · exact Option.or_none

theorem get?_setField_of_ne (d : Document) {name key : String} (h : name ≠ key)
    (value : Option Value) : get? (setField d name value) key = d.get? key := by
  cases value with
  | none =>
    have hkept : decide (key ≠ name) = true := decide_eq_true h.symm
    exact (get?_filter d (fun field => decide (field ≠ name)) key).trans (if_pos hkept)
  | some value => rw [get?_setField_some, if_neg h]

end Document

namespace Analytics

open Document Binary64

namespace Evaluator

/-! ### Values -/

/-- The order of numbers and of what comes before them. -/
def before (a b : Option Value) : Bool :=
  match a.bind Value.number?, b.bind Value.number? with
  | some v, some w => v < w
  | none, some _ => isBlank a
  | _, none => false

/-- The first of some values by an order that is given; null is none of them. -/
def foremost (comesFirst : Value → Value → Bool) (values : List (Option Value)) : Value :=
  values.foldl (fun best value =>
    match best, value with
    | best, none => best
    | best, some .null => best
    | .null, some v => v
    | best, some v => if comesFirst v best then v else best) .null

/-! ### Expressions -/

/-- An operator applied to values. -/
def operate : String → List (Option Value) → Option Value
  | "$gt", [a, b] => some (.bool (before b a))
  | "$lt", [a, b] => some (.bool (before a b))
  | "$cond", [condition, yes, no] => if isTrue condition then yes else no
  | "$add", terms =>
    (terms.mapM fun v : Option Value => v.bind Value.integer?).map fun integers =>
      .ofInteger integers.sum
  | "$round", value :: _ => value
  | _, _ => none

/-- The value of an expression over a document; none where it comes to a missing field. -/
def eval (d : Document) : Value → Option Value
  | .text text =>
    match fieldOf? text with
    | some name => d.get? name
    | none => some (.text text)
  | .array items => some (.array ((evalAll items).map (·.getD .null)))
  | .document [(operator, .array arguments)] =>
    if isOperator operator then operate operator (evalAll arguments)
    else some (.document (evalFields [(operator, .array arguments)]))
  | .document fields => some (.document (evalFields fields))
  | literal => some literal
where
  /-- The values of expressions. -/
  evalAll : List Value → List (Option Value)
    | [] => []
    | item :: rest => eval d item :: evalAll rest
  /-- The fields of an expression, without those that come to missing fields. -/
  evalFields : List (String × Value) → Document
    | [] => []
    | (name, value) :: rest =>
      match eval d value with
      | some v => (name, v) :: evalFields rest
      | none => evalFields rest

theorem evalAll_eq_map (d : Document) (items : List Value) :
    eval.evalAll d items = items.map (eval d) := by
  induction items with
  | nil => rfl
  | cons item rest ih => rw [eval.evalAll, ih, List.map_cons]

theorem eval_apply {operator : String} (h : isOperator operator = true) (d : Document)
    (arguments : List Value) :
    eval d (apply operator arguments) = operate operator (arguments.map (eval d)) := by
  rw [apply, Value.single, eval, if_pos h, evalAll_eq_map]

theorem mapM_eq_some {α β : Type} {f : α → Option β} {l : List α} {l' : List β}
    (h : List.Forall₂ (fun a b => f a = some b) l l') : l.mapM f = some l' := by
  induction h with
  | nil => rfl
  | cons ha _ ih =>
    rw [List.mapM_cons, ha, ih]
    rfl

/-- Terms that come to counts are all read as integers. -/
theorem mapM_integer? {α : Type} {f : α → Option Value} {l : List α} {counts : List ℕ}
    (h : List.Forall₂ (fun a (n : ℕ) => (f a).bind Value.integer? = some (n : ℤ)) l counts) :
    l.mapM (fun a => (f a).bind Value.integer?) = some (counts.map Nat.cast) :=
  mapM_eq_some (List.forall₂_map_right_iff.2 h)

theorem integer?_ofInteger_sum {counts : List ℕ} (h : Width.Signed 64 counts.sum) :
    (Value.ofInteger (counts.map Nat.cast).sum).integer? = some (counts.sum : ℤ) := by
  rw [← Nat.cast_list_sum]
  exact integer?_ofInteger h

theorem eval_add {d : Document} {terms : List Value} {counts : List ℕ}
    (h : List.Forall₂ (fun term (n : ℕ) => (eval d term).bind Value.integer? = some (n : ℤ))
      terms counts)
    (hfits : Width.Signed 64 counts.sum) :
    (eval d (apply "$add" terms)).bind Value.integer? = some (counts.sum : ℤ) := by
  have hterms : terms.mapM ((fun v : Option Value => v.bind Value.integer?) ∘ eval d) =
      some (counts.map Nat.cast) := mapM_integer? h
  rw [eval_apply (by decide), operate, List.mapM_map, hterms, Option.map_some, Option.bind_some,
    integer?_ofInteger_sum hfits]

/-! ### Conditions -/

/-- Whether a condition on one field holds. -/
def holds (d : Document) (field operator : String) (bound : Value) : Bool :=
  bound.number?.any fun w => ((d.get? field).bind Value.number?).any fun v =>
    match operator with
    | "$gt" => w < v
    | "$lt" => v < w
    | _ => false

/-- Whether a document meets the condition of a match. -/
def meets (d : Document) : Value → Bool
  | .document conditions => allMet conditions
  | _ => false
where
  /-- Whether all of some conditions are met. -/
  allMet : List (String × Value) → Bool
    | [] => true
    | (name, .array alternatives) :: rest =>
      name = "$or" && anyMet alternatives && allMet rest
    | (name, .document [(operator, bound)]) :: rest => holds d name operator bound && allMet rest
    | _ => false
  /-- Whether one of some conditions is met. -/
  anyMet : List Value → Bool
    | [] => false
    | condition :: rest => meets d condition || anyMet rest

theorem anyMet_eq_any (d : Document) (alternatives : List Value) :
    meets.anyMet d alternatives = alternatives.any (meets d) := by
  induction alternatives with
  | nil => rfl
  | cons condition rest ih => rw [meets.anyMet, ih, List.any_cons]

/-! ### Stages -/

/-- What an accumulator makes of the members of a group. -/
def accumulate (members : List Document) : Value → Value
  | .document [("$sum", summand)] =>
    match members.mapM fun d => (eval d summand).bind Value.integer? with
    | some integers => .ofInteger integers.sum
    | none => .null
  | .document [("$max", argument)] =>
    foremost (fun a b => before (some b) (some a)) (members.map (eval · argument))
  | .document [("$min", argument)] =>
    foremost (fun a b => before (some a) (some b)) (members.map (eval · argument))
  | _ => .null

/-- Whether two values are the same key. -/
def sameKey (a b : Value) : Bool := a.render = b.render

theorem sameKey_equivalence : Equivalence fun a b => sameKey a b = true := by
  simp only [sameKey, decide_eq_true_eq]
  exact eq_equivalence.comap Value.render

/-- The greater sums first. -/
def ranksBefore (a b : Document) : Bool := total b ≤ total a
where
  /-- The sum in a row. -/
  total (row : Document) : ℤ :=
    ((row.get? "total_extreme_events").bind Value.integer?).getD 0

/-- The fields that a projection keeps, and those that it computes. -/
def project (spec : List (String × Value)) (d : Document) : Document :=
  d.filter (fun e => kept e.1) ++ spec.filterMap fun e =>
    if (flag? e.2).isSome then none else (eval d e.2).map (e.1, ·)
where
  /-- Whether an entry says only that a field is kept or not. -/
  flag? : Value → Option Bool
    | .int32 n => some (n != 0)
    | _ => none
  /-- Whether a field is kept; the identifier is unless the projection says otherwise. -/
  kept (name : String) : Bool :=
    match get? spec name with
    | some value => (flag? value).getD false
    | none => name = "_id"

theorem get?_project_of_kept {spec : List (String × Value)} {d : Document} {name : String}
    {v : Value} (hspec : get? spec name = some 1) (hd : d.get? name = some v) :
    get? (project spec d) name = some v := by
  have hkept : project.kept spec name = true := by
    rw [project.kept, hspec]
    rfl
  rw [project, get?_append, get?_filter, if_pos hkept, hd, Option.some_or]

theorem get?_project_of_computed {spec : List (String × Value)} {d : Document} {name : String}
    {value v : Value} (hspec : get? spec name = some value) (hflag : project.flag? value = none)
    (heval : eval d value = some v) : get? (project spec d) name = some v := by
  have hkept : project.kept spec name = false := by
    rw [project.kept, hspec]
    simp [hflag]
  rw [project, get?_append, get?_filter, hkept]
  simp only [Bool.false_eq_true, if_false, Option.none_or]
  clear hkept
  -- entries before the first of that name compute other fields
  induction spec with
  | nil => cases hspec
  | cons e rest ih =>
    rw [get?_cons] at hspec
    rw [List.filterMap_cons]
    by_cases hname : e.1 = name
    · rw [if_pos hname] at hspec
      obtain rfl := Option.some.inj hspec
      simp [hflag, heval, get?_cons, hname]
    · rw [if_neg hname] at hspec
      split
      · exact ih hspec
      · next computed hcomputed =>
        have hother : computed.1 = e.1 := by
          split at hcomputed
          · cases hcomputed
          · obtain ⟨w, -, rfl⟩ := Option.map_eq_some_iff.1 hcomputed
            rfl
        rw [get?_cons, if_neg (hother ▸ hname)]
        exact ih hspec

/-- The keys of documents, each once. -/
def keys (keyOf : Document → Value) (docs : List Document) : List Value :=
  (docs.map keyOf).pwFilter fun a b => ¬ sameKey a b = true

theorem pairwise_keys (keyOf : Document → Value) (docs : List Document) :
    (keys keyOf docs).Pairwise fun a b => sameKey a b = false :=
  (List.pairwise_pwFilter _).imp Bool.eq_false_iff.2

/-- There is a key for every document, and a document for every key. -/
theorem exists_mem_keys_iff {keyOf : Document → Value} {docs : List Document} {v : Value} :
    (∃ k ∈ keys keyOf docs, sameKey k v = true) ↔ ∃ d ∈ docs, sameKey (keyOf d) v = true := by
  obtain ⟨-, hsymm, htrans⟩ := sameKey_equivalence
  -- nothing differs from all keys that are kept but what differs from all keys
  have hnone := List.forall_mem_pwFilter (R := fun a b => ¬ sameKey a b = true)
    (fun {x y z} hxz => by
      by_contra hboth
      rw [not_or, not_not, not_not] at hboth
      exact hxz (htrans hboth.1 hboth.2)) v (docs.map keyOf)
  constructor
  · rintro ⟨k, hk, hsame⟩
    by_contra hno
    refine hnone.2 (fun b hb hv => hno ?_) k hk (hsymm hsame)
    obtain ⟨d, hd, rfl⟩ := List.mem_map.1 hb
    exact ⟨d, hd, hsymm hv⟩
  · rintro ⟨d, hd, hsame⟩
    by_contra hno
    exact hnone.1 (fun k hk hv => hno ⟨k, hk, hsymm hv⟩) _ (List.mem_map_of_mem hd) (hsymm hsame)

/-- What a stage makes of documents. -/
def perform (docs : List Document) : Document → List Document
  | [("$match", condition)] => docs.filter (meets · condition)
  | [("$group", .document (("_id", key) :: fields))] =>
    let keyOf (d : Document) := (eval d key).getD .null
    (keys keyOf docs).map fun k =>
      ("_id", k) :: fields.map fun e =>
        (e.1, accumulate (docs.filter fun d => sameKey (keyOf d) k) e.2)
  | [("$addFields", .document fields)] =>
    docs.map fun d => fields.foldl (fun row e => setField row e.1 (eval d e.2)) d
  | [("$sort", _)] => docs.mergeSort ranksBefore
  | [("$project", .document spec)] => docs.map (project spec)
  | _ => docs

end Evaluator

open Evaluator

/-- The server of these functions. -/
def evaluator : Server := ⟨before, sameKey, eval, meets, accumulate, perform⟩

/-- **The evaluator does what is documented.** -/
theorem documented_evaluator : evaluator.Documented where
  before_of_number {a b v w} ha hb := by
    show before (some a) (some b) = _
    rw [before, Option.bind_some, Option.bind_some, ha, hb]
  before_of_isBlank {a b w} ha hb := by
    show before a (some b) = true
    rw [before, number?_of_isBlank ha, Option.bind_some, hb]
    exact ha
  not_before_isBlank {a b v} ha hb := by
    show before (some a) b = false
    rw [before, number?_of_isBlank hb, Option.bind_some, ha]
  sameKey_equivalence := sameKey_equivalence
  eval_int32 _ _ := rfl
  eval_field {text name} h d := by
    show eval d (.text text) = _
    rw [eval, h]
  eval_gt d a b := by
    have hgt : isOperator "$gt" = true := by decide
    exact eval_apply hgt d [a, b]
  eval_lt d a b := by
    have hlt : isOperator "$lt" = true := by decide
    exact eval_apply hlt d [a, b]
  eval_cond {d condition b} h yes no := by
    have hcond : isOperator "$cond" = true := by decide
    refine (eval_apply hcond d [condition, yes, no]).trans ?_
    show (if isTrue (eval d condition) then _ else _) = _
    rw [show eval d condition = some (.bool b) from h]
    rfl
  eval_add := eval_add
  meets_or d alternatives _ := by
    show meets.allMet d [("$or", .array alternatives)] = _
    rw [meets.allMet, anyMet_eq_any]
    exact Bool.and_true _
  meets_gt {d field bound w} _ _ hbound := by
    show (holds d field "$gt" bound && true) = _
    rw [holds, hbound, Bool.and_true]
    rfl
  meets_lt {d field bound w} _ _ hbound := by
    show (holds d field "$lt" bound && true) = _
    rw [holds, hbound, Bool.and_true]
    rfl
  accumulate_sum {members summand counts} h hfits := by
    show (accumulate members (.document [("$sum", summand)])).integer? = _
    rw [accumulate, mapM_integer? (f := (eval · summand)) h]
    exact integer?_ofInteger_sum hfits
  perform_match _ _ := rfl
  perform_group docs key fields _ :=
    ⟨keys (fun d => (eval d key).getD .null) docs,
      ⟨pairwise_keys _ _, fun _ => exists_mem_keys_iff⟩, rfl⟩
  perform_addFields docs name terms _ := by
    refine ⟨_, rfl, fun d => ⟨fun field hother => get?_setField_of_ne d hother _, fun v h => ?_⟩⟩
    show get? (setField d name (eval d (apply "$add" terms))) name = _
    rw [show eval d (apply "$add" terms) = some v from h, get?_setField_some, if_pos rfl]
  perform_sort docs _ := List.mergeSort_perm docs _
  perform_project docs spec _ := by
    refine ⟨_, rfl, fun {d name v} h => ⟨fun hspec => get?_project_of_kept hspec h,
      fun {shown text} hspec hfield => get?_project_of_computed hspec rfl ?_⟩⟩
    rw [eval, hfield]
    exact h

end Analytics

end BulkProvision
