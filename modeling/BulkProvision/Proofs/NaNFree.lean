import BulkProvision.Proofs.FirstRule
import BulkProvision.Proofs.RepeatedField
import BulkProvision.Proofs.Rounding
import BulkProvision.Source

/-!
# No NaN is read

A JSON number is scaled by powers of ten, and a double times or over a power of ten is no NaN, also
where it is zero or infinite: the power is neither (`Json.powerOfTen_isFiniteNonzero`).  So no value
that is read from a JSON text holds a NaN, however deep it stands (`Json.nanFree_ofText?`), and
neither does a record before it is coerced (`Source.nanFree_of_read`).
-/

namespace BulkProvision

/-! ### Doubles -/

namespace Binary64

/-- Neither a NaN, nor infinite, nor zero. -/
def IsFiniteNonzero (x : Binary64) : Prop :=
  ∃ negative code, x = signed negative code ∧ code.val ≠ 0 ∧ code.val ≠ infiniteCode

theorem isNaN_mul {x y : Binary64} (hx : x.isNaN = false) (hy : y.IsFiniteNonzero) :
    (x.mul y).isNaN = false := by
  obtain ⟨t, b, rfl, hzero, hinfinite⟩ := hy
  cases x with
  | nan => cases hx
  | signed s a =>
    rw [mul]
    split
    · next h =>
      -- the first factor is infinite, so neither is zero
      have ha := h.resolve_right hinfinite
      rw [if_neg]
      · rfl
      · rw [ha]
        exact not_or.2 ⟨by decide, hzero⟩
    · rfl

theorem isNaN_div {x y : Binary64} (hx : x.isNaN = false) (hy : y.IsFiniteNonzero) :
    (x.div y).isNaN = false := by
  obtain ⟨t, b, rfl, hzero, hinfinite⟩ := hy
  cases x with
  | nan => cases hx
  | signed s a =>
    rw [div, if_neg hinfinite, if_neg hinfinite, if_neg hzero]
    split <;> rfl

theorem isNaN_neg (x : Binary64) : x.neg.isNaN = x.isNaN := by
  cases x <;> rfl

end Binary64

namespace Json

open Binary64 Text Text.Reader

/-! ### Numbers -/

theorem powerOfTen_isFiniteNonzero {exponent : ℕ} (h : exponent ≤ 308) :
    (powerOfTen exponent).IsFiniteNonzero := by
  obtain ⟨code, hcode, hrounded⟩ := roundsTo_ofDecimal false 1 exponent
  rw [Nat.cast_one, one_mul, zpow_natCast] at hrounded
  refine ⟨false, code, hcode, fun hzero => ?_, fun hinfinite => ?_⟩
  · have hone := hrounded.le_magnitude (isDouble_natCast (show 1 ≤ 2 ^ 53 by decide))
      (by rw [Nat.cast_one]; exact one_le_pow₀ (by norm_num))
    rw [hzero, magnitude_zero] at hone
    norm_num at hone
  · -- the greatest of the powers is finite
    have hgreatest := rounded_natCast (10 ^ 308)
    have hle : (10 : ℚ) ^ exponent ≤ (10 ^ 308 : ℕ) := by
      rw [Nat.cast_pow, Nat.cast_ofNat]
      exact pow_le_pow_right₀ (by norm_num) h
    have hcodes := hrounded.mono hle hgreatest
    rw [hinfinite] at hcodes
    exact absurd hcodes (by decide +kernel)

theorem isNaN_scaleDown {x : Binary64} (hx : x.isNaN = false) (exponent : ℕ) :
    (scaleDown x exponent).isNaN = false := by
  fun_induction scaleDown x exponent with
  | case1 x exponent h => exact isNaN_div hx (powerOfTen_isFiniteNonzero h)
  | case2 x exponent h hzero => exact hx
  | case3 x exponent h hzero ih => exact ih (isNaN_div hx (powerOfTen_isFiniteNonzero le_rfl))

theorem isNaN_scale {significand : ℕ} {exponent : ℤ} {x : Binary64}
    (h : scale significand exponent = some x) : x.isNaN = false := by
  rw [scale] at h
  dsimp only at h
  split_ifs at h with hdown hup hinfinite hzero
  · cases h
    exact isNaN_scaleDown rfl _
  · cases h
    exact isNaN_mul rfl (powerOfTen_isFiniteNonzero (by omega))
  · cases h
    rfl

/-- A value without a NaN, however deep. -/
inductive NaNFree : Json → Prop
  | null : NaNFree null
  | bool (b : Bool) : NaNFree (bool b)
  | integer (n : Int) : NaNFree (integer n)
  | real {x : Binary64} (h : x.isNaN = false) : NaNFree (real x)
  | text (s : String) : NaNFree (text s)
  | array {items : List Json} (h : ∀ item ∈ items, NaNFree item) : NaNFree (array items)
  | object {fields : List (String × Json)} (h : ∀ f ∈ fields, NaNFree f.2) : NaNFree (object fields)

theorem nanFree_numberText {t : NumberText} {v : Json} (h : t.value = some v) : NaNFree v := by
  have hreal {x : Binary64} (hx : x.isNaN = false) :
      NaNFree (real (if t.negative then x.neg else x)) := by
    refine .real ?_
    split
    · rwa [isNaN_neg]
    · exact hx
  rw [NumberText.value] at h
  dsimp only at h
  split at h
  · cases h
    rw [wholeValue]
    split_ifs
    · exact .real (isNaN_neg _)
    · exact .integer _
    · exact .integer _
  · obtain ⟨x, hx, rfl⟩ := Option.map_eq_some_iff.1 h
    refine hreal ?_
    split at hx
    · exact isNaN_scale hx
    · split_ifs at hx
      · cases hx
        rfl
      · exact isNaN_scale hx
      · exact isNaN_scale hx

/-! ### Readers -/

theorem yields_group {α : Type} {P : α → Prop} {item : Reader α} (h : Yields item P)
    (close : Char) : Yields (group item close) fun items => ∀ a ∈ items, P a := by
  refine yields_bind fun _ => yields_bind fun closed => ?_
  cases closed with
  | true => exact yields_pure (by simp)
  | false =>
    refine yields_bind fun rounds => (h.separated _ rounds).bind fun items hitems => ?_
    exact yields_bind fun _ => yields_pure hitems

theorem yields_field {P : Json → Prop} {value : Reader Json} (h : Yields value P) :
    Yields (field value) fun f => P f.2 :=
  yields_bind fun _ => yields_bind fun _ => yields_bind fun _ => h.bind fun _ hv => yields_pure hv

theorem forall_mem_setField {P : Json → Prop} {name : String} {value : Json}
    {fields : List (String × Json)} (hvalue : P value) (h : ∀ f ∈ fields, P f.2) :
    ∀ f ∈ setField name value fields, P f.2 := by
  induction fields with
  | nil =>
    rw [setField, List.forall_mem_singleton]
    exact hvalue
  | cons first rest ih =>
    obtain ⟨hfirst, hrest⟩ := List.forall_mem_cons.1 h
    rw [setField]
    split
    · exact List.forall_mem_cons.2 ⟨hvalue, hrest⟩
    · exact List.forall_mem_cons.2 ⟨hfirst, ih hrest⟩

theorem nanFree_objectOf {fields : List (String × Json)} (h : ∀ f ∈ fields, NaNFree f.2) :
    NaNFree (objectOf fields) := by
  refine .object ?_
  induction fields using List.reverseRecOn with
  | nil => simp
  | append_singleton fields f ih =>
    obtain ⟨hfields, hf⟩ := List.forall_mem_append.1 h
    rw [List.foldl_append]
    exact forall_mem_setField (hf f List.mem_cons_self) (ih hfields)

theorem nanFree_valueWith {inner : Option (Reader Json)}
    (h : ∀ item, inner = some item → Yields item NaNFree) : Yields (valueWith inner) NaNFree := by
  refine yields_bind fun _ => yields_bind fun c => ?_
  split
  · exact yields_bind fun _ => yields_pure .null
  · exact yields_bind fun _ => yields_pure (.bool true)
  · exact yields_bind fun _ => yields_pure (.bool false)
  · exact .map fun _ _ _ _ => .text _
  · refine (yields_lift h).bind fun item hitem => yields_bind fun _ => .map ?_
    exact fun s items rest hread => .array (yields_group hitem _ s items rest hread)
  · refine (yields_lift h).bind fun item hitem => yields_bind fun _ => .map ?_
    exact fun s fields rest hread =>
      nanFree_objectOf (yields_group (yields_field hitem) _ s fields rest hread)
  · exact yields_number fun _ _ => nanFree_numberText

theorem nanFree_value (depth : ℕ) : Yields (value depth) NaNFree := by
  induction depth with
  | zero => exact nanFree_valueWith (by simp)
  | succ depth ih => exact nanFree_valueWith fun item hitem => Option.some.inj hitem ▸ ih

/-- **No NaN is read** from a JSON text. -/
theorem nanFree_ofText? {s : String} {v : Json} (h : ofText? s = some v) : NaNFree v := by
  refine Yields.readAll ?_ h
  exact (nanFree_value _).bind fun v hv => yields_bind fun _ => yields_bind fun _ => yields_pure hv

theorem NaNFree.isNaN_ofJson? {v : Json} (h : NaNFree v) {value : Scalar}
    (hvalue : Scalar.ofJson? v = some value) : value.isNaN = false := by
  cases h with
  | integer n =>
    cases hvalue
    split <;> rfl
  | real h =>
    cases hvalue
    exact h
  | array h => cases hvalue
  | object h => cases hvalue
  | _ =>
    cases hvalue
    rfl

end Json

/-! ### Records -/

open Json

/-- No field of the record holds a NaN. -/
def Record.NaNFree (record : Record) : Prop := ∀ e ∈ record.entries, e.2.isNaN = false

theorem Record.NaNFree.insert {record : Record} (h : record.NaNFree) (name : String)
    {value : Scalar} (hvalue : value.isNaN = false) :
    Record.NaNFree (record.insert name value) := by
  intro e he
  rcases NameMap.mem_insertEntry he with rfl | he
  · exact hvalue
  · exact h e he

theorem Record.nanFree_of_go {record read : Record} {fields : List (String × Json)}
    (hrecord : record.NaNFree) (hfields : ∀ f ∈ fields, Json.NaNFree f.2)
    (h : ofFields.go record fields = .ok read) : read.NaNFree := by
  induction fields generalizing record with
  | nil =>
    cases h
    exact hrecord
  | cons f rest ih =>
    obtain ⟨hf, hrest⟩ := List.forall_mem_cons.1 hfields
    rw [ofFields.go] at h
    split at h
    · cases h
    · next value hvalue => exact ih (hrecord.insert _ (hf.isNaN_ofJson? hvalue)) hrest h

namespace Source

theorem nanFree_of_record {index : ℕ} {item : Json} {record : Record} (hitem : Json.NaNFree item)
    (h : Source.record index item = .ok record) : record.NaNFree := by
  cases hitem with
  | object hfields =>
    rw [Source.record] at h
    split at h
    · next read hread =>
      cases h
      exact Record.nanFree_of_go (fun e he => absurd he List.not_mem_nil) hfields hread
    · cases h
  | _ => cases h

theorem nanFree_of_recordsFrom {index : ℕ} {items : List Json} {records : List Record}
    (hitems : ∀ item ∈ items, Json.NaNFree item) (h : recordsFrom index items = .ok records) :
    ∀ record ∈ records, record.NaNFree := by
  induction items generalizing index records with
  | nil =>
    cases h
    simp
  | cons item rest ih =>
    obtain ⟨hitem, hrest⟩ := List.forall_mem_cons.1 hitems
    rw [recordsFrom] at h
    split at h
    · cases h
    · next first hfirst =>
      split at h
      · cases h
      · next others hothers =>
        cases h
        exact List.forall_mem_cons.2 ⟨nanFree_of_record hitem hfirst, ih hrest hothers⟩

/-- **No NaN is in a record as it is read.** -/
theorem nanFree_of_read {files : FileTree} {path : String} {records : List Record}
    (h : read files path = .ok records) : ∀ record ∈ records, record.NaNFree := by
  rw [read] at h
  split at h
  · cases h
  · next items hitems =>
    suffices hall : ∀ item ∈ items, Json.NaNFree item from nanFree_of_recordsFrom hall h
    rw [Source.items] at hitems
    split at hitems
    · split at hitems
      · next hread =>
        cases hitems
        cases nanFree_ofText? hread with
        | array hall => exact hall
      · cases hitems
    · cases hitems
    · cases hitems

end Source

end BulkProvision
