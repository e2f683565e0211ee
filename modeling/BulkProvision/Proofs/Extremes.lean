import BulkProvision.Proofs.Evaluator
import BulkProvision.Proofs.Validator

/-!
# What the report on extremes counts

The report writes its four thresholds twice: in the match, which looks at numbers only, and in the
sums, which compare by the order of all values.  Above a bound the two agree.  Below a bound they do
not: a temperature that is missing, null or NaN comes before -5 °C, so a record that the match finds
by its wind or its rain counts as a low temperature if it has none (`Tallied.frosty`).

The stages are followed one by one (`perform_match`, `exists_perform_group`,
`exists_perform_addFields`, `exists_perform_project`), over any server that does what is documented.
So a location has one row if it has an extreme reading and none otherwise, and the row counts what
it says, the low temperatures apart (`ranked_of_aggregate`).
-/

namespace BulkProvision

namespace Analytics

open Document Binary64

/-! ### Measurements -/

/-- A field that is missing, null or a number, be it a NaN. -/
def isMeasurement : Option Scalar → Bool
  | some (.bool _) => false
  | some (.text _) => false
  | _ => true

/-- A number above a bound.  A NaN is not. -/
def isAbove (bound : ℤ) : Option Scalar → Bool
  | some (.int n) => bound < n
  | some (.float x) => (ofInt bound).numericLt x
  | _ => false

/-- A number below a bound.  A NaN is not. -/
def isBelow (bound : ℤ) : Option Scalar → Bool
  | some (.int n) => n < bound
  | some (.float x) => x.numericLt (ofInt bound)
  | _ => false

/-- A field without a number: missing, null or NaN. -/
def isUnread : Option Scalar → Bool
  | none => true
  | some .null => true
  | some (.float x) => x.isNaN
  | _ => false

section Measurements

variable {server : Server} {bound : ℤ} {a : Option Scalar}

theorem isBlank_map_ofScalar (a : Option Scalar) :
    isBlank (a.map Value.ofScalar) = isUnread a := by
  cases a with
  | none => rfl
  | some scalar => cases scalar <;> rfl

theorem number?_of_isUnread (h : isUnread a = true) :
    (a.map Value.ofScalar).bind Value.number? = none :=
  number?_of_isBlank ((isBlank_map_ofScalar a).trans h)

theorem exists_number (hmeasured : isMeasurement a = true) (hread : isUnread a = false) :
    ∃ scalar v, a = some scalar ∧ (Value.ofScalar scalar).number? = some v := by
  cases a with
  | none => cases hread
  | some scalar =>
    cases scalar with
    | int n => exact ⟨_, _, rfl, rfl⟩
    | float x =>
      cases x with
      | nan => cases hread
      | signed s c => exact ⟨_, _, rfl, rfl⟩
    | null => cases hread
    | _ => cases hmeasured

theorem any_number?_gt (hbound : bound.natAbs ≤ 2 ^ 53) (a : Option Scalar) :
    ((a.map Value.ofScalar).bind Value.number?).any (wholeUnits bound < ·) = isAbove bound a := by
  cases a with
  | none => rfl
  | some scalar =>
    cases scalar with
    | int n => exact decide_eq_decide.2 wholeUnits_lt_iff
    | float x =>
      rw [Bool.eq_iff_iff, isAbove, numericLt_iff, value?_ofInt hbound]
      simp [Value.ofScalar, Value.number?, Option.any_eq_true]
    | _ => rfl

theorem any_number?_lt (hbound : bound.natAbs ≤ 2 ^ 53) (a : Option Scalar) :
    ((a.map Value.ofScalar).bind Value.number?).any (· < wholeUnits bound) = isBelow bound a := by
  cases a with
  | none => rfl
  | some scalar =>
    cases scalar with
    | int n => exact decide_eq_decide.2 wholeUnits_lt_iff
    | float x =>
      rw [Bool.eq_iff_iff, isBelow, numericLt_iff, value?_ofInt hbound]
      simp [Value.ofScalar, Value.number?, Option.any_eq_true]
    | _ => rfl

/-- The order of values puts a bound before a measurement just when a number above the bound was
measured. -/
theorem before_measurement (hserver : server.Documented) (hbound : bound.natAbs ≤ 2 ^ 53)
    (hmeasured : isMeasurement a = true) :
    server.before (some (.int32 bound)) (a.map Value.ofScalar) = isAbove bound a := by
  rw [← any_number?_gt hbound]
  cases hread : isUnread a with
  | true =>
    rw [number?_of_isUnread hread,
      hserver.not_before_isBlank rfl ((isBlank_map_ofScalar a).trans hread)]
    rfl
  | false =>
    obtain ⟨scalar, v, rfl, hv⟩ := exists_number hmeasured hread
    rw [Option.map_some, hserver.before_of_number rfl hv, Option.bind_some, hv]
    rfl

/-- The order of values puts a measurement before a bound when a number below the bound was
measured, and also when no number was. -/
theorem measurement_before (hserver : server.Documented) (hbound : bound.natAbs ≤ 2 ^ 53)
    (hmeasured : isMeasurement a = true) :
    server.before (a.map Value.ofScalar) (some (.int32 bound)) =
      (isBelow bound a || isUnread a) := by
  rw [← any_number?_lt hbound]
  cases hread : isUnread a with
  | true =>
    rw [hserver.before_of_isBlank ((isBlank_map_ofScalar a).trans hread) rfl, Bool.or_true]
  | false =>
    obtain ⟨scalar, v, rfl, hv⟩ := exists_number hmeasured hread
    rw [Option.map_some, hserver.before_of_number hv rfl, Option.bind_some, hv, Bool.or_false]
    rfl

theorem eval_above (hserver : server.Documented) (hbound : bound.natAbs ≤ 2 ^ 53)
    {text field : String} (hfield : fieldOf? text = some field) {record : Record}
    (hmeasured : isMeasurement (record.get? field) = true) :
    server.eval (ofRecord record) (apply "$gt" [text, .int32 bound]) =
      some (.bool (isAbove bound (record.get? field))) := by
  rw [hserver.eval_gt, hserver.eval_field hfield, hserver.eval_int32, get?_ofRecord,
    before_measurement hserver hbound hmeasured]

theorem eval_below (hserver : server.Documented) (hbound : bound.natAbs ≤ 2 ^ 53)
    {text field : String} (hfield : fieldOf? text = some field) {record : Record}
    (hmeasured : isMeasurement (record.get? field) = true) :
    server.eval (ofRecord record) (apply "$lt" [text, .int32 bound]) =
      some (.bool (isBelow bound (record.get? field) || isUnread (record.get? field))) := by
  rw [hserver.eval_lt, hserver.eval_field hfield, hserver.eval_int32, get?_ofRecord,
    measurement_before hserver hbound hmeasured]

theorem get?_ofRecord_ne_array (record : Record) (field : String) (items : List Value) :
    (ofRecord record).get? field ≠ some (.array items) := by
  rw [get?_ofRecord]
  cases record.get? field with
  | none => nofun
  | some scalar => cases scalar <;> nofun

/-- A condition of a match looks at numbers only. -/
theorem meets_above (hserver : server.Documented) (hbound : bound.natAbs ≤ 2 ^ 53)
    {field : String} (hplain : isPlain field = true) (record : Record) :
    server.meets (ofRecord record) (.single field (.single "$gt" (.int32 bound))) =
      isAbove bound (record.get? field) := by
  rw [hserver.meets_gt hplain (get?_ofRecord_ne_array record field) rfl, get?_ofRecord,
    any_number?_gt hbound]

theorem meets_below (hserver : server.Documented) (hbound : bound.natAbs ≤ 2 ^ 53)
    {field : String} (hplain : isPlain field = true) (record : Record) :
    server.meets (ofRecord record) (.single field (.single "$lt" (.int32 bound))) =
      isBelow bound (record.get? field) := by
  rw [hserver.meets_lt hplain (get?_ofRecord_ne_array record field) rfl, get?_ofRecord,
    any_number?_lt hbound]

end Measurements

/-! ### Records -/

/-- A record whose measurements, where it has them, are numbers. -/
structure Measured (record : Record) : Prop where
  temperature : isMeasurement (record.get? "temperature_c") = true
  wind : isMeasurement (record.get? "wind_speed_kmh") = true
  rain : isMeasurement (record.get? "precipitation_mm") = true

instance (record : Record) : Decidable (Measured record) :=
  decidable_of_iff
    (isMeasurement (record.get? "temperature_c") = true ∧
      isMeasurement (record.get? "wind_speed_kmh") = true ∧
      isMeasurement (record.get? "precipitation_mm") = true)
    ⟨fun h => ⟨h.1, h.2.1, h.2.2⟩, fun h => ⟨h.temperature, h.wind, h.rain⟩⟩

/-- Above 25 °C. -/
def isHot (record : Record) : Bool := isAbove 25 (record.get? "temperature_c")

/-- Below -5 °C. -/
def isFrosty (record : Record) : Bool := isBelow (-5) (record.get? "temperature_c")

/-- Wind over 50 km/h. -/
def isWindy (record : Record) : Bool := isAbove 50 (record.get? "wind_speed_kmh")

/-- Precipitation over 80 mm. -/
def isWet (record : Record) : Bool := isAbove 80 (record.get? "precipitation_mm")

/-- No temperature is known. -/
def lacksTemperature (record : Record) : Bool := isUnread (record.get? "temperature_c")

/-- A record with an extreme reading. -/
def isExtreme (record : Record) : Bool :=
  isHot record || isFrosty record || isWindy record || isWet record

/-- The records of a location, as a server tells keys apart; no location is null. -/
def Server.isAt (server : Server) (location : Value) (record : Record) : Bool :=
  server.sameKey (((record.get? "location").map Value.ofScalar).getD .null) location

/-! ### The stages of the report -/

section Stages

variable {server : Server} {records : List Record} {location : Value} {row : Document}

/-- The match finds the records with an extreme reading. -/
theorem perform_match (hserver : server.Documented) (records : List Record) :
    server.perform (records.map ofRecord) extremes.pipeline[0] =
      (records.filter isExtreme).map ofRecord := by
  refine (hserver.perform_match (records.map ofRecord) _).trans ?_
  rw [List.filter_map]
  refine congrArg (List.map ofRecord) (List.filter_congr fun record _ => ?_)
  have hhot : server.meets (ofRecord record) (.single "temperature_c" (.single "$gt" 25)) =
      isHot record := meets_above hserver (by decide) (by decide) record
  have hfrosty : server.meets (ofRecord record)
      (.single "temperature_c" (.single "$lt" (.int32 (-5)))) = isFrosty record :=
    meets_below hserver (by decide) (by decide) record
  have hwindy : server.meets (ofRecord record) (.single "wind_speed_kmh" (.single "$gt" 50)) =
      isWindy record := meets_above hserver (by decide) (by decide) record
  have hwet : server.meets (ofRecord record) (.single "precipitation_mm" (.single "$gt" 80)) =
      isWet record := meets_above hserver (by decide) (by decide) record
  rw [Function.comp, hserver.meets_or _ (List.cons_ne_nil _ _)]
  simp only [List.any_cons, List.any_nil, hhot, hfrosty, hwindy, hwet, Bool.or_false, isExtreme,
    Bool.or_assoc]

theorem sameKey_keyOf (hserver : server.Documented) (record : Record) :
    server.sameKey (server.keyOf "$location" (ofRecord record)) location =
      server.isAt location record := by
  rw [Server.keyOf, hserver.eval_field (by decide : fieldOf? "$location" = some "location"),
    get?_ofRecord]
  rfl

theorem members_map_ofRecord (hserver : server.Documented) :
    server.members "$location" (records.map ofRecord) location =
      (records.filter (server.isAt location)).map ofRecord := by
  rw [Server.members, List.filter_map]
  exact congrArg (List.map ofRecord) (List.filter_congr fun record _ =>
    sameKey_keyOf hserver record)

/-- A field of a row holds a count, if it is one that 64 bits can hold. -/
def Counts (row : Document) (field : String) (count : ℕ) : Prop :=
  Width.Signed 64 count → (row.get? field).bind Value.integer? = some (count : ℤ)

theorem Counts.imp {row row' : Document} {field : String} {count : ℕ} (h : Counts row field count)
    (hget : ∀ value, row.get? field = some value → row'.get? field = some value) :
    Counts row' field count := by
  intro hfits
  obtain ⟨value, hvalue, hcount⟩ := Option.bind_eq_some_iff.1 (h hfits)
  rw [hget value hvalue, Option.bind_some, hcount]

/-- A count in a row is what an expression reads there, if some count as great fits. -/
theorem Counts.eval (hserver : server.Documented) {field text : String} {count bound : ℕ}
    (h : Counts row field count) (htext : fieldOf? text = some field) (hle : count ≤ bound)
    (hfits : Width.Signed 64 bound) :
    (server.eval row text).bind Value.integer? = some (count : ℤ) := by
  have hcount : Width.Signed 64 count := by
    rw [Width.signed_64_iff] at hfits ⊢
    omega
  rw [hserver.eval_field htext, h hcount]

/-- What a row says of the records of a location, and in which field it has the location. -/
structure Tallied (field : String) (location : Value) (records : List Record)
    (row : Document) : Prop where
  location : row.get? field = some location
  hot : Counts row "extreme_high_temp_events" (records.countP isHot)
  /-- A temperature that is not known counts as a low one. -/
  frosty : Counts row "extreme_low_temp_events"
    (records.countP fun r => isFrosty r || lacksTemperature r)
  windy : Counts row "high_wind_events" (records.countP isWindy)
  wet : Counts row "heavy_rain_events" (records.countP isWet)

/-- **The group** tallies the records of each location. -/
theorem exists_perform_group (hserver : server.Documented)
    (hmeasured : ∀ record ∈ records, Measured record) :
    ∃ (keys : List Value) (rowOf : Value → Document),
      server.Keys "$location" (records.map ofRecord) keys ∧
      server.perform (records.map ofRecord) extremes.pipeline[1] = keys.map rowOf ∧
      ∀ location, Tallied "_id" location (records.filter (server.isAt location))
        (rowOf location) := by
  obtain ⟨keys, hkeys, hperform⟩ : ∃ keys,
      server.Keys "$location" (records.map ofRecord) keys ∧
      server.perform (records.map ofRecord) extremes.pipeline[1] =
        keys.map (server.groupRow "$location" (records.map ofRecord) _) :=
    hserver.perform_group _ _ _ (by decide +kernel)
  refine ⟨keys, _, hkeys, hperform, fun location => ?_⟩
  have hmembers (record : Record) (h : record ∈ records.filter (server.isAt location)) :
      Measured record := hmeasured record (List.mem_of_mem_filter h)
  rw [Server.groupRow, members_map_ofRecord hserver]
  generalize records.filter (server.isAt location) = members at hmembers
  refine ⟨rfl, ?_, ?_, ?_, ?_⟩
  · exact hserver.accumulate_countIf fun record hrecord =>
      eval_above hserver (by decide) (by decide) (hmembers record hrecord).temperature
  · exact hserver.accumulate_countIf fun record hrecord =>
      eval_below hserver (by decide) (by decide) (hmembers record hrecord).temperature
  · exact hserver.accumulate_countIf fun record hrecord =>
      eval_above hserver (by decide) (by decide) (hmembers record hrecord).wind
  · exact hserver.accumulate_countIf fun record hrecord =>
      eval_above hserver (by decide) (by decide) (hmembers record hrecord).rain

/-- The sum of the four tallies of a row. -/
def tallyTotal (records : List Record) : ℕ :=
  records.countP isHot + records.countP (fun r => isFrosty r || lacksTemperature r) +
    records.countP isWindy + records.countP isWet

/-- The four tallies of a row add up. -/
theorem Tallied.eval_sum (hserver : server.Documented)
    (h : Tallied "_id" location records row) (hfits : Width.Signed 64 (tallyTotal records)) :
    (server.eval row (apply "$add" ["$extreme_high_temp_events", "$extreme_low_temp_events",
      "$high_wind_events", "$heavy_rain_events"])).bind Value.integer? =
        some (tallyTotal records : ℤ) := by
  have hfour : tallyTotal records = List.sum [records.countP isHot,
      records.countP fun r => isFrosty r || lacksTemperature r, records.countP isWindy,
      records.countP isWet] := by
    simp [tallyTotal, add_assoc]
  rw [hfour] at hfits ⊢
  refine hserver.eval_add (.cons ?_ (.cons ?_ (.cons ?_ (.cons ?_ .nil)))) hfits
  · exact h.hot.eval hserver (by decide) (List.le_sum_of_mem (by simp)) hfits
  · exact h.frosty.eval hserver (by decide) (List.le_sum_of_mem (by simp)) hfits
  · exact h.windy.eval hserver (by decide) (List.le_sum_of_mem (by simp)) hfits
  · exact h.wet.eval hserver (by decide) (List.le_sum_of_mem (by simp)) hfits

/-- The sum is added to a row, whose tallies stay. -/
theorem exists_perform_addFields (hserver : server.Documented) (rows : List Document) :
    ∃ f : Document → Document, server.perform rows extremes.pipeline[2] = rows.map f ∧
      ∀ location records row, Tallied "_id" location records row →
        Tallied "_id" location records (f row) ∧
          Counts (f row) "total_extreme_events" (tallyTotal records) := by
  obtain ⟨f, hperform, hview⟩ : ∃ f : Document → Document,
      server.perform rows extremes.pipeline[2] = rows.map f ∧ _ :=
    hserver.perform_addFields rows _ (by decide)
  refine ⟨f, hperform, fun location records row h => ?_⟩
  obtain ⟨hothers, hadded⟩ := hview row
  have hkept {name : String} (hname : "total_extreme_events" ≠ name) (value : Value)
      (hget : row.get? name = some value) : (f row).get? name = some value :=
    (hothers name hname).trans hget
  refine ⟨⟨?_, ?_, ?_, ?_, ?_⟩, fun hfits => ?_⟩
  · exact hkept (by decide) _ h.location
  · exact h.hot.imp (hkept (by decide))
  · exact h.frosty.imp (hkept (by decide))
  · exact h.windy.imp (hkept (by decide))
  · exact h.wet.imp (hkept (by decide))
  · obtain ⟨sum, hsum, hinteger⟩ := Option.bind_eq_some_iff.1 (h.eval_sum hserver hfits)
    rw [hadded sum hsum]
    exact hinteger

/-- What is shown of a row: its tallies and their sum, and its key as the location. -/
theorem exists_perform_project (hserver : server.Documented) (rows : List Document) :
    ∃ f : Document → Document, server.perform rows extremes.pipeline[4] = rows.map f ∧
      ∀ location records row, Tallied "_id" location records row →
        Counts row "total_extreme_events" (tallyTotal records) →
        Tallied "location" location records (f row) ∧
          Counts (f row) "total_extreme_events" (tallyTotal records) := by
  obtain ⟨f, hperform, hview⟩ : ∃ f : Document → Document,
      server.perform rows extremes.pipeline[4] = rows.map f ∧ _ :=
    hserver.perform_project rows (by decide +kernel)
  refine ⟨f, hperform, fun location records row h htotal => ?_⟩
  refine ⟨⟨?_, ?_, ?_, ?_, ?_⟩, ?_⟩
  · exact (hview h.location).2 rfl (by decide)
  · exact h.hot.imp fun _ hget => (hview hget).1 rfl
  · exact h.frosty.imp fun _ hget => (hview hget).1 rfl
  · exact h.windy.imp fun _ hget => (hview hget).1 rfl
  · exact h.wet.imp fun _ hget => (hview hget).1 rfl
  · exact htotal.imp fun _ hget => (hview hget).1 rfl

/-- **The rows of the report**, in some order: one for every location among the extreme records. -/
theorem exists_rows (hserver : server.Documented)
    (hmeasured : ∀ record ∈ records, Measured record) :
    ∃ (keys : List Value) (rowOf : Value → Document),
      server.Keys "$location" ((records.filter isExtreme).map ofRecord) keys ∧
      (server.aggregate extremes.pipeline (records.map ofRecord)).Perm (keys.map rowOf) ∧
      ∀ location, Tallied "location" location
          ((records.filter isExtreme).filter (server.isAt location)) (rowOf location) ∧
        Counts (rowOf location) "total_extreme_events"
          (tallyTotal ((records.filter isExtreme).filter (server.isAt location))) := by
  obtain ⟨keys, tally, hkeys, htally, htallied⟩ := exists_perform_group hserver
    fun record h => hmeasured record (List.mem_of_mem_filter h)
  obtain ⟨sum, hsum, hsummed⟩ := exists_perform_addFields hserver (keys.map tally)
  obtain ⟨shown, hshown, hproject⟩ := exists_perform_project hserver
    (server.perform ((keys.map tally).map sum) extremes.pipeline[3])
  refine ⟨keys, fun location => shown (sum (tally location)), hkeys, ?_, fun location => ?_⟩
  · have haggregate : server.aggregate extremes.pipeline (records.map ofRecord) =
        server.perform (server.perform (server.perform (server.perform (server.perform
          (records.map ofRecord) extremes.pipeline[0]) extremes.pipeline[1])
            extremes.pipeline[2]) extremes.pipeline[3]) extremes.pipeline[4] := rfl
    -- the sort is the only stage that moves rows
    rw [haggregate, perform_match hserver, htally, hsum, hshown]
    refine ((hserver.perform_sort _ _).map shown).trans (.of_eq ?_)
    rw [List.map_map, List.map_map]
    rfl
  · obtain ⟨hkept, htotal⟩ := hsummed location _ _ (htallied location)
    exact hproject location _ _ hkept htotal

end Stages

/-! ### What the report says of a location -/

/-- A record that the match finds by its wind or its rain, without a temperature. -/
def isMiscounted (record : Record) : Bool :=
  lacksTemperature record && (isWindy record || isWet record)

/-- The row of a location. -/
def Server.isRowOf (server : Server) (location : Value) (row : Document) : Bool :=
  (row.get? "location").any (server.sameKey · location)

/-- What the row of a location with these records counts. -/
structure Summarizes (records : List Record) (row : Document) : Prop where
  hot : Counts row "extreme_high_temp_events" (records.countP isHot)
  /-- Low temperatures, and those that are not known of records with another extreme reading. -/
  frosty : Counts row "extreme_low_temp_events"
    (records.countP isFrosty + records.countP isMiscounted)
  windy : Counts row "high_wind_events" (records.countP isWindy)
  wet : Counts row "heavy_rain_events" (records.countP isWet)
  total : Counts row "total_extreme_events"
    (records.countP isHot + (records.countP isFrosty + records.countP isMiscounted) +
      records.countP isWindy + records.countP isWet)

/-- What the rows of the report say of a location with these records. -/
structure Ranked (server : Server) (location : Value) (records : List Record)
    (rows : List Document) : Prop where
  /-- There is a row exactly if a reading is extreme. -/
  row_iff : (∃ row ∈ rows, server.isRowOf location row = true) ↔
    0 < records.countP isHot + records.countP isFrosty + records.countP isWindy +
      records.countP isWet
  unique : rows.countP (server.isRowOf location) ≤ 1
  summarizes : ∀ row ∈ rows, server.isRowOf location row = true → Summarizes records row

section Locations

variable {server : Server} {records : List Record} {location k : Value}

theorem isHot_of_lacksTemperature {record : Record} (h : lacksTemperature record = true) :
    isHot record = false := by
  rw [isHot, ← any_number?_gt (by decide), number?_of_isUnread h]
  rfl

theorem isFrosty_of_lacksTemperature {record : Record} (h : lacksTemperature record = true) :
    isFrosty record = false := by
  rw [isFrosty, ← any_number?_lt (by decide), number?_of_isUnread h]
  rfl

theorem isFrosty_of_isMiscounted {record : Record} (h : isMiscounted record = true) :
    isFrosty record = false :=
  isFrosty_of_lacksTemperature (Bool.and_eq_true_iff.1 h).1

/-- Of the extreme records without a temperature each is extreme by its wind or its rain. -/
theorem lacksTemperature_and_isExtreme (record : Record) :
    (lacksTemperature record && isExtreme record) = isMiscounted record := by
  rw [isMiscounted, isExtreme]
  cases hlacks : lacksTemperature record with
  | false => rfl
  | true =>
    rw [isHot_of_lacksTemperature hlacks, isFrosty_of_lacksTemperature hlacks, Bool.false_or,
      Bool.false_or]

theorem countP_or {α : Type} {p q : α → Bool} (h : ∀ a, q a = true → p a = false) (l : List α) :
    l.countP (fun a => p a || q a) = l.countP p + l.countP q := by
  induction l with
  | nil => rfl
  | cons a rest ih =>
    rw [List.countP_cons, List.countP_cons, List.countP_cons, ih]
    cases hq : q a with
    | true => simp [h a hq, Nat.add_assoc]
    | false => simp [Nat.add_right_comm]

/-- Tallies of extreme records are tallies of all records. -/
theorem countP_filter_isExtreme {p : Record → Bool}
    (h : ∀ record, p record = true → isExtreme record = true) (records : List Record) :
    (records.filter isExtreme).countP p = records.countP p := by
  rw [List.countP_filter]
  refine List.countP_congr fun record _ => ?_
  rw [Bool.and_eq_true, and_iff_left_of_imp (h record)]

theorem countP_filter_isExtreme_frosty (records : List Record) :
    (records.filter isExtreme).countP (fun r => isFrosty r || lacksTemperature r) =
      records.countP isFrosty + records.countP isMiscounted := by
  rw [← countP_or fun record => isFrosty_of_isMiscounted, List.countP_filter]
  refine List.countP_congr fun record _ => ?_
  rw [← lacksTemperature_and_isExtreme, Bool.and_or_distrib_right]
  cases hfrosty : isFrosty record <;> simp [isExtreme, hfrosty]

theorem isAt_eq (hserver : server.Documented) (h : server.sameKey k location = true) :
    server.isAt k = server.isAt location := by
  obtain ⟨-, hsymm, htrans⟩ := hserver.sameKey_equivalence
  funext record
  rw [Bool.eq_iff_iff]
  exact ⟨fun hk => htrans hk h, fun hlocation => htrans hlocation (hsymm h)⟩

/-- The extreme records of a key are those of every location with the same key. -/
theorem filter_isAt (hserver : server.Documented) (h : server.sameKey k location = true) :
    (records.filter isExtreme).filter (server.isAt k) =
      (records.filter (server.isAt location)).filter isExtreme := by
  rw [isAt_eq hserver h, List.filter_comm]

/-- There is a key for a location exactly if an extreme record is there. -/
theorem exists_key_iff (hserver : server.Documented) {keys : List Value}
    (hkeys : server.Keys "$location" ((records.filter isExtreme).map ofRecord) keys) :
    (∃ k ∈ keys, server.sameKey k location = true) ↔
      ∃ record ∈ records.filter (server.isAt location), isExtreme record = true := by
  rw [hkeys.exists_iff]
  simp only [List.mem_map, List.mem_filter, exists_exists_and_eq_and, sameKey_keyOf hserver]
  constructor
  · rintro ⟨record, ⟨hmem, hextreme⟩, hat⟩
    exact ⟨record, ⟨hmem, hat⟩, hextreme⟩
  · rintro ⟨record, ⟨hmem, hat⟩, hextreme⟩
    exact ⟨record, ⟨hmem, hextreme⟩, hat⟩

theorem countP_pos_iff_exists_isExtreme :
    0 < records.countP isHot + records.countP isFrosty + records.countP isWindy +
        records.countP isWet ↔ ∃ record ∈ records, isExtreme record = true := by
  simp only [Nat.add_pos_iff_pos_or_pos, List.countP_pos_iff, ← exists_or, ← and_or_left,
    isExtreme, Bool.or_eq_true]

end Locations

/-- **The report counts extremes, and temperatures that are not known.**  A location has a row
exactly if it has an extreme reading, and the row counts, as far as 64 bits can, the readings above
25 °C, the winds over 50 km/h and the rains over 80 mm.  With the readings below -5 °C it counts the
records that are extreme by wind or rain and have no temperature: such a temperature comes before
every number. -/
theorem ranked_of_aggregate {server : Server} (hserver : server.Documented)
    {records : List Record} (hmeasured : ∀ record ∈ records, Measured record)
    (location : Value) :
    Ranked server location (records.filter (server.isAt location))
      (server.aggregate extremes.pipeline (records.map ofRecord)) := by
  obtain ⟨keys, rowOf, hkeys, hperm, hrow⟩ := exists_rows hserver hmeasured
  have hisRowOf (k : Value) :
      server.isRowOf location (rowOf k) = server.sameKey k location := by
    rw [Server.isRowOf, (hrow k).1.location]
    rfl
  -- a row of the location tells of its extreme records
  have hof (row : Document) (hmem : row ∈ server.aggregate extremes.pipeline
      (records.map ofRecord)) (h : server.isRowOf location row = true) :
      let extreme := (records.filter (server.isAt location)).filter isExtreme
      ∃ k, Tallied "location" k extreme row ∧
        Counts row "total_extreme_events" (tallyTotal extreme) := by
    obtain ⟨k, -, rfl⟩ := List.mem_map.1 (hperm.mem_iff.1 hmem)
    rw [hisRowOf] at h
    rw [← filter_isAt hserver h]
    exact ⟨k, hrow k⟩
  generalize hhere : records.filter (server.isAt location) = here at hof
  have hhot := countP_filter_isExtreme (fun record (h : isHot record = true) =>
    by simp [isExtreme, h]) here
  have hwindy := countP_filter_isExtreme (fun record (h : isWindy record = true) =>
    by simp [isExtreme, h]) here
  have hwet := countP_filter_isExtreme (fun record (h : isWet record = true) =>
    by simp [isExtreme, h]) here
  have hfrosty := countP_filter_isExtreme_frosty here
  refine ⟨?_, ?_, fun row hmem h => ?_⟩
  · rw [countP_pos_iff_exists_isExtreme, ← hhere, ← exists_key_iff hserver hkeys]
    constructor
    · rintro ⟨row, hmem, h⟩
      obtain ⟨k, hk, rfl⟩ := List.mem_map.1 (hperm.mem_iff.1 hmem)
      exact ⟨k, hk, hisRowOf k ▸ h⟩
    · rintro ⟨k, hk, hsame⟩
      exact ⟨rowOf k, hperm.mem_iff.2 (List.mem_map_of_mem hk), (hisRowOf k).trans hsame⟩
  · rw [hperm.countP_eq, List.countP_map]
    have hsame : server.isRowOf location ∘ rowOf = (server.sameKey · location) := funext hisRowOf
    rw [hsame]
    exact hserver.countP_sameKey_le_one hkeys.pairwise location
  · obtain ⟨k, htallied, htotal⟩ := hof row hmem h
    rw [tallyTotal, hhot, hfrosty, hwindy, hwet] at htotal
    exact ⟨hhot ▸ htallied.hot, hfrosty ▸ htallied.frosty, hwindy ▸ htallied.windy,
      hwet ▸ htallied.wet, htotal⟩

/-- One frost, and three storms that the thermometer missed. -/
def stormyRecords : List Record :=
  [.ofList [("location", .text "Reno"), ("temperature_c", .int (-10))],
    .ofList [("location", .text "Reno"), ("wind_speed_kmh", .int 60)],
    .ofList [("location", .text "Reno"), ("temperature_c", .null), ("precipitation_mm", .int 90)],
    .ofList [("location", .text "Reno"), ("temperature_c", .float .nan),
      ("wind_speed_kmh", .int 70)]]

/-- The row counts four low temperatures, where one was read. -/
theorem ranked_of_aggregate_stormy :
    (∃ row ∈ evaluator.aggregate extremes.pipeline (stormyRecords.map ofRecord),
        evaluator.isRowOf "Reno" row = true ∧
          (row.get? "extreme_low_temp_events").bind Value.integer? = some 4) ∧
      stormyRecords.countP isFrosty = 1 := by
  have hall : stormyRecords.filter (evaluator.isAt "Reno") = stormyRecords := by decide +kernel
  have hmeasured : ∀ record ∈ stormyRecords, Measured record := by decide +kernel
  have hranked := ranked_of_aggregate documented_evaluator hmeasured "Reno"
  have hcounts : stormyRecords.countP isFrosty + stormyRecords.countP isMiscounted = 4 := by
    decide +kernel
  rw [hall] at hranked
  obtain ⟨row, hmem, hrow⟩ := hranked.row_iff.2 (by decide +kernel)
  have hfrosty := (hranked.summarizes row hmem hrow).frosty
  rw [hcounts] at hfrosty
  exact ⟨⟨row, hmem, hrow, hfrosty (by decide)⟩, by decide +kernel⟩

end Analytics

end BulkProvision
