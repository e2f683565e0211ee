import BulkProvision.Proofs.Session

/-!
# The calls of a verification

Whatever a store answers, a verification asks two calls about each dataset, in catalog order: how
many documents the collection has, and which indexes (`Inspected`).  The first fatal answer is the
last step and the error that the verification ends with; without one, it comes to one check for
each dataset.

A check is made from the answers about its own dataset and from nothing else (`check_congr`).  Where
the store refused to answer, the check holds a default: no documents, or no indexes.  The refusal
itself stays a problem, so a default that happens to fit the source hides nothing
(`isConsistent_check_iff`).

`checked_of_run` puts this together.
-/

namespace BulkProvision

open Store
open Provision (answerError? error?)

/-- A program that asks only questions that leave the state alone leaves it alone. -/
theorem Program.AsksOnly.state_eq {Op : Type} {Answer : Op → Type} {ε σ α : Type} {P : Op → Prop}
    {p : Program Op Answer ε α} {handler : Handler Op Answer σ} (h : p.AsksOnly P)
    (hkeeps : ∀ op, P op → ∀ s, (handler op s).2 = s) (s : σ) : (p.run handler s).state = s := by
  induction p with
  | done value => rfl
  | call op next ih =>
    rw [Program.run_call, hkeeps op h.1 s]
    exact ih _ (h.2 _)
  | emit event next ih => exact ih h

namespace Verify

/-- One step of a verification. -/
abbrev LookStep := Program.Step Call Call.Answer Empty

/-- What a store answers to the two calls about a dataset. -/
structure Look where
  counted : Except Error Nat
  listed : Except Error (List String)

/-- The calls about a dataset. -/
def inquiries (dataset : Dataset) : List Call :=
  [.countDocuments dataset.name, .listIndexFields dataset.name]

namespace Look

/-- The steps in which a store is asked about a dataset. -/
def steps (dataset : Dataset) (look : Look) : List LookStep :=
  [.called (.countDocuments dataset.name) look.counted,
    .called (.listIndexFields dataset.name) look.listed]

/-- The errors among the answers, in the order of the calls. -/
def errors (look : Look) : List Error := (error? look.counted).toList ++ (error? look.listed).toList

/-- The check of a dataset from the answers about it. -/
def check (files : FileTree) (dataset : Dataset) (look : Look) : Check :=
  checkOf files dataset look.counted look.listed

end Look

/-- The fatal error that a step was answered with. -/
def fatalStep? : LookStep → Option Error
  | .called call answer => (answerError? call answer).filter Error.isFatal
  | .emitted event => nomatch event

/-- The steps of a verification of datasets in order, and what it comes to. -/
inductive Inspected (files : FileTree) :
    List Dataset → List LookStep → Except Error (List Check) → Prop where
  | nil : Inspected files [] [] (.ok [])
  /-- Counting fails fatally, and nothing else is asked. -/
  | uncounted {dataset : Dataset} {e : Error} (rest : List Dataset) (hfatal : e.isFatal = true) :
      Inspected files (dataset :: rest) [.called (.countDocuments dataset.name) (.error e)]
        (.error e)
  /-- Listing the indexes fails fatally, and nothing else is asked. -/
  | unlisted {dataset : Dataset} {counted : Except Error Nat} {e : Error} (rest : List Dataset)
      (hcounted : fatal? counted = none) (hfatal : e.isFatal = true) :
      Inspected files (dataset :: rest) (Look.steps dataset ⟨counted, .error e⟩) (.error e)
  | next {dataset : Dataset} {rest : List Dataset} {look : Look} {steps : List LookStep}
      {result : Except Error (List Check)} (hcounted : fatal? look.counted = none)
      (hlisted : fatal? look.listed = none) (hrest : Inspected files rest steps result) :
      Inspected files (dataset :: rest) (look.steps dataset ++ steps)
        (result.map (look.check files dataset :: ·))

/-! ### Running a verification -/

section Run

variable {σ : Type} (handler : CallHandler σ) (files : FileTree)

/-- A dataset is checked, or the first fatal answer about it ends the check. -/
theorem run_checkDataset_cases (dataset : Dataset) (s : σ) :
    let run := (checkDataset files dataset).run handler s
    (∃ e, e.isFatal = true ∧ run.value = .error e ∧
        run.steps = [.called (.countDocuments dataset.name) (.error e)]) ∨
      (∃ counted e, fatal? counted = none ∧ e.isFatal = true ∧ run.value = .error e ∧
        run.steps = Look.steps dataset ⟨counted, .error e⟩) ∨
      ∃ look : Look, fatal? look.counted = none ∧ fatal? look.listed = none ∧
        run.value = .ok (look.check files dataset) ∧ run.steps = look.steps dataset := by
  simp only [checkDataset, Program.ask, Program.call_bind, Program.done_bind, Program.run_call]
  rcases handler (.countDocuments dataset.name) s with ⟨counted, t⟩
  cases hcounted : fatal? counted with
  | some e =>
    obtain ⟨rfl, hfatal⟩ := fatal?_eq_some_iff.1 hcounted
    exact .inl ⟨e, hfatal, rfl, rfl⟩
  | none =>
    simp only [Program.run_call]
    rcases handler (.listIndexFields dataset.name) t with ⟨listed, u⟩
    cases hlisted : fatal? listed with
    | some e =>
      obtain ⟨rfl, hfatal⟩ := fatal?_eq_some_iff.1 hlisted
      exact .inr (.inl ⟨counted, e, hcounted, hfatal, rfl, rfl⟩)
    | none => exact .inr (.inr ⟨⟨counted, listed⟩, hcounted, hlisted, rfl, rfl⟩)

theorem inspected_checkDatasets (datasets : List Dataset) (s : σ) :
    let run := (checkDatasets files datasets).run handler s
    Inspected files datasets run.steps run.value := by
  induction datasets generalizing s with
  | nil => exact .nil
  | cons dataset rest ih =>
    simp only [checkDatasets, Program.run_bind]
    have hfirst := run_checkDataset_cases handler files dataset s
    generalize (checkDataset files dataset).run handler s = first at hfirst
    obtain ⟨value, steps, t⟩ := first
    -- each end of the first check is a constructor, and only the last goes on to the rest
    rcases hfirst with ⟨e, hfatal, rfl, rfl⟩ | ⟨counted, e, hcounted, hfatal, rfl, rfl⟩ |
      ⟨look, hcounted, hlisted, rfl, rfl⟩
    · exact .uncounted rest hfatal
    · exact .unlisted rest hcounted hfatal
    · have hrest := ih t
      simp only [Program.run_bind]
      generalize (checkDatasets files rest).run handler t = others at hrest
      obtain ⟨value, steps, u⟩ := others
      have hall : Inspected files (dataset :: rest) _ _ := .next hcounted hlisted hrest
      cases value with
      | error e => simpa [Except.map] using hall
      | ok checks => simpa [Except.map] using hall

end Run

/-! ### The calls, and where they end -/

section Inspected

variable {files : FileTree} {datasets : List Dataset} {steps : List LookStep}
  {result : Except Error (List Check)}

/-- The calls are those about the datasets in order, up to some point. -/
theorem Inspected.calls_isPrefix {σ α : Type} {run : Program.Run Call Call.Answer Empty σ α}
    (h : Inspected files datasets run.steps result) :
    run.calls <+: datasets.flatMap inquiries := by
  obtain ⟨value, steps, t⟩ := run
  simp only at h
  induction h with
  | nil => exact List.nil_prefix
  | @uncounted dataset e rest _ => exact ⟨.listIndexFields dataset.name :: _, rfl⟩
  | @unlisted dataset counted e rest _ _ => exact ⟨rest.flatMap inquiries, rfl⟩
  | @next dataset rest look steps result _ _ _ ih =>
    exact (List.prefix_append_right_inj (inquiries dataset)).2 ih

theorem fatalStep?_countDocuments (name : String) (counted : Except Error Nat) :
    fatalStep? (.called (.countDocuments name) counted) = fatal? counted :=
  (Provision.fatal?_eq_filter counted).symm

theorem fatalStep?_listIndexFields (name : String) (listed : Except Error (List String)) :
    fatalStep? (.called (.listIndexFields name) listed) = fatal? listed :=
  (Provision.fatal?_eq_filter listed).symm

theorem fatal?_of_isFatal {α : Type} {e : Error} (h : e.isFatal = true) :
    fatal? (.error e : Except Error α) = some e :=
  fatal?_eq_some_iff.2 ⟨rfl, h⟩

/-- **The error of a verification** is the first fatal answer. -/
theorem Inspected.error?_eq (h : Inspected files datasets steps result) :
    error? result = steps.findSome? fatalStep? := by
  induction h with
  | nil => rfl
  | uncounted rest hfatal =>
    simp [error?, fatalStep?_countDocuments, fatal?_of_isFatal hfatal]
  | unlisted rest hcounted hfatal =>
    simp [error?, Look.steps, fatalStep?_countDocuments, fatalStep?_listIndexFields, hcounted,
      fatal?_of_isFatal hfatal]
  | @next dataset rest look steps result hcounted hlisted _ ih =>
    have hresult : error? (result.map (look.check files dataset :: ·)) = error? result := by
      cases result <;> rfl
    rw [hresult, ih]
    simp [Look.steps, fatalStep?_countDocuments, fatalStep?_listIndexFields, hcounted, hlisted]

/-- Nothing is asked after a fatal answer. -/
theorem Inspected.last_of_fatal (h : Inspected files datasets steps result)
    {before after : List LookStep} {step : LookStep} (hsteps : steps = before ++ step :: after)
    (hfatal : (fatalStep? step).isSome = true) : after = [] := by
  induction h generalizing before with
  | nil => simp at hsteps
  | uncounted rest _ =>
    cases before with
    | nil => exact (List.cons.inj hsteps).2.symm
    | cons first others => simp at hsteps
  | unlisted rest hcounted _ =>
    rcases before with _ | ⟨first, _ | ⟨second, others⟩⟩
    · obtain ⟨rfl, -⟩ := List.cons.inj hsteps
      rw [fatalStep?_countDocuments, hcounted] at hfatal
      cases hfatal
    · exact (List.cons.inj (List.cons.inj hsteps).2).2.symm
    · simp [Look.steps] at hsteps
  | next hcounted hlisted _ ih =>
    rcases before with _ | ⟨first, _ | ⟨second, others⟩⟩
    · obtain ⟨rfl, -⟩ := List.cons.inj hsteps
      rw [fatalStep?_countDocuments, hcounted] at hfatal
      cases hfatal
    · obtain ⟨rfl, -⟩ := List.cons.inj (List.cons.inj hsteps).2
      rw [fatalStep?_listIndexFields, hlisted] at hfatal
      cases hfatal
    · exact ih (List.cons.inj (List.cons.inj hsteps).2).2

/-- Checks are made where nothing was answered fatally: from the answers about every dataset. -/
theorem Inspected.exists_looks (h : Inspected files datasets steps result) {checks : List Check}
    (hok : result = .ok checks) :
    ∃ looks : List Look, looks.length = datasets.length ∧
      steps = (List.zipWith Look.steps datasets looks).flatten ∧
      checks = List.zipWith (Look.check files) datasets looks := by
  induction h generalizing checks with
  | nil =>
    cases hok
    exact ⟨[], rfl, rfl, rfl⟩
  | uncounted => cases hok
  | unlisted => cases hok
  | @next dataset rest look steps result _ _ _ ih =>
    cases result with
    | error e => cases hok
    | ok others =>
      obtain ⟨looks, hlength, rfl, rfl⟩ := ih rfl
      cases hok
      exact ⟨look :: looks, by simp [hlength], rfl, rfl⟩

end Inspected

/-! ### Whose answers a check is made from -/

/-- The two steps about a dataset are at the places that go with its place in the catalog. -/
theorem getElem?_steps {datasets : List Dataset} {looks : List Look} {i : Nat} {dataset : Dataset}
    {look : Look} (hdataset : datasets[i]? = some dataset) (hlook : looks[i]? = some look) :
    let steps := (List.zipWith Look.steps datasets looks).flatten
    steps[2 * i]? = some (.called (.countDocuments dataset.name) look.counted) ∧
      steps[2 * i + 1]? = some (.called (.listIndexFields dataset.name) look.listed) := by
  induction i generalizing datasets looks with
  | zero =>
    cases datasets with
    | nil => simp at hdataset
    | cons first rest =>
      cases looks with
      | nil => simp at hlook
      | cons first' rest' =>
        obtain rfl := Option.some.inj hdataset
        obtain rfl := Option.some.inj hlook
        exact ⟨rfl, rfl⟩
  | succ i ih =>
    cases datasets with
    | nil => simp at hdataset
    | cons first rest =>
      cases looks with
      | nil => simp at hlook
      | cons first' rest' => exact ih hdataset hlook

/-- **A check is made from the answers about its dataset alone.**  Two lists of answers that agree
at one place come to the same check there. -/
theorem check_congr {files : FileTree} {datasets : List Dataset} {looks looks' : List Look}
    {i : Nat} (hlength : looks.length = datasets.length)
    (hlength' : looks'.length = datasets.length)
    (hcounted : (List.zipWith Look.steps datasets looks).flatten[2 * i]? =
      (List.zipWith Look.steps datasets looks').flatten[2 * i]?)
    (hlisted : (List.zipWith Look.steps datasets looks).flatten[2 * i + 1]? =
      (List.zipWith Look.steps datasets looks').flatten[2 * i + 1]?) :
    (List.zipWith (Look.check files) datasets looks)[i]? =
      (List.zipWith (Look.check files) datasets looks')[i]? := by
  rw [List.getElem?_zipWith, List.getElem?_zipWith]
  cases hdataset : datasets[i]? with
  | none => rfl
  | some dataset =>
    have hlt : i < datasets.length := (List.getElem?_eq_some_iff.1 hdataset).1
    have hlook : looks[i]? = some looks[i] := List.getElem?_eq_getElem (hlength ▸ hlt)
    have hlook' : looks'[i]? = some looks'[i] := List.getElem?_eq_getElem (hlength' ▸ hlt)
    obtain ⟨hcount, hlist⟩ := getElem?_steps hdataset hlook
    obtain ⟨hcount', hlist'⟩ := getElem?_steps hdataset hlook'
    rw [hcount, hcount'] at hcounted
    rw [hlist, hlist'] at hlisted
    have hsame : looks[i] = looks'[i] := by
      rcases hleft : looks[i] with ⟨counted, listed⟩
      rcases hright : looks'[i] with ⟨counted', listed'⟩
      rw [hleft, hright] at hcounted hlisted
      simp_all
    rw [hlook, hlook', hsame]

/-! ### What a check says -/

/-- What is said about the number of documents, given what counting the source came to. -/
inductive SourceProblem (documents : Nat) : Except Error Nat → List String → Prop where
  | agrees : SourceProblem documents (.ok documents) []
  | differs {records : Nat} (h : records ≠ documents) :
      SourceProblem documents (.ok records)
        [toString documents ++ " documents but source has " ++ toString records ++ " records"]
  | unread (e : Error) : SourceProblem documents (.error e) [e.message]

/-- A check says how a collection compares with its source, as far as the store answered about it.
It is consistent only by answers: nothing that stands in for one can make it so. -/
structure Compares (files : FileTree) (dataset : Dataset) (look : Look) (check : Check) : Prop where
  name : check.name = dataset.name
  sourceRecords : check.sourceRecords = (Source.countRecords files dataset).toOption
  documents : check.documents = look.counted.toOption.getD 0
  indexes : check.indexes = look.listed.toOption.getD []
  consistent : check.isConsistent = true ↔
    ∃ n fields, look.counted = .ok n ∧ look.listed = .ok fields ∧
      Source.countRecords files dataset = .ok n ∧ ∀ field ∈ dataset.indexFields, field ∈ fields
  /-- What the store refused, then the source, then the missing indexes as they are declared. -/
  problems : ∃ source, SourceProblem check.documents (Source.countRecords files dataset) source ∧
    check.problems = look.errors.map Error.message ++ source ++
      (dataset.indexFields.filter fun field => field ∉ check.indexes).map fun field =>
        "index on '" ++ field ++ "' is missing"

theorem sourceProblem_countProblems (documents : Nat) (counted : Except Error Nat) :
    SourceProblem documents counted (countProblems documents counted) := by
  cases counted with
  | error e => exact .unread e
  | ok n =>
    rw [countProblems]
    split
    · next h => exact h ▸ .agrees
    · next h => exact .differs h

theorem countProblems_eq_nil_iff {documents : Nat} {counted : Except Error Nat} :
    countProblems documents counted = [] ↔ counted = .ok documents := by
  cases counted with
  | error e => simp [countProblems]
  | ok n =>
    rw [countProblems]
    split
    · next h => simp [h]
    · next h => simp [h]

theorem indexProblems_eq (present declared : List String) :
    indexProblems present declared =
      (declared.filter fun field => field ∉ present).map fun field =>
        "index on '" ++ field ++ "' is missing" := by
  simp [indexProblems, List.contains_eq_mem]

theorem indexProblems_eq_nil_iff {present declared : List String} :
    indexProblems present declared = [] ↔ ∀ field ∈ declared, field ∈ present := by
  simp [indexProblems_eq]

theorem refusal_eq {α : Type} (answer : Except Error α) :
    checkOf.refusal answer = (error? answer).toList.map Error.message := by
  cases answer <;> rfl

theorem problems_check (files : FileTree) (dataset : Dataset) (look : Look) :
    (look.check files dataset).problems = look.errors.map Error.message ++
      countProblems (look.counted.toOption.getD 0) (Source.countRecords files dataset) ++
      indexProblems (look.listed.toOption.getD []) dataset.indexFields := by
  simp [Look.check, checkOf, Look.errors, refusal_eq]

/-- A default never makes a check consistent: what was not answered was refused, and a refusal is a
problem. -/
theorem isConsistent_check_iff {files : FileTree} {dataset : Dataset} {look : Look} :
    (look.check files dataset).isConsistent = true ↔
      ∃ n fields, look.counted = .ok n ∧ look.listed = .ok fields ∧
        Source.countRecords files dataset = .ok n ∧
          ∀ field ∈ dataset.indexFields, field ∈ fields := by
  rw [Check.isConsistent, List.isEmpty_iff, problems_check, List.append_eq_nil_iff,
    List.append_eq_nil_iff, countProblems_eq_nil_iff, indexProblems_eq_nil_iff]
  rcases look with ⟨_ | n, _ | fields⟩
  · simp [Look.errors, error?]
  · simp [Look.errors, error?]
  · simp [Look.errors, error?]
  · simp [Look.errors, error?, Except.toOption]

theorem compares_check (files : FileTree) (dataset : Dataset) (look : Look) :
    Compares files dataset look (look.check files dataset) where
  name := rfl
  sourceRecords := rfl
  documents := rfl
  indexes := rfl
  consistent := isConsistent_check_iff
  problems :=
    ⟨_, sourceProblem_countProblems _ _, by rw [problems_check, indexProblems_eq]; rfl⟩

/-! ### Whole verifications -/

/-- A verification walks over the catalog and reports the checks. -/
theorem inspected_run {σ : Type} (handler : CallHandler σ) (catalog : Catalog) (files : FileTree)
    (s : σ) :
    let run := (Verify.run catalog files).run handler s
    ∃ result, Inspected files catalog run.steps result ∧ run.value = result.map Report.mk := by
  have hwalk := inspected_checkDatasets handler files catalog s
  simp only [Verify.run, Program.run_bind]
  generalize (checkDatasets files catalog).run handler s = walk at hwalk ⊢
  rcases walk with ⟨e | checks, steps, t⟩
  · exact ⟨.error e, by simpa using hwalk, rfl⟩
  · exact ⟨.ok checks, by simpa using hwalk, rfl⟩

/-- What a verification that reports was answered. -/
theorem exists_looks_of_run {σ : Type} {handler : CallHandler σ} {catalog : Catalog}
    {files : FileTree} {s : σ} {report : Report}
    (hok : ((Verify.run catalog files).run handler s).value = .ok report) :
    ∃ looks : List Look, looks.length = catalog.length ∧
      ((Verify.run catalog files).run handler s).steps =
        (List.zipWith Look.steps catalog looks).flatten ∧
      report.datasets = List.zipWith (Look.check files) catalog looks := by
  obtain ⟨result, hwalk, hvalue⟩ := inspected_run handler catalog files s
  rw [hvalue] at hok
  cases result with
  | error e => cases hok
  | ok checks =>
    cases hok
    exact hwalk.exists_looks rfl

/-- **Verification against any store.**  Whatever a store answers, a verification makes calls that
only look, about the datasets in catalog order, so it changes no store whose answers to such calls
change nothing.  It comes to an error exactly when an answer is fatal, to the first such error, and
calls nothing after it.  Otherwise it has one check for every dataset in order, made from the
answers about this dataset: in two verifications, over any two stores, that get the same answers
about it, the check is the same. -/
theorem checked_of_run {σ : Type} (handler : CallHandler σ) (catalog : Catalog)
    (files : FileTree) (s : σ) :
    let run := (Verify.run catalog files).run handler s
    run.calls <+: catalog.flatMap inquiries ∧
      ((∀ call, Looks call → ∀ t, (handler call t).2 = t) → run.state = s) ∧
      (∀ e, run.value = .error e ↔ run.steps.findSome? fatalStep? = some e) ∧
      (∀ before step after, run.steps = before ++ step :: after →
        (fatalStep? step).isSome = true → after = []) ∧
      ∀ report, run.value = .ok report →
        (∃ looks : List Look, looks.length = catalog.length ∧
          run.steps = (List.zipWith Look.steps catalog looks).flatten ∧
          List.Forall₂ (fun asked check => Compares files asked.1 asked.2 check)
            (catalog.zip looks) report.datasets) ∧
        ∀ {τ : Type} (other : CallHandler τ) (t : τ) (report' : Report),
          let run' := (Verify.run catalog files).run other t
          run'.value = .ok report' →
          ∀ i, run.steps[2 * i]? = run'.steps[2 * i]? →
            run.steps[2 * i + 1]? = run'.steps[2 * i + 1]? →
            report.datasets[i]? = report'.datasets[i]? := by
  intro run
  obtain ⟨result, hwalk, hvalue⟩ := inspected_run handler catalog files s
  refine ⟨hwalk.calls_isPrefix, fun hkeeps => ?_, fun e => ?_, fun before step after => ?_,
    fun report hok => ?_⟩
  · exact (asksOnly_run catalog files).state_eq hkeeps s
  · rw [← hwalk.error?_eq, hvalue]
    cases result <;> simp [Except.map, error?]
  · exact hwalk.last_of_fatal
  · obtain ⟨looks, hlength, hsteps, hchecks⟩ := exists_looks_of_run hok
    refine ⟨⟨looks, hlength, hsteps, ?_⟩, ?_⟩
    · rw [hchecks, ← List.map_uncurry_zip_eq_zipWith, List.forall₂_map_right_iff,
        List.forall₂_same]
      intro asked _
      exact compares_check files asked.1 asked.2
    · intro τ other t report' run' hok' i hcounted hlisted
      obtain ⟨looks', hlength', hsteps', hchecks'⟩ := exists_looks_of_run hok'
      rw [hsteps, hsteps'] at hcounted hlisted
      rw [hchecks, hchecks']
      exact check_congr hlength hlength' hcounted hlisted

end Verify

end BulkProvision
