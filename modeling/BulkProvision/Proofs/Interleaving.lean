import BulkProvision.Program
import Mathlib.Algebra.BigOperators.Group.Finset.Piecewise
import Mathlib.Algebra.Order.BigOperators.Group.Finset

/-!
# Programs side by side

Several programs run over one state, each at its own pace: in a `Program.Scene` any of them may take
its next step, and `Program.Interleaved` are all the orders in which their steps can fall.  A step
is one question with its answer, or one event, so the state answers one question at a time.

Every program that is not done can take a step (`done_of_stuck`), and the steps of an interleaving
are those of its programs (`length_eq_sum`).  A run of one program alone is the interleaving in
which the others wait (`interleaved_run`).
-/

namespace BulkProvision

namespace Program

variable {ι Op : Type} {Answer : Op → Type} {ε σ α : Type}

/-- Programs that run side by side: what each has left to do, and the state they share. -/
structure Scene (ι Op : Type) (Answer : Op → Type) (ε σ α : Type) where
  rest : ι → Program Op Answer ε α
  state : σ

section Order

variable [DecidableEq ι]

/-- One program takes its next step. -/
inductive Advances (handler : Handler Op Answer σ) (c : Scene ι Op Answer ε σ α) (i : ι) :
    Step Op Answer ε → Scene ι Op Answer ε σ α → Prop where
  | call {op : Op} {next : Answer op → Program Op Answer ε α} (h : c.rest i = .call op next) :
      Advances handler c i (.called op (handler op c.state).1)
        ⟨Function.update c.rest i (next (handler op c.state).1), (handler op c.state).2⟩
  | emit {event : ε} {next : Program Op Answer ε α} (h : c.rest i = .emit event next) :
      Advances handler c i (.emitted event) ⟨Function.update c.rest i next, c.state⟩

/-- A scene comes from another by steps in some order. -/
inductive Interleaved (handler : Handler Op Answer σ) (c : Scene ι Op Answer ε σ α) :
    List (ι × Step Op Answer ε) → Scene ι Op Answer ε σ α → Prop where
  | refl : Interleaved handler c [] c
  | tail {log : List (ι × Step Op Answer ε)} {d e : Scene ι Op Answer ε σ α} {i : ι}
      {step : Step Op Answer ε} (before : Interleaved handler c log d)
      (h : Advances handler d i step e) : Interleaved handler c (log ++ [(i, step)]) e

variable {handler : Handler Op Answer σ} {c d e : Scene ι Op Answer ε σ α}

/-- The step of a program that asks. -/
theorem Advances.of_call {i : ι} {step : Step Op Answer ε} {op : Op}
    {next : Answer op → Program Op Answer ε α} (h : Advances handler c i step d)
    (hrest : c.rest i = .call op next) :
    step = .called op (handler op c.state).1 ∧
      d = ⟨Function.update c.rest i (next (handler op c.state).1), (handler op c.state).2⟩ := by
  cases h with
  | call h =>
    cases hrest.symm.trans h
    exact ⟨rfl, rfl⟩
  | emit h => cases hrest.symm.trans h

/-- A program that is done takes no step. -/
theorem not_advances_of_done {i : ι} {step : Step Op Answer ε} {value : α}
    (hrest : c.rest i = .done value) : ¬ Advances handler c i step d := by
  rintro (h | h) <;> cases hrest.symm.trans h

/-- Where no program can take a step all are done. -/
theorem done_of_stuck (h : ∀ i step e, ¬ Advances handler c i step e) (i : ι) :
    ∃ value, c.rest i = .done value := by
  cases hrest : c.rest i with
  | done value => exact ⟨value, rfl⟩
  | call op next => exact absurd (.call hrest) (h i _ _)
  | emit event next => exact absurd (.emit hrest) (h i _ _)

theorem Interleaved.trans {log log' : List (ι × Step Op Answer ε)}
    (h₁ : Interleaved handler c log d) (h₂ : Interleaved handler d log' e) :
    Interleaved handler c (log ++ log') e := by
  induction h₂ with
  | refl => rwa [List.append_nil]
  | tail before h ih =>
    rw [← List.append_assoc]
    exact ih.tail h

/-- A program that runs while all others wait. -/
theorem interleaved_run {p : Program Op Answer ε α} {i : ι} (h : c.rest i = p) :
    Interleaved handler c ((p.run handler c.state).steps.map fun step => (i, step))
      ⟨Function.update c.rest i (.done (p.run handler c.state).value),
        (p.run handler c.state).state⟩ := by
  induction p generalizing c with
  | done value =>
    have hself : Function.update c.rest i (.done value) = c.rest :=
      Function.update_eq_self_iff.2 h.symm
    simp only [run_done, List.map_nil, hself]
    exact .refl
  | call op next ih =>
    let asked : Scene ι Op Answer ε σ α :=
      ⟨Function.update c.rest i (next (handler op c.state).1), (handler op c.state).2⟩
    have hfirst : Interleaved handler c [(i, .called op (handler op c.state).1)] asked :=
      .tail .refl (.call h)
    have hrest := ih (handler op c.state).1 (c := asked) (Function.update_self ..)
    simp only [asked, Function.update_idem] at hrest
    exact hfirst.trans hrest
  | emit event next ih =>
    let announced : Scene ι Op Answer ε σ α := ⟨Function.update c.rest i next, c.state⟩
    have hfirst : Interleaved handler c [(i, .emitted event)] announced := .tail .refl (.emit h)
    have hrest := ih (c := announced) (Function.update_self ..)
    simp only [announced, Function.update_idem] at hrest
    exact hfirst.trans hrest

/-! ### The part of one program -/

/-- The steps of one program. -/
def stepsOf (i : ι) (log : List (ι × Step Op Answer ε)) : List (Step Op Answer ε) :=
  log.filterMap fun entry => if entry.1 = i then some entry.2 else none

theorem stepsOf_concat_self (i : ι) (log : List (ι × Step Op Answer ε)) (step : Step Op Answer ε) :
    stepsOf i (log ++ [(i, step)]) = stepsOf i log ++ [step] := by
  simp [stepsOf]

theorem stepsOf_concat_of_ne {i j : ι} (h : j ≠ i) (log : List (ι × Step Op Answer ε))
    (step : Step Op Answer ε) : stepsOf i (log ++ [(j, step)]) = stepsOf i log := by
  simp [stepsOf, h]

/-- Every step is that of one program. -/
theorem length_eq_sum [Fintype ι] (log : List (ι × Step Op Answer ε)) :
    log.length = ∑ i, (stepsOf i log).length := by
  induction log using List.reverseRecOn with
  | nil => simp [stepsOf]
  | append_singleton before entry ih =>
    obtain ⟨i, step⟩ := entry
    have hentry (j : ι) : (stepsOf j (before ++ [(i, step)])).length =
        (stepsOf j before).length + if i = j then 1 else 0 := by
      by_cases hij : i = j
      · subst hij
        rw [stepsOf_concat_self, List.length_append, if_pos rfl]
        rfl
      · rw [stepsOf_concat_of_ne hij, if_neg hij, Nat.add_zero]
    simp only [hentry, Finset.sum_add_distrib, ← ih, Finset.sum_ite_eq, Finset.mem_univ, if_true,
      List.length_append, List.length_singleton]

/-- Where no program takes more than so many steps, all of them together take no more than that for
each. -/
theorem length_le_of_stepsOf [Fintype ι] {log : List (ι × Step Op Answer ε)} {bound : Nat}
    (h : ∀ i, (stepsOf i log).length ≤ bound) : log.length ≤ Fintype.card ι * bound :=
  calc log.length = ∑ i, (stepsOf i log).length := length_eq_sum log
    _ ≤ ∑ _i : ι, bound := Finset.sum_le_sum fun i _ => h i
    _ = Fintype.card ι * bound := Finset.sum_const_nat fun _ _ => rfl

end Order

end Program

end BulkProvision
