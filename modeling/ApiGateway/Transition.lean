import Mathlib.Data.List.Basic

/-!
Deterministic labelled transition systems given by a step function. A run
folds the step over a list of events. Two rules carry the models built on
this module: a predicate that every step preserves holds at the end of every
run, and a relation that every pair of corresponding steps preserves relates
the ends of every pair of runs and makes their answers equal, or related.
-/

namespace Transition

variable {σ τ ε ρ : Type*}

/-- The state reached from `s` by taking the events in order. -/
def run (step : σ → ε → σ) (s : σ) (events : List ε) : σ :=
  events.foldl step s

@[simp] theorem run_nil (step : σ → ε → σ) (s : σ) : run step s [] = s := rfl

@[simp] theorem run_cons (step : σ → ε → σ) (s : σ) (e : ε) (events : List ε) :
    run step s (e :: events) = run step (step s e) events := rfl

theorem run_append (step : σ → ε → σ) (s : σ) (first second : List ε) :
    run step s (first ++ second) = run step (run step s first) second :=
  List.foldl_append

@[simp] theorem run_concat (step : σ → ε → σ) (s : σ) (events : List ε) (e : ε) :
    run step s (events ++ [e]) = step (run step s events) e := by
  rw [run_append]
  rfl

/-- `inv` holds after any step taken from a state it holds of. -/
def Preserves (step : σ → ε → σ) (inv : σ → Prop) : Prop :=
  ∀ s e, inv s → inv (step s e)

theorem Preserves.run {step : σ → ε → σ} {inv : σ → Prop}
    (hstep : Preserves step inv) {s : σ} (hs : inv s) (events : List ε) :
    inv (run step s events) := by
  induction events generalizing s with
  | nil => exact hs
  | cons e rest ih => exact ih (hstep s e hs)

/-- The answers given along a run of a step function that also answers. -/
def outputs (step : σ → ε → ρ × σ) : σ → List ε → List ρ
  | _, [] => []
  | s, e :: events => (step s e).1 :: outputs step (step s e).2 events

/-- The state at the end of a run of a step function that also answers. -/
def after (step : σ → ε → ρ × σ) (s : σ) (events : List ε) : σ :=
  run (fun s e => (step s e).2) s events

@[simp] theorem after_nil (step : σ → ε → ρ × σ) (s : σ) : after step s [] = s := rfl

@[simp] theorem after_cons (step : σ → ε → ρ × σ) (s : σ) (e : ε) (events : List ε) :
    after step s (e :: events) = after step (step s e).2 events := rfl

/-- The answers of a run, each mapped, are those of the step whose answers
are mapped. -/
theorem outputs_map {ρ' : Type*} (step : σ → ε → ρ × σ) (f : ρ → ρ') (s : σ) (events : List ε) :
    (outputs step s events).map f =
      outputs (fun s e => (f (step s e).1, (step s e).2)) s events := by
  induction events generalizing s with
  | nil => rfl
  | cons e rest ih => simp only [outputs, List.map_cons, ih]

/-- A forward simulation of `concrete` by `abstract` through `rel`: related
states give the same answer to every event and step to related states. -/
def Simulation (concrete : σ → ε → ρ × σ) (abstract : τ → ε → ρ × τ)
    (rel : σ → τ → Prop) : Prop :=
  ∀ s a e, rel s a → (concrete s e).1 = (abstract a e).1 ∧
    rel (concrete s e).2 (abstract a e).2

theorem Simulation.outputs_eq {concrete : σ → ε → ρ × σ} {abstract : τ → ε → ρ × τ}
    {rel : σ → τ → Prop} (hsim : Simulation concrete abstract rel) {s : σ} {a : τ}
    (hrel : rel s a) (events : List ε) :
    outputs concrete s events = outputs abstract a events := by
  induction events generalizing s a with
  | nil => rfl
  | cons e rest ih =>
      obtain ⟨hout, hnext⟩ := hsim s a e hrel
      simp only [outputs, hout, ih hnext]

theorem Simulation.after_rel {concrete : σ → ε → ρ × σ} {abstract : τ → ε → ρ × τ}
    {rel : σ → τ → Prop} (hsim : Simulation concrete abstract rel) {s : σ} {a : τ}
    (hrel : rel s a) (events : List ε) :
    rel (after concrete s events) (after abstract a events) := by
  induction events generalizing s a with
  | nil => exact hrel
  | cons e rest ih => exact ih (hsim s a e hrel).2

/-- A forward simulation whose related states give related answers, by
`agree` in place of equality. -/
def SimulationUpTo {ρ' : Type*} (agree : ρ → ρ' → Prop) (concrete : σ → ε → ρ × σ)
    (abstract : τ → ε → ρ' × τ) (rel : σ → τ → Prop) : Prop :=
  ∀ s a e, rel s a → agree (concrete s e).1 (abstract a e).1 ∧
    rel (concrete s e).2 (abstract a e).2

theorem SimulationUpTo.outputs_forall₂ {ρ' : Type*} {agree : ρ → ρ' → Prop}
    {concrete : σ → ε → ρ × σ} {abstract : τ → ε → ρ' × τ} {rel : σ → τ → Prop}
    (hsim : SimulationUpTo agree concrete abstract rel) {s : σ} {a : τ} (hrel : rel s a)
    (events : List ε) :
    List.Forall₂ agree (outputs concrete s events) (outputs abstract a events) := by
  induction events generalizing s a with
  | nil => exact .nil
  | cons e rest ih =>
      obtain ⟨hout, hnext⟩ := hsim s a e hrel
      exact .cons hout (ih hnext)

/-! Tables related row by row, as a simulation relates the rows a
component keeps to those of its abstract model. -/

section Rows

variable {α β γ : Type*} {R : α → β → Prop}

/-- Lookups by predicates that agree on related rows find related rows. -/
theorem find?_rel {p : α → Bool} {q : β → Bool} {l₁ : List α} {l₂ : List β}
    (h : List.Forall₂ R l₁ l₂) (hpq : ∀ a b, R a b → p a = q b) :
    Option.Rel R (l₁.find? p) (l₂.find? q) := by
  induction h with
  | nil => exact .none
  | @cons a b _ _ hab _ ih =>
      rw [List.find?_cons, List.find?_cons, hpq a b hab]
      cases q b
      · exact ih
      · exact .some hab

/-- A column that related rows share is the same column of both tables. -/
theorem map_eq_of_forall₂ {f : α → γ} {g : β → γ} {l₁ : List α} {l₂ : List β}
    (h : List.Forall₂ R l₁ l₂) (hfg : ∀ a b, R a b → f a = g b) : l₁.map f = l₂.map g := by
  induction h with
  | nil => rfl
  | cons hab _ ih => rw [List.map_cons, List.map_cons, hfg _ _ hab, ih]

end Rows

end Transition
