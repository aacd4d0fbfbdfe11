import Mathlib.Data.List.Basic

/-!
One request through a chain of gin handlers. A handler that calls
`c.Next()` is a stage: the code before the call either answers and aborts
the chain, or goes on with the context it leaves, and the code after the
call runs once the rest of the chain has answered, with the context and the
answer the rest left. A handler that does not call `c.Next()` is a stage
with nothing after it, and one that aborts returns at once, so nothing of it
runs after the rest. The last handler answers. Every handler reads the
request, which none of them changes, and a shared state that it may change.

The context holds what handlers store with `c.Set` and the response headers
they set with `c.Header`; a later write of a key hides an earlier one, as in
the maps gin keeps.
-/

namespace Gin

variable {ι σ ν ρ : Type*}

structure Context (ν : Type*) where
  keys : List (String × ν)
  headers : List (String × String)

namespace Context

def empty : Context ν := ⟨[], []⟩

/-- `c.Set(key, value)`. -/
def set (c : Context ν) (key : String) (value : ν) : Context ν :=
  { c with keys := (key, value) :: c.keys }

/-- `c.Get(key)`: the value last stored under the key. -/
def get (c : Context ν) (key : String) : Option ν := c.keys.lookup key

/-- `c.Header(key, value)`. -/
def header (c : Context ν) (key value : String) : Context ν :=
  { c with headers := (key, value) :: c.headers }

/-- `c.Header` of each pair, in order. -/
def setHeaders (c : Context ν) (headers : List (String × String)) : Context ν :=
  headers.foldl (fun c h => c.header h.1 h.2) c

@[simp] theorem get_empty (key : String) : (empty : Context ν).get key = none := rfl

@[simp] theorem get_set_self (c : Context ν) (key : String) (value : ν) :
    (c.set key value).get key = some value := by
  simp [get, set]

@[simp] theorem get_set_of_ne (c : Context ν) {key key' : String} (value : ν) (h : key ≠ key') :
    (c.set key value).get key' = c.get key' := by
  have hbeq : (key' == key) = false := beq_eq_false_iff_ne.mpr (Ne.symm h)
  simp [get, set, List.lookup_cons, hbeq]

@[simp] theorem get_header (c : Context ν) (key value key' : String) :
    (c.header key value).get key' = c.get key' := rfl

@[simp] theorem get_setHeaders (c : Context ν) (headers : List (String × String)) (key : String) :
    (c.setHeaders headers).get key = c.get key := by
  induction headers generalizing c with
  | nil => rfl
  | cons h rest ih =>
      simp only [setHeaders, List.foldl_cons] at ih ⊢
      rw [ih, get_header]

end Context

/-- `c.Query(key)`: the first value of `key` in the request's query string,
or "" when it has none. -/
def query (params : List (String × String)) (key : String) : String :=
  (params.lookup key).getD ""

/-- What the code before `c.Next()` does: go on, or answer and abort. -/
inductive Outcome (ν ρ : Type*) where
  | next (c : Context ν)
  | abort (c : Context ν) (answer : ρ)

/-- What the rest of a chain leaves: the context, the answer and the state. -/
structure Served (ν ρ σ : Type*) where
  context : Context ν
  answer : ρ
  state : σ

structure Stage (ι σ ν ρ : Type*) where
  before : ι → Context ν → σ → Outcome ν ρ × σ
  after : ι → Context ν → ρ → σ → σ

abbrev Handler (ι σ ν ρ : Type*) := ι → Context ν → σ → Served ν ρ σ

/-- The stages, in order, in front of the last handler. -/
def chain : List (Stage ι σ ν ρ) → Handler ι σ ν ρ → Handler ι σ ν ρ
  | [], handler => handler
  | stage :: rest, handler => fun a c s =>
      match stage.before a c s with
      | (.abort c' answer, s') => ⟨c', answer, s'⟩
      | (.next c', s') =>
          let served := chain rest handler a c' s'
          { served with state := stage.after a served.context served.answer served.state }

@[simp] theorem chain_nil (handler : Handler ι σ ν ρ) : chain [] handler = handler := rfl

theorem chain_cons_of_abort {stage : Stage ι σ ν ρ} {a : ι} {c c' : Context ν} {s s' : σ}
    {answer : ρ} (h : stage.before a c s = (.abort c' answer, s'))
    (rest : List (Stage ι σ ν ρ)) (handler : Handler ι σ ν ρ) :
    chain (stage :: rest) handler a c s = ⟨c', answer, s'⟩ := by
  simp [chain, h]

theorem chain_cons_of_next {stage : Stage ι σ ν ρ} {a : ι} {c c' : Context ν} {s s' : σ}
    (h : stage.before a c s = (.next c', s'))
    (rest : List (Stage ι σ ν ρ)) (handler : Handler ι σ ν ρ) :
    chain (stage :: rest) handler a c s =
      { chain rest handler a c' s' with
        state := stage.after a (chain rest handler a c' s').context
          (chain rest handler a c' s').answer (chain rest handler a c' s').state } := by
  simp [chain, h]

/-- The stage goes on only with the keys outside `keys` as it found them. -/
def Stage.SetsOnly (stage : Stage ι σ ν ρ) (keys : List String) : Prop :=
  ∀ a c s c' s', stage.before a c s = (.next c', s') → ∀ key ∉ keys, c'.get key = c.get key

/-- A route group's chain is the global chain in front of the group's. -/
theorem chain_append (first second : List (Stage ι σ ν ρ)) (handler : Handler ι σ ν ρ) :
    chain (first ++ second) handler = chain first (chain second handler) := by
  induction first with
  | nil => rfl
  | cons stage rest ih => simp only [List.cons_append, chain, ih]

/-- Two last handlers that agree wherever a property of the request, context
and state holds give the same chain, when every stage that goes on keeps the
property: what a handler does elsewhere is never observed. -/
theorem chain_congr {P : ι → Context ν → σ → Prop} {stages : List (Stage ι σ ν ρ)}
    (hkeep : ∀ stage ∈ stages, ∀ a c s c' s', P a c s →
      stage.before a c s = (.next c', s') → P a c' s')
    {h₁ h₂ : Handler ι σ ν ρ} (hagree : ∀ a c s, P a c s → h₁ a c s = h₂ a c s)
    (a : ι) (c : Context ν) (s : σ) (hP : P a c s) :
    chain stages h₁ a c s = chain stages h₂ a c s := by
  induction stages generalizing c s with
  | nil => exact hagree a c s hP
  | cons stage rest ih =>
      have hrest : ∀ st ∈ rest, ∀ a c s c' s', P a c s →
          st.before a c s = (.next c', s') → P a c' s' :=
        fun st hst => hkeep st (List.mem_cons_of_mem stage hst)
      rcases hbefore : stage.before a c s with ⟨⟨c'⟩ | ⟨c', answer⟩, s'⟩
      · have hP' := hkeep stage List.mem_cons_self a c s c' s' hP hbefore
        rw [chain_cons_of_next hbefore, chain_cons_of_next hbefore, ih hrest c' s' hP']
      · rw [chain_cons_of_abort hbefore, chain_cons_of_abort hbefore]

/-- A key that no stage sets is still unset when the last handler runs, so
two handlers that agree while it is unset give the same chain. -/
theorem chain_congr_of_unset {stages : List (Stage ι σ ν ρ)} {key : String}
    (hstages : ∀ stage ∈ stages, ∃ keys, key ∉ keys ∧ stage.SetsOnly keys)
    {h₁ h₂ : Handler ι σ ν ρ} (hagree : ∀ a c s, c.get key = none → h₁ a c s = h₂ a c s)
    (a : ι) (c : Context ν) (s : σ) (hunset : c.get key = none) :
    chain stages h₁ a c s = chain stages h₂ a c s := by
  refine chain_congr (P := fun _ c _ => c.get key = none) ?_ (fun a c s h => hagree a c s h)
    a c s hunset
  intro stage hstage a c s c' s' hP hbefore
  obtain ⟨keys, hkey, hsets⟩ := hstages stage hstage
  rw [hsets a c s c' s' hbefore key hkey]
  exact hP

/-- A last stage that goes on only where a property holds guards the
handler: two handlers that agree where it holds give the same chain. -/
theorem chain_guarded {P : ι → Context ν → σ → Prop} (stages : List (Stage ι σ ν ρ))
    {guard : Stage ι σ ν ρ}
    (hguard : ∀ a c s c' s', guard.before a c s = (.next c', s') → P a c' s')
    {h₁ h₂ : Handler ι σ ν ρ} (hagree : ∀ a c s, P a c s → h₁ a c s = h₂ a c s) :
    chain (stages ++ [guard]) h₁ = chain (stages ++ [guard]) h₂ := by
  have hguarded : chain [guard] h₁ = chain [guard] h₂ := by
    funext a c s
    rcases hbefore : guard.before a c s with ⟨⟨c'⟩ | ⟨c', answer⟩, s'⟩
    · rw [chain_cons_of_next hbefore, chain_cons_of_next hbefore, chain_nil, chain_nil,
        hagree a c' s' (hguard a c s c' s' hbefore)]
    · rw [chain_cons_of_abort hbefore, chain_cons_of_abort hbefore]
  rw [chain_append, chain_append, hguarded]

/-- A property of the state that every stage, both before and after the
rest, and the last handler keep, the chain keeps. -/
theorem chain_preserves {P : σ → Prop} {stages : List (Stage ι σ ν ρ)}
    (hstages : ∀ stage ∈ stages, (∀ a c s, P s → P (stage.before a c s).2) ∧
      ∀ a c r s, P s → P (stage.after a c r s))
    {handler : Handler ι σ ν ρ} (hhandler : ∀ a c s, P s → P (handler a c s).state)
    (a : ι) (c : Context ν) (s : σ) (hP : P s) : P (chain stages handler a c s).state := by
  induction stages generalizing c s with
  | nil => exact hhandler a c s hP
  | cons stage rest ih =>
      have hstage := hstages stage List.mem_cons_self
      have hrest := fun st hst => hstages st (List.mem_cons_of_mem stage hst)
      have hP' : P (stage.before a c s).2 := hstage.1 a c s hP
      rcases hbefore : stage.before a c s with ⟨⟨c'⟩ | ⟨c', answer⟩, s'⟩
      · rw [hbefore] at hP'
        rw [chain_cons_of_next hbefore]
        exact hstage.2 _ _ _ _ (ih hrest c' s' hP')
      · rw [hbefore] at hP'
        rw [chain_cons_of_abort hbefore]
        exact hP'

end Gin
