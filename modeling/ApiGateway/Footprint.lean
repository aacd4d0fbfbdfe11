import Mathlib
import ApiGateway.Interleave

/-!
Commands on a keyed state that touch a known set of keys, and what a run of
such commands keeps apart. A command is local to a set of keys when, run on
a state glued from one state's keys in the set and another state's keys
outside it, it acts as it does on the first and carries the second's other
keys through. What it answers and writes then depends on the set's keys
only, and it writes no key outside the set.

The unwinding rule is the classical way to prove that parties sharing a
state do not interfere. When every event of one party answers alike from
related states and steps them to related states, and every other event
keeps the relation, the answers a run gives to that party's events are the
answers those events get when run alone. For local commands the relation is
agreement on the party's keys, and keeping it needs only that other
parties' keys are disjoint from them. For threads whose atomic actions
interleave, the rule says that the threads of one party end as they do when
the schedule runs only their actions.
-/

namespace Footprint

section Local

open Classical

variable {κ V α : Type*}

/-- `f` reads and writes the keys of `S` only. -/
def Local (S : Set κ) (f : (κ → V) → α × (κ → V)) : Prop :=
  ∀ a b, f (S.piecewise a b) = ((f a).1, S.piecewise (f a).2 b)

/-- Writing a key of `S` into a glued state writes it into the part that
comes from the first state. -/
theorem update_piecewise [DecidableEq κ] {S : Set κ} [∀ x, Decidable (x ∈ S)] {x : κ}
    (hx : x ∈ S) (a b : κ → V) (v : V) :
    Function.update (S.piecewise a b) x v = S.piecewise (Function.update a x v) b := by
  funext y
  by_cases hy : y = x
  · subst hy
    simp [hx]
  · by_cases hyS : y ∈ S <;> simp [Function.update_of_ne hy, hyS]

variable {S : Set κ} {f : (κ → V) → α × (κ → V)}

/-- A local command leaves every key outside its set as it was. -/
theorem Local.frame (hf : Local S f) (a : κ → V) : Set.EqOn (f a).2 a Sᶜ := by
  intro x hx
  have hglued := congrArg (fun r => r.2 x) (hf a a)
  simp only [Set.piecewise_same] at hglued
  rw [hglued]
  exact Set.piecewise_eq_of_notMem S _ _ hx

/-- Started from states that agree on its set, a local command answers alike
and leaves states that agree on its set. -/
theorem Local.congr (hf : Local S f) {a b : κ → V} (hab : Set.EqOn a b S) :
    (f a).1 = (f b).1 ∧ Set.EqOn (f a).2 (f b).2 S := by
  have hglued : S.piecewise a b = b := by
    funext x
    by_cases hx : x ∈ S
    · rw [Set.piecewise_eq_of_mem S a b hx, hab hx]
    · exact Set.piecewise_eq_of_notMem S a b hx
  have hrun := hf a b
  rw [hglued] at hrun
  refine ⟨by rw [hrun], fun x hx => ?_⟩
  simp only [hrun, Set.piecewise_eq_of_mem S _ _ hx]

end Local

section Unwinding

variable {σ ε ρ ω : Type*} [DecidableEq ω]

/-- The answers a run from `s` gives to the events of the party `o`, in
order. -/
def ownAnswers (step : σ → ε → ρ × σ) (owner : ε → ω) (o : ω) (s : σ) (events : List ε) :
    List ρ :=
  ((events.zip (Transition.outputs step s events)).filter fun p => owner p.1 = o).map Prod.snd

@[simp] theorem ownAnswers_nil (step : σ → ε → ρ × σ) (owner : ε → ω) (o : ω) (s : σ) :
    ownAnswers step owner o s [] = [] := rfl

theorem ownAnswers_cons (step : σ → ε → ρ × σ) (owner : ε → ω) (o : ω) (s : σ) (e : ε)
    (events : List ε) :
    ownAnswers step owner o s (e :: events) =
      (if owner e = o then [(step s e).1] else []) ++
        ownAnswers step owner o (step s e).2 events := by
  by_cases he : owner e = o <;> simp [ownAnswers, Transition.outputs, he]

/-- The unwinding rule. When every event of `o` answers alike from related
states and steps them to related states, and every other event steps the
left state to one still related to the right one, the answers a run gives to
`o`'s events are those `o`'s events get run alone from a related state, and
the two runs end in related states. -/
theorem unwinding {step : σ → ε → ρ × σ} {owner : ε → ω} {R : σ → σ → Prop} {o : ω}
    {events : List ε}
    (hown : ∀ e ∈ events, owner e = o → ∀ s t, R s t →
      (step s e).1 = (step t e).1 ∧ R (step s e).2 (step t e).2)
    (hother : ∀ e ∈ events, owner e ≠ o → ∀ s t, R s t → R (step s e).2 t)
    {s t : σ} (hst : R s t) :
    ownAnswers step owner o s events = Transition.outputs step t (events.filter (owner · = o)) ∧
      R (Transition.after step s events)
        (Transition.after step t (events.filter (owner · = o))) := by
  induction events generalizing s t with
  | nil => exact ⟨rfl, hst⟩
  | cons e rest ih =>
      have hown' := fun e' he' => hown e' (List.mem_cons_of_mem e he')
      have hother' := fun e' he' => hother e' (List.mem_cons_of_mem e he')
      by_cases he : owner e = o
      · obtain ⟨hanswer, hnext⟩ := hown e List.mem_cons_self he s t hst
        obtain ⟨hrest, hend⟩ := ih hown' hother' hnext
        refine ⟨?_, ?_⟩
        · simp [ownAnswers_cons, he, Transition.outputs, hanswer, hrest]
        · simpa [he] using hend
      · obtain ⟨hrest, hend⟩ := ih hown' hother' (hother e List.mem_cons_self he s t hst)
        refine ⟨?_, ?_⟩
        · simp [ownAnswers_cons, he, hrest]
        · simpa [he] using hend

end Unwinding

section Keyed

variable {κ V ε ρ ω : Type*} [DecidableEq ω]

/-- The unwinding rule for local commands: when each event is local to the
keys of its party and other parties' keys are disjoint from `o`'s, the
answers a run gives to `o`'s events are those they get alone from a state
that agrees on `o`'s keys, and the two runs end in states that agree there. -/
theorem local_unwinding {step : (κ → V) → ε → ρ × (κ → V)} {owner : ε → ω}
    {foot : ω → Set κ} {o : ω} {events : List ε}
    (hlocal : ∀ e ∈ events, Local (foot (owner e)) (step · e))
    (hdisjoint : ∀ e ∈ events, owner e ≠ o → Disjoint (foot (owner e)) (foot o))
    {s t : κ → V} (hst : Set.EqOn s t (foot o)) :
    ownAnswers step owner o s events = Transition.outputs step t (events.filter (owner · = o)) ∧
      Set.EqOn (Transition.after step s events)
        (Transition.after step t (events.filter (owner · = o))) (foot o) := by
  refine unwinding (R := fun s t => Set.EqOn s t (foot o)) ?_ ?_ hst
  · intro e he heo s t hst
    subst heo
    exact (hlocal e he).congr hst
  · intro e he heo s t hst x hx
    have hout : x ∉ foot (owner e) := Set.disjoint_right.mp (hdisjoint e he heo) hx
    rw [(hlocal e he).frame s hout]
    exact hst hx

end Keyed

section Threads

open Classical Interleave

variable {κ V τ ω : Type*} [DecidableEq ω]

/-- A thread's next action as a command on the shared state: the thread it
becomes, if it moves, and the state it leaves, which is the state itself
when the thread has finished. -/
def actCommand (act : τ → (κ → V) → Option (τ × (κ → V))) (t : τ) (s : κ → V) :
    Option τ × (κ → V) :=
  ((act t s).map Prod.fst, ((act t s).map Prod.snd).getD s)

/-- Whether the thread listed at `i` belongs to `o`. -/
def ownedAt (owner : τ → ω) (o : ω) (threads : List τ) (i : Nat) : Bool :=
  decide (threads[i]?.map owner = some o)

variable {act : τ → (κ → V) → Option (τ × (κ → V))} {S : Set κ} {t : τ}

/-- From states that agree on its keys, an action either ends the thread
from both or moves it alike from both to states that agree there. -/
theorem act_congr (hloc : Local S (actCommand act t)) {a b : κ → V} (hab : Set.EqOn a b S) :
    (act t a = none ∧ act t b = none) ∨
      ∃ t' a' b', act t a = some (t', a') ∧ act t b = some (t', b') ∧ Set.EqOn a' b' S := by
  obtain ⟨hnext, hstate⟩ := hloc.congr hab
  cases ha : act t a with
  | none =>
      cases hb : act t b with
      | none => exact .inl ⟨rfl, rfl⟩
      | some r => simp [actCommand, ha, hb] at hnext
  | some r =>
      obtain ⟨t', a'⟩ := r
      cases hb : act t b with
      | none => simp [actCommand, ha, hb] at hnext
      | some r' =>
          obtain ⟨t'', b'⟩ := r'
          simp only [actCommand, ha, hb, Option.map_some, Option.getD_some,
            Option.some.injEq] at hnext hstate
          exact .inr ⟨t', a', b', rfl, by rw [hnext], hstate⟩

/-- An action leaves every key outside its thread's as it was. -/
theorem act_frame (hloc : Local S (actCommand act t)) {a a' : κ → V} {t' : τ}
    (h : act t a = some (t', a')) : Set.EqOn a' a Sᶜ := by
  have hframe := hloc.frame a
  simp only [actCommand, h, Option.map_some, Option.getD_some] at hframe
  exact hframe

omit [DecidableEq ω] in
/-- A step of a thread that keeps its owner keeps the owners of all threads. -/
theorem map_set_of_owner (owner : τ → ω) {threads : List τ} {i : Nat} {t' : τ}
    (hi : threads[i]?.map owner = some (owner t')) :
    (threads.set i t').map owner = threads.map owner := by
  apply List.ext_getElem?
  intro j
  rw [List.map_set, List.getElem?_set]
  by_cases hj : i = j
  · subst hj
    have hlt : i < (threads.map owner).length := by
      obtain ⟨v, hv, -⟩ := Option.map_eq_some_iff.mp hi
      rw [List.length_map]
      exact (List.getElem?_eq_some_iff.mp hv).1
    rw [if_pos rfl, if_pos hlt, List.getElem?_map, hi]
  · rw [if_neg hj]

variable (owner : τ → ω) (foot : ω → Set κ) (o : ω) (threads : List τ)

/-- Two configurations agree for `o`: on `o`'s keys and on each of `o`'s
threads, and both list threads of the owners listed at the start. -/
structure Agree (c c' : (κ → V) × List τ) : Prop where
  state : Set.EqOn c.1 c'.1 (foot o)
  own : ∀ i, ownedAt owner o threads i = true → c.2[i]? = c'.2[i]?
  owners : c.2.map owner = threads.map owner
  owners' : c'.2.map owner = threads.map owner

variable {owner foot o threads}

omit [DecidableEq ω] in
/-- A thread listed where the owners are those of the start has the owner
listed there at the start. -/
theorem map_owner_of_listed {l : List τ} (howners : l.map owner = threads.map owner) {i : Nat}
    {u : τ} (hu : l[i]? = some u) : threads[i]?.map owner = some (owner u) := by
  rw [← List.getElem?_map, ← howners, List.getElem?_map, hu, Option.map_some]

theorem ownedAt_iff {c : (κ → V) × List τ} (howners : c.2.map owner = threads.map owner)
    {i : Nat} {u : τ} (hu : c.2[i]? = some u) : ownedAt owner o threads i = true ↔ owner u = o := by
  simp [ownedAt, map_owner_of_listed howners hu]

/-- An action of one of `o`'s threads, taken in both configurations, keeps
them in agreement. -/
theorem Agree.schedule_own (hlocal : ∀ t, Local (foot (owner t)) (actCommand act t))
    (hkeep : ∀ t s t' s', act t s = some (t', s') → owner t' = owner t)
    {c c' : (κ → V) × List τ} (hc : Agree owner foot o threads c c') {i : Nat}
    (hi : ownedAt owner o threads i = true) :
    Agree owner foot o threads (schedule act c i) (schedule act c' i) := by
  obtain ⟨s, l⟩ := c
  obtain ⟨s', l'⟩ := c'
  have hthread : l[i]? = l'[i]? := hc.own i hi
  cases hu : l[i]? with
  | none =>
      rw [hu] at hthread
      simpa [schedule, hu, ← hthread] using hc
  | some u =>
      rw [hu] at hthread
      have howner : owner u = o := (ownedAt_iff hc.owners hu).mp hi
      have hstate : Set.EqOn s s' (foot (owner u)) := howner ▸ hc.state
      rcases act_congr (hlocal u) hstate with ⟨hnone, hnone'⟩ | ⟨u', a, a', hact, hact', hagree⟩
      · simpa [schedule, hu, ← hthread, hnone, hnone'] using hc
      · simp only [schedule, hu, ← hthread, hact, hact']
        have hmap : ∀ {m : List τ}, m[i]? = some u → m[i]?.map owner = some (owner u') := by
          intro m hm
          rw [hm, Option.map_some, hkeep u _ u' _ hact]
        refine ⟨howner ▸ hagree, fun j hj => ?_, ?_, ?_⟩
        · by_cases hij : i = j
          · subst hij
            have hlt : i < l.length := (List.getElem?_eq_some_iff.mp hu).1
            have hlt' : i < l'.length := (List.getElem?_eq_some_iff.mp hthread.symm).1
            rw [List.getElem?_set_self hlt, List.getElem?_set_self hlt']
          · rw [List.getElem?_set_ne hij, List.getElem?_set_ne hij, hc.own j hj]
        · rw [map_set_of_owner owner (hmap hu), hc.owners]
        · rw [map_set_of_owner owner (hmap hthread.symm), hc.owners']

/-- An action of a thread of another party, whose keys are disjoint from
`o`'s, leaves the configuration in agreement with the one it was in. -/
theorem Agree.schedule_other (hlocal : ∀ t, Local (foot (owner t)) (actCommand act t))
    (hkeep : ∀ t s t' s', act t s = some (t', s') → owner t' = owner t)
    (hdisjoint : ∀ t ∈ threads, owner t ≠ o → Disjoint (foot (owner t)) (foot o))
    {c c' : (κ → V) × List τ} (hc : Agree owner foot o threads c c') {i : Nat}
    (hi : ownedAt owner o threads i = false) :
    Agree owner foot o threads (schedule act c i) c' := by
  obtain ⟨s, l⟩ := c
  cases hu : l[i]? with
  | none => simpa [schedule, hu] using hc
  | some u =>
      cases hact : act u s with
      | none => simpa [schedule, hu, hact] using hc
      | some r =>
          obtain ⟨u', a⟩ := r
          simp only [schedule, hu, hact]
          have hother : owner u ≠ o := fun h => by
            rw [(ownedAt_iff hc.owners hu).mpr h] at hi
            cases hi
          have hlisted : ∃ v ∈ threads, owner v = owner u := by
            obtain ⟨v, hv, hvo⟩ := Option.map_eq_some_iff.mp (map_owner_of_listed hc.owners hu)
            exact ⟨v, List.mem_of_getElem? hv, hvo⟩
          obtain ⟨v, hv, hvo⟩ := hlisted
          have hdisj := hdisjoint v hv (hvo ▸ hother)
          rw [hvo] at hdisj
          refine ⟨fun x hx => ?_, fun j hj => ?_, ?_, hc.owners'⟩
          · show a x = c'.1 x
            rw [act_frame (hlocal u) hact (Set.disjoint_right.mp hdisj hx)]
            exact hc.state hx
          · have hij : i ≠ j := by
              rintro rfl
              rw [hi] at hj
              cases hj
            rw [List.getElem?_set_ne hij]
            exact hc.own j hj
          · rw [map_set_of_owner owner (by rw [hu, Option.map_some, hkeep u s u' a hact]),
              hc.owners]

/-- The unwinding rule for interleaved threads. When each action is local to
its thread's owner's keys, keeps the owner, and other owners' keys are
disjoint from `o`'s: under any schedule, the state on `o`'s keys and every
thread of `o` end as they do when the schedule takes only the actions of
`o`'s threads. -/
theorem interleave_unwinding (hlocal : ∀ t, Local (foot (owner t)) (actCommand act t))
    (hkeep : ∀ t s t' s', act t s = some (t', s') → owner t' = owner t)
    (hdisjoint : ∀ t ∈ threads, owner t ≠ o → Disjoint (foot (owner t)) (foot o))
    (s : κ → V) (order : List Nat) :
    Set.EqOn (interleave act (s, threads) order).1
        (interleave act (s, threads) (order.filter (ownedAt owner o threads))).1 (foot o) ∧
      ∀ i, ownedAt owner o threads i = true →
        (interleave act (s, threads) order).2[i]? =
          (interleave act (s, threads) (order.filter (ownedAt owner o threads))).2[i]? := by
  have hstart : Agree owner foot o threads (s, threads) (s, threads) :=
    ⟨Set.eqOn_refl _ _, fun _ _ => rfl, rfl, rfl⟩
  have hend := (@unwinding _ _ _ _ _ (fun c i => ((), schedule act c i))
    (ownedAt owner o threads) (Agree owner foot o threads) true order
    (fun i _ hi c c' hc => ⟨rfl, hc.schedule_own hlocal hkeep hi⟩)
    (fun i _ hi c c' hc => hc.schedule_other hlocal hkeep hdisjoint (by simpa using hi))
    _ _ hstart).2
  simp only [Bool.decide_eq_true] at hend
  exact ⟨hend.state, hend.own⟩

end Threads

end Footprint
