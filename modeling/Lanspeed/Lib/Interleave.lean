import Lanspeed.Lib.Machine
import Mathlib.Tactic.Abel

/-!
# Threads that share a state

A thread does one action at a time on a shared state: `act` gives the shared state and the thread
behind its next action, or nothing when the thread has finished. A schedule says which thread acts
next, so a list of numbers is an interleaving, and `stepAt` makes the threads a machine in the sense
of `Lanspeed.Lib.Machine`. What every thread keeps for itself is kept by every schedule
(`map_threads_run`), so is what holds of each thread and is not disturbed by the others
(`forall_threads_run`), and a measure of the shared state that grows by what each thread has put
into it is accounted for by the threads (`measure_run`).
-/

namespace Interleave

variable {σ τ : Type*}

/-- A shared state and the threads on it. -/
structure System (σ τ : Type*) where
  shared : σ
  threads : List τ

variable (act : σ → τ → Option (σ × τ))

/-- One action of the thread with a number. -/
def stepAt (s : System σ τ) (i : ℕ) : System σ τ :=
  match s.threads[i]? with
  | none => s
  | some t =>
    match act s.shared t with
    | none => s
    | some (shared, t') => ⟨shared, s.threads.set i t'⟩

/-- The system behind a schedule. -/
abbrev run (s : System σ τ) (schedule : List ℕ) : System σ τ := Machine.run (stepAt act) s schedule

variable {act}

variable (act) in
/-- A thread acts, or nothing happens. -/
theorem stepAt_cases (s : System σ τ) (i : ℕ) :
    (stepAt act s i = s ∧ ∀ t, s.threads[i]? = some t → act s.shared t = none) ∨
      ∃ t shared t', s.threads[i]? = some t ∧ act s.shared t = some (shared, t') ∧
        stepAt act s i = ⟨shared, s.threads.set i t'⟩ := by
  rw [stepAt]
  cases ht : s.threads[i]? with
  | none => exact .inl ⟨rfl, fun t h => absurd h.symm (Option.some_ne_none t)⟩
  | some t =>
    dsimp only
    cases hact : act s.shared t with
    | none => exact .inl ⟨rfl, fun t' h => Option.some.inj h ▸ hact⟩
    | some next => exact .inr ⟨t, next.1, next.2, rfl, hact, rfl⟩

/-- What an action leaves alone in its thread is the same in all threads. -/
theorem map_threads_stepAt {β : Type*} {f : τ → β}
    (hf : ∀ shared t shared' t', act shared t = some (shared', t') → f t' = f t) (s : System σ τ)
    (i : ℕ) : (stepAt act s i).threads.map f = s.threads.map f := by
  rcases stepAt_cases act s i with ⟨h, -⟩ | ⟨t, shared, t', ht, hact, h⟩
  · rw [h]
  · obtain ⟨hi, rfl⟩ := List.getElem?_eq_some_iff.mp ht
    have hi' : i < (s.threads.map f).length := by rwa [List.length_map]
    rw [h, List.map_set, hf _ _ _ _ hact]
    refine List.ext_getElem? fun j => ?_
    rw [List.getElem?_set]
    split_ifs with hij
    · subst hij
      rw [List.getElem?_map, List.getElem?_eq_getElem hi]
      rfl
    · rfl

/-- What no action changes in a thread is as it was after every schedule. -/
theorem map_threads_run {β : Type*} {f : τ → β}
    (hf : ∀ shared t shared' t', act shared t = some (shared', t') → f t' = f t) (s : System σ τ)
    (schedule : List ℕ) : (run act s schedule).threads.map f = s.threads.map f :=
  Machine.run_invariant (I := fun s' => s'.threads.map f = s.threads.map f) (stepAt act)
    (fun s' i h => (map_threads_stepAt hf s' i).trans h) rfl schedule

section Stable

variable {Ok : σ → τ → Prop}
  (hown : ∀ shared t shared' t', act shared t = some (shared', t') → Ok shared t → Ok shared' t')
  (hothers : ∀ shared t shared' t' u, act shared t = some (shared', t') →
    Ok shared u → Ok shared' u)

include hown hothers

/-- What a thread establishes for itself and no other thread disturbs. -/
theorem forall_threads_stepAt {s : System σ τ} (hs : ∀ t ∈ s.threads, Ok s.shared t) (i : ℕ) :
    ∀ t ∈ (stepAt act s i).threads, Ok (stepAt act s i).shared t := by
  rcases stepAt_cases act s i with ⟨h, -⟩ | ⟨t, shared, t', ht, hact, h⟩
  · rwa [h]
  · rw [h]
    intro u hu
    rcases List.mem_or_eq_of_mem_set hu with hu | rfl
    · exact hothers _ _ _ _ u hact (hs u hu)
    · exact hown _ _ _ _ hact (hs t (List.mem_of_getElem? ht))

/-- What every action keeps of all threads holds of them after every schedule. -/
theorem forall_threads_run {s : System σ τ} (hs : ∀ t ∈ s.threads, Ok s.shared t)
    (schedule : List ℕ) : ∀ t ∈ (run act s schedule).threads, Ok (run act s schedule).shared t :=
  Machine.run_invariant (I := fun s' => ∀ t ∈ s'.threads, Ok s'.shared t) (stepAt act)
    (fun _ i h => forall_threads_stepAt hown hothers h i) hs schedule

end Stable

section Measure

variable {M : Type*} [AddCommGroup M] (μ : σ → M) (given : τ → M)

/-- The sum over a list with one entry replaced. -/
theorem sum_map_set {l : List τ} {i : ℕ} {t t' : τ} (ht : l[i]? = some t) :
    ((l.set i t').map given).sum = (l.map given).sum - given t + given t' := by
  induction l generalizing i with
  | nil => exact absurd ht (Option.some_ne_none t).symm
  | cons x xs ih =>
    cases i with
    | zero =>
      obtain rfl := Option.some.inj ht
      simp only [List.set_cons_zero, List.map_cons, List.sum_cons]
      abel
    | succ i =>
      rw [List.getElem?_cons_succ] at ht
      simp only [List.set_cons_succ, List.map_cons, List.sum_cons, ih ht]
      abel

/-- Where every action changes a measure of the shared state by what its thread gives, the measure
is what all threads have given. -/
theorem measure_run {Ok : σ → τ → Prop}
    (hown : ∀ shared t shared' t', act shared t = some (shared', t') → Ok shared t → Ok shared' t')
    (hothers : ∀ shared t shared' t' u, act shared t = some (shared', t') →
      Ok shared u → Ok shared' u)
    (hact : ∀ shared t shared' t', act shared t = some (shared', t') → Ok shared t →
      μ shared' = μ shared - given t + given t')
    {s : System σ τ} (hs : ∀ t ∈ s.threads, Ok s.shared t) (schedule : List ℕ) :
    μ (run act s schedule).shared = μ s.shared - (s.threads.map given).sum +
      ((run act s schedule).threads.map given).sum := by
  suffices h : ∀ s' : System σ τ, (∀ t ∈ s'.threads, Ok s'.shared t) →
      μ s'.shared - (s'.threads.map given).sum = μ s.shared - (s.threads.map given).sum →
      μ (run act s' schedule).shared - ((run act s' schedule).threads.map given).sum
        = μ s.shared - (s.threads.map given).sum from sub_eq_iff_eq_add.mp (h s hs rfl)
  induction schedule with
  | nil => exact fun s' _ h => h
  | cons i schedule ih =>
    intro s' hs' h
    apply ih (stepAt act s' i) (forall_threads_stepAt hown hothers hs' i)
    rcases stepAt_cases act s' i with ⟨heq, -⟩ | ⟨t, shared, t', ht, hnext, heq⟩
    · rwa [heq]
    · rw [heq, hact _ _ _ _ hnext (hs' t (List.mem_of_getElem? ht)), sum_map_set given ht, ← h]
      abel

end Measure

end Interleave
