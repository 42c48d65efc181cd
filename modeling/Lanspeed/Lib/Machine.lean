import Mathlib.Algebra.BigOperators.Group.List.Basic
import Mathlib.Algebra.Order.Monoid.Unbundled.Basic
import Mathlib.Data.List.Induction

/-!
# Runs of a deterministic state machine

A machine is a step function `step : σ → ε → σ`; a run is the fold of a list of events. The
induction over a run is done once here: `run_invariant` lifts what one step preserves,
`run_invariant_along` does so when every step of the run meets a side condition, `run_additive` sums
up what the steps add to a measure, `run_simulates` relates two machines that are fed the same
events, and `run_keeps_iff` is about machines that only drop what they hold.

A cache that is asked for by calls is such a machine (`Revalidate`): where the cache may stay for a
call it is left as it is, and otherwise it is loaded anew from what the call sees. So after any
calls the cache is what one of them has loaded, and what may stay for the last call (`run_refresh`).
-/

namespace Machine

variable {σ τ ε : Type*} (step : σ → ε → σ)

/-- The state reached from `s` by the events `evs`, first event first. -/
def run (s : σ) (evs : List ε) : σ := evs.foldl step s

@[simp] theorem run_nil (s : σ) : run step s [] = s := rfl

@[simp] theorem run_cons (s : σ) (e : ε) (evs : List ε) :
    run step s (e :: evs) = run step (step s e) evs := rfl

/-- Every event of the run meets `P` in the state that it finds. -/
def Along (P : σ → ε → Prop) : σ → List ε → Prop
  | _, [] => True
  | s, e :: evs => P s e ∧ Along P (step s e) evs

@[simp] theorem along_nil (P : σ → ε → Prop) (s : σ) : Along step P s [] := trivial

@[simp] theorem along_cons (P : σ → ε → Prop) (s : σ) (e : ε) (evs : List ε) :
    Along step P s (e :: evs) ↔ P s e ∧ Along step P (step s e) evs := Iff.rfl

instance decidableAlong (P : σ → ε → Prop) [∀ s e, Decidable (P s e)] :
    ∀ (s : σ) (evs : List ε), Decidable (Along step P s evs)
  | _, [] => inferInstanceAs (Decidable True)
  | s, e :: evs =>
    have := decidableAlong P (step s e) evs
    inferInstanceAs (Decidable (P s e ∧ Along step P (step s e) evs))

/-- A condition that every step meets is met along every run. -/
theorem along_of_forall {P : σ → ε → Prop} (h : ∀ s e, P s e) (s : σ) (evs : List ε) :
    Along step P s evs := by
  induction evs generalizing s with
  | nil => trivial
  | cons e evs ih => exact ⟨h s e, ih _⟩

/-- What holds of every event of a run holds along it. -/
theorem along_of_forall_mem {P : ε → Prop} {evs : List ε} (h : ∀ e ∈ evs, P e) (s : σ) :
    Along step (fun _ e => P e) s evs := by
  induction evs generalizing s with
  | nil => trivial
  | cons e evs ih =>
    exact ⟨h e List.mem_cons_self, ih (fun e he => h e (List.mem_cons_of_mem _ he)) _⟩

/-- Two conditions that are met along a run are met together. -/
theorem along_and {P Q : σ → ε → Prop} {s : σ} {evs : List ε} (hP : Along step P s evs)
    (hQ : Along step Q s evs) : Along step (fun s e => P s e ∧ Q s e) s evs := by
  induction evs generalizing s with
  | nil => trivial
  | cons e evs ih => exact ⟨⟨hP.1, hQ.1⟩, ih hP.2 hQ.2⟩

/-- What every step preserves holds at the end of every run. -/
theorem run_invariant {I : σ → Prop} (hstep : ∀ s e, I s → I (step s e)) {s : σ} (hs : I s)
    (evs : List ε) : I (run step s evs) := by
  induction evs generalizing s with
  | nil => exact hs
  | cons e evs ih => exact ih (hstep s e hs)

/-- What every step that meets `P` preserves holds at the end of a run whose steps meet `P`. -/
theorem run_invariant_along {I : σ → Prop} {P : σ → ε → Prop}
    (hstep : ∀ s e, I s → P s e → I (step s e)) {s : σ} (hs : I s) {evs : List ε}
    (hP : Along step P s evs) : I (run step s evs) := by
  induction evs generalizing s with
  | nil => exact hs
  | cons e evs ih => exact ih (hstep s e hs hP.1) hP.2

/-- Under an invariant, what `P` implies of one step holds of every step of a run whose steps meet
`P`. -/
theorem along_mono_of_invariant {I : σ → Prop} {P Q : σ → ε → Prop}
    (hstep : ∀ s e, I s → I (step s e)) (himp : ∀ s e, I s → P s e → Q s e) {s : σ} (hs : I s)
    {evs : List ε} (hP : Along step P s evs) : Along step Q s evs := by
  induction evs generalizing s with
  | nil => trivial
  | cons e evs ih => exact ⟨himp s e hs hP.1, ih (hstep s e hs) hP.2⟩

/-- A measure to which every step adds what its event is worth grows by the worth of all events. -/
theorem run_additive {M : Type*} [AddMonoid M] (μ : σ → M) (worth : ε → M)
    (hstep : ∀ s e, μ (step s e) = μ s + worth e) (s : σ) (evs : List ε) :
    μ (run step s evs) = μ s + (evs.map worth).sum := by
  induction evs generalizing s with
  | nil => simp
  | cons e evs ih => rw [run_cons, ih, hstep, List.map_cons, List.sum_cons, add_assoc]

/-- A measure that a step raises by what its event is worth at most is raised by the worth of all
events at most. -/
theorem run_subadditive {M : Type*} [AddMonoid M] [Preorder M] [AddRightMono M] {I : σ → Prop}
    (hI : ∀ s e, I s → I (step s e)) (μ : σ → M) (worth : ε → M)
    (hstep : ∀ s e, I s → μ (step s e) ≤ μ s + worth e) {s : σ} (hs : I s) (evs : List ε) :
    μ (run step s evs) ≤ μ s + (evs.map worth).sum := by
  induction evs generalizing s with
  | nil => simp
  | cons e evs ih =>
    rw [run_cons, List.map_cons, List.sum_cons, ← add_assoc]
    exact (ih (hI s e hs)).trans (add_le_add_left (hstep s e hs) _)

/-- A relation between two machines that is kept by every pair of steps on the same event is kept
by every pair of runs on the same events. -/
theorem run_simulates {R : σ → τ → Prop} {P : τ → ε → Prop} (step' : τ → ε → τ)
    (hstep : ∀ s t e, R s t → P t e → R (step s e) (step' t e)) {s : σ} {t : τ} (hR : R s t)
    {evs : List ε} (hP : Along step' P t evs) : R (run step s evs) (run step' t evs) := by
  induction evs generalizing s t with
  | nil => exact hR
  | cons e evs ih => exact ih (hstep s t e hR hP.1) hP.2

theorem run_append (s : σ) (evs evs' : List ε) :
    run step s (evs ++ evs') = run step (run step s evs) evs' :=
  List.foldl_append

/-- What the steps of a run put out, `out` for each of them. -/
def output {δ : Type*} (out : σ → ε → List δ) : σ → List ε → List δ
  | _, [] => []
  | s, e :: evs => out s e ++ output out (step s e) evs

/-- A machine that is fed the output of every step of another, and follows it step by step, follows
its runs. -/
theorem run_output_simulates {δ : Type*} {R : σ → τ → Prop} {out : σ → ε → List δ}
    (step' : τ → δ → τ) (hstep : ∀ s t e, R s t → R (step s e) (run step' t (out s e)))
    {s : σ} {t : τ} (hR : R s t) (evs : List ε) :
    R (run step s evs) (run step' t (output step out s evs)) := by
  induction evs generalizing s t with
  | nil => exact hR
  | cons e evs ih =>
    rw [run_cons, output, run_append]
    exact ih (hstep s t e hR)

/-- A measure of lists that adds up over appends takes from the output of a run what it takes from
its steps. -/
theorem sum_output {M δ : Type*} [AddMonoid M] {out : σ → ε → List δ}
    (μ : List δ → M) (worth : ε → M)
    (hnil : μ [] = 0) (happend : ∀ ds ds', μ (ds ++ ds') = μ ds + μ ds')
    (hout : ∀ s e, μ (out s e) = worth e) (s : σ) (evs : List ε) :
    μ (output step out s evs) = (evs.map worth).sum := by
  induction evs generalizing s with
  | nil => exact hnil
  | cons e evs ih => rw [output, happend, hout, ih, List.map_cons, List.sum_cons]

/-- What no step adds was held at the start when it is held at the end. -/
theorem of_held_run {α : Type*} {held : σ → α → Prop} {drops : σ → ε → α → Prop}
    (hstep : ∀ s e a, held (step s e) a ↔ held s a ∧ ¬ drops s e a) {s : σ} {evs : List ε} {a : α}
    (h : held (run step s evs) a) : held s a := by
  induction evs generalizing s with
  | nil => exact h
  | cons e evs ih => exact ((hstep s e a).mp (ih h)).1

/-- Where steps only drop what is held, a run keeps all that was held at its start exactly when no
step drops anything that is held there. -/
theorem run_keeps_iff {α : Type*} (held : σ → α → Prop) {drops : σ → ε → α → Prop}
    (hstep : ∀ s e a, held (step s e) a ↔ held s a ∧ ¬ drops s e a) (s : σ) (evs : List ε) :
    (∀ a, held s a → held (run step s evs) a) ↔
      Along step (fun s e => ∀ a, held s a → ¬ drops s e a) s evs := by
  induction evs generalizing s with
  | nil => simp
  | cons e evs ih =>
    rw [run_cons, along_cons, ← ih]
    constructor
    · intro h
      refine ⟨fun a ha => ?_, fun a ha => h a ((hstep s e a).mp ha).1⟩
      exact ((hstep s e a).mp (of_held_run step hstep (h a ha))).2
    · rintro ⟨hspare, hrest⟩ a ha
      exact hrest a ((hstep s e a).mpr ⟨ha, hspare a ha⟩)

end Machine

namespace Revalidate

variable {σ ε : Type*} (stays : σ → ε → Bool) (load : σ → ε → σ)

/-- A call of the cache. -/
def refresh (s : σ) (e : ε) : σ := if stays s e then s else load s e

/-- A state is what a call has loaded. -/
def LoadedBy (e : ε) (s : σ) : Prop := ∃ before, s = load before e

variable {stays load}

/-- After a call the cache is what the call has loaded, or it is as before and may stay for the
call. -/
theorem refresh_cases (s : σ) (e : ε) :
    LoadedBy load e (refresh stays load s e) ∨ refresh stays load s e = s ∧ stays s e = true := by
  rw [refresh]
  split_ifs with h
  · exact .inr ⟨rfl, h⟩
  · exact .inl ⟨s, rfl⟩

/-- Once it has been loaded, the cache is always what one of the calls has loaded. -/
theorem loadedBy_run {s : σ} (hs : ∀ e, stays s e = false) {evs : List ε} (hne : evs ≠ []) :
    ∃ e ∈ evs, LoadedBy load e (Machine.run (refresh stays load) s evs) := by
  induction evs using List.reverseRecOn with
  | nil => exact absurd rfl hne
  | append_singleton evs last ih =>
    rw [Machine.run_append, Machine.run_cons, Machine.run_nil]
    rcases refresh_cases (Machine.run (refresh stays load) s evs) last with hload | ⟨hsame, hstays⟩
    · exact ⟨last, List.mem_append_right _ List.mem_cons_self, hload⟩
    · rw [hsame]
      cases evs with
      | nil => exact absurd hstays (by rw [Machine.run_nil, hs]; exact Bool.false_ne_true)
      | cons e evs =>
        obtain ⟨e', he', hload⟩ := ih (List.cons_ne_nil e evs)
        exact ⟨e', List.mem_append_left _ he', hload⟩

variable (load) in
/-- After any calls the cache is what one of them has loaded, and unless that was the last one, it
may stay for the last one. -/
theorem run_refresh {s : σ} (hs : ∀ e, stays s e = false) (evs : List ε) (last : ε) :
    ∃ e ∈ evs ++ [last], LoadedBy load e (Machine.run (refresh stays load) s (evs ++ [last])) ∧
      (e = last ∨ stays (Machine.run (refresh stays load) s (evs ++ [last])) last = true) := by
  rw [Machine.run_append, Machine.run_cons, Machine.run_nil]
  rcases refresh_cases (Machine.run (refresh stays load) s evs) last with hload | ⟨hsame, hstays⟩
  · exact ⟨last, List.mem_append_right _ List.mem_cons_self, hload, .inl rfl⟩
  · have hne : evs ≠ [] := by
      rintro rfl
      exact absurd hstays (by rw [Machine.run_nil, hs]; exact Bool.false_ne_true)
    obtain ⟨e, he, hload⟩ := loadedBy_run hs hne
    rw [hsame]
    exact ⟨e, List.mem_append_left _ he, hload, .inr hstays⟩

end Revalidate
