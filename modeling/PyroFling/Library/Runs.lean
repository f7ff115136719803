import Mathlib

/-!
# Runs of a machine on a list of events

A machine is a function from a state and an event to the next state. A condition on events that may
depend on the state they find is required `Along` a run, and what every such step preserves holds
at its end.
-/

namespace Runs

variable {σ ε α : Type*} {step : σ → ε → σ} {P Q : σ → ε → Prop} {I : σ → Prop}

/-- Every event satisfies `P` in the state it finds. -/
def Along (step : σ → ε → σ) (P : σ → ε → Prop) : σ → List ε → Prop
  | _, [] => True
  | s, e :: es => P s e ∧ Along step P (step s e) es

instance decidableAlong [∀ s e, Decidable (P s e)] :
    (s : σ) → (es : List ε) → Decidable (Along step P s es)
  | _, [] => .isTrue trivial
  | s, e :: es =>
    have := decidableAlong (step s e) es
    inferInstanceAs (Decidable (_ ∧ _))

lemma Along.and {s : σ} {es : List ε} (h : Along step P s es) (h' : Along step Q s es) :
    Along step (fun s e => P s e ∧ Q s e) s es := by
  induction es generalizing s with
  | nil => trivial
  | cons e es ih => exact ⟨⟨h.1, h'.1⟩, ih h.2 h'.2⟩

lemma Along.of_forall {P : ε → Prop} {s : σ} {es : List ε} (h : ∀ e ∈ es, P e) :
    Along step (fun _ e => P e) s es := by
  induction es generalizing s with
  | nil => trivial
  | cons e es ih =>
    exact ⟨h e List.mem_cons_self, ih fun e' he' => h e' (List.mem_cons_of_mem e he')⟩

lemma Along.append {s : σ} {es es' : List ε} (h : Along step P s es)
    (h' : Along step P (es.foldl step s) es') : Along step P s (es ++ es') := by
  induction es generalizing s with
  | nil => exact h'
  | cons e es ih => exact ⟨h.1, ih h.2 h'⟩

lemma Along.left {s : σ} {es es' : List ε} (h : Along step P s (es ++ es')) : Along step P s es := by
  induction es generalizing s with
  | nil => trivial
  | cons e es ih => exact ⟨h.1, ih h.2⟩

lemma Along.right {s : σ} {es es' : List ε} (h : Along step P s (es ++ es')) :
    Along step P (es.foldl step s) es' := by
  induction es generalizing s with
  | nil => exact h
  | cons e es ih => exact ih h.2

/-- What one step preserves, a run preserves. -/
theorem Along.invariant {s : σ} {es : List ε} (h : Along step P s es) (hs : I s)
    (hstep : ∀ s e, I s → P s e → I (step s e)) : I (es.foldl step s) := by
  induction es generalizing s with
  | nil => exact hs
  | cons e es ih => exact ih h.2 (hstep s e hs h.1)

/-- What holds at every step that satisfies `P` in the invariant holds along the run. -/
theorem Along.imp {s : σ} {es : List ε} (h : Along step P s es) (hs : I s)
    (hstep : ∀ s e, I s → P s e → I (step s e)) (hall : ∀ s e, I s → P s e → Q s e) :
    Along step Q s es := by
  induction es generalizing s with
  | nil => trivial
  | cons e es ih => exact ⟨hall s e hs h.1, ih h.2 (hstep s e hs h.1)⟩

/-- What holds at every step as a fact about the state it leads to holds at the end. -/
lemma Along.last {J : σ → Prop} {s : σ} {es : List ε} (h : Along step (fun s e => J (step s e)) s es)
    (hne : es ≠ []) : J (es.foldl step s) := by
  induction es generalizing s with
  | nil => exact absurd rfl hne
  | cons e es ih =>
    cases es with
    | nil => exact h.1
    | cons e' es => exact ih h.2 (List.cons_ne_nil e' es)

/-- A run whose steps all lower a rank is no longer than the rank is high. -/
theorem Along.length_add_rank_le {s : σ} {es : List ε} (h : Along step P s es) (rank : σ → Nat) (hs : I s)
    (hstep : ∀ s e, I s → P s e → I (step s e)) (hrank : ∀ s e, I s → P s e → rank (step s e) < rank s) :
    es.length + rank (es.foldl step s) ≤ rank s := by
  induction es generalizing s with
  | nil => simp
  | cons e es ih =>
    have hrest := ih h.2 (hstep s e hs h.1)
    have hlt := hrank s e hs h.1
    simp only [List.length_cons, List.foldl_cons]
    omega

/-- Conditions that agree in the invariant agree along the run. -/
theorem Along.congr {R : σ → ε → Prop} {s : σ} {es : List ε} (h : Along step P s es) (hs : I s)
    (hstep : ∀ s e, I s → P s e → I (step s e)) (hiff : ∀ s e, I s → P s e → (Q s e ↔ R s e)) :
    Along step Q s es ↔ Along step R s es := by
  constructor
  · intro hq
    exact (h.and hq).imp hs (fun s e hi hpq => hstep s e hi hpq.1)
      fun s e hi hpq => (hiff s e hi hpq.1).1 hpq.2
  · intro hr
    exact (h.and hr).imp hs (fun s e hi hpr => hstep s e hi hpr.1)
      fun s e hi hpr => (hiff s e hi hpr.1).2 hpr.2

/-- If a step that violates `Q` leads to a bad state at once, and steps that satisfy it keep an
invariant that excludes bad states, then the runs without bad states are those along `Q`. -/
theorem Along.iff_safe {B : σ → Prop} {s : σ} {es : List ε} (h : Along step P s es) (hs : I s)
    (hsafe : ∀ s, I s → ¬B s) (hstep : ∀ s e, I s → P s e → Q s e → I (step s e))
    (hbad : ∀ s e, I s → P s e → ¬Q s e → B (step s e)) :
    (∀ es', es' <+: es → ¬B (es'.foldl step s)) ↔ Along step Q s es := by
  induction es generalizing s with
  | nil =>
    refine ⟨fun _ => trivial, fun _ es' hes' => ?_⟩
    rw [List.prefix_nil.1 hes']
    exact hsafe s hs
  | cons e es ih =>
    constructor
    · intro hall
      have hq : Q s e := by
        by_contra hq
        exact hall [e] ⟨es, rfl⟩ (hbad s e hs h.1 hq)
      refine ⟨hq, (ih h.2 (hstep s e hs h.1 hq)).1 fun es' hes' => ?_⟩
      exact hall (e :: es') (List.cons_prefix_cons.2 ⟨rfl, hes'⟩)
    · rintro ⟨hq, hrest⟩ es' hes'
      cases es' with
      | nil => exact hsafe s hs
      | cons e' es' =>
        obtain ⟨rfl, htail⟩ := List.cons_prefix_cons.1 hes'
        exact (ih h.2 (hstep s e' hs h.1 hq)).2 hrest es' htail

/-! ### Observations -/

section Observed

variable {f : σ → ε → Option α} {R : α → α → Prop} {B : α → σ → Prop}

/-- What is seen of the steps of a run. -/
def observed (step : σ → ε → σ) (f : σ → ε → Option α) : σ → List ε → List α
  | _, [] => []
  | s, e :: es => (f s e).toList ++ observed step f (step s e) es

lemma observed_append (s : σ) (es es' : List ε) :
    observed step f s (es ++ es') = observed step f s es ++ observed step f (es.foldl step s) es' := by
  induction es generalizing s with
  | nil => rfl
  | cons e es ih => rw [List.cons_append, observed, observed, ih, List.append_assoc, List.foldl_cons]

/-- A bound that an observation leaves behind and every step keeps relates it to all later ones. -/
lemma Along.bounded {s : σ} {es : List ε} {a : α} (h : Along step P s es) (hs : I s) (ha : B a s)
    (hstep : ∀ s e, I s → P s e → I (step s e))
    (hkeep : ∀ s e a, I s → P s e → B a s → B a (step s e))
    (hrel : ∀ s e a b, I s → P s e → B a s → f s e = some b → R a b) :
    ∀ b ∈ observed step f s es, R a b := by
  induction es generalizing s with
  | nil => exact fun b hb => by cases hb
  | cons e es ih =>
    intro b hb
    rcases List.mem_append.1 hb with hb | hb
    · exact hrel s e a b hs h.1 ha (Option.mem_toList.1 hb)
    · exact ih h.2 (hstep s e hs h.1) (hkeep s e a hs h.1 ha) b hb

theorem Along.pairwise {s : σ} {es : List ε} (h : Along step P s es) (hs : I s)
    (hstep : ∀ s e, I s → P s e → I (step s e))
    (hafter : ∀ s e a, I s → P s e → f s e = some a → B a (step s e))
    (hkeep : ∀ s e a, I s → P s e → B a s → B a (step s e))
    (hrel : ∀ s e a b, I s → P s e → B a s → f s e = some b → R a b) :
    (observed step f s es).Pairwise R := by
  induction es generalizing s with
  | nil => exact List.Pairwise.nil
  | cons e es ih =>
    have hrest := ih h.2 (hstep s e hs h.1)
    rw [observed]
    cases hseen : f s e with
    | none => exact hrest
    | some a =>
      have hbound := hafter s e a hs h.1 hseen
      exact List.pairwise_cons.2 ⟨h.2.bounded (hstep s e hs h.1) hbound hstep hkeep hrel, hrest⟩

end Observed

end Runs
