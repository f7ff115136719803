import Mathlib

/-!
# Threads at a condition variable

A mutex makes the sections of a program that hold it atomic, so that a thread is seen only between
them: somewhere in the program, blocked in the wait of a condition variable, or taken out of the wait
and about to lock the mutex again. `notify_one` takes out a thread of the scheduler's choice.
-/

namespace Monitor

/-- Where a thread is. `ρ` are the places in the program outside the wait, `β` is what a thread keeps
of itself while it waits. -/
inductive Thread (ρ β : Type*)
  | running (place : ρ)
  | blocked (wait : β)
  | woken (wait : β)
  deriving DecidableEq

namespace Thread

variable {ρ β : Type*}

/-- The thread leaves the wait, if it is in it. -/
def wake : Thread ρ β → Thread ρ β
  | .blocked w => .woken w
  | t => t

/-- What the thread waits for, in the wait or just out of it. -/
def waiting : Thread ρ β → Option β
  | .running _ => none
  | .blocked w | .woken w => some w

def IsBlocked (t : Thread ρ β) : Prop := ∃ w, t = .blocked w

@[simp] lemma isBlocked_blocked (w : β) : (blocked w : Thread ρ β).IsBlocked := ⟨w, rfl⟩

@[simp] lemma not_isBlocked_running (p : ρ) : ¬(running p : Thread ρ β).IsBlocked := nofun

@[simp] lemma not_isBlocked_woken (w : β) : ¬(woken w : Thread ρ β).IsBlocked := nofun

@[simp] lemma wake_ne_blocked (t : Thread ρ β) (w : β) : t.wake ≠ .blocked w := by
  cases t <;> simp [wake]

@[simp] lemma wake_eq_running {t : Thread ρ β} {p : ρ} : t.wake = .running p ↔ t = .running p := by
  cases t <;> simp [wake]

@[simp] lemma wake_eq_woken {t : Thread ρ β} {w : β} :
    t.wake = .woken w ↔ t = .blocked w ∨ t = .woken w := by
  cases t <;> simp [wake]

@[simp] lemma waiting_wake (t : Thread ρ β) : t.wake.waiting = t.waiting := by
  cases t <;> rfl

end Thread

variable {ι ρ β : Type*} {ts ts' ts'' : ι → Thread ρ β} {suits : ι → β → Prop} {i j : ι} {w : β}

def notifyAll (ts : ι → Thread ρ β) : ι → Thread ρ β := fun i => (ts i).wake

/-- `notify_one` when the scheduler chooses thread `i`. -/
def notifyOne [DecidableEq ι] (ts : ι → Thread ρ β) (i : ι) : ι → Thread ρ β :=
  Function.update ts i (ts i).wake

/-- The scheduler may choose any blocked thread, and has to choose one if there is one. -/
def Choice (ts : ι → Thread ρ β) (i : ι) : Prop := ∀ j, (ts j).IsBlocked → (ts i).IsBlocked

lemma notifyAll_apply (ts : ι → Thread ρ β) (i : ι) : notifyAll ts i = (ts i).wake := rfl

/-! ### What threads wait for -/

/-- No thread waits in `ts'` for what it did not wait for in `ts`. -/
def Calmer (ts ts' : ι → Thread ρ β) : Prop :=
  ∀ i w, (ts' i).waiting = some w → (ts i).waiting = some w

lemma Calmer.refl (ts : ι → Thread ρ β) : Calmer ts ts := fun _ _ hw => hw

lemma Calmer.trans (h : Calmer ts ts') (h' : Calmer ts' ts'') : Calmer ts ts'' :=
  fun i w hw => h i w (h' i w hw)

lemma calmer_of_waiting (h : ∀ i, (ts' i).waiting = (ts i).waiting) : Calmer ts ts' := by
  intro i w hw
  rwa [h i] at hw

lemma calmer_notifyAll (ts : ι → Thread ρ β) : Calmer ts (notifyAll ts) :=
  calmer_of_waiting fun i => by rw [notifyAll_apply, Thread.waiting_wake]

/-- Every thread waits for what suits it. -/
def Suited (suits : ι → β → Prop) (ts : ι → Thread ρ β) : Prop :=
  ∀ i w, (ts i).waiting = some w → suits i w

lemma Suited.calmer (h : Suited suits ts) (hcalmer : Calmer ts ts') : Suited suits ts' :=
  fun i w hw => h i w (hcalmer i w hw)

variable [DecidableEq ι]

lemma notifyAll_update_running (ts : ι → Thread ρ β) (i : ι) (p : ρ) :
    notifyAll (Function.update ts i (.running p)) = Function.update (notifyAll ts) i (.running p) := by
  funext j
  by_cases h : j = i
  · subst h
    simp [notifyAll, Thread.wake]
  · simp [notifyAll, h]

lemma notifyOne_self (ts : ι → Thread ρ β) (i : ι) : notifyOne ts i i = (ts i).wake := by
  simp [notifyOne]

lemma notifyOne_ne (ts : ι → Thread ρ β) (h : j ≠ i) : notifyOne ts i j = ts j := by
  simp [notifyOne, h]

lemma notifyOne_eq_blocked : notifyOne ts i j = .blocked w ↔ j ≠ i ∧ ts j = .blocked w := by
  by_cases h : j = i
  · subst h
    simp [notifyOne_self]
  · simp [notifyOne_ne ts h, h]

lemma notifyOne_eq_running {p : ρ} : notifyOne ts i j = .running p ↔ ts j = .running p := by
  by_cases h : j = i
  · subst h
    simp [notifyOne_self]
  · rw [notifyOne_ne ts h]

lemma waiting_notifyOne (ts : ι → Thread ρ β) (i j : ι) :
    (notifyOne ts i j).waiting = (ts j).waiting := by
  by_cases h : j = i
  · subst h
    simp [notifyOne_self]
  · rw [notifyOne_ne ts h]

/-- What a wake-up does not change is not changed by `notify_one`. -/
lemma apply_notifyOne {α : Type*} {f : Thread ρ β → α} (hf : ∀ t, f t.wake = f t) :
    f (notifyOne ts i j) = f (ts j) := by
  by_cases h : j = i
  · subst h
    rw [notifyOne_self, hf]
  · rw [notifyOne_ne ts h]

lemma calmer_notifyOne (ts : ι → Thread ρ β) (i : ι) : Calmer ts (notifyOne ts i) :=
  calmer_of_waiting (waiting_notifyOne ts i)

lemma Calmer.run (h : Calmer ts ts') (i : ι) (p : ρ) : Calmer ts (Function.update ts' i (.running p)) := by
  intro j w hw
  by_cases hji : j = i
  · subst hji
    simp [Thread.waiting] at hw
  · exact h j w (by rwa [Function.update_of_ne hji] at hw)

lemma Suited.block (h : Suited suits ts) (hw : suits i w) : Suited suits (Function.update ts i (.blocked w)) := by
  intro j v hv
  by_cases hji : j = i
  · subst hji
    simp only [Function.update_self, Thread.waiting, Option.some.injEq] at hv
    exact hv ▸ hw
  · exact h j v (by rwa [Function.update_of_ne hji] at hv)

end Monitor
