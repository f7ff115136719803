import PyroFling.CrossFences
import PyroFling.Proofs.ImageStages

/-!
# How the cross-GPU swapchain uses its fences

No step signals a fence that is armed or waits for one that is not, whatever the threads do and whichever
Vulkan calls fail. The fences are in order with respect to a snapshot of the swapchain, and every step of
the swapchain takes the snapshot and the fences along.
-/

namespace PyroFling

open Monitor

/-- Once the swapchain has failed, the application may submit a copy again that the worker did not get,
and the command pool may go while such a copy is pending. -/
def FenceUse.Excused (u : FenceUse) : Prop :=
  u.failed = true ∧ (u.call = .submitSource ∨ u.call = .destroyCommandPool)

namespace Fences

open CrossSwapchain (Snapshot InPlace)

variable {n i : Nat} {v v' : Snapshot} {f : Fences}

/-- Every fence of the sink is in the pool or belongs to one image, and it is armed as long as it belongs
to one, unless its submission has failed. -/
structure Accounted (n : Nat) (f : Fences) : Prop where
  range : ∀ i a, f.sinkAcquireFence i = some a → i < n ∧ a < f.created
  injective : ∀ i j a, f.sinkAcquireFence i = some a → f.sinkAcquireFence j = some a → i = j
  pool : ∀ a ∈ f.sinkFencePool, a < f.created ∧ a ∉ f.sinkArmed ∧ ∀ i, f.sinkAcquireFence i ≠ some a
  length : f.sinkFencePool.length ≤ 1
  fresh : ∀ a ∈ f.sinkArmed, a < f.created
  armed : ∀ i a, f.sinkAcquireFence i = some a → (a ∈ f.sinkArmed ↔ f.unsubmitted ≠ some i)
  unsubmitted : ∀ i, f.unsubmitted = some i → f.sinkAcquireFence i ≠ none

lemma Accounted.congr {f' : Fences} (h : f.Accounted n) (hpool : f'.sinkFencePool = f.sinkFencePool)
    (hassigned : f'.sinkAcquireFence = f.sinkAcquireFence) (hcreated : f'.created = f.created)
    (harmed : f'.sinkArmed = f.sinkArmed) (hunsubmitted : f'.unsubmitted = f.unsubmitted) : f'.Accounted n := by
  obtain ⟨hrange, hinjective, hpool', hlength, hfresh, harmed', hlost⟩ := h
  constructor
  all_goals simp only [hpool, hassigned, hcreated, harmed, hunsubmitted]
  all_goals assumption

/-- The fences agree with where the images are. `leaked` is a fence that was forgotten on the way from
the pool to an image. -/
structure InOrder (n : Nat) (v : Snapshot) (f : Fences) : Prop where
  pool : v.pool = f.sinkFencePool.length
  fenced : ∀ i, v.fenced i = (f.sinkAcquireFence i).isSome
  accounted : f.Accounted n
  assigned : ∀ i ∈ v.outside, f.sinkAcquireFence i ≠ none
  initial : v.worker = .initial → ∀ i ∈ v.sink, f.sinkAcquireFence i = none
  leaked : ∃ leaked : Option Nat, (leaked ≠ none → v.worker = .stopped ∧ f.sinkFencePool = []) ∧
    (∀ a, leaked = some a → a < f.created ∧ ∀ i, f.sinkAcquireFence i ≠ some a) ∧ ∀ a < f.created, a ∈ f.sinkFencePool ∨ (∃ i, f.sinkAcquireFence i = some a) ∨ leaked = some a
  unsubmitted : f.unsubmitted ≠ none → v.worker = .stopped
  pending : ∀ i, v.Pending i → i ∈ f.sourceArmed
  copied : ∀ i ∈ f.sourceArmed, v.failed = true ∨ v.Pending i
  presenting : ∀ i, v.worker = .presenting i → i ∈ f.released
  released : ∀ i ∈ f.released, v.worker = .presenting i ∨ v.worker = .stopped
  uses : ∀ u ∈ f.uses, u.Valid ∨ u.Excused

/-! ### Steps that use no fence -/

lemma InOrder.mono (h : f.InOrder n v) (hpool : v'.pool = v.pool) (hfenced : v'.fenced = v.fenced)
    (hout : v'.outside ⊆ v.outside)
    (hinitial : v'.worker = .initial → v.worker = .initial ∧ v'.sink ⊆ v.sink)
    (hstopped : v.worker = .stopped → v'.worker = .stopped)
    (hpresenting : ∀ i, v'.worker = .presenting i → v.worker = .presenting i)
    (hpresented : ∀ i, v.worker = .presenting i → v'.worker = .presenting i ∨ v'.worker = .stopped)
    (hfailed : v.failed = true → v'.failed = true)
    (hpending : ∀ i, v'.Pending i → v.Pending i)
    (hcopied : ∀ i, v.Pending i → v'.failed = true ∨ v'.Pending i) : f.InOrder n v' where
  pool := hpool.trans h.pool
  fenced i := by rw [hfenced, h.fenced]
  accounted := h.accounted
  assigned i hi := h.assigned i (hout hi)
  initial hi j hj := h.initial (hinitial hi).1 j ((hinitial hi).2 hj)
  leaked := by
    obtain ⟨leaked, hleaked, hcover⟩ := h.leaked
    exact ⟨leaked, fun hne => ⟨hstopped (hleaked hne).1, (hleaked hne).2⟩, hcover⟩
  unsubmitted hne := hstopped (h.unsubmitted hne)
  pending i hi := h.pending i (hpending i hi)
  copied i hi := by
    rcases h.copied i hi with hfail | hpend
    · exact .inl (hfailed hfail)
    · exact hcopied i hpend
  presenting i hi := h.presenting i (hpresenting i hi)
  released i hi := by
    rcases h.released i hi with hpresent | hstop
    · exact hpresented i hpresent
    · exact .inr (hstopped hstop)
  uses := h.uses

/-- The worker and the sink are where they were. -/
lemma InOrder.ofApp (h : f.InOrder n v) (hpool : v'.pool = v.pool) (hfenced : v'.fenced = v.fenced)
    (hout : v'.outside ⊆ v.outside) (hsink : v'.sink = v.sink) (hworker : v'.worker = v.worker)
    (hfailed : v'.failed = v.failed) (hpending : ∀ i, v'.Pending i ↔ v.Pending i) : f.InOrder n v' := by
  refine h.mono hpool hfenced hout ?_ (hworker ▸ id) ?_ ?_ (hfailed ▸ id) (fun i => (hpending i).1) ?_
  · rw [hworker, hsink]
    exact fun hi => ⟨hi, List.Subset.refl _⟩
  · rw [hworker]
    exact fun _ => id
  · rw [hworker]
    exact fun _ => .inl
  · exact fun i hi => .inr ((hpending i).2 hi)

lemma InOrder.fails (h : f.InOrder n v) (b : Bool) : f.InOrder n (v.fails b) := by
  refine h.mono rfl rfl (List.Subset.refl _) (fun hi => ⟨hi, List.Subset.refl _⟩) id (fun _ => id)
    (fun _ => .inl) ?_ (fun _ => id) (fun _ => .inr)
  intro hfailed
  simp [Snapshot.fails, hfailed]

lemma InOrder.stop (h : f.InOrder n v) (hfailed : v.failed = true) :
    f.InOrder n { v with worker := .stopped } := by
  refine h.mono rfl rfl (List.Subset.refl _) (fun hi => by cases hi) (fun _ => rfl)
    (fun _ hi => by cases hi) (fun _ _ => .inr rfl) id ?_ (fun _ _ => .inl hfailed)
  rintro i (hwork | hcopying | hqueueing)
  · exact .inl hwork
  · cases hcopying
  · exact .inr (.inr hqueueing)

lemma InOrder.use (h : f.InOrder n v) {u : FenceUse} (hu : u.Valid ∨ u.Excused) :
    (f.use u.call u.armed u.failed).InOrder n v where
  pool := h.pool
  fenced := h.fenced
  accounted := h.accounted.congr rfl rfl rfl rfl rfl
  assigned := h.assigned
  initial := h.initial
  leaked := h.leaked
  unsubmitted := h.unsubmitted
  pending := h.pending
  copied := h.copied
  presenting := h.presenting
  released := h.released
  uses := by
    intro u' hu'
    rcases List.mem_append.1 hu' with hu' | hu'
    · exact h.uses u' hu'
    · rw [List.mem_singleton.1 hu']
      exact hu

/-- A snapshot with fences that are in order. -/
structure Aligned (n : Nat) (v : Snapshot) (f : Fences) : Prop where
  placed : InPlace n v
  order : f.InOrder n v

lemma Aligned.use (h : Aligned n v f) {u : FenceUse} (hu : u.Valid ∨ u.Excused) :
    Aligned n v (f.use u.call u.armed u.failed) :=
  ⟨h.placed, h.order.use hu⟩

lemma Aligned.fails (h : Aligned n v f) (b : Bool) : Aligned n (v.fails b) f :=
  ⟨h.placed.fails b, h.order.fails b⟩

lemma Aligned.stop (h : Aligned n v f) (hfailed : v.failed = true) : Aligned n { v with worker := .stopped } f :=
  ⟨h.placed.stop hfailed, h.order.stop hfailed⟩

lemma Aligned.failAndStop (h : Aligned n v f) : Aligned n { v.fails true with worker := .stopped } f :=
  (h.fails true).stop (by simp [Snapshot.fails])

/-- The application leaves a call. A copy that it has submitted and not passed on is lost with the
swapchain. -/
lemma Aligned.leave (h : Aligned n v f) (happ : ∀ j, v.app = .queueing j → v.failed = true) :
    Aligned n { v with app := .outside } f := by
  refine ⟨h.placed.leave, ?_⟩
  refine h.order.mono rfl rfl (List.Subset.refl _) (fun hi => ⟨hi, List.Subset.refl _⟩) id (fun _ => id)
    (fun _ => .inl) id ?_ ?_
  · rintro i (hwork | hcopying | hqueueing)
    · exact .inl hwork
    · exact .inr (.inl hcopying)
    · cases hqueueing
  · rintro i (hwork | hcopying | hqueueing)
    · exact .inr (.inl hwork)
    · exact .inr (.inr (.inl hcopying))
    · exact .inl (happ i hqueueing)

lemma pending_congr (hwork : v'.work = v.work) (hworker : v'.worker = v.worker)
    (happ : ∀ j, v.app ≠ .queueing j) (happ' : ∀ j, v'.app ≠ .queueing j) (i : Nat) :
    v'.Pending i ↔ v.Pending i := by
  simp [Snapshot.Pending, hwork, hworker, happ, happ']

lemma Aligned.enter (h : Aligned n v f) (happ : ∀ j, v.app ≠ .queueing j) (hi : i ∈ v.held) :
    Aligned n { v with app := .passing i } f := by
  refine ⟨h.placed.enter rfl hi, ?_⟩
  exact h.order.ofApp rfl rfl (List.Subset.refl _) rfl rfl rfl
    (pending_congr rfl rfl happ fun j hj => by cases hj)

lemma Aligned.take (h : Aligned n v f) (happ : ∀ j, v.app ≠ .queueing j) {rest : List Nat}
    (hqueue : v.acquireQueue = i :: rest) :
    Aligned n { v with acquireQueue := rest, held := v.held ++ [i], app := .passing i } f := by
  refine ⟨h.placed.take hqueue, ?_⟩
  refine h.order.ofApp rfl rfl ?_ rfl rfl rfl (pending_congr rfl rfl happ fun j hj => by cases hj)
  intro j hj
  simp only [Snapshot.outside, hqueue, List.mem_append, List.mem_cons, List.not_mem_nil] at hj ⊢
  tauto

lemma Aligned.drop (h : Aligned n v f) (happ : ∀ j, v.app ≠ .queueing j) (i : Nat) :
    Aligned n { v with held := v.held.erase i, app := .outside } f := by
  refine ⟨h.placed.drop i, ?_⟩
  refine h.order.ofApp rfl rfl ?_ rfl rfl rfl (pending_congr rfl rfl happ fun j hj => by cases hj)
  exact List.append_subset.2 ⟨fun j hj => List.mem_append_left _ (List.mem_of_mem_erase hj),
    List.subset_append_right _ _⟩

lemma Aligned.putBack (h : Aligned n v f) (happ : ∀ j, v.app ≠ .queueing j) (hi : i ∈ v.held) :
    Aligned n { v with held := v.held.erase i, acquireQueue := v.acquireQueue ++ [i], app := .outside } f := by
  refine ⟨h.placed.putBack hi, ?_⟩
  refine h.order.ofApp rfl rfl ?_ rfl rfl rfl (pending_congr rfl rfl happ fun j hj => by cases hj)
  intro j hj
  simp only [Snapshot.outside, List.mem_append, List.mem_singleton] at hj ⊢
  rcases hj with hj | (hj | rfl) | hj
  · exact .inl (List.mem_of_mem_erase hj)
  · exact .inr (.inl hj)
  · exact .inl hi
  · exact .inr (.inr hj)

/-- The application passes a copy on to the worker. -/
lemma Aligned.push (h : Aligned n v f) (happ : v.app = .queueing i) :
    Aligned n { v with held := v.held.erase i, work := v.work ++ [i], ahead := v.ahead + 1, app := .outside } f := by
  have hi : i ∈ v.held := h.placed.app i (by rw [happ]; rfl)
  refine ⟨h.placed.push hi, ?_⟩
  refine h.order.ofApp rfl rfl ?_ rfl rfl rfl ?_
  · intro j hj
    simp only [Snapshot.outside, List.mem_append, List.mem_singleton] at hj ⊢
    rcases hj with hj | hj | (hj | rfl) | hj
    · exact .inl (List.mem_of_mem_erase hj)
    · exact .inr (.inl hj)
    · exact .inr (.inr (.inl hj))
    · exact .inl hi
    · exact .inr (.inr (.inr hj))
  · intro j
    simp only [Snapshot.Pending, happ, List.mem_append, List.mem_singleton, CrossSwapchain.AppStage.queueing.injEq,
      reduceCtorEq, or_false]
    constructor
    · rintro ((hj | rfl) | hj)
      · exact .inl hj
      · exact .inr (.inr rfl)
      · exact .inr (.inl hj)
    · rintro (hj | hj | rfl)
      · exact .inl (.inl hj)
      · exact .inr hj
      · exact .inl (.inr rfl)

/-- The worker goes on without having to do with a copy. -/
lemma Aligned.rest (h : Aligned n v f) (hworker : v.worker = .initial ∨ v.worker = .resting) :
    Aligned n { v with worker := .resting } f := by
  have himage : v.worker.unread = 0 := by
    rcases hworker with hw | hw <;> rw [hw] <;> rfl
  refine ⟨h.placed.goto (fun i hi => by cases hi) himage.symm (fun hno => by cases hno) (fun hno => by cases hno), ?_⟩
  refine h.order.mono rfl rfl (List.Subset.refl _) (fun hi => by cases hi) ?_ (fun _ hi => by cases hi) ?_ id ?_ ?_
  · intro hstopped
    rcases hworker with hw | hw <;> rw [hw] at hstopped <;> cases hstopped
  · intro i hpresenting
    rcases hworker with hw | hw <;> rw [hw] at hpresenting <;> cases hpresenting
  · rintro i (hwork | hcopying | hqueueing)
    · exact .inl hwork
    · cases hcopying
    · exact .inr (.inr hqueueing)
  · rintro i (hwork | hcopying | hqueueing)
    · exact .inr (.inl hwork)
    · rcases hworker with hw | hw <;> rw [hw] at hcopying <;> cases hcopying
    · exact .inr (.inr (.inr hqueueing))

lemma Aligned.takeWork (h : Aligned n v f) (hworker : v.worker = .resting) {rest : List Nat} (hwork : v.work = i :: rest) :
    Aligned n { v with work := rest, processing := v.processing ++ [i], worker := .copying i } f := by
  refine ⟨h.placed.takeWork hwork (by rw [hworker]; rfl), ?_⟩
  refine h.order.mono rfl rfl ?_ (fun hi => by cases hi) ?_ (fun _ hi => by cases hi) ?_ id ?_ ?_
  · intro j hj
    simp only [Snapshot.outside, hwork, List.mem_append, List.mem_cons, List.not_mem_nil] at hj ⊢
    tauto
  · intro hstopped
    rw [hworker] at hstopped
    cases hstopped
  · intro j hpresenting
    rw [hworker] at hpresenting
    cases hpresenting
  · rintro j (hj | hcopying | hqueueing)
    · exact .inl (by rw [hwork]; exact List.mem_cons_of_mem _ hj)
    · cases hcopying
      exact .inl (by rw [hwork]; exact List.mem_cons_self)
    · exact .inr (.inr hqueueing)
  · rintro j (hj | hcopying | hqueueing)
    · rw [hwork] at hj
      rcases List.mem_cons.1 hj with rfl | hj
      · exact .inr (.inr (.inl rfl))
      · exact .inr (.inl hj)
    · rw [hworker] at hcopying
      cases hcopying
    · exact .inr (.inr (.inr hqueueing))

lemma Aligned.releaseFront (h : Aligned n v f) (hworker : v.worker = .stopped) {rest : List Nat}
    (hqueue : v.acquireQueue = i :: rest) :
    Aligned n { v with acquireQueue := rest, sink := v.sink ++ [i] } f := by
  refine ⟨h.placed.releaseFront hqueue, ?_⟩
  refine h.order.mono rfl rfl ?_ ?_ id (fun _ => id) (fun _ => .inl) id (fun _ => id) (fun _ => .inr)
  · intro j hj
    simp only [Snapshot.outside, hqueue, List.mem_append, List.mem_cons] at hj ⊢
    tauto
  · intro hinitial
    rw [show v.worker = _ from hinitial] at hworker
    cases hworker

/-! ### The source -/

/-- A copy that the application submits is not armed, unless it has been lost with the swapchain. -/
lemma Aligned.submittable (h : Aligned n v f) (happ : v.app = .passing i) :
    FenceUse.Valid ⟨.submitSource, decide (i ∈ f.sourceArmed), v.failed⟩ ∨
      FenceUse.Excused ⟨.submitSource, decide (i ∈ f.sourceArmed), v.failed⟩ := by
  by_cases harmed : i ∈ f.sourceArmed
  · have hi : i ∈ v.held := h.placed.app i (by rw [happ]; rfl)
    have hno := h.placed.notMem_of_held hi
    right
    refine ⟨?_, .inl rfl⟩
    rcases h.order.copied i harmed with hfailed | hwork | hcopying | hqueueing
    · exact hfailed
    · exact absurd hwork hno.1
    · exact absurd (h.placed.worker i (by rw [hcopying]; rfl)) hno.2
    · rw [happ] at hqueueing
      cases hqueueing
  · left
    simp [FenceUse.Valid, FenceUse.waits, harmed]

lemma Aligned.submit (h : Aligned n v f) (happ : v.app = .passing i) :
    Aligned n { v with app := .queueing i } { f with sourceArmed := insert i f.sourceArmed } := by
  have hi : i ∈ v.held := h.placed.app i (by rw [happ]; rfl)
  refine ⟨h.placed.enter rfl hi, ?_⟩
  refine { h.order with accounted := h.order.accounted.congr rfl rfl rfl rfl rfl, pending := ?_, copied := ?_ }
  · rintro j (hwork | hcopying | hqueueing)
    · exact Finset.mem_insert_of_mem (h.order.pending j (.inl hwork))
    · exact Finset.mem_insert_of_mem (h.order.pending j (.inr (.inl hcopying)))
    · cases hqueueing
      exact Finset.mem_insert_self _ _
  · intro j hj
    rcases Finset.mem_insert.1 hj with rfl | hj
    · exact .inr (.inr (.inr rfl))
    · rcases h.order.copied j hj with hfailed | hwork | hcopying | hqueueing
      · exact .inl hfailed
      · exact .inr (.inl hwork)
      · exact .inr (.inr (.inl hcopying))
      · rw [happ] at hqueueing
        cases hqueueing

lemma Aligned.sourceDone (h : Aligned n v f) (hworker : v.worker = .copying i) :
    Aligned n { v with ahead := v.ahead - 1, worker := .copied i }
      { f with sourceArmed := f.sourceArmed.erase i } := by
  have hi : i ∈ v.processing := h.placed.worker i (by rw [hworker]; rfl)
  have hstage : ∀ stage, stage ≠ .copying i → v.worker ≠ stage := by
    rintro stage hne hw
    exact hne (hw ▸ hworker)
  refine ⟨h.placed.sourceDone hworker, ?_⟩
  refine {
    pool := h.order.pool
    fenced := h.order.fenced
    accounted := h.order.accounted.congr rfl rfl rfl rfl rfl
    assigned := h.order.assigned
    initial := fun hno => by cases hno
    leaked := ?_
    unsubmitted := fun hne => absurd (h.order.unsubmitted hne) (hstage _ (by simp))
    pending := ?_
    copied := ?_
    presenting := fun _ hno => by cases hno
    released := ?_
    uses := h.order.uses }
  · obtain ⟨leaked, hleaked, hcover⟩ := h.order.leaked
    exact ⟨leaked, fun hne => absurd (hleaked hne).1 (hstage _ (by simp)), hcover⟩
  · rintro j (hwork | hcopying | hqueueing)
    · refine Finset.mem_erase.2 ⟨?_, h.order.pending j (.inl hwork)⟩
      rintro rfl
      exact h.placed.notMem_of_processing hi hwork
    · cases hcopying
    · refine Finset.mem_erase.2 ⟨?_, h.order.pending j (.inr (.inr hqueueing))⟩
      rintro rfl
      exact (h.placed.notMem_of_held (h.placed.app j (by rw [show v.app = _ from hqueueing]; rfl))).2 hi
  · intro j hj
    obtain ⟨hne, hj⟩ := Finset.mem_erase.1 hj
    rcases h.order.copied j hj with hfailed | hwork | hcopying | hqueueing
    · exact .inl hfailed
    · exact .inr (.inl hwork)
    · rw [hworker] at hcopying
      cases hcopying
      exact absurd rfl hne
    · exact .inr (.inr (.inr hqueueing))
  · intro j hj
    rcases h.order.released j hj with hpresenting | hstopped
    · exact absurd hpresenting (hstage _ (by simp))
    · exact absurd hstopped (hstage _ (by simp))

/-! ### The sink -/

/-- An image that the worker copies has a fence that is armed and a semaphore that is not. -/
lemma Aligned.sinkReady (h : Aligned n v f) (hworker : v.worker = .copied i) :
    ∃ a, f.sinkAcquireFence i = some a ∧ a ∈ f.sinkArmed ∧ i ∉ f.released := by
  have hout : i ∈ v.outside := by
    have hi : i ∈ v.processing := h.placed.worker i (by rw [hworker]; rfl)
    simp [Snapshot.outside, hi]
  obtain ⟨a, ha⟩ := Option.ne_none_iff_exists'.1 (h.order.assigned i hout)
  have hnone : f.unsubmitted = none := by
    by_contra hne
    have hstopped := h.order.unsubmitted hne
    rw [hworker] at hstopped
    cases hstopped
  refine ⟨a, ha, (h.order.accounted.armed i a ha).2 (by simp [hnone]), ?_⟩
  intro hreleased
  rcases h.order.released i hreleased with hno | hno
  · rw [hworker] at hno
    cases hno
  · rw [hworker] at hno
    cases hno

lemma Aligned.submitSink (h : Aligned n v f) (hworker : v.worker = .copied i) :
    Aligned n { v with worker := .presenting i } { f with released := insert i f.released } := by
  have hi : i ∈ v.processing := h.placed.worker i (by rw [hworker]; rfl)
  have hstage : ∀ stage, stage ≠ .copied i → v.worker ≠ stage := by
    rintro stage hne hw
    exact hne (hw ▸ hworker)
  refine ⟨h.placed.goto ?_ (by rw [hworker]; rfl) (fun hno => by cases hno) (fun hno => by cases hno), ?_⟩
  · intro j hj
    cases hj
    exact hi
  refine {
    pool := h.order.pool
    fenced := h.order.fenced
    accounted := h.order.accounted.congr rfl rfl rfl rfl rfl
    assigned := h.order.assigned
    initial := fun hno => by cases hno
    leaked := ?_
    unsubmitted := fun hne => absurd (h.order.unsubmitted hne) (hstage _ (by simp))
    pending := ?_
    copied := ?_
    presenting := ?_
    released := ?_
    uses := h.order.uses }
  · obtain ⟨leaked, hleaked, hcover⟩ := h.order.leaked
    exact ⟨leaked, fun hne => absurd (hleaked hne).1 (hstage _ (by simp)), hcover⟩
  · rintro j (hwork | hcopying | hqueueing)
    · exact h.order.pending j (.inl hwork)
    · cases hcopying
    · exact h.order.pending j (.inr (.inr hqueueing))
  · intro j hj
    rcases h.order.copied j hj with hfailed | hwork | hcopying | hqueueing
    · exact .inl hfailed
    · exact .inr (.inl hwork)
    · exact absurd hcopying (hstage _ (by simp))
    · exact .inr (.inr (.inr hqueueing))
  · intro j hj
    cases hj
    exact Finset.mem_insert_self _ _
  · intro j hj
    rcases Finset.mem_insert.1 hj with rfl | hj
    · exact .inl rfl
    · rcases h.order.released j hj with hno | hno
      · exact absurd hno (hstage _ (by simp))
      · exact absurd hno (hstage _ (by simp))

/-- The fence of a submission that fails has been reset for nothing. -/
lemma Aligned.submitFails (h : Aligned n v f) (hworker : v.worker = .copied i) {a : Nat}
    (ha : f.sinkAcquireFence i = some a) :
    Aligned n { v.fails true with worker := .stopped }
      { f with sinkArmed := f.sinkArmed.erase a, unsubmitted := some i } := by
  have hstopped := h.failAndStop
  have hnone : f.unsubmitted = none := by
    by_contra hne
    have hno := h.order.unsubmitted hne
    rw [hworker] at hno
    cases hno
  refine ⟨hstopped.placed, { hstopped.order with accounted := ?_, unsubmitted := fun _ => rfl }⟩
  obtain ⟨hrange, hinjective, hpool, hlength, hfresh, harmed, -⟩ := h.order.accounted
  refine ⟨hrange, hinjective, ?_, hlength, fun b hb => hfresh b (Finset.mem_of_mem_erase hb), ?_, ?_⟩
  · intro b hb
    obtain ⟨hlt, hno, hfree⟩ := hpool b hb
    exact ⟨hlt, fun hb' => hno (Finset.mem_of_mem_erase hb'), hfree⟩
  · intro j b hb
    have hb' : b ∈ f.sinkArmed := (harmed j b hb).2 (by simp [hnone])
    simp only [Finset.mem_erase, hb', and_true, ne_eq, Option.some.injEq]
    constructor
    · rintro hne rfl
      rw [ha] at hb
      exact hne (Option.some.inj hb).symm
    · rintro hne rfl
      exact hne (hinjective i j b ha hb)
  · rintro j hj
    cases hj
    simp [ha]

lemma Aligned.present (h : Aligned n v f) (hworker : v.worker = .presenting i) :
    Aligned n { v with processing := v.processing.erase i, sink := v.sink ++ [i], worker := .resting }
      { f with released := f.released.erase i } := by
  have hstage : ∀ stage, stage ≠ .presenting i → v.worker ≠ stage := by
    rintro stage hne hw
    exact hne (hw ▸ hworker)
  refine ⟨h.placed.present hworker, ?_⟩
  refine {
    pool := h.order.pool
    fenced := h.order.fenced
    accounted := h.order.accounted.congr rfl rfl rfl rfl rfl
    assigned := ?_
    initial := fun hno => by cases hno
    leaked := ?_
    unsubmitted := fun hne => absurd (h.order.unsubmitted hne) (hstage _ (by simp))
    pending := ?_
    copied := ?_
    presenting := fun _ hno => by cases hno
    released := ?_
    uses := h.order.uses }
  · intro j hj
    apply h.order.assigned j
    simp only [Snapshot.outside, List.mem_append] at hj ⊢
    rcases hj with hj | hj | hj | hj
    · exact .inl hj
    · exact .inr (.inl hj)
    · exact .inr (.inr (.inl hj))
    · exact .inr (.inr (.inr (List.mem_of_mem_erase hj)))
  · obtain ⟨leaked, hleaked, hcover⟩ := h.order.leaked
    exact ⟨leaked, fun hne => absurd (hleaked hne).1 (hstage _ (by simp)), hcover⟩
  · rintro j (hwork | hcopying | hqueueing)
    · exact h.order.pending j (.inl hwork)
    · cases hcopying
    · exact h.order.pending j (.inr (.inr hqueueing))
  · intro j hj
    rcases h.order.copied j hj with hfailed | hwork | hcopying | hqueueing
    · exact .inl hfailed
    · exact .inr (.inl hwork)
    · exact absurd hcopying (hstage _ (by simp))
    · exact .inr (.inr (.inr hqueueing))
  · intro j hj
    obtain ⟨hne, hj⟩ := Finset.mem_erase.1 hj
    rcases h.order.released j hj with hno | hno
    · rw [hworker] at hno
      cases hno
      exact absurd rfl hne
    · exact absurd hno (hstage _ (by simp))

/-! ### Acquiring an image of the sink -/

/-- The pool has one fence when `AcquireNextImageKHR` is called, and it is not armed. -/
lemma Aligned.fillPool (h : Aligned n v f) (hworker : v.worker ≠ .stopped) :
    Aligned n { v with pool := 1 } f.fillPool ∧ ∃ fence, f.fillPool.sinkFencePool = [fence] := by
  obtain ⟨hrange, hinjective, hpool, hlength, hfresh, harmed, hlost⟩ := h.order.accounted
  obtain ⟨leaked, hleaked, -, hcover⟩ := h.order.leaked
  have hnone : leaked = none := by
    by_contra hne
    exact hworker (hleaked hne).1
  have hplaced : InPlace n { v with pool := 1 } :=
    h.placed.of_count (fun _ => le_rfl) h.placed.app h.placed.worker h.placed.count h.placed.stopped h.placed.working
  by_cases hempty : f.sinkFencePool = []
  · rw [Fences.fillPool, if_pos hempty]
    refine ⟨⟨hplaced, { h.order with pool := rfl, accounted := ?_, leaked := ⟨none, ?_, ?_, ?_⟩ }⟩, _, rfl⟩
    · refine ⟨?_, hinjective, ?_, le_rfl, ?_, harmed, hlost⟩
      · exact fun i a ha => ⟨(hrange i a ha).1, Nat.lt_succ_of_lt (hrange i a ha).2⟩
      · intro a ha
        rw [List.mem_singleton.1 ha]
        exact ⟨Nat.lt_succ_self _, fun hno => absurd (hfresh _ hno) (lt_irrefl _),
          fun i hi => absurd (hrange i _ hi).2 (lt_irrefl _)⟩
      · exact fun a ha => Nat.lt_succ_of_lt (hfresh a ha)
    · exact fun hno => absurd rfl hno
    · exact fun _ hno => by cases hno
    · intro a ha
      rcases Nat.lt_succ_iff_lt_or_eq.1 ha with hlt | rfl
      · rcases hcover a hlt with hmem | hassigned | hleak
        · rw [hempty] at hmem
          cases hmem
        · exact .inr (.inl hassigned)
        · rw [hnone] at hleak
          cases hleak
      · exact .inl (List.mem_singleton_self _)
  · rw [Fences.fillPool, if_neg hempty]
    obtain ⟨fence, hfence⟩ := List.length_eq_one_iff.1
      (le_antisymm hlength (List.length_pos_iff.2 hempty))
    exact ⟨⟨hplaced, { h.order with
      pool := by rw [hfence]; rfl
      accounted := h.order.accounted }⟩, fence, hfence⟩

section Assign

variable {fence : Nat}

/-- The fence of the pool goes to an image, and the fence that the image had goes to the pool. -/
lemma Accounted.assign (h : f.Accounted n) (hpool : f.sinkFencePool = [fence]) (hi : i < n)
    (hunsubmitted : f.unsubmitted = none) {armed : Finset Nat}
    (harmed : ∀ a, a ∈ armed ↔ (a = fence ∨ a ∈ f.sinkArmed) ∧ f.sinkAcquireFence i ≠ some a) :
    { f with
      sinkFencePool := (f.sinkAcquireFence i).toList, sinkArmed := armed
      sinkAcquireFence := Function.update f.sinkAcquireFence i (some fence) : Fences }.Accounted n := by
  obtain ⟨hfence, hidle, hfree⟩ := h.pool fence (by rw [hpool]; exact List.mem_singleton_self _)
  have hcases : ∀ j a, Function.update f.sinkAcquireFence i (some fence) j = some a →
      j = i ∧ a = fence ∨ j ≠ i ∧ f.sinkAcquireFence j = some a := by
    intro j a ha
    by_cases hj : j = i
    · subst hj
      rw [Function.update_self, Option.some.injEq] at ha
      exact .inl ⟨rfl, ha.symm⟩
    · rw [Function.update_of_ne hj] at ha
      exact .inr ⟨hj, ha⟩
  constructor
  · intro j a ha
    rcases hcases j a ha with ⟨rfl, rfl⟩ | ⟨-, ha⟩
    · exact ⟨hi, hfence⟩
    · exact h.range j a ha
  · intro j k a hj hk
    rcases hcases j a hj with ⟨rfl, rfl⟩ | ⟨-, hj'⟩
    · rcases hcases k a hk with ⟨rfl, -⟩ | ⟨-, hk'⟩
      · rfl
      · exact absurd hk' (hfree k)
    · rcases hcases k a hk with ⟨-, rfl⟩ | ⟨-, hk'⟩
      · exact absurd hj' (hfree j)
      · exact h.injective j k a hj' hk'
  · intro a ha
    have hold : f.sinkAcquireFence i = some a := by simpa using ha
    refine ⟨(h.range i a hold).2, fun hno => ((harmed a).1 hno).2 hold, ?_⟩
    intro j hj
    rcases hcases j a hj with ⟨-, rfl⟩ | ⟨hne, hj⟩
    · exact hfree i hold
    · exact hne (h.injective j i a hj hold)
  · cases f.sinkAcquireFence i <;> simp
  · intro a ha
    rcases ((harmed a).1 ha).1 with rfl | ha
    · exact hfence
    · exact h.fresh a ha
  · intro j a ha
    simp only [hunsubmitted, ne_eq, reduceCtorEq, not_false_eq_true, iff_true]
    rcases hcases j a ha with ⟨rfl, rfl⟩ | ⟨hne, ha⟩
    · exact (harmed a).2 ⟨.inl rfl, hfree j⟩
    · refine (harmed a).2 ⟨.inr ((h.armed j a ha).2 (by simp [hunsubmitted])), ?_⟩
      exact fun hold => hne (h.injective j i a ha hold)
  · intro j hj
    rw [show f.unsubmitted = some j from hj] at hunsubmitted
    cases hunsubmitted

lemma Aligned.unsubmitted (h : Aligned n v f) (hworker : v.worker ≠ .stopped) : f.unsubmitted = none := by
  by_contra hne
  exact hworker (h.order.unsubmitted hne)

lemma Aligned.assign (h : Aligned n v f) (hpool : f.sinkFencePool = [fence]) (hworker : v.worker ≠ .stopped)
    (hi : i ∈ v.sink) (armed : Finset Nat)
    (harmed : ∀ a, a ∈ armed ↔ (a = fence ∨ a ∈ f.sinkArmed) ∧ f.sinkAcquireFence i ≠ some a) :
    Aligned n { v with
        pool := (f.sinkAcquireFence i).toList.length, fenced := Function.update v.fenced i true
        sink := v.sink.erase i, acquireQueue := v.acquireQueue ++ [i] }
      { f with
        sinkFencePool := (f.sinkAcquireFence i).toList, sinkArmed := armed
        sinkAcquireFence := Function.update f.sinkAcquireFence i (some fence) } := by
  have hlt : i < n := h.placed.lt (List.mem_append_right _ hi)
  have hplaced := h.placed.pump hi
  refine ⟨hplaced.of_count (fun _ => le_rfl) hplaced.app hplaced.worker hplaced.count hplaced.stopped
    hplaced.working, ?_⟩
  refine { h.order with
    pool := rfl
    fenced := ?_
    accounted := h.order.accounted.assign hpool hlt (h.unsubmitted hworker) harmed
    assigned := ?_
    initial := ?_
    leaked := ⟨none, fun hno => absurd rfl hno, fun _ hno => (by cases hno), ?_⟩ }
  · intro j
    by_cases hj : j = i
    · subst hj
      simp
    · simpa [hj] using h.order.fenced j
  · intro j hj
    by_cases hji : j = i
    · subst hji
      simp
    · dsimp only
      rw [Function.update_of_ne hji]
      apply h.order.assigned j
      simp only [Snapshot.outside, List.mem_append, List.mem_singleton, hji, or_false] at hj ⊢
      exact hj
  · intro hinitial j hj
    have hji : j ≠ i := by
      rintro rfl
      have hcount := h.placed.count_le j
      have herase := CrossSwapchain.count_erase_add hi j
      have hpos := List.count_pos_iff.2 hj
      rw [if_pos rfl] at herase
      dsimp only at hpos
      omega
    dsimp only
    rw [Function.update_of_ne hji]
    exact h.order.initial hinitial j (List.mem_of_mem_erase hj)
  · intro a ha
    obtain ⟨leaked, hleaked, -, hcover⟩ := h.order.leaked
    rcases hcover a ha with hmem | ⟨j, hj⟩ | hleak
    · rw [hpool, List.mem_singleton] at hmem
      subst hmem
      exact .inr (.inl ⟨i, Function.update_self i _ _⟩)
    · by_cases hji : j = i
      · subst hji
        exact .inl (by simp [hj])
      · exact .inr (.inl ⟨j, (Function.update_of_ne hji _ _).trans hj⟩)
    · exact absurd (hleaked (by simp [hleak])).1 hworker

/-- The fence that was to take the place of another is forgotten if that one cannot be reset. -/
lemma Aligned.forget (h : Aligned n v f) (hpool : f.sinkFencePool = [fence]) (hworker : v.worker ≠ .stopped)
    (hi : i ∈ v.sink) (hold : f.sinkAcquireFence i ≠ none) :
    Aligned n { v with
        pool := 0, failed := true, worker := .stopped
        sink := v.sink.erase i, processing := v.processing ++ [i] }
      { f with sinkFencePool := [], sinkArmed := insert fence f.sinkArmed } := by
  obtain ⟨hfence, hidle, hfree⟩ := h.order.accounted.pool fence (by rw [hpool]; exact List.mem_singleton_self _)
  have hstopped := h.failAndStop
  have hplaced := (h.placed.keep hi).fails true
  have hplaced' := hplaced.stop (by simp [Snapshot.fails])
  refine ⟨hplaced'.of_count (fun _ => le_rfl) hplaced'.app hplaced'.worker (fun hno => by cases hno)
    (fun _ => rfl) (fun hno => by cases hno), ?_⟩
  refine { h.order with
    pool := rfl
    accounted := ?_
    assigned := ?_
    initial := fun hno => by cases hno
    leaked := ⟨some fence, fun _ => ⟨rfl, rfl⟩, ?_, ?_⟩
    unsubmitted := fun _ => rfl
    pending := ?_
    copied := fun _ _ => .inl rfl
    presenting := fun _ hno => by cases hno
    released := fun _ _ => .inr rfl }
  · obtain ⟨hrange, hinjective, -, -, hfresh, harmed, hlost⟩ := h.order.accounted
    refine ⟨hrange, hinjective, (fun a ha => by cases ha), Nat.zero_le _, ?_, ?_, hlost⟩
    · intro a ha
      rcases Finset.mem_insert.1 ha with rfl | ha
      · exact hfence
      · exact hfresh a ha
    · intro j a ha
      rw [← harmed j a ha, Finset.mem_insert, or_iff_right_iff_imp]
      rintro rfl
      exact absurd ha (hfree j)
  · intro j hj
    by_cases hji : j = i
    · rwa [hji]
    · apply h.order.assigned j
      simp only [Snapshot.outside, List.mem_append, List.mem_singleton, hji, or_false] at hj ⊢
      exact hj
  · intro a ha
    cases ha
    exact ⟨hfence, hfree⟩
  · intro a ha
    obtain ⟨leaked, hleaked, -, hcover⟩ := h.order.leaked
    rcases hcover a ha with hmem | hassigned | hleak
    · rw [hpool, List.mem_singleton] at hmem
      exact .inr (.inr (by rw [hmem]))
    · exact .inr (.inl hassigned)
    · exact absurd (hleaked (by simp [hleak])).1 hworker
  · rintro j (hwork | hcopying | hqueueing)
    · exact h.order.pending j (.inl hwork)
    · cases hcopying
    · exact h.order.pending j (.inr (.inr hqueueing))

end Assign

/-- While nothing has failed, the command pool goes when no copy is in flight. -/
lemma Aligned.destroyable (h : Aligned n v f) (hn : n < 2 ^ 32) (hahead : v.ahead = 0)
    (happ : ∀ j, v.app ≠ .queueing j) :
    FenceUse.Valid ⟨.destroyCommandPool, decide f.sourceArmed.Nonempty, v.failed⟩ ∨
      FenceUse.Excused ⟨.destroyCommandPool, decide f.sourceArmed.Nonempty, v.failed⟩ := by
  cases hfailed : v.failed with
  | true => exact .inr ⟨rfl, .inr rfl⟩
  | false =>
    left
    obtain ⟨hwork, hunread⟩ := h.placed.ahead_eq_zero hn hahead hfailed
    have hempty : ¬f.sourceArmed.Nonempty := by
      rintro ⟨i, hi⟩
      rcases h.order.copied i hi with hno | hno | hno | hno
      · rw [hfailed] at hno
        cases hno
      · rw [hwork] at hno
        cases hno
      · rw [hno] at hunread
        cases hunread
      · exact happ i hno
    simp [FenceUse.Valid, FenceUse.waits, hempty]

end Fences

namespace CrossSwapchain

open Fences (Aligned)

variable {n : Nat} {s : CrossSwapchain} {f : Fences} {t next : CrossThread} {w : CrossWait}

/-! ### The application -/

lemma aligned_takeImage (h : Aligned n s.snapshot f) (happ : ∀ j, s.snapshot.app ≠ .queueing j) (call : AcquireCall) :
    Aligned n (s.takeImage call).snapshot f := by
  have hleave : ∀ j, s.snapshot.app = .queueing j → s.snapshot.failed = true := fun j hj => absurd hj (happ j)
  unfold takeImage
  split
  · rw [snapshot_goto_app]
    exact h.leave hleave
  · split
    · exact h
    · rename_i index rest hqueue
      rw [snapshot_goto_app]
      exact h.take happ hqueue

lemma aligned_finishAcquire (h : Aligned n s.snapshot f) {call : AcquireCall} {index : Nat}
    (hplace : s.threads .app = .running (.acquiring call index)) (results : AcquireResults) :
    Aligned n (s.finishAcquire call index results).snapshot f := by
  have hstage : s.snapshot.app = .passing index := by
    simp [snapshot, hplace, appStage]
  have happ : ∀ j, s.snapshot.app ≠ .queueing j := by
    rw [hstage]
    exact fun j hj => by cases hj
  have hheld : index ∈ s.held := h.placed.app index (by rw [hstage]; rfl)
  unfold finishAcquire
  split
  · rw [snapshot_goto_app]
    exact h.drop happ index
  · rw [beginRestore, snapshot_goto_app]
    exact h.enter happ hheld
  · rw [snapshot_goto_app]
    exact h.leave fun j hj => absurd hj (happ j)
  · rw [snapshot_goto_app]
    split
    · exact h.drop happ index
    · exact h.leave fun j hj => absurd hj (happ j)

/-- A push that the worker has not disturbed. -/
lemma aligned_restore (h : Aligned n s.snapshot f) {index : Nat} {before : List Nat} {failed : Option VkResult}
    (hplace : s.threads .app = .running (.restoring index before failed)) (hsame : s.acquireQueue = before)
    (raced : List Nat) : Aligned n (s.restore index before failed raced).snapshot f := by
  have hstage : s.snapshot.app = .passing index := by
    simp [snapshot, hplace, appStage]
  have happ : ∀ j, s.snapshot.app ≠ .queueing j := by
    rw [hstage]
    exact fun j hj => by cases hj
  have hheld : index ∈ s.held := h.placed.app index (by rw [hstage]; rfl)
  have hput := h.putBack happ hheld
  unfold restore
  rw [if_pos hsame]
  cases failed with
  | none =>
    rw [snapshot_goto_app]
    exact hput
  | some res =>
    have hmarked : (((s.putBack index).markResult res).logReturn
        { result := ((s.putBack index).markResult res).markedResult res, index := some index
          queueWithout := index :: s.acquireQueue, queue := ((s.putBack index).markResult res).acquireQueue }).snapshot =
        (s.putBack index).snapshot.fails (res < 0) := snapshot_markResult _ _
    rw [snapshot_goto_app, hmarked]
    exact hput.fails _

lemma aligned_submitSource (h : Aligned n s.snapshot f) {index : Nat}
    (hplace : s.threads .app = .running (.submitting index)) (initCommands submit : VkResult)
    (fence : Option VkResult) :
    Aligned n (s.submitSource index initCommands submit fence).snapshot
      (f.submitSource index initCommands submit s.failed) := by
  have hstage : s.snapshot.app = .passing index := by
    simp [snapshot, hplace, appStage]
  have hleave : ∀ j, s.snapshot.app = .queueing j → s.snapshot.failed = true := by
    intro j hj
    rw [hstage] at hj
    cases hj
  unfold submitSource Fences.submitSource
  split
  · rw [snapshot_goto_app, snapshot_markResult]
    exact (h.leave hleave).fails _
  · have hused := h.use (h.submittable hstage)
    dsimp only
    split
    · rw [snapshot_goto_app, snapshot_markResult]
      exact (hused.leave hleave).fails _
    · have hqueued := hused.submit hstage
      have hsignal : (s.signalSource index).snapshot = s.snapshot := rfl
      unfold finishSubmit
      dsimp only
      split
      · rename_i hneg
        rw [markedResult_neg] at hneg
        rw [snapshot_goto_app, snapshot_markResult, snapshot_markResult, hsignal]
        refine ((hqueued.fails (fence.getD VkResult.success < 0)).leave fun j _ => ?_).fails _
        rw [failed_markResult] at hneg
        exact hneg
      · rw [snapshot_goto_app, snapshot_markResult, hsignal]
        exact hqueued.fails _

/-- A step that wakes a thread of the scheduler's choice and goes on. -/
lemma snapshot_notifyOne (s : CrossSwapchain) (next t : CrossThread) (p : CrossPlace) :
    ({ s with threads := Function.update (notifyOne s.threads next) t (.running p) } : CrossSwapchain).snapshot =
      (s.goto t p).snapshot := by
  apply snapshot_of_wake
  · intro u
    simp only [goto, setThread]
    by_cases hu : u = t
    · subst hu
      simp
    · simp only [Function.update_of_ne hu, apply_notifyOne appStage_wake, apply_notifyOne workerStage_wake,
        and_self]
  · rfl

lemma aligned_pushWork (h : Aligned n s.snapshot f) {index : Nat}
    (hplace : s.threads .app = .running (.queueing index)) (next : CrossThread) :
    Aligned n (s.pushWork index next).snapshot f := by
  have hstage : s.snapshot.app = .queueing index := by
    simp [snapshot, hplace, appStage]
  have hahead : s.submitCount + 1 - s.processedSourceCount = s.submitCount - s.processedSourceCount + 1 := by
    rw [add_sub_right_comm]
  have hsnapshot : (s.pushWork index next).snapshot =
      { s.snapshot with
        held := s.held.erase index, work := s.snapshot.work ++ [index]
        ahead := s.snapshot.ahead + 1, app := .outside } := by
    unfold pushWork
    refine (snapshot_notifyOne { s with
      workQueue := s.workQueue ++ [{ presentId := s.nextPresentId, index := index }]
      submitCount := s.submitCount + 1, nextPresentId := 0, held := s.held.erase index } next .app .idle).trans ?_
    rw [snapshot_goto_app]
    ext1
    case ahead => exact hahead
    case work => exact List.map_append
    all_goals rfl
  rw [hsnapshot]
  exact h.push hstage

lemma aligned_releaseImage (h : Aligned n s.snapshot f) {index : Nat} (hplace : s.threads .app = .running .idle)
    (hheld : index ∈ s.held) (created : Bool) : Aligned n (s.releaseImage index created).snapshot f := by
  have hstage : s.snapshot.app = .outside := by
    simp [snapshot, hplace, appStage]
  unfold releaseImage
  dsimp only
  split
  · rw [beginRestore, snapshot_goto_app]
    exact h.enter (fun j hj => by rw [hstage] at hj; cases hj) hheld
  · exact h

/-! ### The worker -/

lemma aligned_takeWork (h : Aligned n s.snapshot f) (hworker : s.snapshot.worker = .resting) :
    Aligned n s.takeWork.snapshot f := by
  unfold takeWork
  split
  · rename_i hstatus
    rw [snapshot_goto_worker]
    exact h.stop (decide_eq_true hstatus)
  · split
    · exact h
    · rename_i work rest hqueue
      rw [snapshot_goto_worker]
      have hwork : s.snapshot.work = work.index :: rest.map Work.index := by
        simp [snapshot, hqueue]
      exact h.takeWork hworker hwork

lemma aligned_markAndStop (h : Aligned n s.snapshot f) :
    Aligned n ((s.markResult VkResult.errorDeviceLost).goto .worker .stopped).snapshot f := by
  rw [snapshot_goto_worker, snapshot_markResult]
  exact h.failAndStop

lemma aligned_sourceDone (h : Aligned n s.snapshot f) {work : Work}
    (hplace : s.threads .worker = .running (.waitingForSource work)) (fences : Bool) (next : CrossThread) :
    Aligned n (s.sourceDone work fences next).snapshot (f.sourceDone work.index fences s.failed) := by
  have hstage : s.snapshot.worker = .copying work.index := by
    simp [snapshot, hplace, workerStage]
  have harmed : work.index ∈ f.sourceArmed := h.order.pending _ (.inr (.inl hstage))
  have hused := h.use (u := ⟨.waitForSource, decide (work.index ∈ f.sourceArmed), s.failed⟩)
    (.inl (by simp [FenceUse.Valid, FenceUse.waits, harmed]))
  have hahead : s.submitCount - (s.processedSourceCount + 1) = s.submitCount - s.processedSourceCount - 1 := by
    rw [sub_add_eq_sub_sub]
  unfold sourceDone Fences.sourceDone
  dsimp only
  split
  · have hsnapshot : ({ s with
        processedSourceCount := s.processedSourceCount + 1
        threads := Function.update (notifyOne s.threads next) .worker
          (.running (.waitingForSink work)) } : CrossSwapchain).snapshot =
        { s.snapshot with ahead := s.snapshot.ahead - 1, worker := .copied work.index } := by
      refine (snapshot_notifyOne { s with processedSourceCount := s.processedSourceCount + 1 }
        next .worker (.waitingForSink work)).trans ?_
      rw [snapshot_goto_worker]
      ext1
      case ahead => exact hahead
      all_goals rfl
    rw [hsnapshot]
    exact hused.sourceDone hstage
  · exact aligned_markAndStop hused

/-- The worker goes on with what it has done unless the swapchain has failed. -/
lemma aligned_markAndGo {p : CrossPlace} (h : Aligned n { s.snapshot with worker := workerStage (.running p) } f)
    (err : VkResult) : Aligned n (s.markAndGo err p).snapshot f := by
  unfold markAndGo
  dsimp only
  split
  · rename_i hneg
    rw [snapshot_goto_worker, snapshot_markResult]
    rw [markedResult_neg, failed_markResult] at hneg
    exact (h.fails _).stop hneg
  · rw [snapshot_goto_worker, snapshot_markResult]
    exact h.fails _

/-- The uses of a fence that is waited for, reset and submitted again. -/
lemma aligned_resubmit {i a : Nat} (h : Aligned n s.snapshot f) (harmed : a ∈ f.sinkArmed) (hreleased : i ∉ f.released) :
    Aligned n s.snapshot (((f.use .waitForSink (a ∈ f.sinkArmed) s.failed).use .submitSink
      (a ∈ f.sinkArmed.erase a) s.failed).use .signalRelease (i ∈ f.released) s.failed) := by
  have hwait := h.use (u := ⟨.waitForSink, decide (a ∈ f.sinkArmed), s.failed⟩)
    (.inl (by simp [FenceUse.Valid, FenceUse.waits, harmed]))
  have hsubmit := hwait.use (u := ⟨.submitSink, decide (a ∈ f.sinkArmed.erase a), s.failed⟩)
    (.inl (by simp [FenceUse.Valid, FenceUse.waits]))
  exact hsubmit.use (u := ⟨.signalRelease, decide (i ∈ f.released), s.failed⟩)
    (.inl (by simp [FenceUse.Valid, FenceUse.waits, hreleased]))

lemma aligned_submitSink (h : Aligned n s.snapshot f) {work : Work}
    (hplace : s.threads .worker = .running (.waitingForSink work)) (fences : Bool) (submit : VkResult) :
    Aligned n (s.submitSink work fences submit).snapshot (f.submitSink work.index fences submit s.failed) := by
  have hstage : s.snapshot.worker = .copied work.index := by
    simp [snapshot, hplace, workerStage]
  obtain ⟨a, ha, harmed, hreleased⟩ := h.sinkReady hstage
  have hused := aligned_resubmit h harmed hreleased
  unfold submitSink Fences.submitSink
  simp only [ha]
  split
  · unfold Fences.submitReset
    dsimp only
    by_cases hsubmit : submit < 0
    · have hneg : (s.markResult submit).markedResult submit < 0 := markedResult_markResult_neg hsubmit
      simp only [markAndGo]
      rw [if_pos hneg, if_pos hsubmit, snapshot_goto_worker, snapshot_markResult, decide_eq_true hsubmit]
      exact hused.submitFails hstage ha
    · have hpresenting := hused.submitSink hstage
      rw [if_neg hsubmit]
      have hrearmed : insert a (f.sinkArmed.erase a) = f.sinkArmed := Finset.insert_erase harmed
      simp only [Fences.use] at hpresenting ⊢
      rw [hrearmed]
      exact aligned_markAndGo hpresenting submit
  · exact aligned_markAndStop (h.use (u := ⟨.waitForSink, decide (a ∈ f.sinkArmed), s.failed⟩)
      (.inl (by simp [FenceUse.Valid, FenceUse.waits, harmed])))

lemma aligned_presentSink (h : Aligned n s.snapshot f) {work : Work}
    (hplace : s.threads .worker = .running (.presenting work)) (present : VkResult) :
    Aligned n (s.presentSink work present).snapshot (f.presentSink work.index present s.failed) := by
  have hstage : s.snapshot.worker = .presenting work.index := by
    simp [snapshot, hplace, workerStage]
  have hreleased := h.order.presenting _ hstage
  have hused := h.use (u := ⟨.waitForRelease, decide (work.index ∈ f.released), s.failed⟩)
    (.inl (by simp [FenceUse.Valid, FenceUse.waits, hreleased]))
  unfold presentSink Fences.presentSink
  dsimp only
  by_cases hpresent : 0 ≤ present
  · have hpresented := hused.present hstage
    simp only [if_pos hpresent]
    exact aligned_markAndGo hpresented present
  · have hneg : (s.markResult present).markedResult present < 0 := markedResult_markResult_neg (not_le.1 hpresent)
    simp only [markAndGo, if_neg hpresent, if_pos hneg]
    rw [snapshot_goto_worker, snapshot_markResult, decide_eq_true (not_le.1 hpresent)]
    exact hused.failAndStop

lemma aligned_publish (h : Aligned n s.snapshot f) {work : Work}
    (hplace : s.threads .worker = .running (.publishing work)) : Aligned n (s.publish work).snapshot f := by
  have hstage : s.snapshot.worker = .resting := by
    simp [snapshot, hplace, workerStage]
  have hrest := h.rest (.inr hstage)
  unfold publish
  split
  · rw [snapshot_goto_worker]
    have hsame : ({ s with pendingWaitId := work.presentId, threads := notifyAll s.threads } :
        CrossSwapchain).snapshot = s.snapshot := by
      apply snapshot_of_wake
      · exact fun u => ⟨appStage_wake _, workerStage_wake _⟩
      · rfl
    rw [hsame]
    exact hrest
  · rw [snapshot_goto_worker]
    exact hrest

/-- Where the worker is after `pumpAcquireSinkImage`. -/
def pumpStage : Option Nat → Bool → WorkerStage
  | none, true => .stopped
  | none, false => .resting
  | some 0, _ => .resting
  | some (_ + 1), _ => .initial

lemma snapshot_markPump (s : CrossSwapchain) (rest : Option Nat) (err : VkResult) :
    (s.markPump rest err).snapshot =
      { s.snapshot.fails (err < 0) with worker := pumpStage rest (s.snapshot.fails (err < 0)).failed } := by
  have hfailed : (s.snapshot.fails (err < 0)).failed = (s.markResult err).failed := (failed_markResult s err).symm
  unfold markPump afterPump
  dsimp only
  split
  · have hstage : workerStage (.running (if (s.markResult err).markedResult err < 0 then .stopped else .looping)) =
        pumpStage none (s.snapshot.fails (err < 0)).failed := by
      rw [hfailed]
      by_cases hneg : (s.markResult err).failed = true
      · rw [if_pos ((markedResult_neg s err).2 hneg), hneg]
        rfl
      · rw [if_neg (mt (markedResult_neg s err).1 hneg), Bool.eq_false_of_not_eq_true hneg]
        rfl
    rw [snapshot_goto_worker, snapshot_markResult, hstage]
  · rw [snapshot_goto_worker, snapshot_markResult]
    rfl
  · rw [snapshot_goto_worker, snapshot_markResult]
    rfl

/-- The worker goes on after `pumpAcquireSinkImage`, and so does `init`. -/
lemma aligned_afterPump {v : Snapshot} {rest : Option Nat} (h : Aligned n v f)
    (hworker : v.worker = if rest = none then .resting else .initial) :
    Aligned n { v with worker := pumpStage rest v.failed } f := by
  cases rest with
  | none =>
    rw [if_pos rfl] at hworker
    by_cases hfailed : v.failed = true
    · have hstage : pumpStage none v.failed = .stopped := by rw [hfailed]; rfl
      rw [hstage]
      exact h.stop hfailed
    · have hstage : pumpStage none v.failed = .resting := by
        rw [Bool.eq_false_of_not_eq_true hfailed]
        rfl
      rw [hstage]
      exact h.rest (.inr hworker)
  | some k =>
    rw [if_neg (by simp)] at hworker
    cases k with
    | zero => exact h.rest (.inl hworker)
    | succ k =>
      have hsame : ({ v with worker := pumpStage (some (k + 1)) v.failed } : Snapshot) = v := by
        simp [pumpStage, ← hworker]
      rwa [hsame]

section Pump

variable {rest : Option Nat} {results : PumpResults}

lemma workerStage_pumping (rest : Option Nat) :
    workerStage (.running (.pumping rest)) = if rest = none then .resting else .initial := by
  cases rest <;> rfl

lemma workerStage_pumped (rest : Option Nat) (res : VkResult) :
    workerStage (.running (.pumped rest res)) = workerStage (.running (.pumping rest)) := by
  cases rest <;> rfl

/-- The sink returns an image, whose fence from now on is the one of the call. -/
lemma aligned_acquired {g : Fences} {fence : Nat} (h : Aligned n { s.snapshot with pool := 1 } g)
    (hplace : s.threads .worker = .running (.pumping rest)) (hpool : g.sinkFencePool = [fence])
    (hi : results.index ∈ s.sink) (hzero : s.sinkFencePool - 1 = 0)
    (hcase : ¬(s.sinkAcquireFence results.index = true ∧ ¬results.fences = true)) (next : CrossThread) :
    Aligned n ({ s with
        sinkFencePool :=
          if s.sinkAcquireFence results.index then s.sinkFencePool - 1 + 1 else s.sinkFencePool - 1
        sinkAcquireFence := Function.update s.sinkAcquireFence results.index true
        sink := s.sink.erase results.index
        acquireQueue := s.acquireQueue ++ [results.index]
        threads := Function.update (notifyOne s.threads next) .worker
          (.running (.pumped rest results.acquireNextImage)) } : CrossSwapchain).snapshot
      ({ g with sinkFencePool := [], sinkArmed := insert fence g.sinkArmed }.assign fence results.index
        results.fences s.failed) := by
  have hstage : s.snapshot.worker = workerStage (.running (.pumping rest)) := by
    simp [snapshot, hplace]
  have hworker : s.snapshot.worker ≠ .stopped := by
    rw [hstage, workerStage_pumping]
    split <;> simp
  have hsnapshot : ∀ pool, ({ s with
      sinkFencePool := pool
      sinkAcquireFence := Function.update s.sinkAcquireFence results.index true
      sink := s.sink.erase results.index
      acquireQueue := s.acquireQueue ++ [results.index]
      threads := Function.update (notifyOne s.threads next) .worker
        (.running (.pumped rest results.acquireNextImage)) } : CrossSwapchain).snapshot =
      { s.snapshot with
        pool := pool, fenced := Function.update s.snapshot.fenced results.index true
        sink := s.snapshot.sink.erase results.index
        acquireQueue := s.snapshot.acquireQueue ++ [results.index] } := by
    intro pool
    refine (snapshot_notifyOne { s with
      sinkFencePool := pool
      sinkAcquireFence := Function.update s.sinkAcquireFence results.index true
      sink := s.sink.erase results.index
      acquireQueue := s.acquireQueue ++ [results.index] } next .worker _).trans ?_
    rw [snapshot_goto_worker, workerStage_pumped, ← hstage]
    rfl
  have hfenced : s.sinkAcquireFence results.index = (g.sinkAcquireFence results.index).isSome :=
    h.order.fenced results.index
  rw [hsnapshot]
  unfold Fences.assign
  cases hold : g.sinkAcquireFence results.index with
  | none =>
    have hassigned := h.assign hpool hworker hi (insert fence g.sinkArmed) (by simp [hold])
    rw [hold] at hfenced
    simpa [hold, hfenced, hzero] using hassigned
  | some old =>
    have hfences : results.fences = true := by
      by_contra hno
      exact hcase ⟨by rw [hfenced, hold]; rfl, hno⟩
    have holdArmed : old ∈ g.sinkArmed :=
      (h.order.accounted.armed _ _ hold).2 (by rw [h.unsubmitted hworker]; simp)
    have hused := h.use (u := ⟨.waitForSink, decide (old ∈ insert fence g.sinkArmed), s.failed⟩)
      (.inl (by simp [FenceUse.Valid, FenceUse.waits, holdArmed]))
    have hassigned := hused.assign hpool hworker hi ((insert fence g.sinkArmed).erase old) (by
      intro a
      simp only [Fences.use, hold, Finset.mem_erase, Finset.mem_insert, ne_eq, Option.some.injEq]
      tauto)
    rw [hold] at hfenced
    simpa [hold, hfenced, hzero, hfences, Fences.use] using hassigned

lemma aligned_pump (h : Aligned n s.snapshot f) (hplace : s.threads .worker = .running (.pumping rest))
    (hlegal : 0 ≤ results.acquireNextImage → results.index ∈ s.sink) (next : CrossThread) :
    Aligned n (s.pumpAcquireSinkImage rest results next).snapshot (f.pumpAcquireSinkImage results s.failed) := by
  have hstage : s.snapshot.worker = workerStage (.running (.pumping rest)) := by
    simp [snapshot, hplace]
  have hworker : s.snapshot.worker ≠ .stopped := by
    rw [hstage, workerStage_pumping]
    split <;> simp
  have hlength : s.sinkFencePool = f.sinkFencePool.length := h.order.pool
  have hzero : s.sinkFencePool - 1 = 0 := by
    have := h.order.accounted.length
    omega
  have hempty : s.sinkFencePool = 0 ↔ f.sinkFencePool = [] := by
    rw [hlength, List.length_eq_zero_iff]
  unfold pumpAcquireSinkImage Fences.pumpAcquireSinkImage
  by_cases hcreate : s.sinkFencePool = 0 ∧ results.createFence ≠ VkResult.success
  · rw [if_pos hcreate, if_pos ⟨hempty.1 hcreate.1, hcreate.2⟩, snapshot_markPump]
    exact aligned_afterPump (h.fails _) (hstage.trans (workerStage_pumping rest))
  have hcreate' : ¬(f.sinkFencePool = [] ∧ results.createFence ≠ VkResult.success) :=
    fun hno => hcreate ⟨hempty.2 hno.1, hno.2⟩
  rw [if_neg hcreate, if_neg hcreate']
  obtain ⟨hfilled, fence, hfence⟩ := h.fillPool hworker
  have hidle := (hfilled.order.accounted.pool fence (by rw [hfence]; exact List.mem_singleton_self _)).2.1
  have hused := hfilled.use (u := ⟨.acquireNextImage, decide (fence ∈ f.fillPool.sinkArmed), s.failed⟩)
    (.inl (by simp [FenceUse.Valid, FenceUse.waits, hidle]))
  simp only [hfence]
  by_cases hacquire : results.acquireNextImage < 0
  · rw [if_pos hacquire, if_pos hacquire, snapshot_goto_worker, workerStage_pumped, ← hstage, hzero]
    simp only [Fences.use, ← hfence] at hused ⊢
    exact hused
  rw [if_neg hacquire, if_neg hacquire]
  have hi := hlegal (not_lt.1 hacquire)
  by_cases hcase : s.sinkAcquireFence results.index = true ∧ ¬results.fences = true
  · have hfenced := hfilled.order.fenced results.index
    rw [show s.snapshot.fenced results.index = true from hcase.1] at hfenced
    obtain ⟨old, hold⟩ := Option.isSome_iff_exists.1 hfenced.symm
    have hnone : rest = none := by
      by_contra hne
      have hinitial : s.snapshot.worker = .initial := by
        rw [hstage, workerStage_pumping, if_neg hne]
      rw [hfilled.order.initial hinitial _ hi] at hold
      cases hold
    have harmed : old ∈ f.fillPool.sinkArmed :=
      (hfilled.order.accounted.armed _ _ hold).2 (by rw [hfilled.unsubmitted hworker]; simp)
    have hwaited := hused.use
      (u := ⟨.waitForSink, decide (old ∈ insert fence f.fillPool.sinkArmed), s.failed⟩)
      (.inl (by simp [FenceUse.Valid, FenceUse.waits, harmed]))
    have hforgotten := hwaited.forget hfence hworker hi (by simp [Fences.use, hold])
    have hassign : ({ f.fillPool.use .acquireNextImage (fence ∈ f.fillPool.sinkArmed) s.failed with
        sinkFencePool := [], sinkArmed := insert fence f.fillPool.sinkArmed }).assign fence results.index
          results.fences s.failed =
        { (f.fillPool.use .acquireNextImage (fence ∈ f.fillPool.sinkArmed) s.failed).use .waitForSink
            (old ∈ insert fence f.fillPool.sinkArmed) s.failed with
          sinkFencePool := [], sinkArmed := insert fence f.fillPool.sinkArmed } := by
      simp [Fences.assign, Fences.use, hold, hcase.2]
    have hfailed : (s.snapshot.fails true).failed = true := by simp [Snapshot.fails]
    rw [if_pos hcase, snapshot_markPump, hnone, hzero]
    refine Eq.mp (congrArg₂ (Aligned n) ?_ hassign.symm) hforgotten
    ext1
    case failed => exact hfailed.symm
    case worker => exact (congrArg (pumpStage none) hfailed).symm
    all_goals rfl
  · rw [if_neg hcase]
    exact aligned_acquired hused hplace hfence hi hzero hcase next

end Pump

/-! ### Waits -/

lemma aligned_passWait (h : Aligned n s.snapshot f) (hsuits : Suits t w)
    (happ : t = .app → ∀ j, s.snapshot.app ≠ .queueing j)
    (hheld : ∀ family index, w = .sourceCommands family index → index ∈ s.held)
    (hworker : t = .worker → s.snapshot.worker = .resting) : Aligned n (s.passWait t w).snapshot f := by
  unfold passWait
  cases w with
  | work =>
    cases t with
    | worker =>
      split
      · exact aligned_takeWork h (hworker rfl)
      · rw [snapshot_setThread_worker]
        exact h.rest (.inr (hworker rfl))
    | app => exact hsuits.elim
    | waiter n => exact hsuits.elim
  | image call =>
    cases t with
    | worker => exact hsuits.elim
    | app =>
      split
      · exact aligned_takeImage h (happ rfl) call
      · rw [snapshot_setThread_app]
        exact h.leave fun j hj => absurd hj (happ rfl j)
    | waiter n => exact hsuits.elim
  | sourceCommands family index =>
    cases t with
    | worker => exact hsuits.elim
    | app =>
      split
      · rw [snapshot_goto_app]
        exact h.enter (happ rfl) (hheld family index rfl)
      · rw [snapshot_setThread_app]
        exact h.enter (happ rfl) (hheld family index rfl)
    | waiter n => exact hsuits.elim
  | present id timed =>
    cases t with
    | worker => exact hsuits.elim
    | app => exact hsuits.elim
    | waiter k =>
      split
      · dsimp only [afterPresentWait]
        split
        · rwa [snapshot_goto_waiter]
        · rwa [snapshot_goto_waiter]
      · rwa [snapshot_setThread_waiter]

lemma aligned_wake (h : Aligned n s.snapshot f) (t : CrossThread) : Aligned n (s.step (.wake t)).snapshot f := by
  have hsame : (s.step (.wake t)).snapshot = s.snapshot := by
    apply snapshot_of_wake
    · intro u
      exact ⟨apply_notifyOne appStage_wake, apply_notifyOne workerStage_wake⟩
    · rfl
  rwa [hsame]

end CrossSwapchain

/-! ### Runs -/

namespace FencedSwapchain

open CrossSwapchain Fences

variable {n : Nat} {s : FencedSwapchain}

/-- A swapchain whose fences are in order. -/
structure Orderly (n : Nat) (s : FencedSwapchain) : Prop where
  suited : s.base.Suited
  aligned : Aligned n s.base.snapshot s.fences

lemma orderly_init (images pumps : Nat) (hasQueue : Bool) (created : Nat → Bool) :
    Orderly images (init images pumps hasQueue created) where
  suited t w hw := by
    cases t <;> cases hw
  aligned := by
    have hcount : (0 : BitVec 64) - 0 = BitVec.ofNat 64 (0 + 0) := by decide
    refine ⟨⟨List.Subperm.refl _, (fun i hi => by cases hi), (fun i hi => by cases hi), (fun _ => hcount),
      (fun hno => by cases hno), (fun hno => by cases hno)⟩, ?_⟩
    refine {
      pool := rfl
      fenced := fun _ => rfl
      accounted := ⟨(fun _ _ h => by cases h), (fun _ _ _ h => by cases h), (fun _ h => by cases h), Nat.zero_le _,
        (fun _ h => by cases h), (fun _ _ h => by cases h), (fun _ h => by cases h)⟩
      assigned := fun _ h => by cases h
      initial := fun _ _ _ => rfl
      leaked := ⟨none, fun h => absurd rfl h, fun _ h => (by cases h), fun _ h => absurd h (Nat.not_lt_zero _)⟩
      unsubmitted := fun h => absurd rfl h
      pending := ?_
      copied := fun _ h => by cases h
      presenting := fun _ h => by cases h
      released := fun _ h => by cases h
      uses := fun _ h => by cases h }
    rintro i (h | h | h) <;> cases h

/-- A call that gets past the wait of `initSourceCommands` destroys the command pool. -/
lemma Orderly.pastSourceWait (h : Orderly n s) (hn : n < 2 ^ 32) {e : CrossEvent}
    (happ : s.base.passesSourceWait e = true → ∀ j, s.base.snapshot.app ≠ .queueing j)
    (hready : s.base.passesSourceWait e = true → s.base.submitCount = s.base.processedSourceCount) :
    Aligned n s.base.snapshot
      (if s.base.passesSourceWait e then s.fences.destroyCommandPool s.base.failed else s.fences) := by
  split
  · rename_i hpasses
    have hahead : s.base.snapshot.ahead = 0 := by
      simp [snapshot, hready hpasses]
    exact h.aligned.use (h.aligned.destroyable hn hahead (happ hpasses))
  · exact h.aligned

/-- A thread that was taken out of its wait goes on or gives up. -/
lemma Orderly.resume (h : Orderly n s) (hn : n < 2 ^ 32) {t : CrossThread} {w : CrossWait} {timedOut : Bool}
    (hw : s.base.threads t = .woken w) (htimed : timedOut → w.timed) :
    Aligned n (s.base.step (.resume t timedOut)).snapshot (s.stepFences (.resume t timedOut)) := by
  have hsuits : Suits t w := h.suited t w (by rw [hw]; rfl)
  have happ : t = .app → ∀ j, s.base.snapshot.app ≠ .queueing j := by
    rintro rfl j
    simp only [snapshot, hw]
    cases w <;> simp [appStage]
  have hworker : t = .worker → s.base.snapshot.worker = .resting := by
    rintro rfl
    cases w with
    | work => simp [snapshot, hw, workerStage]
    | image call => exact hsuits.elim
    | sourceCommands family index => exact hsuits.elim
    | present id timed => exact hsuits.elim
  have hheld : ∀ family index, w = .sourceCommands family index → index ∈ s.base.held := by
    rintro family index rfl
    cases t with
    | app => exact h.aligned.placed.app index (by simp [snapshot, hw, appStage, AppStage.image])
    | worker => exact hsuits.elim
    | waiter k => exact hsuits.elim
  have hpast := h.pastSourceWait hn (e := .resume t timedOut) ?_ ?_
  · simp only [CrossSwapchain.step, hw]
    split
    · unfold timeOut
      cases w with
      | image call =>
        cases t with
        | app =>
          dsimp only
          rw [snapshot_goto_app]
          exact hpast.leave fun j hj => absurd hj (happ rfl j)
        | worker => exact hsuits.elim
        | waiter k => exact hsuits.elim
      | present id timed =>
        cases t with
        | waiter k =>
          dsimp only
          rw [snapshot_goto_waiter]
          exact hpast
        | worker => exact hsuits.elim
        | app => exact hsuits.elim
      | work =>
        rename_i hout
        exact absurd (htimed hout.1) (by simp [CrossWait.timed])
      | sourceCommands family index =>
        rename_i hout
        exact absurd (htimed hout.1) (by simp [CrossWait.timed])
    · exact aligned_passWait hpast hsuits happ hheld hworker
  · intro hpasses
    cases t with
    | app => exact happ rfl
    | worker => cases hpasses
    | waiter k => cases hpasses
  · intro hpasses
    cases t with
    | app =>
      simp only [passesSourceWait, hw] at hpasses
      cases w with
      | sourceCommands family index => exact of_decide_eq_true hpasses
      | image call => cases hpasses
      | work => cases hpasses
      | present id timed => cases hpasses
    | worker => cases hpasses
    | waiter k => cases hpasses

lemma Orderly.cross (h : Orderly n s) (hn : n < 2 ^ 32) {e : CrossEvent} (he : s.base.Legal e)
    (hunraced : s.Unraced (.cross e)) : Aligned n (s.base.step e).snapshot (s.stepFences e) := by
  have hkept := h.aligned
  cases e with
  | setPresentId id => exact hkept
  | acquire call =>
    have happ : ∀ j, s.base.snapshot.app ≠ .queueing j := by
      simp [snapshot, he.2, appStage]
    exact aligned_passWait hkept trivial (fun _ => happ) (fun _ _ hno => by cases hno) (fun hno => by cases hno)
  | acquired results =>
    obtain ⟨⟨call, index, happ⟩, -⟩ := he
    simp only [CrossSwapchain.step, happ]
    exact aligned_finishAcquire hkept happ results
  | restored raced =>
    obtain ⟨index, before, failed, happ⟩ := he
    simp only [CrossSwapchain.step, happ]
    exact aligned_restore hkept happ (hunraced index before failed happ) raced
  | queuePresent family index =>
    obtain ⟨-, hidle, hheld⟩ := he
    have happ : ∀ j, s.base.snapshot.app ≠ .queueing j := by
      simp [snapshot, hidle, appStage]
    have hpast := h.pastSourceWait hn (e := .queuePresent family index) (fun _ => happ) (by
      intro hpasses
      simp only [passesSourceWait, decide_eq_true_eq] at hpasses
      exact hpasses.2)
    simp only [CrossSwapchain.step]
    split
    · refine aligned_passWait hpast trivial (fun _ => happ) ?_ (fun hno => by cases hno)
      rintro family' index' heq
      cases heq
      exact hheld
    · rw [snapshot_goto_app]
      exact hpast.enter happ hheld
  | submitted initCommands submit fence =>
    obtain ⟨⟨index, happ⟩, -⟩ := he
    simp only [CrossSwapchain.step, stepFences, happ]
    exact aligned_submitSource hkept happ initCommands submit fence
  | pushWork next =>
    obtain ⟨⟨index, happ⟩, -⟩ := he
    simp only [CrossSwapchain.step, happ]
    exact aligned_pushWork hkept happ next
  | releaseImage index created => exact aligned_releaseImage hkept he.2.1 he.2.2 created
  | waitForPresent k id timed =>
    exact aligned_passWait hkept trivial (fun hno => by cases hno) (fun _ _ hno => by cases hno)
      (fun hno => by cases hno)
  | presentWaited k result =>
    simp only [CrossSwapchain.step, show s.base.threads (.waiter k) = _ from he]
    rw [snapshot_goto_waiter, snapshot_markResult]
    exact hkept.fails _
  | takeWork =>
    have hplace : s.base.threads .worker = .running .looping := he
    simp only [CrossSwapchain.step, hplace]
    exact aligned_passWait hkept trivial (fun hno => by cases hno) (fun _ _ hno => by cases hno)
      (fun _ => by simp [snapshot, hplace, workerStage])
  | sourceDone fences next =>
    obtain ⟨⟨work, hworker⟩, -⟩ := he
    simp only [CrossSwapchain.step, stepFences, hworker]
    exact aligned_sourceDone hkept hworker fences next
  | submitSink fences submit =>
    obtain ⟨work, hworker⟩ := he
    simp only [CrossSwapchain.step, stepFences, hworker]
    exact aligned_submitSink hkept hworker fences submit
  | presentSink present =>
    obtain ⟨work, hworker⟩ := he
    simp only [CrossSwapchain.step, stepFences, hworker]
    exact aligned_presentSink hkept hworker present
  | publish =>
    obtain ⟨work, hworker⟩ := he
    simp only [CrossSwapchain.step, hworker]
    exact aligned_publish hkept hworker
  | pump results next =>
    obtain ⟨⟨rest, hworker⟩, hlegal, -⟩ := he
    simp only [CrossSwapchain.step, stepFences, hworker]
    exact aligned_pump hkept hworker hlegal next
  | pumped =>
    obtain ⟨rest, res, hworker⟩ := he
    simp only [CrossSwapchain.step, hworker]
    rw [snapshot_markPump]
    refine aligned_afterPump (hkept.fails _) ?_
    have hstage : s.base.snapshot.worker = workerStage (.running (.pumped rest res)) := by
      simp [snapshot, hworker]
    exact hstage.trans ((workerStage_pumped rest res).trans (workerStage_pumping rest))
  | wake t => exact aligned_wake hkept t
  | resume t timedOut =>
    obtain ⟨w, hw, htimed⟩ := he
    exact h.resume hn hw htimed

lemma Orderly.step (hn : n < 2 ^ 32) {e : FenceEvent} (h : Orderly n s) (he : s.Legal e)
    (hunraced : s.Unraced e) : Orderly n (s.step e) := by
  cases e with
  | cross e => exact ⟨h.suited.step he.1, h.cross hn he.1 hunraced⟩
  | retire =>
    have hsnapshot : s.base.retire.snapshot = s.base.snapshot.fails true := by
      ext1
      case failed => simp [CrossSwapchain.retire, snapshot, failed, Snapshot.fails, VkResult.errorOutOfDate]
      case app => exact appStage_wake _
      case worker => exact workerStage_wake _
      all_goals rfl
    constructor
    · intro t w hw
      apply h.suited t w
      simpa only [FencedSwapchain.step, CrossSwapchain.retire, notifyAll_apply, Thread.waiting_wake] using hw
    · simp only [FencedSwapchain.step, hsnapshot]
      exact h.aligned.fails true
  | releaseFront =>
    have hstage : s.base.snapshot.worker = .stopped := by
      simp [snapshot, he.1, workerStage]
    simp only [FencedSwapchain.step, CrossSwapchain.releaseFront]
    split
    · exact h
    · rename_i index rest hqueue
      exact ⟨h.suited, h.aligned.releaseFront hstage hqueue⟩
  | destroy next =>
    have hsnapshot : (s.base.destroy next).snapshot = s.base.snapshot.fails true := by
      ext1
      case failed => simp [CrossSwapchain.destroy, snapshot, failed, Snapshot.fails, VkResult.errorSurfaceLost]
      case app => exact apply_notifyOne appStage_wake
      case worker => exact apply_notifyOne workerStage_wake
      all_goals rfl
    constructor
    · intro t w hw
      apply h.suited t w
      simpa only [FencedSwapchain.step, CrossSwapchain.destroy, waiting_notifyOne] using hw
    · simp only [FencedSwapchain.step, hsnapshot]
      exact h.aligned.fails true

lemma orderly_run {images : Nat} (hn : images < 2 ^ 32) (pumps : Nat) (hasQueue : Bool) (created : Nat → Bool)
    {es : List FenceEvent} (hlegal : Runs.Along step Legal (init images pumps hasQueue created) es)
    (hunraced : Runs.Along step Unraced (init images pumps hasQueue created) es) :
    Orderly images (es.foldl step (init images pumps hasQueue created)) :=
  (hlegal.and hunraced).invariant (orderly_init images pumps hasQueue created)
    fun _ _ h he => h.step hn he.1 he.2

end FencedSwapchain

end PyroFling
