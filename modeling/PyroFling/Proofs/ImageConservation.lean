import PyroFling.Proofs.LostWakeup

/-!
# Where the images of the cross-GPU swapchain are

Every step moves images between the queues, the application, the worker and the sink. The exits of
`acquire` that neither put the image back nor pass it on with what was asked for are the only steps
that lose something.
-/

namespace PyroFling

namespace CrossSwapchain

open Monitor

variable {n : Nat} {s s' : CrossSwapchain} {t next : CrossThread} {w : CrossWait} {p : CrossPlace}

/-- The image that the application passes to the call it is in. -/
def imageOf : Thread CrossPlace CrossWait → Option Nat
  | .running (.acquiring _ index) | .running (.restoring index _ _) | .running (.submitting index)
  | .running (.queueing index) => some index
  | .blocked (.sourceCommands _ index) | .woken (.sourceCommands _ index) => some index
  | _ => none

/-- The image whose semaphore has been signalled and not been passed on. -/
def unspentOf : Thread CrossPlace CrossWait → Option Nat
  | .running (.acquiring _ index) | .running (.restoring index _ _) | .running (.queueing index) => some index
  | _ => none

/-- The error that `acquire` is going to report once it has put the image back. -/
def errorOf : Thread CrossPlace CrossWait → Option VkResult
  | .running (.restoring _ _ failed) => failed
  | _ => none

/-- The work that the worker has not presented yet. -/
def workOf : Thread CrossPlace CrossWait → Option Work
  | .running (.waitingForSource work) | .running (.waitingForSink work) | .running (.presenting work) =>
    some work
  | _ => none

@[simp] lemma imageOf_wake (th : Thread CrossPlace CrossWait) : imageOf th.wake = imageOf th := by
  cases th with
  | running p => rfl
  | blocked w => cases w <;> rfl
  | woken w => rfl

@[simp] lemma unspentOf_wake (th : Thread CrossPlace CrossWait) : unspentOf th.wake = unspentOf th := by
  cases th <;> rfl

@[simp] lemma errorOf_wake (th : Thread CrossPlace CrossWait) : errorOf th.wake = errorOf th := by
  cases th <;> rfl

@[simp] lemma workOf_wake (th : Thread CrossPlace CrossWait) : workOf th.wake = workOf th := by
  cases th <;> rfl

/-- The images outside the hands of the application. -/
def stored (s : CrossSwapchain) : List Nat :=
  s.acquireQueue ++ (s.workQueue.map Work.index ++ (s.processing ++ s.sink))

/-- All places where an image can be. -/
def owned (s : CrossSwapchain) : List Nat := s.held ++ s.stored

/-- A call passes an image on that it has taken out of the queue, with signalled handles. -/
def PassesOn (r : AcquireReturn) : Prop :=
  (∃ index, r.index = some index ∧ r.queueWithout = index :: r.queue) ∧
    r.semaphore ≠ some false ∧ r.fence ≠ some false

/-- A call that fails leaves the queue with the images it had, and one that succeeds passes one on. -/
def Honest (r : AcquireReturn) : Prop :=
  ((r.result < 0 ∨ r.result = VkResult.notReady ∨ r.result = VkResult.timeout) →
    r.queue.Perm r.queueWithout) ∧
  ((r.result = VkResult.success ∨ r.result = VkResult.suboptimal) → PassesOn r)

lemma Honest.of_neg {r : AcquireReturn} (h : r.result < 0) (hr : r.queue.Perm r.queueWithout) :
    Honest r := by
  refine ⟨fun _ => hr, ?_⟩
  rintro (hgood | hgood)
  · rw [hgood] at h
    exact absurd h (by decide)
  · rw [hgood] at h
    exact absurd h (by decide)

lemma Honest.of_nonneg {r : AcquireReturn} (h : 0 ≤ r.result)
    (hrange : r.result ≤ 0 ∨ r.result = VkResult.suboptimal)
    (hr : PassesOn r) : Honest r := by
  refine ⟨?_, fun _ => hr⟩
  rintro (hbad | hbad | hbad)
  · exact absurd hbad (not_lt.2 h)
  · rw [hbad] at hrange
    exact absurd hrange (by decide)
  · rw [hbad] at hrange
    exact absurd hrange (by decide)

structure Conserved (n : Nat) (s : CrossSwapchain) : Prop where
  perm : s.owned.Perm (List.range n)
  image : ∀ t i, imageOf (s.threads t) = some i → t = .app ∧ i ∈ s.held
  work : ∀ work, workOf (s.threads .worker) = some work → work.index ∈ s.processing
  fresh : s.hasQueue = true → ∀ i ∈ s.stored, s.sourceAcquireSemaphore i ≠ .unsignalled
  unspent : s.hasQueue = true → ∀ i, unspentOf (s.threads .app) = some i →
    s.sourceAcquireSemaphore i ≠ .unsignalled
  error : ∀ res, errorOf (s.threads .app) = some res → res < 0
  status : s.swapchainStatus ≤ 0 ∨ s.swapchainStatus = VkResult.suboptimal
  returns : ∀ r ∈ s.returns, Honest r

lemma createSemaphore_ne_unsignalled (created : Bool) : createSemaphore true created ≠ .unsignalled := by
  cases created <;> simp [createSemaphore]

lemma conserved_init (images pumps : Nat) (hasQueue : Bool) (created : Nat → Bool) :
    Conserved images (init images pumps hasQueue created) where
  perm := List.Perm.refl _
  image := fun t _ h => by cases t <;> cases h
  work := fun _ h => by cases h
  fresh := by
    rintro rfl i -
    exact createSemaphore_ne_unsignalled _
  unspent := fun _ _ h => by cases h
  error := fun _ h => by cases h
  status := .inl le_rfl
  returns := fun _ h => by cases h

/-! ### Threads and results -/

lemma Conserved.setThread (h : Conserved n s) {th : Thread CrossPlace CrossWait}
    (himage : ∀ i, imageOf th = some i → t = .app ∧ i ∈ s.held)
    (hunspent : t = .app → s.hasQueue = true → ∀ i, unspentOf th = some i →
      s.sourceAcquireSemaphore i ≠ .unsignalled)
    (hwork : t = .worker → ∀ work, workOf th = some work → work.index ∈ s.processing)
    (herror : t = .app → ∀ res, errorOf th = some res → res < 0) :
    Conserved n (s.setThread t th) := by
  refine ⟨h.perm, ?_, ?_, h.fresh, ?_, ?_, h.status, h.returns⟩
  · intro u i hi
    by_cases ht : u = t
    · subst ht
      exact himage i (by simpa [CrossSwapchain.setThread] using hi)
    · exact h.image u i (by simpa [CrossSwapchain.setThread, ht] using hi)
  · intro work hwork'
    by_cases ht : .worker = t
    · subst ht
      exact hwork rfl work (by simpa [CrossSwapchain.setThread] using hwork')
    · exact h.work work (by simpa [CrossSwapchain.setThread, ht] using hwork')
  · intro hqueue i hi
    by_cases ht : .app = t
    · subst ht
      exact hunspent rfl hqueue i (by simpa [CrossSwapchain.setThread] using hi)
    · exact h.unspent hqueue i (by simpa [CrossSwapchain.setThread, ht] using hi)
  · intro res hres
    by_cases ht : .app = t
    · subst ht
      exact herror rfl res (by simpa [CrossSwapchain.setThread] using hres)
    · exact h.error res (by simpa [CrossSwapchain.setThread, ht] using hres)

lemma Conserved.goto (h : Conserved n s) (t : CrossThread)
    (himage : imageOf (.running p) = none) (hwork : workOf (.running p) = none) :
    Conserved n (s.goto t p) := by
  have hunspent : unspentOf (.running p) = none := by
    cases p <;> first | rfl | cases himage
  have herror : errorOf (.running p) = none := by
    cases p <;> first | rfl | cases himage
  apply h.setThread
  · intro i hi
    rw [himage] at hi
    cases hi
  · intro _ _ i hi
    rw [hunspent] at hi
    cases hi
  · intro _ work hw
    rw [hwork] at hw
    cases hw
  · intro _ res hres
    rw [herror] at hres
    cases hres

lemma Conserved.gotoWork (h : Conserved n s) {work : Work} (hwork : work.index ∈ s.processing)
    (hp : workOf (.running p) = some work) : Conserved n (s.goto .worker p) := by
  have himage : imageOf (.running p) = none := by
    cases p <;> first | rfl | cases hp
  apply h.setThread
  · intro i hi
    rw [himage] at hi
    cases hi
  · intro ht
    cases ht
  · rintro - work' hw
    rw [hp] at hw
    cases hw
    exact hwork
  · intro ht
    cases ht

lemma mergeStatus_range {status err : VkResult} (h : status ≤ 0 ∨ status = VkResult.suboptimal) :
    mergeStatus status err ≤ 0 ∨ mergeStatus status err = VkResult.suboptimal := by
  unfold mergeStatus
  split
  · rename_i herr
    exact herr.imp le_of_lt And.right
  · exact h

lemma Conserved.markResult (h : Conserved n s) (err : VkResult) : Conserved n (s.markResult err) := by
  rcases s.markResult_cases err with hsame | hall
  · rwa [hsame]
  · rw [hall]
    refine ⟨h.perm, ?_, ?_, h.fresh, ?_, ?_, mergeStatus_range h.status, h.returns⟩
    · simpa only [notifyAll_apply, imageOf_wake] using h.image
    · simpa only [notifyAll_apply, workOf_wake] using h.work
    · simpa only [notifyAll_apply, unspentOf_wake] using h.unspent
    · simpa only [notifyAll_apply, errorOf_wake] using h.error

lemma markResult_held (s : CrossSwapchain) (err : VkResult) : (s.markResult err).held = s.held := by
  rcases s.markResult_cases err with h | h <;> rw [h]

lemma markResult_acquireQueue (s : CrossSwapchain) (err : VkResult) :
    (s.markResult err).acquireQueue = s.acquireQueue := by
  rcases s.markResult_cases err with h | h <;> rw [h]

lemma markResult_processing (s : CrossSwapchain) (err : VkResult) :
    (s.markResult err).processing = s.processing := by
  rcases s.markResult_cases err with h | h <;> rw [h]

lemma Conserved.logReturn (h : Conserved n s) {r : AcquireReturn} (hr : Honest r) :
    Conserved n (s.logReturn r) := by
  refine ⟨h.perm, h.image, h.work, h.fresh, h.unspent, h.error, h.status, fun r' hr' => ?_⟩
  rcases List.mem_append.1 hr' with hr' | hr'
  · exact h.returns r' hr'
  · rw [List.mem_singleton.1 hr']
    exact hr

/-! ### Moves -/

/-- Taking an element out of one list and putting it into another. -/
lemma count_erase_add {l : List Nat} {i : Nat} (h : i ∈ l) (a : Nat) :
    (l.erase i).count a + (if i = a then 1 else 0) = l.count a := by
  have hperm := (List.perm_cons_erase h).count_eq a
  rw [hperm, List.count_cons]
  simp

lemma Conserved.takeImage (h : Conserved n s) (call : AcquireCall) : Conserved n (s.takeImage call) := by
  unfold CrossSwapchain.takeImage
  split
  · rename_i hstatus
    exact (h.logReturn (.of_neg hstatus (.refl _))).goto .app rfl rfl
  · split
    · exact h
    · rename_i index rest hqueue
      have hmem : index ∈ s.stored := by simp [stored, hqueue]
      refine ⟨?_, ?_, h.work, ?_, ?_, fun res hres => (by cases hres), h.status, h.returns⟩
      · have heq : (s.held ++ [index]) ++ (rest ++ (s.workQueue.map Work.index ++ (s.processing ++ s.sink))) =
            s.owned := by
          simp [owned, stored, hqueue]
        exact (List.Perm.of_eq heq).trans h.perm
      · intro t i hi
        by_cases ht : t = .app
        · subst ht
          simp only [CrossSwapchain.goto, CrossSwapchain.setThread, Function.update_self, imageOf,
            Option.some.injEq] at hi
          subst hi
          exact ⟨rfl, List.mem_append_right _ (List.mem_singleton_self _)⟩
        · exact absurd (h.image t i (by simpa [CrossSwapchain.goto, CrossSwapchain.setThread, ht] using hi)).1 ht
      · intro hq i hi
        refine h.fresh hq i ?_
        simp only [stored, hqueue, List.cons_append]
        exact List.mem_cons_of_mem _ hi
      · intro hq i hi
        simp only [CrossSwapchain.goto, CrossSwapchain.setThread, Function.update_self, unspentOf,
          Option.some.injEq] at hi
        subst hi
        exact h.fresh hq index hmem

lemma Conserved.takeWork (h : Conserved n s) : Conserved n s.takeWork := by
  unfold CrossSwapchain.takeWork
  split
  · exact h.goto .worker rfl rfl
  · split
    · exact h
    · rename_i work rest hqueue
      have hcount : ∀ a, ({ s with workQueue := rest, processing := s.processing ++ [work.index] } :
          CrossSwapchain).stored.count a = s.stored.count a := by
        intro a
        simp only [stored, hqueue, List.count_append, List.map_cons, List.count_cons, List.count_nil]
        omega
      have hstored := List.perm_iff_count.2 hcount
      refine ⟨(hstored.append_left s.held).trans h.perm, ?_, ?_, ?_, h.unspent, h.error, h.status, h.returns⟩
      · intro t i hi
        by_cases ht : t = .worker
        · subst ht
          simp [CrossSwapchain.goto, CrossSwapchain.setThread, imageOf] at hi
        · exact h.image t i (by simpa [CrossSwapchain.goto, CrossSwapchain.setThread, ht] using hi)
      · intro work' hw
        simp only [CrossSwapchain.goto, CrossSwapchain.setThread, Function.update_self, workOf,
          Option.some.injEq] at hw
        subst hw
        exact List.mem_append_right _ (List.mem_singleton_self _)
      · exact fun hq i hi => h.fresh hq i (hstored.mem_iff.1 hi)

/-- An image of the application goes to one of the queues. -/
lemma stored_cons_perm {i : Nat} (h : Conserved n s) (hi : i ∈ s.held) (hheld : s'.held = s.held.erase i)
    (hstored : s'.stored.Perm (i :: s.stored)) : s'.owned.Perm (List.range n) := by
  refine List.Perm.trans ?_ h.perm
  apply List.perm_iff_count.2
  intro a
  have herase := count_erase_add hi a
  have hcount := hstored.count_eq a
  rw [List.count_cons] at hcount
  simp only [owned, List.count_append, hheld, hcount, beq_iff_eq]
  omega

/-! ### The application -/

lemma Conserved.not_mem_stored (h : Conserved n s) {i : Nat} (hi : i ∈ s.held) : i ∉ s.stored := by
  have hnodup : (s.held ++ s.stored).Nodup := h.perm.nodup_iff.2 List.nodup_range
  exact fun hi' => (List.nodup_append.1 hnodup).2.2 i hi i hi' rfl

/-- The application has no image in a call, so that its images may go elsewhere. -/
lemma Conserved.putBack (h : Conserved n s) (hidle : s.threads .app = .running .idle) {i : Nat}
    (hi : i ∈ s.held) (hpayload : s.hasQueue = true → s.sourceAcquireSemaphore i ≠ .unsignalled) :
    Conserved n (s.putBack i) := by
  have hstored : (s.putBack i).stored.Perm (i :: s.stored) := by
    apply List.perm_iff_count.2
    intro a
    simp only [stored, CrossSwapchain.putBack, List.count_append, List.count_cons, List.count_nil]
    omega
  refine ⟨stored_cons_perm h hi rfl hstored, ?_, h.work, ?_, h.unspent, h.error, h.status, h.returns⟩
  · intro t j hj
    obtain ⟨rfl, -⟩ := h.image t j hj
    simp [CrossSwapchain.putBack, hidle, imageOf] at hj
  · intro hq j hj
    rcases List.mem_cons.1 (hstored.mem_iff.1 hj) with rfl | hj
    · exact hpayload hq
    · exact h.fresh hq j hj

lemma Conserved.setPayload (h : Conserved n s) {i : Nat} (hi : i ∈ s.held)
    (hidle : unspentOf (s.threads .app) ≠ some i) (payload : Payload) :
    Conserved n { s with sourceAcquireSemaphore := Function.update s.sourceAcquireSemaphore i payload } := by
  refine ⟨h.perm, h.image, h.work, ?_, ?_, h.error, h.status, h.returns⟩
  · intro hq j hj
    have hne : j ≠ i := by
      rintro rfl
      exact h.not_mem_stored hi hj
    simpa [hne] using h.fresh hq j hj
  · intro hq j hj
    have hne : j ≠ i := by
      rintro rfl
      exact hidle hj
    simpa [hne] using h.unspent hq j hj

lemma goto_markResult (s : CrossSwapchain) (err : VkResult) (t : CrossThread) (p : CrossPlace) :
    (s.markResult err).goto t p = (s.goto t p).markResult err := by
  by_cases herr : err = VkResult.success
  · simp only [CrossSwapchain.markResult, if_pos herr]
  · by_cases hstatus : mergeStatus s.swapchainStatus err = VkResult.success
    · simp [CrossSwapchain.markResult, CrossSwapchain.goto, CrossSwapchain.setThread, herr, hstatus]
    · simp [CrossSwapchain.markResult, CrossSwapchain.goto, CrossSwapchain.setThread, herr, hstatus,
        notifyAll_update_running]

/-- What is asked of the calls that `acquire` makes: the payload of the image's semaphore can be
exported and is one, the fence can be created and exported, and no error of another thread overtakes a
call that has everything. No push of the worker may race with one of the application. -/
def Sound (s : CrossSwapchain) : CrossEvent → Prop
  | .acquired results => ∀ call index, s.threads .app = .running (.acquiring call index) →
    (call.semaphore → results.getSemaphoreFd = VkResult.success ∧ s.hasQueue = true ∧
      s.sourceAcquireSemaphore index ≠ .missing) ∧
    ((call.semaphore → results.importSemaphoreFd = VkResult.success) → call.fence →
      results.createFence = VkResult.success ∧ results.getFenceFd = VkResult.success) ∧
    ((call.semaphore → results.importSemaphoreFd = VkResult.success) →
      (call.fence → results.importFenceFd = VkResult.success) → 0 ≤ s.swapchainStatus)
  | .restored _ => s.Undisturbed
  | _ => True

/-- Then the image is put back or passed on. -/
lemma Sound.exit {results : AcquireResults} (h : Sound s (.acquired results)) {call : AcquireCall}
    {index : Nat} (happ : s.threads .app = .running (.acquiring call index)) :
    (∃ res, acquireExit call results = .restores res ∧ res ≠ VkResult.success ∧
      (res = results.importSemaphoreFd ∨ res = results.importFenceFd)) ∨
    (acquireExit call results = .completes ∧ 0 ≤ s.swapchainStatus ∧
      (call.semaphore → s.hasQueue = true ∧ s.sourceAcquireSemaphore index ≠ .missing)) := by
  obtain ⟨hsemaphore, hfence, hstatus⟩ := h call index happ
  have hget : ¬(call.semaphore ∧ results.getSemaphoreFd ≠ VkResult.success) :=
    fun hno => hno.2 (hsemaphore hno.1).1
  rw [acquireExit, if_neg hget]
  by_cases himport : call.semaphore ∧ results.importSemaphoreFd ≠ VkResult.success
  · rw [if_pos himport]
    exact .inl ⟨_, rfl, himport.2, .inl rfl⟩
  · rw [if_neg himport]
    have himport' : call.semaphore → results.importSemaphoreFd = VkResult.success :=
      fun hs => not_not.1 fun hne => himport ⟨hs, hne⟩
    by_cases hf : call.fence
    · obtain ⟨hcreate, hgetFence⟩ := hfence himport' hf
      rw [if_pos hf, if_neg (not_not.2 hcreate), if_neg (not_not.2 hgetFence)]
      by_cases hfd : results.importFenceFd ≠ VkResult.success
      · rw [if_pos hfd]
        exact .inl ⟨_, rfl, hfd, .inr rfl⟩
      · rw [if_neg hfd]
        exact .inr ⟨rfl, hstatus himport' fun _ => not_not.1 hfd, fun hs => (hsemaphore hs).2⟩
    · rw [if_neg hf]
      exact .inr ⟨rfl, hstatus himport' fun hf' => absurd hf' hf, fun hs => (hsemaphore hs).2⟩

lemma markedResult_markResult_neg {err : VkResult} (h : err < 0) :
    (s.markResult err).markedResult err < 0 := by
  have hstatus : mergeStatus s.swapchainStatus err = err := by
    rw [mergeStatus, if_pos (.inl h)]
  have hne : err ≠ VkResult.success := by
    rintro rfl
    exact absurd h (lt_irrefl 0)
  simp only [markResult, if_neg hne, hstatus, markedResult]
  exact h

lemma Conserved.finishAcquire (h : Conserved n s) {call : AcquireCall} {index : Nat} {results : AcquireResults}
    (happ : s.threads .app = .running (.acquiring call index)) (hlegal : Legal s (.acquired results))
    (hsound : Sound s (.acquired results)) : Conserved n (s.finishAcquire call index results) := by
  have hi : index ∈ s.held := (h.image .app index (by rw [happ]; rfl)).2
  have hpayload : s.hasQueue = true → s.sourceAcquireSemaphore index ≠ .unsignalled :=
    fun hq => h.unspent hq index (by rw [happ]; rfl)
  have hgoto : Conserved n (s.goto .app .idle) := h.goto .app rfl rfl
  have hidle : (s.goto .app .idle).threads .app = .running .idle := by
    simp [CrossSwapchain.goto, CrossSwapchain.setThread]
  unfold CrossSwapchain.finishAcquire
  rcases hsound.exit happ with ⟨res, hexit, hne, hres⟩ | ⟨hexit, hstatus, hsemaphore⟩
  · have hneg : res < 0 := by
      obtain ⟨-, hsem, hfence⟩ := hlegal
      rcases hres with rfl | rfl
      · exact lt_of_le_of_ne hsem hne
      · exact lt_of_le_of_ne hfence hne
    rw [hexit]
    apply h.setThread
    · rintro i hi'
      cases hi'
      exact ⟨rfl, hi⟩
    · rintro - hq i hi'
      cases hi'
      exact hpayload hq
    · intro ht
      cases ht
    · rintro - res' hres'
      cases hres'
      exact hneg
  · rw [hexit]
    dsimp only
    have hmarked : s.markedResult VkResult.success = s.swapchainStatus := by
      unfold markedResult
      split
      · rename_i hs
        exact hs.symm
      · rfl
    rw [hmarked, if_neg (not_lt.2 hstatus)]
    have hpass := hgoto.setPayload hi (by rw [hidle]; intro heq; cases heq) (s.payloadAfter call index)
    refine hpass.logReturn (.of_nonneg hstatus h.status ⟨⟨index, rfl, rfl⟩, ?_, ?_⟩)
    · cases hs : call.semaphore with
      | false => simp
      | true =>
        obtain ⟨hq, hmissing⟩ := hsemaphore hs
        have hun := hpayload hq
        cases hsig : s.sourceAcquireSemaphore index with
        | missing => exact absurd hsig hmissing
        | unsignalled => exact absurd hsig hun
        | signalled => simp
    · cases hf : call.fence <;> simp

/-- A push that the worker has not disturbed puts the image back. -/
lemma Conserved.restore (h : Conserved n s) {index : Nat} {before : List Nat} {failed : Option VkResult}
    (happ : s.threads .app = .running (.restoring index before failed)) (hsame : s.acquireQueue = before)
    (raced : List Nat) : Conserved n (s.restore index before failed raced) := by
  have hi : index ∈ s.held := (h.image .app index (by rw [happ]; rfl)).2
  have hpayload : s.hasQueue = true → s.sourceAcquireSemaphore index ≠ .unsignalled :=
    fun hq => h.unspent hq index (by rw [happ]; rfl)
  have hgoto : Conserved n (s.goto .app .idle) := h.goto .app rfl rfl
  have hidle : (s.goto .app .idle).threads .app = .running .idle := by
    simp [CrossSwapchain.goto, CrossSwapchain.setThread]
  have hput := hgoto.putBack hidle hi hpayload
  unfold CrossSwapchain.restore
  rw [if_pos hsame]
  cases failed with
  | none => exact hput
  | some res =>
    have hneg : res < 0 := h.error res (by rw [happ]; rfl)
    have hresult := markedResult_markResult_neg (s := s.putBack index) hneg
    have hback : Conserved n (((s.putBack index).markResult res).goto .app .idle) := by
      rw [goto_markResult]
      exact hput.markResult res
    have hqueue : ((s.putBack index).markResult res).acquireQueue.Perm (index :: s.acquireQueue) := by
      rw [markResult_acquireQueue]
      exact List.perm_append_singleton index s.acquireQueue
    exact hback.logReturn (.of_neg hresult hqueue)

lemma markResult_sourceAcquireSemaphore (s : CrossSwapchain) (err : VkResult) :
    (s.markResult err).sourceAcquireSemaphore = s.sourceAcquireSemaphore := by
  rcases s.markResult_cases err with h | h <;> rw [h]

lemma Conserved.submitSource (h : Conserved n s) {index : Nat}
    (happ : s.threads .app = .running (.submitting index)) (initCommands submit : VkResult)
    (fence : Option VkResult) : Conserved n (s.submitSource index initCommands submit fence) := by
  have hi : index ∈ s.held := (h.image .app index (by rw [happ]; rfl)).2
  unfold CrossSwapchain.submitSource
  split
  · exact (h.markResult _).goto .app rfl rfl
  · split
    · exact (h.markResult _).goto .app rfl rfl
    · have hsignal : Conserved n (s.signalSource index) :=
        h.setPayload hi (by rw [happ]; intro heq; cases heq) _
      have hmarked := hsignal.markResult (fence.getD VkResult.success)
      unfold finishSubmit
      dsimp only
      split
      · exact (hmarked.markResult _).goto .app rfl rfl
      · apply hmarked.setThread
        · intro i hi'
          cases hi'
          rw [markResult_held]
          exact ⟨rfl, hi⟩
        · rintro - - i hi'
          cases hi'
          rw [markResult_sourceAcquireSemaphore]
          simp only [signalSource, Function.update_self]
          split <;> nofun
        · intro ht
          cases ht
        · rintro - res hres
          cases hres

lemma Conserved.pushWork (h : Conserved n s) {index : Nat}
    (happ : s.threads .app = .running (.queueing index)) (next : CrossThread) :
    Conserved n (s.pushWork index next) := by
  have hi : index ∈ s.held := (h.image .app index (by rw [happ]; rfl)).2
  have hstored : (s.pushWork index next).stored.Perm (index :: s.stored) := by
    apply List.perm_iff_count.2
    intro a
    simp only [stored, CrossSwapchain.pushWork, List.map_append, List.map_cons, List.map_nil,
      List.count_append, List.count_cons, List.count_nil]
    omega
  refine ⟨stored_cons_perm h hi rfl hstored, ?_, ?_, ?_, ?_, ?_, h.status, h.returns⟩
  · intro t i hi'
    by_cases ht : t = .app
    · subst ht
      simp [CrossSwapchain.pushWork, imageOf] at hi'
    · simp only [CrossSwapchain.pushWork, ne_eq, ht, not_false_eq_true, Function.update_of_ne,
        apply_notifyOne imageOf_wake] at hi'
      exact absurd (h.image t i hi').1 ht
  · intro work hw
    simp only [CrossSwapchain.pushWork, ne_eq, reduceCtorEq, not_false_eq_true, Function.update_of_ne,
      apply_notifyOne workOf_wake] at hw
    exact h.work work hw
  · intro hq i hi'
    rcases List.mem_cons.1 (hstored.mem_iff.1 hi') with rfl | hi'
    · exact h.unspent hq i (by rw [happ]; rfl)
    · exact h.fresh hq i hi'
  · intro hq i hi'
    simp [CrossSwapchain.pushWork, unspentOf] at hi'
  · intro res hres
    simp [CrossSwapchain.pushWork, errorOf] at hres

lemma Conserved.releaseImage (h : Conserved n s) (happ : s.threads .app = .running .idle) {index : Nat}
    (hi : index ∈ s.held) (created : Bool) : Conserved n (s.releaseImage index created) := by
  have hpayload := h.setPayload hi (by rw [happ]; intro heq; cases heq) (createSemaphore s.hasQueue created)
  unfold CrossSwapchain.releaseImage
  dsimp only
  split
  · apply hpayload.setThread
    · intro i hi'
      cases hi'
      exact ⟨rfl, hi⟩
    · rintro - hq i hi'
      cases hi'
      simp only [Function.update_self]
      rw [show s.hasQueue = true from hq]
      exact createSemaphore_ne_unsignalled created
    · intro ht
      cases ht
    · rintro - res hres
      cases hres
  · exact hpayload

/-! ### The worker -/

lemma Conserved.markAndStop (h : Conserved n s) (err : VkResult) :
    Conserved n ((s.markResult err).goto .worker .stopped) :=
  (h.markResult err).goto .worker rfl rfl

lemma Conserved.sourceDone (h : Conserved n s) {work : Work}
    (hworker : s.threads .worker = .running (.waitingForSource work)) (fences : Bool) (next : CrossThread) :
    Conserved n (s.sourceDone work fences next) := by
  unfold CrossSwapchain.sourceDone
  split
  · refine ⟨h.perm, ?_, ?_, h.fresh, ?_, ?_, h.status, h.returns⟩
    · intro t i hi
      by_cases ht : t = .worker
      · subst ht
        simp [imageOf] at hi
      · simp only [ne_eq, ht, not_false_eq_true, Function.update_of_ne, apply_notifyOne imageOf_wake] at hi
        exact h.image t i hi
    · intro work' hw
      simp only [Function.update_self, workOf, Option.some.injEq] at hw
      subst hw
      exact h.work work (by rw [hworker]; rfl)
    · intro hq i hi
      simp only [ne_eq, reduceCtorEq, not_false_eq_true, Function.update_of_ne,
        apply_notifyOne unspentOf_wake] at hi
      exact h.unspent hq i hi
    · intro res hres
      simp only [ne_eq, reduceCtorEq, not_false_eq_true, Function.update_of_ne,
        apply_notifyOne errorOf_wake] at hres
      exact h.error res hres
  · exact h.markAndStop _

lemma Conserved.submitSink (h : Conserved n s) {work : Work}
    (hworker : s.threads .worker = .running (.waitingForSink work)) (fences : Bool) (submit : VkResult) :
    Conserved n (s.submitSink work fences submit) := by
  have hwork := h.work work (by rw [hworker]; rfl)
  unfold CrossSwapchain.submitSink CrossSwapchain.markAndGo
  split
  · dsimp only
    split
    · exact h.markAndStop _
    · exact (h.markResult submit).gotoWork (by rwa [markResult_processing]) rfl
  · exact h.markAndStop _

/-- The worker passes its image on and goes to a place where it has none. -/
lemma Conserved.passToSink (h : Conserved n s) {work : Work} (hwork : work.index ∈ s.processing)
    (himage : imageOf (.running p) = none) (hp : workOf (.running p) = none) :
    Conserved n { s.goto .worker p with
      processing := s.processing.erase work.index, sink := s.sink ++ [work.index] } := by
  have hstored : ({ s.goto .worker p with
      processing := s.processing.erase work.index, sink := s.sink ++ [work.index] } :
      CrossSwapchain).stored.Perm s.stored := by
    apply List.perm_iff_count.2
    intro a
    have herase := count_erase_add hwork a
    simp only [stored, CrossSwapchain.goto, CrossSwapchain.setThread, List.count_append, List.count_cons,
      List.count_nil, beq_iff_eq]
    omega
  have hgoto := h.goto .worker himage hp
  refine ⟨(hstored.append_left s.held).trans h.perm, hgoto.image, ?_, ?_, hgoto.unspent, hgoto.error, h.status,
    h.returns⟩
  · intro work' hw
    simp only [CrossSwapchain.goto, CrossSwapchain.setThread, Function.update_self, hp] at hw
    cases hw
  · exact fun hq i hi => h.fresh hq i (hstored.mem_iff.1 hi)

lemma Conserved.presentSink (h : Conserved n s) {work : Work}
    (hworker : s.threads .worker = .running (.presenting work)) (present : VkResult) :
    Conserved n (s.presentSink work present) := by
  have hwork := h.work work (by rw [hworker]; rfl)
  unfold CrossSwapchain.presentSink
  by_cases hpresent : 0 ≤ present
  · rw [if_pos hpresent]
    unfold CrossSwapchain.markAndGo
    dsimp only
    split
    · rw [goto_markResult]
      exact (h.passToSink (p := .stopped) hwork rfl rfl).markResult present
    · rw [goto_markResult]
      exact (h.passToSink (p := .publishing work) hwork rfl rfl).markResult present
  · rw [if_neg hpresent]
    unfold CrossSwapchain.markAndGo
    dsimp only
    split
    · exact h.markAndStop present
    · exact (h.markResult present).goto .worker rfl rfl

lemma Conserved.publish (h : Conserved n s) (work : Work) : Conserved n (s.publish work) := by
  unfold CrossSwapchain.publish
  split
  · apply Conserved.goto _ .worker rfl rfl
    refine ⟨h.perm, ?_, ?_, h.fresh, ?_, ?_, h.status, h.returns⟩
    · simpa only [notifyAll_apply, imageOf_wake] using h.image
    · simpa only [notifyAll_apply, workOf_wake] using h.work
    · simpa only [notifyAll_apply, unspentOf_wake] using h.unspent
    · simpa only [notifyAll_apply, errorOf_wake] using h.error
  · exact h.goto .worker rfl rfl

lemma Conserved.markPump (h : Conserved n s) (rest : Option Nat) (err : VkResult) :
    Conserved n (s.markPump rest err) := by
  have hmark := h.markResult err
  unfold CrossSwapchain.markPump afterPump
  split
  · dsimp only
    split <;> exact hmark.goto .worker rfl rfl
  · exact hmark.goto .worker rfl rfl
  · exact hmark.goto .worker rfl rfl

lemma Conserved.pump (h : Conserved n s) {rest : Option Nat}
    (hworker : s.threads .worker = .running (.pumping rest)) {results : PumpResults}
    (hindex : 0 ≤ results.acquireNextImage → results.index ∈ s.sink) (next : CrossThread) :
    Conserved n (s.pumpAcquireSinkImage rest results next) := by
  by_cases hpumps : s.Pumps results
  · have hsink := hindex (not_lt.1 hpumps.2.1)
    rw [pumpAcquireSinkImage_of_pumps hpumps]
    have hstored : (s.acquireQueue ++ [results.index] ++ (s.workQueue.map Work.index ++
        (s.processing ++ s.sink.erase results.index))).Perm s.stored := by
      apply List.perm_iff_count.2
      intro a
      have herase := count_erase_add hsink a
      simp only [stored, List.count_append, List.count_cons, List.count_nil, beq_iff_eq]
      omega
    refine ⟨(hstored.append_left s.held).trans h.perm, ?_, ?_, ?_, ?_, ?_, h.status, h.returns⟩
    · intro t i hi
      by_cases ht : t = .worker
      · subst ht
        simp [imageOf] at hi
      · simp only [ne_eq, ht, not_false_eq_true, Function.update_of_ne, apply_notifyOne imageOf_wake] at hi
        exact h.image t i hi
    · intro work hw
      simp [workOf] at hw
    · exact fun hq i hi => h.fresh hq i (hstored.mem_iff.1 hi)
    · intro hq i hi
      simp only [ne_eq, reduceCtorEq, not_false_eq_true, Function.update_of_ne,
        apply_notifyOne unspentOf_wake] at hi
      exact h.unspent hq i hi
    · intro res hres
      simp only [ne_eq, reduceCtorEq, not_false_eq_true, Function.update_of_ne,
        apply_notifyOne errorOf_wake] at hres
      exact h.error res hres
  · unfold pumpAcquireSinkImage
    split
    · exact h.markPump _ _
    · rename_i hpool
      dsimp only
      split
      · apply Conserved.goto _ .worker rfl rfl
        exact ⟨h.perm, h.image, h.work, h.fresh, h.unspent, h.error, h.status, h.returns⟩
      · rename_i hacquire
        split
        · have hsink := hindex (not_lt.1 hacquire)
          have hstored : (s.acquireQueue ++ (s.workQueue.map Work.index ++
              (s.processing ++ [results.index] ++ s.sink.erase results.index))).Perm s.stored := by
            apply List.perm_iff_count.2
            intro a
            have herase := count_erase_add hsink a
            simp only [stored, List.count_append, List.count_cons, List.count_nil, beq_iff_eq]
            omega
          apply Conserved.markPump
          refine ⟨(hstored.append_left s.held).trans h.perm, h.image, ?_, ?_, h.unspent, h.error, h.status,
            h.returns⟩
          · intro work hw
            simp [hworker, workOf] at hw
          · exact fun hq i hi => h.fresh hq i (hstored.mem_iff.1 hi)
        · rename_i hfences
          exact absurd ⟨hpool, hacquire, hfences⟩ hpumps

/-! ### Runs -/

lemma Conserved.passWait (h : Conserved n s)
    (hi : ∀ family index, w = .sourceCommands family index → t = .app ∧ index ∈ s.held) :
    Conserved n (s.passWait t w) := by
  unfold CrossSwapchain.passWait
  split
  · cases w with
    | work => exact h.takeWork
    | image call => exact h.takeImage call
    | sourceCommands family index =>
      have hfamily : Conserved n { s with sourceFamily := some family } :=
        ⟨h.perm, h.image, h.work, h.fresh, h.unspent, h.error, h.status, h.returns⟩
      apply hfamily.setThread
      · intro i hi'
        cases hi'
        exact ⟨rfl, (hi family index rfl).2⟩
      · rintro - - i hi'
        cases hi'
      · intro ht
        cases ht
      · rintro - res hres
        cases hres
    | present id timed =>
      dsimp only [afterPresentWait]
      split <;> exact h.goto t rfl rfl
  · apply h.setThread
    · intro i hi'
      cases w with
      | sourceCommands family index =>
        cases hi'
        exact hi family _ rfl
      | work => cases hi'
      | image call => cases hi'
      | present id timed => cases hi'
    · rintro - - i hi'
      cases hi'
    · rintro - work hw
      cases hw
    · rintro - res hres
      cases hres

lemma Conserved.timeOut (h : Conserved n s) (t : CrossThread) (w : CrossWait) :
    Conserved n (s.timeOut t w) := by
  unfold CrossSwapchain.timeOut
  split
  · apply Conserved.goto _ t rfl rfl
    apply h.logReturn
    refine ⟨fun _ => .refl _, ?_⟩
    dsimp only
    split
    · exact fun hr => absurd hr (by decide)
    · exact fun hr => absurd hr (by decide)
  · exact h.goto t rfl rfl

lemma Conserved.step (h : Conserved n s) {e : CrossEvent} (he : Legal s e) (hsound : Sound s e) :
    Conserved n (s.step e) := by
  cases e with
  | setPresentId id => exact ⟨h.perm, h.image, h.work, h.fresh, h.unspent, h.error, h.status, h.returns⟩
  | acquire call => exact h.passWait fun _ _ heq => by cases heq
  | acquired results =>
    obtain ⟨call, index, happ⟩ := he.1
    simp only [CrossSwapchain.step, happ]
    exact h.finishAcquire happ he hsound
  | restored raced =>
    obtain ⟨index, before, failed, happ⟩ := he
    simp only [CrossSwapchain.step, happ]
    exact h.restore happ (hsound index before failed happ) raced
  | queuePresent family index =>
    simp only [CrossSwapchain.step]
    split
    · apply h.passWait
      rintro family' index' heq
      cases heq
      exact ⟨rfl, he.2.2⟩
    · apply h.setThread
      · intro i hi'
        cases hi'
        exact ⟨rfl, he.2.2⟩
      · rintro - - i hi'
        cases hi'
      · intro ht
        cases ht
      · rintro - res hres
        cases hres
  | submitted initCommands submit fence =>
    obtain ⟨⟨index, happ⟩, -⟩ := he
    simp only [CrossSwapchain.step, happ]
    exact h.submitSource happ initCommands submit fence
  | pushWork next =>
    obtain ⟨⟨index, happ⟩, -⟩ := he
    simp only [CrossSwapchain.step, happ]
    exact h.pushWork happ next
  | releaseImage index created => exact h.releaseImage he.2.1 he.2.2 created
  | waitForPresent k id timed => exact h.passWait fun _ _ heq => by cases heq
  | presentWaited k result =>
    simp only [CrossSwapchain.step, show s.threads (.waiter k) = _ from he]
    exact (h.markResult result).goto _ rfl rfl
  | takeWork =>
    simp only [CrossSwapchain.step, show s.threads .worker = _ from he]
    exact h.passWait fun _ _ heq => by cases heq
  | sourceDone fences next =>
    obtain ⟨⟨work, hworker⟩, -⟩ := he
    simp only [CrossSwapchain.step, hworker]
    exact h.sourceDone hworker fences next
  | submitSink fences submit =>
    obtain ⟨work, hworker⟩ := he
    simp only [CrossSwapchain.step, hworker]
    exact h.submitSink hworker fences submit
  | presentSink present =>
    obtain ⟨work, hworker⟩ := he
    simp only [CrossSwapchain.step, hworker]
    exact h.presentSink hworker present
  | publish =>
    obtain ⟨work, hworker⟩ := he
    simp only [CrossSwapchain.step, hworker]
    exact h.publish work
  | pump results next =>
    obtain ⟨⟨rest, hworker⟩, hindex, -⟩ := he
    simp only [CrossSwapchain.step, hworker]
    exact h.pump hworker hindex next
  | pumped =>
    obtain ⟨rest, res, hworker⟩ := he
    simp only [CrossSwapchain.step, hworker]
    exact h.markPump rest res
  | wake t =>
    apply h.setThread
    · intro i hi
      exact h.image t i (by rwa [imageOf_wake] at hi)
    · rintro rfl hq i hi
      exact h.unspent hq i (by rwa [unspentOf_wake] at hi)
    · rintro rfl work hw
      exact h.work work (by rwa [workOf_wake] at hw)
    · rintro rfl res hres
      exact h.error res (by rwa [errorOf_wake] at hres)
  | resume t timedOut =>
    obtain ⟨w, hw, -⟩ := he
    simp only [CrossSwapchain.step, hw]
    split
    · exact h.timeOut t w
    · apply h.passWait
      rintro family index rfl
      exact h.image t index (by rw [hw]; rfl)

/-! ### Main result -/

/-- In every run in which the calls of `acquire` meet their condition and no pushes race, every image is in
exactly one place, a call that fails leaves the images of the queue as they are, and a call that succeeds
passes an image on with signalled handles. -/
theorem images_conserved (images pumps : Nat) (hasQueue : Bool) (created : Nat → Bool) (es : List CrossEvent)
    (h : Runs.Along step Legal (init images pumps hasQueue created) es)
    (hsound : Runs.Along step Sound (init images pumps hasQueue created) es) :
    (es.foldl step (init images pumps hasQueue created)).owned.Perm (List.range images) ∧
      ∀ r ∈ (es.foldl step (init images pumps hasQueue created)).returns, Honest r := by
  have hconserved : Conserved images (es.foldl step (init images pumps hasQueue created)) := by
    apply (h.and hsound).invariant (conserved_init images pumps hasQueue created)
    rintro s e hs ⟨he, hsound⟩
    exact hs.step he hsound
  exact ⟨hconserved.perm, hconserved.returns⟩

/-- The application acquires an image with a fence. -/
def acquireWithFence (results : AcquireResults) : List CrossEvent :=
  [.pump { index := 0 } .worker, .pumped, .takeWork,
    .acquire { timeout := none, semaphore := false, fence := true }, .acquired results]

lemma choice_init (images pumps : Nat) (next : CrossThread) :
    Choice (init images pumps true fun _ => true).threads next := by
  rintro (_ | _ | k) ⟨w, hw⟩ <;> cases hw

lemma acquireWithFence_legal {results : AcquireResults} (hsemaphore : results.importSemaphoreFd ≤ 0)
    (hfence : results.importFenceFd ≤ 0) :
    Runs.Along step Legal (init 2 0 true fun _ => true) (acquireWithFence results) := by
  refine ⟨?_, ⟨_, _, rfl⟩, rfl, ?_, ?_, trivial⟩
  · exact ⟨⟨_, rfl⟩, fun _ => List.mem_cons_self, choice_init 2 0 _⟩
  · exact ⟨fun _ _ => ⟨nofun, nofun⟩, rfl⟩
  · exact ⟨⟨_, _, rfl⟩, hsemaphore, hfence⟩

/-- Two images are acquired, one is presented, and the other is given back while the worker pumps the
third. -/
def releaseWhilePumping : List CrossEvent :=
  [.pump { index := 0 } .worker, .pumped, .pump { index := 1 } .worker, .pumped,
    .acquire { timeout := none, semaphore := false, fence := false }, .acquired {},
    .acquire { timeout := none, semaphore := false, fence := false }, .acquired {},
    .queuePresent 0 0, .submitted 0 0 none, .pushWork .worker, .takeWork, .sourceDone true .worker,
    .submitSink true 0, .presentSink 0, .publish, .releaseImage 1 true, .pump { index := 2 } .worker,
    .restored []]

lemma releaseWhilePumping_legal :
    Runs.Along step Legal (init 3 1 true fun _ => true) releaseWhilePumping := by
  have hchoice : ∀ {s : CrossSwapchain} {next}, (∀ t, ∃ p, s.threads t = .running p) → Choice s.threads next := by
    rintro s next h t ⟨w, hw⟩
    obtain ⟨p, hp⟩ := h t
    rw [hp] at hw
    cases hw
  refine ⟨⟨⟨_, rfl⟩, fun _ => by decide, hchoice ?_⟩, ⟨_, _, rfl⟩, ⟨⟨_, rfl⟩, fun _ => by decide, hchoice ?_⟩,
    ⟨_, _, rfl⟩, ⟨fun _ _ => ⟨nofun, nofun⟩, rfl⟩, ⟨⟨_, _, rfl⟩, le_rfl, le_rfl⟩,
    ⟨fun _ _ => ⟨nofun, nofun⟩, rfl⟩, ⟨⟨_, _, rfl⟩, le_rfl, le_rfl⟩,
    ⟨fun _ _ => ⟨nofun, nofun⟩, rfl, by decide⟩, ⟨⟨_, rfl⟩, le_rfl, le_rfl⟩, ⟨⟨_, rfl⟩, hchoice ?_⟩, rfl,
    ⟨⟨_, rfl⟩, hchoice ?_⟩, ⟨_, rfl⟩, ⟨_, rfl⟩, ⟨_, rfl⟩, ⟨fun _ _ => ⟨nofun, nofun⟩, rfl, by decide⟩,
    ⟨⟨_, rfl⟩, fun _ => by decide, hchoice ?_⟩, ⟨_, _, _, rfl⟩, trivial⟩
  all_goals rintro (_ | _ | k) <;> exact ⟨_, rfl⟩

/-- If the fence cannot be created the image is nowhere any more, if it cannot be exported the call reports
success for a fence without a payload, and if the worker pumps an image while the application gives one
back both may be lost. -/
theorem acquire_exits_lose :
    (Runs.Along step Legal (init 2 0 true fun _ => true) (acquireWithFence { createFence := -1 }) ∧
      0 ∉ ((acquireWithFence { createFence := -1 }).foldl step (init 2 0 true fun _ => true)).owned) ∧
    (Runs.Along step Legal (init 2 0 true fun _ => true) (acquireWithFence { getFenceFd := -1 }) ∧
      ((acquireWithFence { getFenceFd := -1 }).foldl step (init 2 0 true fun _ => true)).returns =
        [{ result := VkResult.success, index := some 0, queueWithout := [0], queue := [], fence := some false }]) ∧
    Runs.Along step Legal (init 3 1 true fun _ => true) releaseWhilePumping ∧
      (releaseWhilePumping.foldl step (init 3 1 true fun _ => true)).owned = [0] := by
  refine ⟨⟨acquireWithFence_legal le_rfl le_rfl, ?_⟩, ⟨acquireWithFence_legal le_rfl le_rfl, ?_⟩,
    releaseWhilePumping_legal, ?_⟩
  · decide
  · decide
  · decide +kernel

/-- The fence cannot be imported, and the image goes back into the queue. -/
theorem images_conserved_fence :
    ((acquireWithFence { importFenceFd := -1 } ++ [CrossEvent.restored []]).foldl step
      (init 2 0 true fun _ => true)).owned.Perm (List.range 2) := by
  have hlegal : Runs.Along step Legal (init 2 0 true fun _ => true)
      (acquireWithFence { importFenceFd := -1 } ++ [CrossEvent.restored []]) :=
    (acquireWithFence_legal le_rfl (by decide)).append ⟨⟨_, _, _, rfl⟩, trivial⟩
  have hsound : Runs.Along step Sound (init 2 0 true fun _ => true)
      (acquireWithFence { importFenceFd := -1 } ++ [CrossEvent.restored []]) := by
    refine ⟨trivial, trivial, trivial, trivial, fun call index happ => ?_, fun index before failed happ => ?_, trivial⟩
    · cases happ
      exact ⟨nofun, fun _ _ => ⟨rfl, rfl⟩, fun _ _ => le_rfl⟩
    · cases happ
      rfl
  exact (images_conserved 2 0 true _ _ hlegal hsound).1

end CrossSwapchain

end PyroFling
