import PyroFling.Proofs.FenceUse

/-!
# Semaphores that are signalled again

The submission to the source GPU signals the semaphore of its image, from which `acquire` has taken the payload
for the application. If every call of `acquire` passes a semaphore, the images of the application have semaphores
that are not signalled, until the swapchain fails.
-/

namespace PyroFling

open Monitor

namespace CrossSwapchain

variable {s s' s'' : CrossSwapchain} {t next : CrossThread} {w : CrossWait} {p : CrossPlace} {n i : Nat}

/-- The image for which the application is between two of its sections. -/
def busyWith : Thread CrossPlace CrossWait → Option Nat
  | .running (.acquiring _ i) | .running (.restoring i _ _) | .running (.queueing i) => some i
  | _ => none

@[simp] lemma busyWith_wake (th : Thread CrossPlace CrossWait) : busyWith th.wake = busyWith th := by
  cases th with
  | running p => rfl
  | blocked w => rfl
  | woken w => rfl

lemma busyWith_goto (s : CrossSwapchain) (p : CrossPlace) :
    busyWith ((s.goto .app p).threads .app) = busyWith (.running p) := by
  simp [CrossSwapchain.goto, CrossSwapchain.setThread]

/-! ### What most steps leave alone -/

/-- The images of the application and their semaphores are the same, and a failure stays. -/
structure Frame (s s' : CrossSwapchain) : Prop where
  held : s'.held = s.held
  payload : s'.sourceAcquireSemaphore = s.sourceAcquireSemaphore
  busy : busyWith (s'.threads .app) = busyWith (s.threads .app)
  failed : s.failed = true → s'.failed = true

lemma Frame.refl (s : CrossSwapchain) : Frame s s := ⟨rfl, rfl, rfl, fun h => h⟩

lemma Frame.trans (h : Frame s s') (h' : Frame s' s'') : Frame s s'' where
  held := h'.held.trans h.held
  payload := h'.payload.trans h.payload
  busy := h'.busy.trans h.busy
  failed hs := h'.failed (h.failed hs)

lemma frame_setThread (s : CrossSwapchain) (ht : t ≠ .app) (th : Thread CrossPlace CrossWait) :
    Frame s (s.setThread t th) := by
  refine ⟨rfl, rfl, ?_, fun h => h⟩
  exact congrArg busyWith (Function.update_of_ne ht.symm _ _)

lemma Frame.goto (h : Frame s s') (ht : t ≠ .app) (p : CrossPlace) : Frame s (s'.goto t p) :=
  h.trans (frame_setThread s' ht _)

lemma Frame.gotoWorker (h : Frame s s') (p : CrossPlace) : Frame s (s'.goto .worker p) :=
  h.goto (fun hno => by cases hno) p

lemma Frame.gotoWaiter (h : Frame s s') (n : Nat) (p : CrossPlace) : Frame s (s'.goto (.waiter n) p) :=
  h.goto (fun hno => by cases hno) p

lemma frame_markResult (s : CrossSwapchain) (err : VkResult) : Frame s (s.markResult err) := by
  refine ⟨markResult_held s err, markResult_sourceAcquireSemaphore s err, ?_, fun h => ?_⟩
  · rcases s.markResult_cases err with hsame | hwoken
    · rw [hsame]
    · rw [hwoken]
      exact busyWith_wake _
  · rw [failed_markResult, h, Bool.true_or]

lemma Frame.markResult (h : Frame s s') (err : VkResult) : Frame s (s'.markResult err) :=
  h.trans (frame_markResult s' err)

lemma Frame.markAndGo (h : Frame s s') (err : VkResult) (p : CrossPlace) : Frame s (s'.markAndGo err p) := by
  unfold CrossSwapchain.markAndGo
  dsimp only
  split
  · exact (h.markResult err).gotoWorker _
  · exact (h.markResult err).gotoWorker _

lemma Frame.markPump (h : Frame s s') (rest : Option Nat) (err : VkResult) : Frame s (s'.markPump rest err) := by
  unfold CrossSwapchain.markPump CrossSwapchain.afterPump
  dsimp only
  split
  · exact (h.markResult err).gotoWorker _
  · exact (h.markResult err).gotoWorker _
  · exact (h.markResult err).gotoWorker _

lemma frame_takeWork (s : CrossSwapchain) : Frame s s.takeWork := by
  unfold CrossSwapchain.takeWork
  split
  · exact (Frame.refl s).gotoWorker _
  · split
    · exact Frame.refl s
    · apply Frame.gotoWorker
      exact ⟨rfl, rfl, rfl, fun h => h⟩

/-- Until a failure the application has no image with a signalled semaphore, but for the one that a call is
about to hand over or to put away. -/
def Exported (s : CrossSwapchain) : Prop :=
  s.failed = false → ∀ i ∈ s.held, busyWith (s.threads .app) = some i ∨
    s.sourceAcquireSemaphore i ≠ .signalled

lemma Exported.of_failed (h : s.failed = true) : Exported s := by
  intro hno
  rw [h] at hno
  cases hno

lemma Exported.frame (h : Exported s) (hframe : Frame s s') : Exported s' := by
  intro hok i hi
  rw [hframe.held] at hi
  rw [hframe.payload, hframe.busy]
  refine h (Bool.eq_false_of_not_eq_true fun hfailed => ?_) i hi
  rw [hframe.failed hfailed] at hok
  cases hok

/-- Between two calls. -/
lemma Exported.free (h : Exported s) (hbusy : busyWith (s.threads .app) = none) (hok : s.failed = false)
    (hi : i ∈ s.held) : s.sourceAcquireSemaphore i ≠ .signalled := by
  rcases h hok i hi with hno | hpayload
  · rw [hbusy] at hno
    cases hno
  · exact hpayload

/-- The application goes on with what it has. -/
lemma Exported.go (h : Exported s) (hbusy : busyWith (s.threads .app) = none) (hheld : s'.held = s.held)
    (hpayload : s'.sourceAcquireSemaphore = s.sourceAcquireSemaphore)
    (hstatus : s'.swapchainStatus = s.swapchainStatus) : Exported s' := by
  intro hok i hi
  rw [failed, hstatus] at hok
  rw [hheld] at hi
  rw [hpayload]
  exact .inr (h.free hbusy hok hi)

/-- An image is given away at the end of a call. -/
lemma Exported.giveAway (h : Exported s) (hnodup : s.held.Nodup) (hbusy : busyWith (s.threads .app) = some i)
    (hheld : s'.held = s.held.erase i) (hpayload : s'.sourceAcquireSemaphore = s.sourceAcquireSemaphore)
    (hfailed : s.failed = true → s'.failed = true) : Exported s' := by
  intro hok j hj
  rw [hheld] at hj
  obtain ⟨hne, hmem⟩ := (hnodup.mem_erase_iff).1 hj
  have hok' : s.failed = false := Bool.eq_false_of_not_eq_true fun hfailed' => by
    rw [hfailed hfailed'] at hok
    cases hok
  rw [hpayload]
  rcases h hok' j hmem with hno | hj'
  · rw [hbusy] at hno
    exact absurd (Option.some.inj hno).symm hne
  · exact .inr hj'

lemma Exported.takeImage (h : Exported s) (hbusy : busyWith (s.threads .app) = none) (call : AcquireCall) :
    Exported (s.takeImage call) := by
  unfold CrossSwapchain.takeImage
  split
  · exact h.go hbusy rfl rfl rfl
  · split
    · exact h
    · rename_i index rest hqueue
      intro hok j hj
      rcases List.mem_append.1 hj with hold | hnew
      · exact .inr (h.free hbusy hok hold)
      · refine .inl ?_
        rw [List.mem_singleton.1 hnew, busyWith_goto]
        rfl

/-- The application gets an image whose semaphore it has taken. -/
lemma Exported.handOver (h : Exported s) {call : AcquireCall} {index : Nat} (hcall : call.semaphore = true)
    (hbusy : busyWith (s.threads .app) = some index) (result : VkResult) (fence : Bool) :
    Exported ((s.handOver call index result fence).goto .app .idle) := by
  intro hok j hj
  right
  change Function.update s.sourceAcquireSemaphore index (s.payloadAfter call index) j ≠ .signalled
  rcases eq_or_ne j index with rfl | hne
  · rw [Function.update_self, payloadAfter, hcall]
    split
    · nofun
    · rename_i hno
      exact fun hsignalled => hno ⟨rfl, hsignalled⟩
  · rw [Function.update_of_ne hne]
    rcases h hok j hj with hno | hpayload
    · rw [hbusy] at hno
      exact absurd (Option.some.inj hno).symm hne
    · exact hpayload

lemma Exported.finishAcquire (h : Exported s) (hnodup : s.held.Nodup) {call : AcquireCall} {index : Nat}
    (happ : s.threads .app = .running (.acquiring call index)) (hcall : call.semaphore = true)
    (results : AcquireResults) : Exported (s.finishAcquire call index results) := by
  have hbusy : busyWith (s.threads .app) = some index := by
    rw [happ]
    rfl
  unfold CrossSwapchain.finishAcquire
  split
  · exact h.giveAway hnodup hbusy rfl rfl fun hfailed => hfailed
  · intro hok j hj
    rw [CrossSwapchain.beginRestore, busyWith_goto]
    rcases h hok j hj with hsame | hpayload
    · rw [hbusy] at hsame
      exact .inl hsame
    · exact .inr hpayload
  · exact h.handOver hcall hbusy _ _
  · dsimp only
    split
    · exact h.giveAway hnodup hbusy rfl rfl fun hfailed => hfailed
    · exact h.handOver hcall hbusy _ _

lemma Exported.restore (h : Exported s) (hnodup : s.held.Nodup) {index : Nat} {before : List Nat}
    {failed : Option VkResult} (happ : s.threads .app = .running (.restoring index before failed))
    (raced : List Nat) : Exported (s.restore index before failed raced) := by
  have hbusy : busyWith (s.threads .app) = some index := by
    rw [happ]
    rfl
  have hpushed : ∀ queue, (if s.acquireQueue = before then s.putBack index
      else { s with acquireQueue := queue, held := s.held.erase index }).held = s.held.erase index ∧
      (if s.acquireQueue = before then s.putBack index
      else { s with acquireQueue := queue, held := s.held.erase index }).sourceAcquireSemaphore =
        s.sourceAcquireSemaphore ∧
      (if s.acquireQueue = before then s.putBack index
      else { s with acquireQueue := queue, held := s.held.erase index }).failed = s.failed := by
    intro queue
    split <;> exact ⟨rfl, rfl, rfl⟩
  obtain ⟨hheld, hpayload, hstatus⟩ := hpushed raced
  unfold CrossSwapchain.restore
  cases failed with
  | none => exact h.giveAway hnodup hbusy hheld hpayload fun hfailed => hstatus.trans hfailed
  | some res =>
    refine h.giveAway hnodup hbusy ((markResult_held _ res).trans hheld)
      ((markResult_sourceAcquireSemaphore _ res).trans hpayload) fun hfailed => ?_
    exact (frame_markResult _ res).failed (hstatus.trans hfailed)

lemma Exported.submitSource (h : Exported s) {index : Nat}
    (happ : s.threads .app = .running (.submitting index)) {initCommands submit : VkResult}
    (hinit : initCommands ≤ 0) (hsubmit : submit ≤ 0) (fence : Option VkResult) :
    Exported (s.submitSource index initCommands submit fence) := by
  have hfails : ∀ err : VkResult, err ≤ 0 → err ≠ VkResult.success →
      Exported ((s.markResult err).goto .app .idle) := by
    intro err hle hne
    apply Exported.of_failed
    change (s.markResult err).failed = true
    rw [failed_markResult, decide_eq_true (lt_of_le_of_ne hle hne), Bool.or_true]
  unfold CrossSwapchain.submitSource
  split
  · rename_i hne
    exact hfails initCommands hinit hne
  · split
    · rename_i hne
      exact hfails submit hsubmit hne
    · unfold CrossSwapchain.finishSubmit
      dsimp only
      split
      · rename_i hneg
        apply Exported.of_failed
        exact (frame_markResult _ _).failed ((markedResult_neg _ _).1 hneg)
      · intro hok j hj
        rw [busyWith_goto]
        rcases eq_or_ne j index with rfl | hne
        · exact .inl rfl
        · right
          have hkept := frame_markResult (s.signalSource index) (fence.getD VkResult.success)
          have hok' : s.failed = false := Bool.eq_false_of_not_eq_true fun hfailed => by
            have hstill := hkept.failed hfailed
            rw [show ((s.signalSource index).markResult (fence.getD VkResult.success)).failed = false from hok]
              at hstill
            cases hstill
          have hmem : j ∈ s.held := by
            have hmem' : j ∈ ((s.signalSource index).markResult (fence.getD VkResult.success)).held := hj
            rwa [hkept.held] at hmem'
          change ((s.signalSource index).markResult (fence.getD VkResult.success)).sourceAcquireSemaphore j ≠ _
          rw [hkept.payload]
          change Function.update s.sourceAcquireSemaphore index _ j ≠ _
          rw [Function.update_of_ne hne]
          exact h.free (by rw [happ]; rfl) hok' hmem

lemma Exported.releaseImage (h : Exported s) (hidle : s.threads .app = .running .idle) (index : Nat)
    (created : Bool) : Exported (s.releaseImage index created) := by
  have hbusy : busyWith (s.threads .app) = none := by
    rw [hidle]
    rfl
  unfold CrossSwapchain.releaseImage
  cases created with
  | true =>
    intro hok j hj
    change busyWith (Function.update s.threads .app _ .app) = some j ∨
      Function.update s.sourceAcquireSemaphore index _ j ≠ .signalled
    rw [Function.update_self]
    rcases eq_or_ne j index with rfl | hne
    · exact .inl rfl
    · rw [Function.update_of_ne hne]
      exact .inr (h.free hbusy hok hj)
  | false =>
    intro hok j hj
    change _ ∨ Function.update s.sourceAcquireSemaphore index (createSemaphore s.hasQueue false) j ≠ .signalled
    rcases eq_or_ne j index with rfl | hne
    · rw [Function.update_self]
      exact .inr nofun
    · rw [Function.update_of_ne hne]
      exact .inr (h.free hbusy hok hj)

lemma Exported.passWait (h : Exported s) (hsuits : Suits t w)
    (hbusy : t = .app → busyWith (s.threads .app) = none) : Exported (s.passWait t w) := by
  unfold CrossSwapchain.passWait
  split
  · cases w with
    | work => exact h.frame (frame_takeWork s)
    | image call =>
      cases t with
      | app => exact h.takeImage (hbusy rfl) call
      | worker => exact hsuits.elim
      | waiter n => exact hsuits.elim
    | sourceCommands family index =>
      cases t with
      | app => exact h.go (hbusy rfl) rfl rfl rfl
      | worker => exact hsuits.elim
      | waiter n => exact hsuits.elim
    | present id timed =>
      cases t with
      | waiter n =>
        dsimp only [afterPresentWait]
        split
        · exact h.frame ((Frame.refl s).gotoWaiter _ _)
        · exact h.frame ((Frame.refl s).gotoWaiter _ _)
      | app => exact hsuits.elim
      | worker => exact hsuits.elim
  · by_cases ht : t = .app
    · subst ht
      exact h.go (hbusy rfl) rfl rfl rfl
    · exact h.frame (frame_setThread s ht _)

lemma Exported.timeOut (h : Exported s) (hsuits : Suits t w)
    (hbusy : t = .app → busyWith (s.threads .app) = none) : Exported (s.timeOut t w) := by
  unfold CrossSwapchain.timeOut
  by_cases ht : t = .app
  · subst ht
    split
    · exact h.go (hbusy rfl) rfl rfl rfl
    · exact h.go (hbusy rfl) rfl rfl rfl
  · split
    · cases t with
      | app => exact absurd rfl ht
      | worker => exact hsuits.elim
      | waiter n => exact hsuits.elim
    · exact h.frame ((Frame.refl s).goto ht _)

end CrossSwapchain

/-! ### Runs -/

namespace FencedSwapchain

open CrossSwapchain

variable {n : Nat} {s : FencedSwapchain}

/-- An image is acquired, rendered and passed on to the worker, which has waited for its copy. -/
def presentWith (call : AcquireCall) : List FenceEvent :=
  [.cross (.pump { index := 0 } .worker), .cross .pumped, .cross .takeWork, .cross (.acquire call),
    .cross (.acquired {}), .cross (.queuePresent 0 0), .cross (.submitted 0 0 none), .cross (.pushWork .worker),
    .cross (.resume .worker false), .cross (.sourceDone true .worker)]

def presentOnce : List FenceEvent := presentWith { timeout := none, semaphore := true, fence := false }

lemma presentOnce_legal : Runs.Along step Legal (init 2 0 true fun _ => true) presentOnce := by
  have hinit : ∀ k res, (Thread.blocked CrossWait.work : Thread CrossPlace CrossWait) ≠ .running (.pumping (some k)) ∧
      (Thread.blocked CrossWait.work : Thread CrossPlace CrossWait) ≠ .running (.pumped (some k) res) := by
    simp
  have hno : false = true → ∀ {P : Prop}, P := fun hno => by cases hno
  refine ⟨⟨⟨⟨_, rfl⟩, fun _ => List.mem_cons_self, ?_⟩, fun h => hno h⟩, ⟨⟨_, _, rfl⟩, fun h => hno h⟩,
    ⟨rfl, fun h => hno h⟩, ⟨⟨hinit, rfl⟩, fun h => hno h⟩, ⟨⟨⟨_, _, rfl⟩, le_rfl, le_rfl⟩, fun h => hno h⟩,
    ⟨⟨hinit, rfl, List.mem_cons_self⟩, fun h => hno h⟩, ⟨⟨⟨_, rfl⟩, le_rfl, le_rfl⟩, fun h => hno h⟩,
    ⟨⟨⟨_, rfl⟩, fun _ _ => ⟨_, rfl⟩⟩, fun h => hno h⟩, ⟨⟨_, rfl, fun h => hno h⟩, fun h => hno h⟩,
    ⟨⟨⟨_, rfl⟩, ?_⟩, fun h => hno h⟩, trivial⟩
  · rintro (_ | _ | k) ⟨w, hw⟩ <;> cases hw
  · rintro (_ | _ | k) ⟨w, hw⟩ <;> cases hw

lemma presentOnce_unraced : Runs.Along step Unraced (init 2 0 true fun _ => true) presentOnce :=
  ⟨trivial, trivial, trivial, trivial, trivial, trivial, trivial, trivial, trivial, trivial, trivial⟩

end FencedSwapchain

end PyroFling
