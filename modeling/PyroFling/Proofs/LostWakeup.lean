import PyroFling.CrossSwapchain

/-!
# Wake-ups of the cross-GPU swapchain

Four waits with different predicates share one condition variable. A thread tests its predicate with
the mutex before it blocks, so that it can only be stranded by the step that makes the predicate true
and wakes somebody else. There are three such steps that wake one thread only.
-/

namespace PyroFling

namespace CrossSwapchain

open Monitor

variable {s s' : CrossSwapchain} {t next : CrossThread} {w : CrossWait} {p : CrossPlace}

/-- Which thread waits for what. -/
def Suits : CrossThread → CrossWait → Prop
  | .worker, .work => True
  | .app, .image _ => True
  | .app, .sourceCommands _ _ => True
  | .waiter _, .present _ _ => True
  | _, _ => False

/-- Without an error no thread is in a wait whose predicate is true. -/
structure Attentive (s : CrossSwapchain) : Prop where
  suits : ∀ t w, (s.threads t).waiting = some w → Suits t w
  quiet : 0 ≤ s.swapchainStatus → ∀ t w, s.threads t = .blocked w → ¬s.Ready w

lemma attentive_init (images pumps : Nat) (hasQueue : Bool) (created : Nat → Bool) :
    Attentive (init images pumps hasQueue created) := by
  constructor
  · intro t w h
    cases t <;> cases h
  · intro _ t w h
    cases t <;> cases h

/-! ### Ways to keep it -/

/-- No predicate of a thread in a wait becomes true. -/
lemma Attentive.mono (h : Attentive s) (hthreads : s'.threads = s.threads)
    (hstatus : s'.swapchainStatus = s.swapchainStatus)
    (hready : ∀ u w, s.threads u = .blocked w → s'.Ready w → s.Ready w) : Attentive s' := by
  constructor
  · rw [hthreads]
    exact h.suits
  · rw [hthreads, hstatus]
    exact fun hs u w hu hw => h.quiet hs u w hu (hready u w hu hw)

lemma Attentive.goto (h : Attentive s) (t : CrossThread) (p : CrossPlace) : Attentive (s.goto t p) := by
  constructor
  · intro u w hu
    by_cases hut : u = t
    · subst hut
      simp [CrossSwapchain.goto, setThread, Thread.waiting] at hu
    · exact h.suits u w (by simpa [CrossSwapchain.goto, setThread, hut] using hu)
  · intro hs u w hu
    by_cases hut : u = t
    · subst hut
      simp [CrossSwapchain.goto, setThread] at hu
    · exact h.quiet hs u w (by simpa [CrossSwapchain.goto, setThread, hut] using hu)

lemma Attentive.block (h : Attentive s) (hsuits : Suits t w) (hready : ¬s.Ready w) :
    Attentive (s.setThread t (.blocked w)) := by
  constructor
  · intro u v hu
    by_cases hut : u = t
    · subst hut
      simp only [setThread, Function.update_self, Thread.waiting, Option.some.injEq] at hu
      exact hu ▸ hsuits
    · exact h.suits u v (by simpa [setThread, hut] using hu)
  · intro hs u v hu
    by_cases hut : u = t
    · subst hut
      simp only [setThread, Function.update_self, Thread.blocked.injEq] at hu
      exact hu ▸ hready
    · exact h.quiet hs u v (by simpa [setThread, hut] using hu)

lemma Attentive.wakeAll (h : Attentive s) (hthreads : s'.threads = notifyAll s.threads) : Attentive s' := by
  constructor
  · intro u w hu
    rw [hthreads, notifyAll_apply, Thread.waiting_wake] at hu
    exact h.suits u w hu
  · intro _ u w hu
    rw [hthreads, notifyAll_apply] at hu
    exact absurd hu (Thread.wake_ne_blocked _ _)

/-- The thread whose predicate becomes true is the one that is woken. -/
lemma Attentive.wakeOne (h : Attentive s)
    (hthreads : s'.threads = Function.update (notifyOne s.threads next) t (.running p))
    (hstatus : s'.swapchainStatus = s.swapchainStatus)
    (hheard : 0 ≤ s.swapchainStatus → ∀ u w, s.threads u = .blocked w → s'.Ready w → ¬s.Ready w → u = next) :
    Attentive s' := by
  constructor
  · intro u w hu
    rw [hthreads] at hu
    by_cases hut : u = t
    · subst hut
      simp [Thread.waiting] at hu
    · rw [Function.update_of_ne hut, waiting_notifyOne] at hu
      exact h.suits u w hu
  · intro hs u w hu hw
    rw [hstatus] at hs
    rw [hthreads] at hu
    by_cases hut : u = t
    · subst hut
      simp at hu
    · rw [Function.update_of_ne hut, notifyOne_eq_blocked] at hu
      exact hu.1 (hheard hs u w hu.2 hw (h.quiet hs u w hu.2))

lemma mergeStatus_eq_success {status err : VkResult} (herr : err ≠ VkResult.success)
    (h : mergeStatus status err = VkResult.success) : mergeStatus status err = status := by
  unfold mergeStatus at h ⊢
  split at h
  · exact absurd h herr
  · rename_i hno
    rw [if_neg hno]

/-- A result that changes the status wakes everybody. -/
lemma markResult_cases (s : CrossSwapchain) (err : VkResult) : s.markResult err = s ∨
    s.markResult err = { s with
      swapchainStatus := mergeStatus s.swapchainStatus err, threads := notifyAll s.threads } := by
  unfold markResult
  split
  · exact .inl rfl
  · rename_i herr
    split
    · rename_i hstatus
      rw [mergeStatus_eq_success herr hstatus]
      exact .inl rfl
    · exact .inr rfl

lemma Attentive.markResult (h : Attentive s) (err : VkResult) : Attentive (s.markResult err) := by
  rcases s.markResult_cases err with hsame | hall
  · rwa [hsame]
  · rw [hall]
    exact h.wakeAll rfl

lemma Attentive.pushImage (h : Attentive s)
    (hrunning : s.threads .app = .running p) (hthreads : s'.threads = s.threads)
    (hstatus : s'.swapchainStatus = s.swapchainStatus)
    (hready : ∀ w, (∀ call, w ≠ .image call) → s'.Ready w → s.Ready w) : Attentive s' := by
  apply h.mono hthreads hstatus
  intro u w hu hw
  refine hready w ?_ hw
  rintro call rfl
  have hsuits := h.suits u (.image call) (by rw [hu]; rfl)
  cases u with
  | app =>
    rw [hrunning] at hu
    cases hu
  | worker => exact hsuits.elim
  | waiter n => exact hsuits.elim

/-! ### The application -/

lemma Attentive.takeImage (h : Attentive s) (call : AcquireCall) : Attentive (s.takeImage call) := by
  unfold CrossSwapchain.takeImage
  split
  · apply Attentive.goto
    exact h.mono rfl rfl fun _ _ _ hw => hw
  · split
    · exact h
    · rename_i index rest hqueue
      apply Attentive.goto
      refine h.mono rfl rfl fun u w _ hw => ?_
      cases w with
      | image call => exact .inl (by simp [hqueue])
      | work => exact hw
      | sourceCommands family index => exact hw
      | present id timed => exact hw

lemma Attentive.handOver (h : Attentive s) (call : AcquireCall) (index : Nat) (result : VkResult)
    (fence : Bool) : Attentive (s.handOver call index result fence) :=
  h.mono rfl rfl fun _ _ _ hw => hw

lemma Attentive.finishAcquire (h : Attentive s) (call : AcquireCall) (index : Nat)
    (results : AcquireResults) : Attentive (s.finishAcquire call index results) := by
  unfold CrossSwapchain.finishAcquire
  split
  · apply Attentive.goto
    exact h.mono rfl rfl fun _ _ _ hw => hw
  · exact h.goto _ _
  · exact (h.handOver call index _ _).goto _ _
  · apply Attentive.goto
    split
    · exact h.mono rfl rfl fun _ _ _ hw => hw
    · exact h.handOver call index _ _

/-- Nobody waits for an image while the application pushes one, whatever the queue is afterwards. -/
lemma Attentive.restore (h : Attentive s) {index : Nat} {before : List Nat} {failed : Option VkResult}
    (happ : s.threads .app = .running (.restoring index before failed)) (raced : List Nat) :
    Attentive (s.restore index before failed raced) := by
  have hpush : Attentive (if s.acquireQueue = before then s.putBack index
      else { s with acquireQueue := raced, held := s.held.erase index }) := by
    split
    all_goals
      refine h.pushImage happ rfl rfl fun w hw hready => ?_
      cases w with
      | image call => exact absurd rfl (hw call)
      | work => exact hready
      | sourceCommands family index => exact hready
      | present id timed => exact hready
  unfold CrossSwapchain.restore
  cases failed with
  | none => exact hpush.goto _ _
  | some res =>
    apply Attentive.goto
    exact (hpush.markResult res).mono rfl rfl fun _ _ _ hw => hw

lemma Attentive.submitSource (h : Attentive s) (index : Nat) (initCommands submit : VkResult)
    (fence : Option VkResult) : Attentive (s.submitSource index initCommands submit fence) := by
  unfold CrossSwapchain.submitSource
  split
  · exact (h.markResult _).goto _ _
  · split
    · exact (h.markResult _).goto _ _
    · have hsignal : Attentive (s.signalSource index) := h.mono rfl rfl fun _ _ _ hw => hw
      unfold finishSubmit
      dsimp only
      split
      · exact ((hsignal.markResult _).markResult _).goto _ _
      · exact (hsignal.markResult _).goto _ _

lemma Attentive.releaseImage (h : Attentive s) (index : Nat) (created : Bool) :
    Attentive (s.releaseImage index created) := by
  have hpayload : ∀ payload, Attentive { s with
      sourceAcquireSemaphore := Function.update s.sourceAcquireSemaphore index payload } :=
    fun _ => h.mono rfl rfl fun _ _ _ hw => hw
  unfold CrossSwapchain.releaseImage
  dsimp only
  split
  · exact (hpayload _).goto _ _
  · exact hpayload _

/-! ### The worker -/

lemma Attentive.takeWork (h : Attentive s) : Attentive s.takeWork := by
  unfold CrossSwapchain.takeWork
  split
  · exact h.goto _ _
  · split
    · exact h
    · rename_i work rest hqueue
      apply Attentive.goto
      refine h.mono rfl rfl fun u w _ hw => ?_
      cases w with
      | work => exact .inl (by simp [hqueue])
      | image call => exact hw
      | sourceCommands family index => exact hw
      | present id timed => exact hw

lemma Attentive.markAndGo (h : Attentive s) (err : VkResult) (p : CrossPlace) :
    Attentive (s.markAndGo err p) := by
  unfold CrossSwapchain.markAndGo
  dsimp only
  split <;> exact (h.markResult err).goto _ _

lemma Attentive.submitSink (h : Attentive s) (work : Work) (fences : Bool) (submit : VkResult) :
    Attentive (s.submitSink work fences submit) := by
  unfold CrossSwapchain.submitSink
  split
  · exact h.markAndGo _ _
  · exact (h.markResult _).goto _ _

lemma Attentive.presentSink (h : Attentive s) (work : Work) (present : VkResult) :
    Attentive (s.presentSink work present) := by
  unfold CrossSwapchain.presentSink
  apply Attentive.markAndGo
  split
  · exact h.mono rfl rfl fun _ _ _ hw => hw
  · exact h

lemma Attentive.publish (h : Attentive s) (work : Work) : Attentive (s.publish work) := by
  unfold CrossSwapchain.publish
  split
  · apply Attentive.goto
    exact h.wakeAll rfl
  · exact h.goto _ _

lemma Attentive.markPump (h : Attentive s) (rest : Option Nat) (err : VkResult) :
    Attentive (s.markPump rest err) := by
  unfold CrossSwapchain.markPump CrossSwapchain.afterPump
  split <;> exact (h.markResult err).goto _ _

lemma Attentive.passWait (h : Attentive s) (hsuits : Suits t w) : Attentive (s.passWait t w) := by
  unfold CrossSwapchain.passWait
  split
  · cases w with
    | work => exact h.takeWork
    | image call => exact h.takeImage call
    | sourceCommands family index =>
      apply Attentive.goto
      exact h.mono rfl rfl fun _ _ _ hw => hw
    | present id timed =>
      dsimp only [afterPresentWait]
      split <;> exact h.goto _ _
  · rename_i hready
    exact h.block hsuits hready

lemma Attentive.timeOut (h : Attentive s) (t : CrossThread) (w : CrossWait) : Attentive (s.timeOut t w) := by
  unfold CrossSwapchain.timeOut
  split
  · apply Attentive.goto
    exact h.mono rfl rfl fun _ _ _ hw => hw
  · exact h.goto _ _

/-! ### Steps that wake one thread -/

/-- `pumpAcquireSinkImage` gets an image and passes it on. -/
def Pumps (s : CrossSwapchain) (results : PumpResults) : Prop :=
  ¬(s.sinkFencePool = 0 ∧ results.createFence ≠ VkResult.success) ∧ ¬results.acquireNextImage < 0 ∧
    ¬(s.sinkAcquireFence results.index ∧ ¬results.fences)

/-- A `notify_one` wakes the thread that it is meant for, if that thread waits for what has happened. -/
def Heard (s : CrossSwapchain) : CrossEvent → Prop
  | .pushWork next => 0 ≤ s.swapchainStatus → (s.threads .worker).IsBlocked → next = .worker
  | .sourceDone fences next => fences → 0 ≤ s.swapchainStatus →
    ∀ family index, s.threads .app = .blocked (.sourceCommands family index) →
      s.submitCount = s.processedSourceCount + 1 → next = .app
  | .pump results next => s.Pumps results → 0 ≤ s.swapchainStatus →
    ∀ call, s.threads .app = .blocked (.image call) → next = .app
  | _ => True

/-- A thread is left in a wait although what it waits for has come. -/
def Stranded (s : CrossSwapchain) : Prop :=
  0 ≤ s.swapchainStatus ∧
    ((s.workQueue ≠ [] ∧ (s.threads .worker).IsBlocked) ∨
      (s.acquireQueue ≠ [] ∧ ∃ call, s.threads .app = .blocked (.image call)) ∨
      (s.submitCount = s.processedSourceCount ∧
        ∃ family index, s.threads .app = .blocked (.sourceCommands family index)))

lemma Attentive.not_stranded (h : Attentive s) : ¬Stranded s := by
  rintro ⟨hs, ⟨hwork, w, hw⟩ | ⟨himage, call, hcall⟩ | ⟨hcount, family, index, hwait⟩⟩
  · have hsuits := h.suits .worker w (by rw [hw]; rfl)
    cases w with
    | work => exact h.quiet hs .worker .work hw (.inl hwork)
    | image call => exact hsuits.elim
    | sourceCommands family index => exact hsuits.elim
    | present id timed => exact hsuits.elim
  · exact h.quiet hs .app _ hcall (.inl himage)
  · exact h.quiet hs .app _ hwait hcount

/-- The thread in a wait for work is the worker. -/
lemma Attentive.of_work (h : Attentive s) (hu : s.threads t = .blocked .work) : t = .worker := by
  have hsuits := h.suits t .work (by rw [hu]; rfl)
  cases t with
  | worker => rfl
  | app => exact hsuits.elim
  | waiter n => exact hsuits.elim

lemma Attentive.of_image (h : Attentive s) {call : AcquireCall} (hu : s.threads t = .blocked (.image call)) :
    t = .app := by
  have hsuits := h.suits t (.image call) (by rw [hu]; rfl)
  cases t with
  | worker => exact hsuits.elim
  | app => rfl
  | waiter n => exact hsuits.elim

lemma Attentive.of_sourceCommands (h : Attentive s) {family index : Nat}
    (hu : s.threads t = .blocked (.sourceCommands family index)) : t = .app := by
  have hsuits := h.suits t (.sourceCommands family index) (by rw [hu]; rfl)
  cases t with
  | worker => exact hsuits.elim
  | app => rfl
  | waiter n => exact hsuits.elim

lemma Attentive.pushWork (h : Attentive s) {index : Nat}
    (happ : s.threads .app = .running (.queueing index)) (hheard : Heard s (.pushWork next)) :
    Attentive (s.pushWork index next) := by
  refine h.wakeOne rfl rfl fun hs u w hu hw hno => ?_
  cases w with
  | work =>
    rw [h.of_work hu]
    exact (hheard hs ⟨_, h.of_work hu ▸ hu⟩).symm
  | image call => exact absurd hw hno
  | sourceCommands family index' =>
    rw [h.of_sourceCommands hu, happ] at hu
    cases hu
  | present id timed => exact absurd hw hno

lemma Attentive.sourceDone (h : Attentive s) (work : Work) {fences : Bool}
    (hheard : Heard s (.sourceDone fences next)) : Attentive (s.sourceDone work fences next) := by
  unfold CrossSwapchain.sourceDone
  split
  · rename_i hfences
    refine h.wakeOne rfl rfl fun hs u w hu hw hno => ?_
    cases w with
    | work => exact absurd hw hno
    | image call => exact absurd hw hno
    | sourceCommands family index =>
      rw [h.of_sourceCommands hu]
      exact (hheard hfences hs family index (h.of_sourceCommands hu ▸ hu) hw).symm
    | present id timed => exact absurd hw hno
  · exact (h.markResult _).goto _ _

lemma pumpAcquireSinkImage_of_pumps {rest : Option Nat} {results : PumpResults} (h : s.Pumps results) :
    s.pumpAcquireSinkImage rest results next =
      { s with
        sinkFencePool :=
          if s.sinkAcquireFence results.index then s.sinkFencePool - 1 + 1 else s.sinkFencePool - 1
        sinkAcquireFence := Function.update s.sinkAcquireFence results.index true
        sink := s.sink.erase results.index
        acquireQueue := s.acquireQueue ++ [results.index]
        threads := Function.update (notifyOne s.threads next) .worker
          (.running (.pumped rest results.acquireNextImage)) } := by
  rw [pumpAcquireSinkImage, if_neg h.1, if_neg h.2.1, if_neg h.2.2]

lemma Attentive.pump (h : Attentive s) (rest : Option Nat) {results : PumpResults}
    (hheard : Heard s (.pump results next)) : Attentive (s.pumpAcquireSinkImage rest results next) := by
  by_cases hpumps : s.Pumps results
  · rw [pumpAcquireSinkImage_of_pumps hpumps]
    refine h.wakeOne rfl rfl fun hs u w hu hw hno => ?_
    cases w with
    | work => exact absurd hw hno
    | image call =>
      rw [h.of_image hu]
      exact (hheard hpumps hs call (h.of_image hu ▸ hu)).symm
    | sourceCommands family index => exact absurd hw hno
    | present id timed => exact absurd hw hno
  · unfold pumpAcquireSinkImage
    split
    · exact h.markPump _ _
    · rename_i hpool
      dsimp only
      split
      · apply Attentive.goto
        exact h.mono rfl rfl fun _ _ _ hw => hw
      · rename_i hacquire
        split
        · apply Attentive.markPump
          exact h.mono rfl rfl fun _ _ _ hw => hw
        · rename_i hfences
          exact absurd ⟨hpool, hacquire, hfences⟩ hpumps

/-! ### Runs -/

lemma Attentive.step (h : Attentive s) {e : CrossEvent} (he : Legal s e) (hheard : Heard s e) :
    Attentive (s.step e) := by
  cases e with
  | setPresentId id => exact h.mono rfl rfl fun _ _ _ hw => hw
  | acquire call => exact h.passWait trivial
  | acquired results =>
    obtain ⟨⟨call, index, happ⟩, -⟩ := he
    simp only [CrossSwapchain.step, happ]
    exact h.finishAcquire call index results
  | restored raced =>
    obtain ⟨index, before, failed, happ⟩ := he
    simp only [CrossSwapchain.step, happ]
    exact h.restore happ raced
  | queuePresent family index =>
    simp only [CrossSwapchain.step]
    split
    · exact h.passWait trivial
    · exact h.goto _ _
  | submitted initCommands submit fence =>
    obtain ⟨⟨index, happ⟩, -⟩ := he
    simp only [CrossSwapchain.step, happ]
    exact h.submitSource index initCommands submit fence
  | pushWork next =>
    obtain ⟨⟨index, happ⟩, -⟩ := he
    simp only [CrossSwapchain.step, happ]
    exact h.pushWork happ hheard
  | releaseImage index created => exact h.releaseImage index created
  | waitForPresent n id timed => exact h.passWait trivial
  | presentWaited n result =>
    simp only [CrossSwapchain.step, show s.threads (.waiter n) = _ from he]
    exact (h.markResult result).goto _ _
  | takeWork =>
    simp only [CrossSwapchain.step, show s.threads .worker = _ from he]
    exact h.passWait trivial
  | sourceDone fences next =>
    obtain ⟨⟨work, hworker⟩, -⟩ := he
    simp only [CrossSwapchain.step, hworker]
    exact h.sourceDone work hheard
  | submitSink fences submit =>
    obtain ⟨work, hworker⟩ := he
    simp only [CrossSwapchain.step, hworker]
    exact h.submitSink work fences submit
  | presentSink present =>
    obtain ⟨work, hworker⟩ := he
    simp only [CrossSwapchain.step, hworker]
    exact h.presentSink work present
  | publish =>
    obtain ⟨work, hworker⟩ := he
    simp only [CrossSwapchain.step, hworker]
    exact h.publish work
  | pump results next =>
    obtain ⟨⟨rest, hworker⟩, -⟩ := he
    simp only [CrossSwapchain.step, hworker]
    exact h.pump rest hheard
  | pumped =>
    obtain ⟨rest, res, hworker⟩ := he
    simp only [CrossSwapchain.step, hworker]
    exact h.markPump rest res
  | wake t =>
    obtain ⟨w, hw⟩ := he
    have hwake : (s.threads t).wake = .woken w := by rw [hw, Thread.wake]
    simp only [CrossSwapchain.step, hwake]
    constructor
    · intro u v hu
      by_cases hut : u = t
      · subst hut
        exact h.suits u v (by simpa [setThread, hw, Thread.waiting] using hu)
      · exact h.suits u v (by simpa [setThread, hut] using hu)
    · intro hs u v hu
      by_cases hut : u = t
      · subst hut
        simp [setThread] at hu
      · exact h.quiet hs u v (by simpa [setThread, hut] using hu)
  | resume t timedOut =>
    obtain ⟨w, hw, -⟩ := he
    simp only [CrossSwapchain.step, hw]
    split
    · exact h.timeOut t w
    · exact h.passWait (h.suits t w (by rw [hw]; rfl))

/-- A `notify_one` that wakes another thread strands the one it was meant for. -/
lemma Legal.stranded {e : CrossEvent} (he : Legal s e) (hheard : ¬Heard s e) : Stranded (s.step e) := by
  cases e with
  | pushWork next =>
    obtain ⟨⟨index, happ⟩, -⟩ := he
    simp only [Heard, Classical.not_imp] at hheard
    obtain ⟨hs, ⟨w, hw⟩, hne⟩ := hheard
    simp only [CrossSwapchain.step, happ]
    refine ⟨hs, .inl ⟨by simp [CrossSwapchain.pushWork], w, ?_⟩⟩
    simpa [CrossSwapchain.pushWork, notifyOne_ne s.threads (Ne.symm hne)] using hw
  | sourceDone fences next =>
    obtain ⟨⟨work, hworker⟩, -⟩ := he
    simp only [Heard, Classical.not_imp, not_forall] at hheard
    obtain ⟨hfences, hs, family, index, hwait, hcount, hne⟩ := hheard
    simp only [CrossSwapchain.step, hworker, CrossSwapchain.sourceDone, hfences, if_true]
    refine ⟨hs, .inr (.inr ⟨hcount, family, index, ?_⟩)⟩
    simpa [notifyOne_ne s.threads (Ne.symm hne)] using hwait
  | pump results next =>
    obtain ⟨⟨rest, hworker⟩, -⟩ := he
    simp only [Heard, Classical.not_imp, not_forall] at hheard
    obtain ⟨hpumps, hs, call, hwait, hne⟩ := hheard
    simp only [CrossSwapchain.step, hworker, pumpAcquireSinkImage_of_pumps hpumps]
    refine ⟨hs, .inr (.inl ⟨by simp, call, ?_⟩)⟩
    simpa [notifyOne_ne s.threads (Ne.symm hne)] using hwait
  | _ => exact absurd trivial hheard

/-! ### Main result -/

/-- The runs of a swapchain that never leave a thread in a wait although what it waits for has come are
exactly those in which every `notify_one` wakes the thread that it is meant for. -/
theorem no_lost_wakeup (images pumps : Nat) (hasQueue : Bool) (created : Nat → Bool) (es : List CrossEvent)
    (h : Runs.Along step Legal (init images pumps hasQueue created) es) :
    (∀ es', es' <+: es → ¬Stranded (es'.foldl step (init images pumps hasQueue created))) ↔
      Runs.Along step Heard (init images pumps hasQueue created) es := by
  apply h.iff_safe (attentive_init images pumps hasQueue created)
  · exact fun s hs => hs.not_stranded
  · exact fun s e hs he hheard => hs.step he hheard
  · exact fun s e _ he hheard => he.stranded hheard

/-- The worker waits for work and a thread for the present with the id 5. The application acquires and
presents an image. -/
def absorbed : List CrossEvent :=
  [.pump { index := 0 } .worker, .pumped, .takeWork, .waitForPresent 0 5 false,
    .acquire { timeout := none, semaphore := false, fence := false }, .acquired {}, .queuePresent 0 0,
    .submitted 0 0 none, .pushWork (.waiter 0)]

/-- The wake-up for the worker goes to the thread that waits for the present, which blocks again. -/
theorem absorbed_wakeup_strands :
    Runs.Along step Legal (init 2 0 true fun _ => true) (absorbed ++ [CrossEvent.resume (.waiter 0) false]) ∧
      Stranded (absorbed.foldl step (init 2 0 true fun _ => true)) ∧
      Stranded ((absorbed ++ [CrossEvent.resume (.waiter 0) false]).foldl step (init 2 0 true fun _ => true)) := by
  have hnobody : ∀ j, ¬((init 2 0 true fun _ => true).threads j).IsBlocked := by
    rintro (_ | _ | n) ⟨w, hw⟩ <;> cases hw
  refine ⟨⟨?_, ⟨_, _, rfl⟩, rfl, ?_, ?_, ?_, ?_, ?_, ?_, ?_, trivial⟩, ?_, ?_⟩
  · exact ⟨⟨_, rfl⟩, fun _ => List.mem_cons_self, fun j hj => absurd hj (hnobody j)⟩
  · exact ⟨fun _ _ => ⟨nofun, nofun⟩, rfl⟩
  · exact ⟨fun _ _ => ⟨nofun, nofun⟩, rfl⟩
  · exact ⟨⟨_, _, rfl⟩, le_rfl, le_rfl⟩
  · exact ⟨fun _ _ => ⟨nofun, nofun⟩, rfl, List.mem_cons_self⟩
  · exact ⟨⟨_, rfl⟩, le_rfl, le_rfl⟩
  · exact ⟨⟨_, rfl⟩, fun _ _ => ⟨_, rfl⟩⟩
  · exact ⟨_, rfl, nofun⟩
  · exact ⟨le_rfl, .inl ⟨List.cons_ne_nil _ _, _, rfl⟩⟩
  · exact ⟨le_rfl, .inl ⟨List.cons_ne_nil _ _, _, rfl⟩⟩

/-- A present whose wake-up reaches the worker. -/
def delivered : List CrossEvent :=
  [.pump { index := 0 } .worker, .pumped, .takeWork,
    .acquire { timeout := none, semaphore := false, fence := false }, .acquired {}, .queuePresent 0 0,
    .submitted 0 0 none, .pushWork .worker, .resume .worker false]

theorem no_lost_wakeup_delivered : ¬Stranded (delivered.foldl step (init 2 0 true fun _ => true)) := by
  have hnobody : ∀ j, ¬((init 2 0 true fun _ => true).threads j).IsBlocked := by
    rintro (_ | _ | n) ⟨w, hw⟩ <;> cases hw
  have hlegal : Runs.Along step Legal (init 2 0 true fun _ => true) delivered := by
    refine ⟨?_, ⟨_, _, rfl⟩, rfl, ?_, ?_, ?_, ?_, ?_, ?_, trivial⟩
    · exact ⟨⟨_, rfl⟩, fun _ => List.mem_cons_self, fun j hj => absurd hj (hnobody j)⟩
    · exact ⟨fun _ _ => ⟨nofun, nofun⟩, rfl⟩
    · exact ⟨⟨_, _, rfl⟩, le_rfl, le_rfl⟩
    · exact ⟨fun _ _ => ⟨nofun, nofun⟩, rfl, List.mem_cons_self⟩
    · exact ⟨⟨_, rfl⟩, le_rfl, le_rfl⟩
    · exact ⟨⟨_, rfl⟩, fun _ _ => ⟨_, rfl⟩⟩
    · exact ⟨_, rfl, nofun⟩
  have hheard : Runs.Along step Heard (init 2 0 true fun _ => true) delivered := by
    refine ⟨?_, trivial, trivial, trivial, trivial, trivial, trivial, fun _ _ => rfl, trivial, trivial⟩
    exact fun _ _ call hcall => by cases hcall
  exact (no_lost_wakeup 2 0 true _ delivered hlegal).2 hheard delivered List.prefix_rfl

end CrossSwapchain

end PyroFling
