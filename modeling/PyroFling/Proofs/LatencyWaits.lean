import PyroFling.Proofs.LatencyReports

/-!
# The waits of the latency layer

Two threads share one condition variable, so that `notify_one` always reaches the thread that the wake-up is
meant for. The application waits for images that the worker has to copy. It goes on as long as the worker does:
only the wait for all images does not see that the worker has stopped.
-/

namespace PyroFling

/-- The steps of the worker. -/
def LatencyEvent.ofWorker : LatencyEvent → Bool
  | .takeWork | .copied _ _ | .analyze _ | .decideFeedback | .report | .countFeedback | .leave => true
  | .resume .worker => true
  | _ => false

namespace LatencySwapchain

open Monitor Runs

variable {s s' : LatencySwapchain} {next : LatencyThread} {w : LatencyWait}

/-! ### Stages -/

/-- The image that the worker waits for. -/
def copyOf : Thread LatencyPlace LatencyWait → List Nat
  | .running (.copying _ index) => [index]
  | _ => []

/-- The image that the application is about to submit. -/
def submitOf : Thread LatencyPlace LatencyWait → Option Nat
  | .running (.submitting index _) => some index
  | _ => none

/-- How the worker stands: at its work, on the way out, or where it never is. -/
inductive WorkerStanding
  | working
  | leaving
  | stopped
  | lost
  deriving DecidableEq

def standing : Thread LatencyPlace LatencyWait → WorkerStanding
  | .running .leaving => .leaving
  | .running .stopped => .stopped
  | .running .idle | .running (.recording _ _) | .running (.submitting _ _) => .lost
  | _ => .working

def waitIndex : LatencyWork → Option Nat
  | .waitGPUWork _ index => some index
  | .handleFeedback _ => none

/-- The images that the worker has not waited for, in the order in which it will. -/
def pending (s : LatencySwapchain) : List Nat :=
  copyOf (s.threads .worker) ++ s.workQueue.filterMap waitIndex

@[simp] lemma copyOf_wake (th : Thread LatencyPlace LatencyWait) : copyOf th.wake = copyOf th := by
  cases th <;> rfl

@[simp] lemma submitOf_wake (th : Thread LatencyPlace LatencyWait) : submitOf th.wake = submitOf th := by
  cases th <;> rfl

@[simp] lemma standing_wake (th : Thread LatencyPlace LatencyWait) : standing th.wake = standing th := by
  cases th <;> rfl

/-- A fence is armed while its image is busy, and an image is busy while the worker has to wait for it, or if
a worker that is gone did not. -/
structure Tracked (isBusy armed : Nat → Bool) (images : List Nat) (stand : WorkerStanding) (app : Option Nat)
    (failed : Prop) : Prop where
  fences : armed = isBusy
  nodup : images.Nodup
  busy : ∀ i ∈ images, isBusy i = true
  pending : stand = .working → ∀ i, isBusy i = true → i ∈ images
  submitting : ∀ i, app = some i → isBusy i = false
  stopped : stand = .stopped → failed
  here : stand ≠ .lost

section Moves

variable {busy fences : Nat → Bool} {images : List Nat} {stand : WorkerStanding} {submitting : Option Nat}
  {failed : Prop} {index : Nat}

lemma Tracked.leaveApp (h : Tracked busy fences images stand submitting failed) :
    Tracked busy fences images stand none failed :=
  { h with submitting := fun _ hno => by cases hno }

lemma Tracked.choose (h : Tracked busy fences images stand submitting failed) (hbusy : busy index = false) :
    Tracked busy fences images stand (some index) failed := by
  refine { h with submitting := ?_ }
  rintro _ ⟨rfl⟩
  exact hbusy

/-- A copy is submitted. -/
lemma Tracked.submit (h : Tracked busy fences images stand (some index) failed) :
    Tracked (Function.update busy index true) (Function.update fences index true) (images ++ [index]) stand none
      failed := by
  have hfree := h.submitting index rfl
  have hnew : index ∉ images := by
    intro hmem
    rw [h.busy index hmem] at hfree
    cases hfree
  refine { h with
    fences := by rw [h.fences], nodup := ?_, busy := ?_, pending := ?_
    submitting := fun _ hno => by cases hno }
  · rw [List.nodup_append]
    refine ⟨h.nodup, List.nodup_singleton _, ?_⟩
    rintro i hi _ hj rfl
    rw [List.mem_singleton.1 hj] at hi
    exact hnew hi
  · intro i hi
    by_cases hindex : i = index
    · rw [hindex, Function.update_self]
    · rw [Function.update_of_ne hindex]
      rcases List.mem_append.1 hi with hi | hi
      · exact h.busy i hi
      · exact absurd (List.mem_singleton.1 hi) hindex
  · intro hworking i hi
    by_cases hindex : i = index
    · exact List.mem_append_right _ (List.mem_singleton.2 hindex)
    · rw [Function.update_of_ne hindex] at hi
      exact List.mem_append_left _ (h.pending hworking i hi)

/-- A copy is done. -/
lemma Tracked.finish (h : Tracked busy fences (index :: images) stand submitting failed) :
    Tracked (Function.update busy index false) (Function.update fences index false) images stand submitting
      failed := by
  obtain ⟨hnew, hnodup⟩ := List.nodup_cons.1 h.nodup
  refine { h with fences := by rw [h.fences], nodup := hnodup, busy := ?_, pending := ?_, submitting := ?_ }
  · intro i hi
    have hindex : i ≠ index := by
      rintro rfl
      exact hnew hi
    rw [Function.update_of_ne hindex]
    exact h.busy i (List.mem_cons_of_mem _ hi)
  · intro hworking i hi
    by_cases hindex : i = index
    · rw [hindex, Function.update_self] at hi
      cases hi
    · rw [Function.update_of_ne hindex] at hi
      rcases List.mem_cons.1 (h.pending hworking i hi) with hno | hmem
      · exact absurd hno hindex
      · exact hmem
  · intro i hi
    by_cases hindex : i = index
    · rw [hindex, Function.update_self]
    · rw [Function.update_of_ne hindex]
      exact h.submitting i hi

/-- The worker gives up. -/
lemma Tracked.quit (h : Tracked busy fences images stand submitting failed) {rest : List Nat}
    (hrest : rest.Sublist images) : Tracked busy fences rest .leaving submitting failed :=
  { h with
    nodup := h.nodup.sublist hrest
    busy := fun i hi => h.busy i (hrest.subset hi)
    pending := fun hno => by cases hno
    stopped := fun hno => by cases hno
    here := fun hno => by cases hno }

lemma Tracked.fail (h : Tracked busy fences images stand submitting failed) {failed' : Prop} (hfailed : failed') :
    Tracked busy fences images stand submitting failed' :=
  { h with stopped := fun _ => hfailed }

/-- The worker has told that it is gone. -/
lemma Tracked.stop (h : Tracked busy fences images .leaving submitting failed) {failed' : Prop}
    (hfailed : failed') : Tracked busy fences images .stopped submitting failed' :=
  { h with
    pending := fun hno => by cases hno
    stopped := fun _ => hfailed
    here := fun hno => by cases hno }

end Moves

/-! ### Nobody waits for what is there -/

def Quiet (s : LatencySwapchain) : Prop := ∀ t w, s.threads t = .blocked w → ¬s.Ready w

lemma ready_congr (himages : s'.images = s.images) (hbusy : s'.busy = s.busy) (hqueue : s'.workQueue = s.workQueue)
    (hstatus : s'.swapchainStatus = s.swapchainStatus) (w : LatencyWait) : s'.Ready w ↔ s.Ready w := by
  cases w with
  | work => simp only [Ready, hqueue, hstatus]
  | allIdle family index id => simp only [Ready, himages, hbusy]
  | image index id => simp only [Ready, hbusy, hstatus]

/-- No thread begins to wait, and nothing that a thread may wait for changes. -/
lemma Quiet.frame (h : Quiet s) (hblocked : ∀ t w, s'.threads t = .blocked w → s.threads t = .blocked w)
    (himages : s'.images = s.images) (hbusy : s'.busy = s.busy) (hqueue : s'.workQueue = s.workQueue)
    (hstatus : s'.swapchainStatus = s.swapchainStatus) : Quiet s' := by
  intro t w hw
  rw [ready_congr himages hbusy hqueue hstatus]
  exact h t w (hblocked t w hw)

lemma Quiet.goto (h : Quiet s) (t : LatencyThread) (p : LatencyPlace) : Quiet (s.goto t p) := by
  refine h.frame ?_ rfl rfl rfl rfl
  intro u w hw
  by_cases hut : u = t
  · subst hut
    simp [LatencySwapchain.goto, setThread] at hw
  · simpa [LatencySwapchain.goto, setThread, hut] using hw

/-- A running thread that notifies one reaches the other. -/
lemma notifyOne_nobody {t : LatencyThread} {p : LatencyPlace} (ht : s.threads t = .running p)
    (hchoice : Choice s.threads next) (u : LatencyThread) (w : LatencyWait) :
    notifyOne s.threads next u ≠ .blocked w := by
  intro hu
  obtain ⟨hne, hblocked⟩ := notifyOne_eq_blocked.1 hu
  obtain ⟨v, hv⟩ := hchoice u ⟨w, hblocked⟩
  have hut : u ≠ t := by
    rintro rfl
    rw [ht] at hblocked
    cases hblocked
  have hnext : next ≠ t := by
    rintro rfl
    rw [ht] at hv
    cases hv
  cases u <;> cases t <;> cases next <;> simp_all

lemma update_nobody {ts : LatencyThread → Thread LatencyPlace LatencyWait} {t : LatencyThread} {p : LatencyPlace}
    (hts : ∀ u w, ts u ≠ .blocked w) (u : LatencyThread) (w : LatencyWait) :
    Function.update ts t (.running p) u ≠ .blocked w := by
  by_cases hut : u = t
  · subst hut
    simp
  · rw [Function.update_of_ne hut]
    exact hts u w

lemma Quiet.takeWork (h : Quiet s) : Quiet s.takeWork := by
  unfold LatencySwapchain.takeWork
  have htail : ∀ {rest : List LatencyWork} {p : LatencyPlace},
      (rest ≠ [] → s.workQueue ≠ []) → Quiet ({ s with workQueue := rest }.goto .worker p) := by
    intro rest p hrest u w hw
    cases u with
    | worker => simp [LatencySwapchain.goto, setThread] at hw
    | app =>
      have happ : s.threads .app = .blocked w := hw
      intro hready
      apply h .app w happ
      cases w with
      | work => exact hready.imp_left hrest
      | allIdle family index id => exact hready
      | image index id => exact hready
  split
  · exact h.goto _ _
  · split
    · exact h
    · rename_i hqueue
      exact htail fun _ => by rw [hqueue]; exact List.cons_ne_nil _ _
    · rename_i hqueue
      exact htail fun _ => by rw [hqueue]; exact List.cons_ne_nil _ _

lemma Quiet.passWait (h : Quiet s) (t : LatencyThread) (w : LatencyWait) : Quiet (s.passWait t w) := by
  unfold LatencySwapchain.passWait
  split
  · cases w with
    | work => exact h.takeWork
    | allIdle family index id =>
      exact Quiet.goto (s := { s with cmdFamily := some family, cmdPool := false }) h _ _
    | image index id =>
      dsimp only
      split
      · exact h.goto _ _
      · exact h.goto _ _
  · rename_i hready
    intro u v hv
    by_cases hut : u = t
    · subst hut
      simp only [setThread, Function.update_self, Thread.blocked.injEq] at hv
      subst hv
      exact hready
    · have hblocked : s.threads u = .blocked v := by simpa [setThread, hut] using hv
      exact h u v hblocked

/-- What feedback and the input leave alone. -/
lemma updateFeedback_rest (s : LatencySwapchain) (timing : PastPresentationTiming) (next : LatencyThread) :
    (s.updateFeedback timing next).images = s.images ∧ (s.updateFeedback timing next).busy = s.busy ∧
      (s.updateFeedback timing next).fences = s.fences ∧
      (s.updateFeedback timing next).swapchainStatus = s.swapchainStatus := by
  unfold updateFeedback
  dsimp only
  split
  · exact ⟨rfl, rfl, rfl, rfl⟩
  · split
    · exact ⟨rfl, rfl, rfl, rfl⟩
    · exact ⟨rfl, rfl, rfl, rfl⟩

lemma input_rest (s : LatencySwapchain) (now later : BitVec 64) (doInput opened : Bool) :
    (s.input now later doInput opened).images = s.images ∧ (s.input now later doInput opened).busy = s.busy ∧
      (s.input now later doInput opened).fences = s.fences ∧
      (s.input now later doInput opened).swapchainStatus = s.swapchainStatus := by
  unfold LatencySwapchain.input
  dsimp only
  split_ifs <;> exact ⟨rfl, rfl, rfl, rfl⟩

lemma quiet_step (h : Quiet s) {e : LatencyEvent} (he : Possible s e) : Quiet (s.step e) := by
  cases e with
  | poll timing next =>
    obtain ⟨happ, hchoice⟩ := he
    obtain ⟨queue, extra, -, -, -, hqueue, hthreads⟩ := s.updateFeedback_cases timing next
    obtain ⟨himages, hbusy, -, hstatus⟩ := s.updateFeedback_rest timing next
    simp only [LatencySwapchain.step]
    rcases hthreads with ⟨hsame, rfl⟩ | hone
    · rw [List.append_nil] at hqueue
      exact h.frame (fun t w hw => by rwa [hsame] at hw) himages hbusy hqueue hstatus
    · intro t w hw
      rw [hone] at hw
      exact absurd hw (notifyOne_nobody happ hchoice t w)
  | present family index id =>
    have htaken : Quiet (s.takePresentId id) := h
    simp only [LatencySwapchain.step]
    split
    · exact htaken.passWait _ _
    · split
      · exact htaken.passWait _ _
      · exact htaken.goto _ _
  | recorded pool result =>
    obtain ⟨index, id, happ⟩ := he
    have hrecorded : Quiet { s with cmdPool := pool } := h
    simp only [LatencySwapchain.step, happ]
    split
    · exact hrecorded.passWait _ _
    · exact hrecorded.goto _ _
  | submitted submit now next =>
    obtain ⟨⟨index, id, happ⟩, hchoice⟩ := he
    simp only [LatencySwapchain.step, happ]
    split
    · intro t w hw
      rw [threads_submitSourceWork] at hw
      exact absurd hw (update_nobody (notifyOne_nobody happ hchoice) t w)
    · exact Quiet.goto (s := { s with clock := now }) h _ _
  | takeWork =>
    simp only [LatencySwapchain.step, show s.threads .worker = _ from he]
    exact h.passWait _ _
  | copied fences next =>
    obtain ⟨⟨id, index, hworker⟩, hchoice⟩ := he
    simp only [LatencySwapchain.step, hworker, LatencySwapchain.copied]
    split
    · intro t w hw
      exact absurd hw (update_nobody (notifyOne_nobody hworker hchoice) t w)
    · exact h.goto _ _
  | analyze delta =>
    obtain ⟨id, hworker⟩ := he
    simp only [LatencySwapchain.step, hworker, LatencySwapchain.analyze]
    split
    · exact Quiet.goto (s := { s with
        numFeedbacksSinceDelta := 0, lastCandidateFrameId := id, stimulusTime := s.lastStimulusTime }) h _ _
    · exact h.goto _ _
  | decideFeedback =>
    obtain ⟨e, hworker⟩ := he
    simp only [LatencySwapchain.step, hworker, LatencySwapchain.decideFeedback]
    split
    · exact h.goto _ _
    · exact h.goto _ _
  | report =>
    obtain ⟨e, hworker⟩ := he
    simp only [LatencySwapchain.step, hworker, LatencySwapchain.report]
    split
    · exact (h.goto .worker (.counting e)).frame (fun _ _ hw => hw) rfl rfl rfl rfl
    · exact h.goto _ _
  | countFeedback =>
    obtain ⟨e, hworker⟩ := he
    simp only [LatencySwapchain.step, hworker, LatencySwapchain.countFeedback]
    split
    · exact (h.goto .worker .looping).frame (fun _ _ hw => hw) rfl rfl rfl rfl
    · exact (h.goto .worker .looping).frame (fun _ _ hw => hw) rfl rfl rfl rfl
  | leave =>
    simp only [LatencySwapchain.step, show s.threads .worker = _ from he]
    intro t w hw
    have hnobody : ∀ u v, notifyAll s.threads u ≠ .blocked v := fun u v => Thread.wake_ne_blocked _ _
    exact absurd hw (update_nobody hnobody t w)
  | input now later doInput opened =>
    obtain ⟨⟨hthreads, hqueue⟩, -⟩ := s.input_cases now later doInput opened
    obtain ⟨himages, hbusy, -, hstatus⟩ := s.input_rest now later doInput opened
    exact h.frame (fun t w hw => by rwa [LatencySwapchain.step, hthreads] at hw) himages hbusy hqueue hstatus
  | destroy next =>
    intro t w hw
    exact absurd hw (notifyOne_nobody he.1 he.2 t w)
  | wake t =>
    refine h.frame ?_ rfl rfl rfl rfl
    intro u w hw
    have hnotify : (s.step (.wake t)).threads = notifyOne s.threads t := rfl
    rw [hnotify] at hw
    exact (notifyOne_eq_blocked.1 hw).2
  | resume t =>
    obtain ⟨w, hw⟩ := he
    simp only [LatencySwapchain.step, hw]
    exact h.passWait _ _

/-! ### Fences -/

def Consistent (s : LatencySwapchain) : Prop :=
  Tracked s.busy s.fences s.pending (standing (s.threads .worker)) (submitOf (s.threads .app))
    (s.swapchainStatus < 0)

lemma Tracked.consistent {busy fences : Nat → Bool} {images : List Nat} {stand : WorkerStanding}
    {submitting : Option Nat} {failed : Prop} (h : Tracked busy fences images stand submitting failed)
    (hbusy : s.busy = busy) (hfences : s.fences = fences) (hpending : s.pending = images)
    (hstand : standing (s.threads .worker) = stand) (happ : submitOf (s.threads .app) = submitting)
    (hfailed : (s.swapchainStatus < 0) = failed) : Consistent s := by
  subst hbusy hfences hpending hstand happ hfailed
  exact h

/-- A step that leaves the images alone. -/
lemma Consistent.frame (h : Consistent s) (hbusy : s'.busy = s.busy) (hfences : s'.fences = s.fences)
    (hstatus : s'.swapchainStatus = s.swapchainStatus) (hpending : s'.pending = s.pending)
    (hstand : standing (s'.threads .worker) = standing (s.threads .worker))
    (happ : submitOf (s'.threads .app) = submitOf (s.threads .app)) : Consistent s' :=
  Tracked.consistent h hbusy hfences hpending hstand happ (by rw [hstatus])

lemma Consistent.setApp (h : Consistent s) {th : Thread LatencyPlace LatencyWait} (hth : submitOf th = none) :
    Consistent (s.setThread .app th) :=
  h.leaveApp.consistent rfl rfl rfl rfl hth rfl

lemma Consistent.passWaitApp (h : Consistent s) (hw : Suits .app w) : Consistent (s.passWait .app w) := by
  unfold LatencySwapchain.passWait
  split
  · rename_i hready
    cases w with
    | work => cases hw
    | allIdle family index id =>
      exact Consistent.setApp (s := { s with cmdFamily := some family, cmdPool := false }) h rfl
    | image index id =>
      dsimp only
      split
      · exact h.setApp rfl
      · rename_i hstatus
        have hfree : s.busy index = false := hready.resolve_right hstatus
        exact (h.choose hfree).consistent rfl rfl rfl rfl rfl rfl
  · exact h.setApp rfl

lemma pending_of_worker {th : Thread LatencyPlace LatencyWait} (hworker : s.threads .worker = th) :
    s.pending = copyOf th ++ s.workQueue.filterMap waitIndex := by
  rw [pending, hworker]

/-- The worker takes an image over from the queue. -/
lemma Consistent.passWaitWorker (h : Consistent s) (hcopy : copyOf (s.threads .worker) = [])
    (hstand : standing (s.threads .worker) = .working) : Consistent (s.passWait .worker .work) := by
  have hpending : s.pending = s.workQueue.filterMap waitIndex := by
    rw [pending, hcopy]
    rfl
  unfold Consistent at h
  rw [hstand, hpending] at h
  unfold LatencySwapchain.passWait
  split
  · dsimp only
    unfold LatencySwapchain.takeWork
    split
    · exact (h.quit (List.Sublist.refl _)).consistent rfl rfl rfl rfl rfl rfl
    · split
      · exact h.consistent rfl rfl hpending hstand rfl rfl
      · rename_i hqueue
        exact h.consistent rfl rfl (by rw [hqueue]; rfl) rfl rfl rfl
      · rename_i hqueue
        exact h.consistent rfl rfl (by rw [hqueue]; rfl) rfl rfl rfl
  · exact h.consistent rfl rfl rfl rfl rfl rfl

/-- The worker goes on without an image. -/
lemma Consistent.move (h : Consistent s) {p q : LatencyPlace} (hworker : s.threads .worker = .running p)
    (hcopy : copyOf (.running q) = copyOf (.running p)) (hstand : standing (.running q) = standing (.running p)) :
    Consistent (s.goto .worker q) := by
  refine h.frame rfl rfl rfl ?_ ?_ rfl
  · rw [pending_of_worker hworker, ← hcopy]
    rfl
  · rw [hworker, ← hstand]
    rfl

lemma Consistent.submitSourceWork (h : Consistent s) {index : Nat} {id now : BitVec 64}
    (happ : s.threads .app = .running (.submitting index id)) :
    Consistent ({ s with clock := now }.submitSourceWork index id now next) := by
  unfold Consistent at h
  rw [happ] at h
  have hpending : ∀ {s' : LatencySwapchain}, s'.threads .worker = notifyOne s.threads next .worker →
      s'.workQueue = s.workQueue ++ [.waitGPUWork id index] → s'.pending = s.pending ++ [index] := by
    intro s' hthreads hqueue
    rw [pending, pending, hthreads, apply_notifyOne copyOf_wake, hqueue, List.filterMap_append,
      List.append_assoc]
    rfl
  have hstand : standing (notifyOne s.threads next .worker) = standing (s.threads .worker) :=
    apply_notifyOne standing_wake
  have hsubmitted := Tracked.submit h
  unfold LatencySwapchain.submitSourceWork
  dsimp only
  split
  · exact hsubmitted.consistent rfl rfl (hpending rfl rfl) hstand rfl rfl
  · exact hsubmitted.consistent rfl rfl (hpending rfl rfl) hstand rfl rfl

lemma Consistent.copied (h : Consistent s) {id : BitVec 64} {index : Nat}
    (hworker : s.threads .worker = .running (.copying id index)) (fences : Bool) :
    Consistent (s.copied id index fences next) := by
  have hpending := pending_of_worker hworker
  unfold Consistent at h
  rw [hpending, hworker] at h
  unfold LatencySwapchain.copied
  split
  · have happ : submitOf (notifyOne s.threads next .app) = submitOf (s.threads .app) :=
      apply_notifyOne submitOf_wake
    exact (Tracked.finish h).consistent rfl rfl rfl rfl happ rfl
  · exact (h.quit (List.sublist_cons_self _ _)).consistent rfl rfl rfl rfl rfl rfl

lemma Consistent.leave (h : Consistent s) (hworker : s.threads .worker = .running .leaving) :
    Consistent s.leave := by
  have hpending := pending_of_worker hworker
  unfold Consistent at h
  rw [hworker] at h
  have hfailed : VkResult.errorDeviceLost < 0 := by decide
  exact (Tracked.stop h hfailed).consistent rfl rfl hpending.symm rfl (submitOf_wake _) rfl

lemma consistent_step (h : Consistent s) (hsuited : Suited Suits s.threads) {e : LatencyEvent} (he : Possible s e) :
    Consistent (s.step e) := by
  have hwake : ∀ (s' : LatencySwapchain) (next : LatencyThread), s'.threads = notifyOne s.threads next →
      s'.workQueue.filterMap waitIndex = s.workQueue.filterMap waitIndex → s'.pending = s.pending ∧
        standing (s'.threads .worker) = standing (s.threads .worker) ∧
        submitOf (s'.threads .app) = submitOf (s.threads .app) := by
    intro s' next hthreads hqueue
    rw [pending, pending, hthreads, hqueue, apply_notifyOne copyOf_wake, apply_notifyOne standing_wake,
      apply_notifyOne submitOf_wake]
    exact ⟨rfl, rfl, rfl⟩
  cases e with
  | poll timing next =>
    obtain ⟨queue, extra, -, hextra, -, hqueue, hthreads⟩ := s.updateFeedback_cases timing next
    obtain ⟨-, hbusy, hfences, hstatus⟩ := s.updateFeedback_rest timing next
    have hindices : (s.updateFeedback timing next).workQueue.filterMap waitIndex =
        s.workQueue.filterMap waitIndex := by
      rw [hqueue, List.filterMap_append]
      rcases hextra with rfl | ⟨e, -, -, rfl⟩
      · exact List.append_nil _
      · exact List.append_nil _
    simp only [LatencySwapchain.step]
    rcases hthreads with ⟨hsame, -⟩ | hone
    · refine h.frame hbusy hfences hstatus ?_ (by rw [hsame]) (by rw [hsame])
      rw [pending, pending, hsame, hindices]
    · obtain ⟨hpending, hstand, happ⟩ := hwake _ next hone hindices
      exact h.frame hbusy hfences hstatus hpending hstand happ
  | present family index id =>
    have htaken : Consistent (s.takePresentId id) := h
    simp only [LatencySwapchain.step]
    split
    · exact htaken.passWaitApp trivial
    · split
      · exact htaken.passWaitApp trivial
      · exact htaken.setApp rfl
  | recorded pool result =>
    obtain ⟨index, id, happ⟩ := he
    have hrecorded : Consistent { s with cmdPool := pool } := h
    simp only [LatencySwapchain.step, happ]
    split
    · exact hrecorded.passWaitApp trivial
    · exact hrecorded.setApp rfl
  | submitted submit now next =>
    obtain ⟨⟨index, id, happ⟩, -⟩ := he
    simp only [LatencySwapchain.step, happ]
    split
    · exact h.submitSourceWork happ
    · exact Consistent.setApp (s := { s with clock := now }) h rfl
  | takeWork =>
    have hworker : s.threads .worker = .running .looping := he
    simp only [LatencySwapchain.step, hworker]
    exact h.passWaitWorker (by rw [hworker]; rfl) (by rw [hworker]; rfl)
  | copied fences next =>
    obtain ⟨⟨id, index, hworker⟩, -⟩ := he
    simp only [LatencySwapchain.step, hworker]
    exact h.copied hworker fences
  | analyze delta =>
    obtain ⟨id, hworker⟩ := he
    simp only [LatencySwapchain.step, hworker, LatencySwapchain.analyze]
    split
    · exact (h.move (q := .looping) hworker rfl rfl).frame rfl rfl rfl rfl rfl rfl
    · exact h.move hworker rfl rfl
  | decideFeedback =>
    obtain ⟨e, hworker⟩ := he
    simp only [LatencySwapchain.step, hworker, LatencySwapchain.decideFeedback]
    split
    · exact h.move hworker rfl rfl
    · exact h.move hworker rfl rfl
  | report =>
    obtain ⟨e, hworker⟩ := he
    simp only [LatencySwapchain.step, hworker, LatencySwapchain.report]
    split
    · exact (h.move (q := .counting e) hworker rfl rfl).frame rfl rfl rfl rfl rfl rfl
    · exact h.move hworker rfl rfl
  | countFeedback =>
    obtain ⟨e, hworker⟩ := he
    simp only [LatencySwapchain.step, hworker, LatencySwapchain.countFeedback]
    split
    · exact (h.move (q := .looping) hworker rfl rfl).frame rfl rfl rfl rfl rfl rfl
    · exact (h.move (q := .looping) hworker rfl rfl).frame rfl rfl rfl rfl rfl rfl
  | leave =>
    have hworker : s.threads .worker = .running .leaving := he
    simp only [LatencySwapchain.step, hworker]
    exact h.leave hworker
  | input now later doInput opened =>
    obtain ⟨⟨hthreads, hqueue⟩, -⟩ := s.input_cases now later doInput opened
    obtain ⟨-, hbusy, hfences, hstatus⟩ := s.input_rest now later doInput opened
    simp only [LatencySwapchain.step]
    refine h.frame hbusy hfences hstatus ?_ (by rw [hthreads]) (by rw [hthreads])
    rw [pending, pending, hthreads, hqueue]
  | destroy next =>
    obtain ⟨hpending, hstand, happ⟩ := hwake (s.step (.destroy next)) next rfl rfl
    have hfailed : VkResult.errorSurfaceLost < 0 := by decide
    exact (Tracked.fail h hfailed).consistent rfl rfl hpending hstand happ rfl
  | wake t =>
    obtain ⟨hpending, hstand, happ⟩ := hwake (s.step (.wake t)) t rfl rfl
    exact h.frame rfl rfl rfl hpending hstand happ
  | resume t =>
    obtain ⟨w, hw⟩ := he
    have hsuits : Suits t w := hsuited t w (by rw [hw]; rfl)
    simp only [LatencySwapchain.step, hw]
    cases t with
    | worker =>
      cases w with
      | work => exact h.passWaitWorker (by rw [hw]; rfl) (by rw [hw]; rfl)
      | allIdle family index id => cases hsuits
      | image index id => cases hsuits
    | app => exact h.passWaitApp hsuits

/-! ### Who can be stuck -/

/-- The worker is gone and the application waits for images of which one stays busy. -/
def Stranded (s : LatencySwapchain) (w : LatencyWait) : Prop :=
  s.threads .worker = .running .stopped ∧ (s.threads .app).waiting = some w ∧
    ∃ family index id, w = .allIdle family index id ∧ ∃ i < s.images, s.busy i = true

lemma Stranded.step (h : Stranded s w) {e : LatencyEvent} (he : Possible s e) : Stranded (s.step e) w := by
  obtain ⟨hworker, happ, family, index, id, rfl, i, hi, hbusy⟩ := h
  have hwaits : ∀ p, s.threads .app ≠ .running p := by
    intro p hp
    rw [hp] at happ
    cases happ
  have hother : ∀ p, p ≠ LatencyPlace.stopped → s.threads .worker ≠ .running p := by
    intro p hp hrunning
    rw [hworker] at hrunning
    exact hp (Thread.running.inj hrunning).symm
  cases e with
  | poll timing next => exact absurd he.1 (hwaits _)
  | present family index id => exact absurd he.1 (hwaits _)
  | recorded pool result =>
    obtain ⟨_, _, hno⟩ := he
    exact absurd hno (hwaits _)
  | submitted submit now next =>
    obtain ⟨⟨_, _, hno⟩, -⟩ := he
    exact absurd hno (hwaits _)
  | takeWork => exact absurd he (hother _ (by decide))
  | copied fences next =>
    obtain ⟨⟨_, _, hno⟩, -⟩ := he
    exact absurd hno (hother _ (fun hno => by cases hno))
  | analyze delta =>
    obtain ⟨_, hno⟩ := he
    exact absurd hno (hother _ (fun hno => by cases hno))
  | decideFeedback =>
    obtain ⟨_, hno⟩ := he
    exact absurd hno (hother _ (fun hno => by cases hno))
  | report =>
    obtain ⟨_, hno⟩ := he
    exact absurd hno (hother _ (fun hno => by cases hno))
  | countFeedback =>
    obtain ⟨_, hno⟩ := he
    exact absurd hno (hother _ (fun hno => by cases hno))
  | leave => exact absurd he (hother _ (by decide))
  | input now later doInput opened =>
    obtain ⟨⟨hthreads, -⟩, -⟩ := s.input_cases now later doInput opened
    obtain ⟨himages, hsame, -, -⟩ := s.input_rest now later doInput opened
    simp only [LatencySwapchain.step]
    exact ⟨by rw [hthreads, hworker], by rw [hthreads, happ], family, index, id, rfl, i, by rwa [himages],
      by rwa [hsame]⟩
  | destroy next => exact absurd he.1 (hwaits _)
  | wake t =>
    have hnotify : (s.step (.wake t)).threads = notifyOne s.threads t := rfl
    refine ⟨?_, ?_, family, index, id, rfl, i, hi, hbusy⟩
    · rw [hnotify, notifyOne_eq_running, hworker]
    · rw [hnotify, waiting_notifyOne, happ]
  | resume t =>
    obtain ⟨v, hv⟩ := he
    cases t with
    | worker =>
      rw [hworker] at hv
      cases hv
    | app =>
      have hsame : v = .allIdle family index id := by
        rw [hv] at happ
        exact Option.some.inj happ
      subst hsame
      have hready : ¬s.Ready (.allIdle family index id) := by
        intro hall
        rw [hall i hi] at hbusy
        cases hbusy
      simp only [LatencySwapchain.step, hv, LatencySwapchain.passWait, if_neg hready]
      exact ⟨hworker, rfl, family, index, id, rfl, i, hi, hbusy⟩

lemma Stranded.run (h : Stranded s w) {es : List LatencyEvent} (hes : Along LatencySwapchain.step Possible s es) :
    Stranded (es.foldl LatencySwapchain.step s) w :=
  hes.invariant (I := fun s => Stranded s w) h fun _ _ hstays he => Stranded.step hstays he

/-- What the worker can do next, if it is not at the end and not in a wait. -/
lemma worker_goes_on (hhere : standing (s.threads .worker) ≠ .lost) (hstop : s.threads .worker ≠ .running .stopped)
    (hblocked : ∀ w, s.threads .worker ≠ .blocked w) (happ : (s.threads .app).IsBlocked) :
    ∃ e : LatencyEvent, e.ofWorker = true ∧ s.Possible e := by
  have hchoice : Choice s.threads .app := fun _ _ => happ
  cases hworker : s.threads .worker with
  | running p =>
    cases p with
    | idle => exact absurd (by rw [hworker]; rfl) hhere
    | recording index id => exact absurd (by rw [hworker]; rfl) hhere
    | submitting index id => exact absurd (by rw [hworker]; rfl) hhere
    | looping => exact ⟨.takeWork, rfl, hworker⟩
    | copying id index => exact ⟨.copied true .app, rfl, ⟨id, index, hworker⟩, hchoice⟩
    | analyzing id => exact ⟨.analyze false, rfl, id, hworker⟩
    | feedback e => exact ⟨.decideFeedback, rfl, e, hworker⟩
    | reporting e => exact ⟨.report, rfl, e, hworker⟩
    | counting e => exact ⟨.countFeedback, rfl, e, hworker⟩
    | leaving => exact ⟨.leave, rfl, hworker⟩
    | stopped => exact absurd hworker hstop
  | blocked w => exact absurd hworker (hblocked w)
  | woken w => exact ⟨.resume .worker, rfl, w, hworker⟩

structure Watched (s : LatencySwapchain) : Prop where
  suited : Suited Suits s.threads
  quiet : Quiet s
  consistent : Consistent s

lemma watched_run {images : Nat} {es : List LatencyEvent} (hpossible : Along step Possible (init images) es) :
    Watched (es.foldl step (init images)) := by
  refine hpossible.invariant ⟨?_, ?_, ?_⟩ fun s e h he =>
    ⟨suited_step h.suited he, quiet_step h.quiet he, consistent_step h.consistent h.suited he⟩
  · intro t w hw
    cases t <;> cases hw
  · intro t w hw
    cases t <;> cases hw
  · constructor <;> simp [init, pending, copyOf, submitOf, standing]

/-- A worker in its wait has nothing to do, so that no image is busy. -/
lemma Watched.not_busy (h : Watched s) {v : LatencyWait} (hworker : s.threads .worker = .blocked v) (i : Nat) :
    s.busy i = false := by
  have hsuits : Suits .worker v := h.suited .worker v (by rw [hworker]; rfl)
  have hready := h.quiet .worker v hworker
  cases v with
  | allIdle family index id => cases hsuits
  | image index id => cases hsuits
  | work =>
    have hempty : s.workQueue = [] := by
      by_contra hne
      exact hready (.inl hne)
    by_contra hbusy
    have hmem := h.consistent.pending (by rw [hworker]; rfl) i (by simpa using hbusy)
    rw [pending_of_worker hworker, hempty] at hmem
    cases hmem

/-- A copy is only submitted with a fence that is not in use and only waited for if it has been submitted. And
while the application is in a wait the worker can go on, unless it has stopped; then the application waits for
all images and does so forever. -/
theorem waits_end_or_stranded (images : Nat) (es : List LatencyEvent)
    (hpossible : Along step Possible (init images) es) :
    (∀ index id, (es.foldl step (init images)).threads .app = .running (.submitting index id) →
      (es.foldl step (init images)).fences index = false) ∧
    (∀ id index, (es.foldl step (init images)).threads .worker = .running (.copying id index) →
      (es.foldl step (init images)).fences index = true) ∧
    ∀ w, (es.foldl step (init images)).threads .app = .blocked w →
      ((es.foldl step (init images)).threads .worker ≠ .running .stopped ∧
        ∃ e : LatencyEvent, e.ofWorker = true ∧ (es.foldl step (init images)).Possible e) ∨
      ((es.foldl step (init images)).threads .worker = .running .stopped ∧
        (∃ family index id, w = .allIdle family index id) ∧
        ∀ es', Along step Possible (es.foldl step (init images)) es' →
          ((es'.foldl step (es.foldl step (init images))).threads .app).waiting = some w) := by
  generalize hs : es.foldl step (init images) = s
  have h : Watched s := hs ▸ watched_run hpossible
  refine ⟨?_, ?_, ?_⟩
  · intro index id happ
    rw [h.consistent.fences]
    exact h.consistent.submitting index (by rw [happ]; rfl)
  · intro id index hworker
    rw [h.consistent.fences]
    refine h.consistent.busy index ?_
    rw [pending_of_worker hworker]
    exact List.mem_cons_self
  · intro w happ
    have hsuits : Suits .app w := h.suited .app w (by rw [happ]; rfl)
    have hready := h.quiet .app w happ
    by_cases hstop : s.threads .worker = .running .stopped
    · refine .inr ⟨hstop, ?_⟩
      have hfailed : s.swapchainStatus < 0 := h.consistent.stopped (by rw [hstop]; rfl)
      cases w with
      | work => cases hsuits
      | image index id => exact absurd (.inr hfailed) hready
      | allIdle family index id =>
        have hsome : ∃ i < s.images, s.busy i = true := by
          simpa [Ready] using hready
        have hstranded : Stranded s (.allIdle family index id) :=
          ⟨hstop, by rw [happ]; rfl, family, index, id, rfl, hsome⟩
        refine ⟨⟨family, index, id, rfl⟩, fun es' hes' => ?_⟩
        exact (Stranded.run hstranded hes').2.1
    · refine .inl ⟨hstop, worker_goes_on h.consistent.here hstop (fun v hv => hready ?_) ⟨w, happ⟩⟩
      cases w with
      | work => cases hsuits
      | allIdle family index id => exact fun i _ => h.not_busy hv i
      | image index id => exact .inl (h.not_busy hv index)

/-- The worker cannot wait for a copy while the application changes to another queue family. -/
def fenceLost : List LatencyEvent :=
  [.present 0 0 17, .recorded true VkResult.success, .submitted VkResult.success 1 .worker, .takeWork,
    .present 1 0 18, .copied false .app, .leave, .resume .app]

lemma fenceLost_possible : Along step Possible (init 1) fenceLost := by
  refine ⟨⟨rfl, by decide⟩, ⟨_, _, rfl⟩, ⟨⟨_, _, rfl⟩, ?_⟩, rfl, ⟨rfl, by decide⟩,
    ⟨⟨_, _, rfl⟩, fun _ _ => ⟨_, rfl⟩⟩, rfl, ⟨_, rfl⟩, trivial⟩
  rintro (_ | _) ⟨w, hw⟩ <;> cases hw

theorem waits_end_or_stranded_fenceLost :
    (fenceLost.foldl step (init 1)).threads .app = .blocked (.allIdle 1 0 18) ∧
      ∀ es', Along step Possible (fenceLost.foldl step (init 1)) es' →
        ((es'.foldl step (fenceLost.foldl step (init 1))).threads .app).waiting = some (.allIdle 1 0 18) := by
  have happ : (fenceLost.foldl step (init 1)).threads .app = .blocked (.allIdle 1 0 18) := rfl
  refine ⟨happ, ?_⟩
  rcases (waits_end_or_stranded 1 fenceLost fenceLost_possible).2.2 _ happ with ⟨hno, -⟩ | ⟨-, -, hforever⟩
  · exact absurd rfl hno
  · exact hforever

end LatencySwapchain

end PyroFling
