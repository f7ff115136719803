import PyroFling.Proofs.SourceSemaphores

/-!
# The end of the cross-GPU swapchain

The destructor sets the status and joins the worker, which then stops within a few steps, and waits for
what is left on both GPUs. All these waits end unless a submission to the sink GPU has failed.
-/

namespace PyroFling

namespace CrossSwapchain

open Monitor

variable {s s' : CrossSwapchain} {next : CrossThread} {p : CrossPlace} {rest : Option Nat} {err : VkResult}

/-- How many steps the worker of a swapchain that has failed is from its end at most. -/
def remaining : Thread CrossPlace CrossWait → Nat
  | .running .stopped => 0
  | .running (.waitingForSource _) | .running (.pumping _) => 2
  | .running (.publishing _) => 3
  | _ => 1

/-- Only the worker is left, which does not wait any more. -/
structure Closing (s : CrossSwapchain) : Prop where
  failed : s.failed = true
  idle : ∀ t, t ≠ .worker → s.threads t = .running .idle
  awake : ¬(s.threads .worker).IsBlocked
  started : workerStage (s.threads .worker) ≠ .initial
  working : workerStage (s.threads .worker) ≠ .lost

/-- The worker goes to another place, whoever is notified on the way. -/
lemma Closing.goto (h : Closing s) (p : CrossPlace) (hfailed : s'.failed = true)
    (hthreads : s'.threads = Function.update s.threads .worker (.running p))
    (hstarted : workerStage (.running p) ≠ .initial) (hworking : workerStage (.running p) ≠ .lost) :
    Closing s' ∧ s'.threads .worker = .running p := by
  have hworker : s'.threads .worker = .running p := by rw [hthreads, Function.update_self]
  refine ⟨⟨hfailed, ?_, ?_, ?_, ?_⟩, hworker⟩
  · intro t ht
    rw [hthreads, Function.update_of_ne ht]
    exact h.idle t ht
  · rw [hworker]
    exact Thread.not_isBlocked_running p
  · rwa [hworker]
  · rwa [hworker]

/-- Nobody is left to be notified. -/
lemma Closing.wake (h : Closing s) (t : CrossThread) : (s.threads t).wake = s.threads t := by
  by_cases ht : t = .worker
  · subst ht
    have hawake := h.awake
    cases hthread : s.threads .worker with
    | running p => rfl
    | woken w => rfl
    | blocked w =>
      rw [hthread] at hawake
      exact absurd (Thread.isBlocked_blocked w) hawake
  · rw [h.idle t ht]
    rfl

lemma Closing.notifyOne (h : Closing s) (next : CrossThread) : Monitor.notifyOne s.threads next = s.threads := by
  rw [Monitor.notifyOne, h.wake, Function.update_eq_self]

lemma Closing.notifyAll (h : Closing s) : Monitor.notifyAll s.threads = s.threads :=
  funext h.wake

lemma Closing.threads_markResult (h : Closing s) (err : VkResult) : (s.markResult err).threads = s.threads := by
  rcases s.markResult_cases err with hsame | hall
  · rw [hsame]
  · rw [hall]
    exact h.notifyAll

lemma Closing.failed_markResult (h : Closing s) (err : VkResult) : (s.markResult err).failed = true := by
  rw [CrossSwapchain.failed_markResult, h.failed]
  rfl

/-- The worker notices that the swapchain has failed. -/
lemma Closing.markAndStop (h : Closing s) (err : VkResult) :
    Closing ((s.markResult err).goto .worker .stopped) ∧
      ((s.markResult err).goto .worker .stopped).threads .worker = .running .stopped := by
  refine h.goto .stopped (h.failed_markResult err) ?_ (by simp [workerStage]) (by simp [workerStage])
  simp only [CrossSwapchain.goto, setThread, h.threads_markResult]

lemma Closing.markAndGo (h : Closing s) (err : VkResult) (p : CrossPlace) :
    Closing (s.markAndGo err p) ∧ (s.markAndGo err p).threads .worker = .running .stopped := by
  have hneg := (markedResult_neg s err).2 (h.failed_markResult err)
  unfold CrossSwapchain.markAndGo
  dsimp only
  rw [if_pos hneg]
  exact h.markAndStop err

lemma Closing.markPump (h : Closing s) (err : VkResult) :
    Closing (s.markPump none err) ∧ (s.markPump none err).threads .worker = .running .stopped := by
  have hneg := (markedResult_neg s err).2 (h.failed_markResult err)
  unfold CrossSwapchain.markPump afterPump
  dsimp only
  rw [if_pos hneg]
  exact h.markAndStop err

/-- Fields that no thread looks at. -/
lemma Closing.congr (h : Closing s) (hfailed : s'.failed = s.failed) (hthreads : s'.threads = s.threads) :
    Closing s' :=
  ⟨hfailed.trans h.failed, hthreads ▸ h.idle, hthreads ▸ h.awake, hthreads ▸ h.started, hthreads ▸ h.working⟩

lemma Closing.takeWork (h : Closing s) :
    Closing (s.passWait .worker .work) ∧ (s.passWait .worker .work).threads .worker = .running .stopped := by
  have hneg : s.swapchainStatus < 0 := of_decide_eq_true h.failed
  have hready : s.Ready .work := .inr hneg
  unfold passWait CrossSwapchain.takeWork
  rw [if_pos hready]
  dsimp only
  rw [if_pos hneg]
  exact h.goto .stopped h.failed rfl (by simp [workerStage]) (by simp [workerStage])

/-- Every step of the worker brings it nearer to its end. -/
lemma Closing.step (h : Closing s) {e : CrossEvent} (he : s.Legal e) (hworker : e.ofWorker = true) :
    Closing (s.step e) ∧ remaining ((s.step e).threads .worker) < remaining (s.threads .worker) := by
  cases e with
  | takeWork =>
    have hplace : s.threads .worker = .running .looping := he
    obtain ⟨hclosing, hstopped⟩ := h.takeWork
    simp only [CrossSwapchain.step, hplace]
    exact ⟨hclosing, by rw [hstopped]; decide⟩
  | sourceDone fences next =>
    obtain ⟨⟨work, hplace⟩, -⟩ := he
    simp only [CrossSwapchain.step, hplace, CrossSwapchain.sourceDone]
    split
    · refine And.imp_right (fun hgoto => ?_) (h.goto (.waitingForSink work) h.failed ?_ ?_ ?_)
      · rw [hgoto]
        simp [remaining]
      · simp only [h.notifyOne]
      · simp [workerStage]
      · simp [workerStage]
    · obtain ⟨hclosing, hstopped⟩ := h.markAndStop VkResult.errorDeviceLost
      exact ⟨hclosing, by rw [hstopped]; simp [remaining]⟩
  | submitSink fences submit =>
    obtain ⟨work, hplace⟩ := he
    simp only [CrossSwapchain.step, hplace, CrossSwapchain.submitSink]
    split
    · obtain ⟨hclosing, hstopped⟩ := h.markAndGo submit (.presenting work)
      exact ⟨hclosing, by rw [hstopped]; simp [remaining]⟩
    · obtain ⟨hclosing, hstopped⟩ := h.markAndStop VkResult.errorDeviceLost
      exact ⟨hclosing, by rw [hstopped]; simp [remaining]⟩
  | presentSink present =>
    obtain ⟨work, hplace⟩ := he
    simp only [CrossSwapchain.step, hplace, CrossSwapchain.presentSink]
    have hmoved : Closing (if 0 ≤ present then
        { s with processing := s.processing.erase work.index, sink := s.sink ++ [work.index] } else s) := by
      split
      · exact h.congr rfl rfl
      · exact h
    obtain ⟨hclosing, hstopped⟩ := hmoved.markAndGo present (.publishing work)
    exact ⟨hclosing, by rw [hstopped]; simp [remaining]⟩
  | publish =>
    obtain ⟨work, hplace⟩ := he
    have hgoto : Closing (s.publish work) ∧ (s.publish work).threads .worker = .running (.pumping none) := by
      unfold CrossSwapchain.publish
      split
      · refine h.goto (.pumping none) h.failed ?_ (by simp [workerStage]) (by simp [workerStage])
        simp only [CrossSwapchain.goto, setThread, h.notifyAll]
      · exact h.goto (.pumping none) h.failed rfl (by simp [workerStage]) (by simp [workerStage])
    simp only [CrossSwapchain.step, hplace]
    exact ⟨hgoto.1, by rw [hgoto.2]; simp [remaining]⟩
  | pump results next =>
    obtain ⟨⟨rest, hplace⟩, -⟩ := he
    have hnone : rest = none := by
      have hstarted := h.started
      rw [hplace] at hstarted
      cases rest with
      | none => rfl
      | some k => exact absurd rfl hstarted
    subst hnone
    simp only [CrossSwapchain.step, hplace, pumpAcquireSinkImage]
    split
    · obtain ⟨hclosing, hstopped⟩ := h.markPump results.createFence
      exact ⟨hclosing, by rw [hstopped]; simp [remaining]⟩
    · split
      · refine And.imp_right (fun hgoto => ?_)
          (h.goto (.pumped none results.acquireNextImage) h.failed rfl ?_ ?_)
        · rw [hgoto]
          simp [remaining]
        · simp [workerStage]
        · simp [workerStage]
      · split
        · have hkeep : Closing { s with
              sinkFencePool := s.sinkFencePool - 1, sink := s.sink.erase results.index
              processing := s.processing ++ [results.index] } := h.congr rfl rfl
          obtain ⟨hclosing, hstopped⟩ := hkeep.markPump VkResult.errorDeviceLost
          exact ⟨hclosing, by rw [hstopped]; simp [remaining]⟩
        · refine And.imp_right (fun hgoto => ?_)
            (h.goto (.pumped none results.acquireNextImage) h.failed ?_ ?_ ?_)
          · rw [hgoto]
            simp [remaining]
          · simp only [h.notifyOne]
          · simp [workerStage]
          · simp [workerStage]
  | pumped =>
    obtain ⟨rest, res, hplace⟩ := he
    have hnone : rest = none := by
      have hstarted := h.started
      rw [hplace] at hstarted
      cases rest with
      | none => rfl
      | some k => exact absurd rfl hstarted
    subst hnone
    simp only [CrossSwapchain.step, hplace]
    obtain ⟨hclosing, hstopped⟩ := h.markPump res
    exact ⟨hclosing, by rw [hstopped]; simp [remaining]⟩
  | resume t timedOut =>
    cases t with
    | worker =>
      obtain ⟨w, hplace, htimed⟩ := he
      have hwork : w = .work := by
        have hworking := h.working
        rw [hplace] at hworking
        cases w <;> first | rfl | exact absurd rfl hworking
      subst hwork
      have hready : s.Ready .work := .inr (of_decide_eq_true h.failed)
      simp only [CrossSwapchain.step, hplace]
      rw [if_neg fun hno => hno.2 hready]
      obtain ⟨hclosing, hstopped⟩ := h.takeWork
      exact ⟨hclosing, by rw [hstopped]; decide⟩
    | app => cases hworker
    | waiter n => cases hworker
  | setPresentId _ | acquire _ | acquired _ | restored _ | queuePresent _ _ | submitted _ _ _ | pushWork _
  | releaseImage _ _ | waitForPresent _ _ _ | presentWaited _ _ | wake _ => cases hworker

lemma Closing.choice (h : Closing s) (next : CrossThread) : Choice s.threads next := by
  intro t ht
  by_cases hworker : t = .worker
  · rw [hworker] at ht
    exact absurd ht h.awake
  · rw [h.idle t hworker] at ht
    exact absurd ht (Thread.not_isBlocked_running _)

/-- The worker can always go on until it has stopped. -/
lemma Closing.progress (h : Closing s) :
    s.threads .worker = .running .stopped ∨ ∃ e, s.Legal e ∧ e.ofWorker = true := by
  have hworking := h.working
  have hstarted := h.started
  have hawake := h.awake
  cases hthread : s.threads .worker with
  | blocked w =>
    rw [hthread] at hawake
    exact absurd (Thread.isBlocked_blocked w) hawake
  | woken w =>
    refine .inr ⟨.resume .worker false, ⟨w, hthread, fun hno => by cases hno⟩, rfl⟩
  | running p =>
    rw [hthread] at hworking hstarted
    cases p with
    | stopped => exact .inl rfl
    | looping => exact .inr ⟨.takeWork, hthread, rfl⟩
    | waitingForSource work => exact .inr ⟨.sourceDone true .worker, ⟨⟨work, hthread⟩, h.choice .worker⟩, rfl⟩
    | waitingForSink work => exact .inr ⟨.submitSink true VkResult.success, ⟨work, hthread⟩, rfl⟩
    | presenting work => exact .inr ⟨.presentSink VkResult.success, ⟨work, hthread⟩, rfl⟩
    | publishing work => exact .inr ⟨.publish, ⟨work, hthread⟩, rfl⟩
    | pumping rest =>
      refine .inr ⟨.pump { acquireNextImage := VkResult.errorDeviceLost, index := 0 } .worker,
        ⟨⟨rest, hthread⟩, fun hno => absurd hno (by decide), h.choice .worker⟩, rfl⟩
    | pumped rest res => exact .inr ⟨.pumped, ⟨rest, res, hthread⟩, rfl⟩
    | idle => exact absurd rfl hworking
    | acquiring call index => exact absurd rfl hworking
    | restoring index before failed => exact absurd rfl hworking
    | submitting index => exact absurd rfl hworking
    | queueing index => exact absurd rfl hworking
    | waitingForPresent => exact absurd rfl hworking

end CrossSwapchain

namespace FencedSwapchain

open CrossSwapchain Fences Monitor

variable {n : Nat} {s : FencedSwapchain}

/-- The destructor wakes the worker if it waits. -/
lemma Orderly.destroy (h : Orderly n s) {next : CrossThread} (he : s.Legal (.destroy next)) :
    (s.base.destroy next).Closing := by
  obtain ⟨hinit, happ, hwaiters, -, hchoice⟩ := he
  have hidle : ∀ t, t ≠ .worker → s.base.threads t = .running .idle := by
    rintro (_ | _ | k) ht
    · exact absurd rfl ht
    · exact happ
    · exact hwaiters k
  have hstage : ∀ t, workerStage (notifyOne s.base.threads next t) = workerStage (s.base.threads t) :=
    fun t => apply_notifyOne workerStage_wake
  refine ⟨by simp [CrossSwapchain.destroy, failed, VkResult.errorSurfaceLost], ?_, ?_, ?_, ?_⟩
  · intro t ht
    exact notifyOne_eq_running.2 (hidle t ht)
  · rintro ⟨w, hw⟩
    obtain ⟨hne, hblocked⟩ := notifyOne_eq_blocked.1 hw
    obtain ⟨w', hnext⟩ := hchoice .worker ⟨w, hblocked⟩
    rw [hidle next (Ne.symm hne)] at hnext
    cases hnext
  · rw [show (s.base.destroy next).threads = notifyOne s.base.threads next from rfl, hstage]
    intro hinitial
    cases hthread : s.base.threads .worker with
    | blocked w =>
      rw [hthread] at hinitial
      cases w <;> cases hinitial
    | woken w =>
      rw [hthread] at hinitial
      cases w <;> cases hinitial
    | running p =>
      rw [hthread] at hinitial
      cases p with
      | pumping rest =>
        cases rest with
        | none => cases hinitial
        | some k => exact (hinit k 0).1 hthread
      | pumped rest res =>
        cases rest with
        | none => cases hinitial
        | some k => exact (hinit k res).2 hthread
      | _ => cases hinitial
  · rw [show (s.base.destroy next).threads = notifyOne s.base.threads next from rfl, hstage]
    exact h.aligned.placed.working

/-- Once the destructor has begun there are only the steps of the worker. -/
lemma Legal.ofWorker {e : FenceEvent} (he : s.Legal e) (hdestroyed : s.destroyed = true) :
    ∃ e', e = .cross e' ∧ s.base.Legal e' ∧ e'.ofWorker = true := by
  cases e with
  | cross e => exact ⟨e, rfl, he.1, he.2 hdestroyed⟩
  | retire =>
    rw [he.2.2] at hdestroyed
    cases hdestroyed
  | releaseFront =>
    rw [he.2.2] at hdestroyed
    cases hdestroyed
  | destroy next =>
    rw [he.2.2.2.1] at hdestroyed
    cases hdestroyed

lemma closing_run {es : List FenceEvent} (hlegal : Runs.Along step Legal s es) (hdestroyed : s.destroyed = true)
    (hclosing : s.base.Closing) :
    es.length + remaining ((es.foldl step s).base.threads .worker) ≤ remaining (s.base.threads .worker) ∧
      (es.foldl step s).base.Closing ∧ (es.foldl step s).destroyed = true := by
  have hstep : ∀ s e, (s.base.Closing ∧ s.destroyed = true) → Legal s e →
      ((s.step e).base.Closing ∧ (s.step e).destroyed = true) ∧
        remaining ((s.step e).base.threads .worker) < remaining (s.base.threads .worker) := by
    rintro s e ⟨hclosing, hdestroyed⟩ he
    obtain ⟨e, rfl, he, hworker⟩ := he.ofWorker hdestroyed
    obtain ⟨hclosing', hlt⟩ := hclosing.step he hworker
    exact ⟨⟨hclosing', hdestroyed⟩, hlt⟩
  refine ⟨?_, hlegal.invariant ⟨hclosing, hdestroyed⟩ fun s e hs he => (hstep s e hs he).1⟩
  exact hlegal.length_add_rank_le (fun s => remaining (s.base.threads .worker)) ⟨hclosing, hdestroyed⟩ (fun s e hs he => (hstep s e hs he).1)
    fun s e hs he => (hstep s e hs he).2

/-! ### What the destructor does -/

lemma Orderly.mem_assigned (h : Orderly n s) (fence : Nat) :
    fence ∈ s.fences.assigned (List.range n) ↔ ∃ i, s.fences.sinkAcquireFence i = some fence := by
  simp only [Fences.assigned, List.mem_filterMap, List.mem_range]
  constructor
  · rintro ⟨i, -, hi⟩
    exact ⟨i, hi⟩
  · rintro ⟨i, hi⟩
    exact ⟨i, (h.aligned.order.accounted.range i fence hi).1, hi⟩

/-- The destructor's waits end unless the fence of an image was reset for a submission that failed. -/
lemma Orderly.waits (h : Orderly n s) :
    (∀ u ∈ s.destructorWaits n, u.Valid) ↔ s.fences.unsubmitted = none := by
  have hvalid : ∀ u ∈ s.destructorWaits n, u.Valid ↔ u.armed = true := by
    intro u hu
    rcases List.mem_append.1 hu with hu | hu
    · obtain ⟨work, -, rfl⟩ := List.mem_map.1 hu
      exact Iff.rfl
    · obtain ⟨fence, -, rfl⟩ := List.mem_map.1 hu
      exact Iff.rfl
  have hassigned := h.mem_assigned
  constructor
  · intro hall
    by_contra hne
    obtain ⟨i, hi⟩ := Option.ne_none_iff_exists'.1 hne
    obtain ⟨fence, hfence⟩ := Option.ne_none_iff_exists'.1 (h.aligned.order.accounted.unsubmitted i hi)
    have hmem : FenceUse.mk .waitForSink (decide (fence ∈ s.fences.sinkArmed)) true ∈ s.destructorWaits n :=
      List.mem_append_right _ (List.mem_map.2 ⟨fence, (hassigned fence).2 ⟨i, hfence⟩, rfl⟩)
    have harmed := (hvalid _ hmem).1 (hall _ hmem)
    exact (h.aligned.order.accounted.armed i fence hfence).1 (of_decide_eq_true harmed) hi
  · intro hnone u hu
    refine (hvalid u hu).2 ?_
    rcases List.mem_append.1 hu with hu | hu
    · obtain ⟨work, hwork, rfl⟩ := List.mem_map.1 hu
      exact decide_eq_true (h.aligned.order.pending _ (.inl (List.mem_map.2 ⟨work, hwork, rfl⟩)))
    · obtain ⟨fence, hfence, rfl⟩ := List.mem_map.1 hu
      obtain ⟨i, hi⟩ := (hassigned fence).1 hfence
      exact decide_eq_true ((h.aligned.order.accounted.armed i fence hi).2 (by rw [hnone]; simp))

lemma nodup_assigned {f : Fences} (h : f.Accounted n) : (f.assigned (List.range n)).Nodup := by
  refine List.Nodup.filterMap ?_ List.nodup_range
  intro i j fence hi hj
  exact h.injective i j fence hi hj

/-- The destructor destroys every fence of the sink once, but for one that was forgotten. -/
lemma Orderly.allDestroyed (h : Orderly n s) : s.fences.created ≤ n + 1 ∧ ∃ leaked : Option Nat,
    (s.destroyedFences n ++ leaked.toList).Perm (List.range s.fences.created) := by
  obtain ⟨leaked, hleaked, hlost, hcover⟩ := h.aligned.order.leaked
  have haccounted := h.aligned.order.accounted
  have hmem := h.mem_assigned
  have hpool : s.fences.sinkFencePool.length + leaked.toList.length ≤ 1 := by
    cases leaked with
    | none => simpa using haccounted.length
    | some fence => simp [(hleaked (by simp)).2]
  have hnodup : (s.destroyedFences n ++ leaked.toList).Nodup := by
    rw [FencedSwapchain.destroyedFences, List.append_assoc, List.nodup_append]
    refine ⟨nodup_assigned haccounted, ?_, ?_⟩
    · have hlength : (s.fences.sinkFencePool ++ leaked.toList).length ≤ 1 := by simpa using hpool
      exact List.nodup_iff_count_le_one.2 fun a => List.count_le_length.trans hlength
    · rintro fence hfence _ hother rfl
      obtain ⟨i, hi⟩ := (hmem fence).1 hfence
      rcases List.mem_append.1 hother with hother | hother
      · exact (haccounted.pool fence hother).2.2 i hi
      · exact (hlost fence (by simpa using hother)).2 i hi
  have hperm : (s.destroyedFences n ++ leaked.toList).Perm (List.range s.fences.created) := by
    rw [List.perm_ext_iff_of_nodup hnodup List.nodup_range]
    intro fence
    simp only [FencedSwapchain.destroyedFences, List.mem_append, hmem, Option.mem_toList, List.mem_range]
    constructor
    · rintro ((⟨i, hi⟩ | hpool') | hleak)
      · exact (haccounted.range i fence hi).2
      · exact (haccounted.pool fence hpool').1
      · exact (hlost fence hleak).1
    · intro hlt
      rcases hcover fence hlt with hpool' | hassigned | hleak
      · exact .inl (.inr hpool')
      · exact .inl (.inl hassigned)
      · exact .inr hleak
  refine ⟨?_, leaked, hperm⟩
  have hlength := hperm.length_eq
  have hassigned : (s.fences.assigned (List.range n)).length ≤ n :=
    (List.length_filterMap_le _ _).trans (le_of_eq List.length_range)
  simp only [FencedSwapchain.destroyedFences, List.length_append, List.length_range] at hlength
  omega

/-- From the destructor on, the worker makes three steps at most and can make them until it has stopped.
Then all the destructor's waits end, unless the fence of an image was reset for a submission that failed,
and every fence of the sink has been destroyed but for one that was forgotten. -/
theorem destructor_completes (images pumps : Nat) (hn : images < 2 ^ 32) (hasQueue : Bool) (created : Nat → Bool)
    (es es' : List FenceEvent) (next : CrossThread)
    (hlegal : Runs.Along step Legal (init images pumps hasQueue created) (es ++ .destroy next :: es'))
    (hunraced : Runs.Along step Unraced (init images pumps hasQueue created) (es ++ .destroy next :: es'))
    (hs : (es ++ .destroy next :: es').foldl step (init images pumps hasQueue created) = s) :
    es'.length ≤ 3 ∧ (s.base.threads .worker = .running .stopped ∨ ∃ e, s.Legal e) ∧
      ((∀ u ∈ s.destructorWaits images, u.Valid) ↔ s.fences.unsubmitted = none) ∧
      s.fences.created ≤ images + 1 ∧ ∃ leaked : Option Nat,
        (s.destroyedFences images ++ leaked.toList).Perm (List.range s.fences.created) := by
  have horderly : Orderly images s := hs ▸ orderly_run hn pumps hasQueue created hlegal hunraced
  have hdestroy := hlegal.right
  have hbefore := orderly_run hn pumps hasQueue created hlegal.left hunraced.left
  obtain ⟨hlength, hclosing, hdestroyed⟩ :=
    closing_run hdestroy.2 rfl (hbefore.destroy hdestroy.1)
  rw [← List.foldl_cons, ← List.foldl_append, hs] at hclosing hdestroyed
  refine ⟨?_, ?_, horderly.waits, horderly.allDestroyed⟩
  · have hle : ∀ th, remaining th ≤ 3 := by
      intro th
      cases th with
      | running p => cases p <;> simp [remaining]
      | blocked w => simp [remaining]
      | woken w => simp [remaining]
    exact (Nat.le_add_right _ _).trans (hlength.trans (hle _))
  · rcases hclosing.progress with hstopped | ⟨e, he, hworker⟩
    · exact .inl hstopped
    · exact .inr ⟨.cross e, he, fun _ => hworker⟩

/-- The destructor runs while the worker copies, and the submission to the sink GPU fails. -/
def destroyedWhileCopying : List FenceEvent :=
  presentOnce ++ .destroy .worker :: [.cross (.submitSink true (-1))]

/-- Then the destructor waits forever for the fence of the image. -/
theorem destructor_completes_whileCopying :
    ¬∀ u ∈ (destroyedWhileCopying.foldl step (init 2 0 true fun _ => true)).destructorWaits 2, u.Valid := by
  have hlegal : Runs.Along step Legal (init 2 0 true fun _ => true) destroyedWhileCopying := by
    apply presentOnce_legal.append
    refine ⟨⟨?_, rfl, fun k => rfl, rfl, ?_⟩, ⟨⟨_, rfl⟩, fun _ => rfl⟩, trivial⟩
    · exact fun k res => ⟨(fun h => by cases h), (fun h => by cases h)⟩
    · rintro (_ | _ | k) ⟨w, hw⟩ <;> cases hw
  have hunraced : Runs.Along step Unraced (init 2 0 true fun _ => true) destroyedWhileCopying :=
    presentOnce_unraced.append ⟨trivial, trivial, trivial⟩
  have hwaits := (destructor_completes 2 0 (by decide) true (fun _ => true) presentOnce _ .worker hlegal hunraced
    rfl).2.2.1
  intro hall
  have hnone : (destroyedWhileCopying.foldl step (init 2 0 true fun _ => true)).fences.unsubmitted = none :=
    hwaits.1 hall
  cases hnone

end FencedSwapchain

end PyroFling
