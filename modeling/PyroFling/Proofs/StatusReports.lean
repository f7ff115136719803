import PyroFling.Proofs.LostWakeup

/-!
# The status of a swapchain

Results are merged into a status that only gets worse. A timeout is no worse than success, so that it is
forgotten once the status is suboptimal.
-/

namespace PyroFling

/-- A status that a swapchain can have. -/
def IsStatus (status : VkResult) : Prop :=
  status = VkResult.success ∨ status = VkResult.suboptimal ∨ status < 0

/-- An error stays an error, and only an error replaces a suboptimal status. -/
structure StatusKept (status status' : VkResult) : Prop where
  negative : status < 0 → status' < 0
  suboptimal : status = VkResult.suboptimal → status' = VkResult.suboptimal ∨ status' < 0
  isStatus : IsStatus status → IsStatus status'

namespace StatusKept

variable {status status' status'' : VkResult}

lemma refl (status : VkResult) : StatusKept status status := ⟨id, .inl, id⟩

lemma trans (h : StatusKept status status') (h' : StatusKept status' status'') : StatusKept status status'' where
  negative := h'.negative ∘ h.negative
  suboptimal hsub := (h.suboptimal hsub).elim h'.suboptimal fun hneg => .inr (h'.negative hneg)
  isStatus := h'.isStatus ∘ h.isStatus

end StatusKept

lemma statusKept_mergeStatus (status err : VkResult) :
    StatusKept status (CrossSwapchain.mergeStatus status err) := by
  unfold CrossSwapchain.mergeStatus
  split
  · rename_i hworse
    rcases hworse with herr | ⟨hsuccess, hsub⟩
    · exact ⟨fun _ => herr, fun _ => .inr herr, fun _ => .inr (.inr herr)⟩
    · subst hsub hsuccess
      exact ⟨fun h => absurd h (by decide), fun h => absurd h (by decide), fun _ => .inr (.inl rfl)⟩
  · exact StatusKept.refl status

namespace CrossSwapchain

variable {s : CrossSwapchain}

/-- What a step does to the status. -/
def Keeps (s s' : CrossSwapchain) : Prop := StatusKept s.swapchainStatus s'.swapchainStatus

lemma keeps_markResult (s : CrossSwapchain) (err : VkResult) : Keeps s (s.markResult err) := by
  rcases s.markResult_cases err with hsame | hmarked
  · rw [hsame]
    exact StatusKept.refl _
  · rw [hmarked]
    exact statusKept_mergeStatus _ err

lemma Keeps.trans {s' s'' : CrossSwapchain} (h : Keeps s s') (h' : Keeps s' s'') : Keeps s s'' :=
  StatusKept.trans h h'

lemma keeps_of_eq {s' : CrossSwapchain} (h : s'.swapchainStatus = s.swapchainStatus) : Keeps s s' := by
  rw [Keeps, h]
  exact StatusKept.refl _

lemma keeps_finishAcquire (s : CrossSwapchain) (call : AcquireCall) (index : Nat) (results : AcquireResults) :
    Keeps s (s.finishAcquire call index results) := by
  unfold finishAcquire
  split
  · exact keeps_of_eq rfl
  · exact keeps_of_eq rfl
  · exact keeps_of_eq rfl
  · dsimp only
    split <;> exact keeps_of_eq rfl

lemma keeps_restore (s : CrossSwapchain) (index : Nat) (before : List Nat) (failed : Option VkResult)
    (raced : List Nat) : Keeps s (s.restore index before failed raced) := by
  have hpush : Keeps s (if s.acquireQueue = before then s.putBack index
      else { s with acquireQueue := raced, held := s.held.erase index }) := by
    split <;> exact keeps_of_eq rfl
  unfold restore
  cases failed with
  | none => exact hpush
  | some res => exact hpush.trans (keeps_markResult _ res)

lemma keeps_submitSource (s : CrossSwapchain) (index : Nat) (initCommands submit : VkResult)
    (fence : Option VkResult) : Keeps s (s.submitSource index initCommands submit fence) := by
  unfold submitSource finishSubmit
  dsimp only
  split_ifs
  · exact keeps_markResult s initCommands
  · exact keeps_markResult s submit
  · exact (keeps_markResult (s.signalSource index) _).trans (keeps_markResult _ _)
  · exact keeps_markResult (s.signalSource index) _

lemma keeps_markAndGo (s : CrossSwapchain) (err : VkResult) (place : CrossPlace) :
    Keeps s (s.markAndGo err place) := by
  unfold markAndGo
  dsimp only
  split <;> exact keeps_markResult s err

lemma keeps_markPump (s : CrossSwapchain) (rest : Option Nat) (err : VkResult) :
    Keeps s (s.markPump rest err) := by
  unfold markPump afterPump
  dsimp only
  split <;> exact keeps_markResult s err

lemma keeps_pump (s : CrossSwapchain) (rest : Option Nat) (results : PumpResults) (next : CrossThread) :
    Keeps s (s.pumpAcquireSinkImage rest results next) := by
  unfold pumpAcquireSinkImage
  dsimp only
  split_ifs
  · exact keeps_markPump s rest _
  · exact keeps_of_eq rfl
  · exact keeps_markPump { s with
      sinkFencePool := s.sinkFencePool - 1, sink := s.sink.erase results.index
      processing := s.processing ++ [results.index] } rest _
  · exact keeps_of_eq rfl
  · exact keeps_of_eq rfl

lemma keeps_passWait (s : CrossSwapchain) (t : CrossThread) (w : CrossWait) : Keeps s (s.passWait t w) := by
  unfold passWait takeWork takeImage afterPresentWait
  apply keeps_of_eq
  split
  · cases w with
    | work =>
      dsimp only
      split
      · rfl
      · split <;> rfl
    | image call =>
      dsimp only
      split
      · rfl
      · split <;> rfl
    | sourceCommands family index => rfl
    | present id timed =>
      dsimp only
      split <;> rfl
  · rfl

lemma keeps_step (s : CrossSwapchain) (e : CrossEvent) : Keeps s (s.step e) := by
  cases e with
  | setPresentId id => exact keeps_of_eq rfl
  | acquire call => exact keeps_passWait s _ _
  | acquired results =>
    simp only [step]
    split
    · exact keeps_finishAcquire s _ _ results
    · exact keeps_of_eq rfl
  | restored raced =>
    simp only [step]
    split
    · exact keeps_restore s _ _ _ raced
    · exact keeps_of_eq rfl
  | queuePresent family index =>
    simp only [step]
    split
    · exact keeps_passWait s _ _
    · exact keeps_of_eq rfl
  | submitted initCommands submit fence =>
    simp only [step]
    split
    · exact keeps_submitSource s _ initCommands submit fence
    · exact keeps_of_eq rfl
  | pushWork next =>
    simp only [step]
    split <;> exact keeps_of_eq rfl
  | releaseImage index created =>
    simp only [step, releaseImage]
    split <;> exact keeps_of_eq rfl
  | waitForPresent n id timed => exact keeps_passWait s _ _
  | presentWaited n result =>
    simp only [step]
    split
    · exact keeps_markResult s result
    · exact keeps_of_eq rfl
  | takeWork =>
    simp only [step]
    split
    · exact keeps_passWait s _ _
    · exact keeps_of_eq rfl
  | sourceDone fences next =>
    simp only [step, sourceDone]
    split
    · split
      · exact keeps_of_eq rfl
      · exact keeps_markResult s _
    · exact keeps_of_eq rfl
  | submitSink fences submit =>
    simp only [step, submitSink]
    split
    · split
      · exact keeps_markAndGo s submit _
      · exact keeps_markResult s _
    · exact keeps_of_eq rfl
  | presentSink present =>
    simp only [step, presentSink]
    split
    · rename_i work _
      split
      · exact keeps_markAndGo { s with
          processing := s.processing.erase work.index, sink := s.sink ++ [work.index] } present _
      · exact keeps_markAndGo s present _
    · exact keeps_of_eq rfl
  | publish =>
    simp only [step, publish]
    split
    · split <;> exact keeps_of_eq rfl
    · exact keeps_of_eq rfl
  | pump results next =>
    simp only [step]
    split
    · exact keeps_pump s _ results next
    · exact keeps_of_eq rfl
  | pumped =>
    simp only [step]
    split
    · exact keeps_markPump s _ _
    · exact keeps_of_eq rfl
  | wake t => exact keeps_of_eq rfl
  | resume t timedOut =>
    simp only [step]
    split
    · split
      · unfold timeOut
        split <;> exact keeps_of_eq rfl
      · exact keeps_passWait s _ _
    · exact keeps_of_eq rfl

lemma keeps_stepWait (s : CrossSwapchain) (e : WaitEvent) : Keeps s (s.stepWait e) := by
  cases e with
  | cross e => exact keeps_step s e
  | expire n =>
    simp only [stepWait]
    split <;> exact keeps_of_eq rfl

/-! ### Results of waits -/

/-- The status is kept, and a call of `waitForPresent` only succeeds if the sink's did not time out. -/
structure Reports (s : CrossSwapchain) (e : WaitEvent) : Prop where
  negative : s.swapchainStatus < 0 → (s.stepWait e).swapchainStatus < 0
  suboptimal : s.swapchainStatus = VkResult.suboptimal →
    (s.stepWait e).swapchainStatus = VkResult.suboptimal ∨ (s.stepWait e).swapchainStatus < 0
  returns : ∀ r, s.waitReturn e = some r → r.result ≠ VkResult.timeout → 0 ≤ r.result →
    ∃ sink, r.sink = some sink ∧ sink ≠ VkResult.timeout

/-- The sink does not time out while the status is suboptimal. -/
def Punctual (s : CrossSwapchain) : WaitEvent → Prop
  | .cross (.presentWaited n result) => s.threads (.waiter n) = .running .waitingForPresent →
    result = VkResult.timeout → s.swapchainStatus ≠ VkResult.suboptimal
  | _ => True

lemma markedResult_timeout (s : CrossSwapchain) :
    (s.markResult VkResult.timeout).markedResult VkResult.timeout =
      if s.swapchainStatus = VkResult.success then VkResult.timeout else s.swapchainStatus := by
  have hmerge : mergeStatus s.swapchainStatus VkResult.timeout = s.swapchainStatus :=
    if_neg (by simp [VkResult.timeout, VkResult.suboptimal])
  have hkept : (s.markResult VkResult.timeout).swapchainStatus = s.swapchainStatus := by
    rcases s.markResult_cases VkResult.timeout with h | h <;> rw [h]
    exact hmerge
  rw [markedResult, hkept]

lemma errorReturn_error {r : PresentReturn} (h : s.errorReturn = some r) : r.result < 0 := by
  unfold errorReturn at h
  split at h
  · rename_i hneg
    rwa [← Option.some.inj h]
  · exact absurd h nofun

lemma reports_iff (hstatus : IsStatus s.swapchainStatus) (e : WaitEvent) : s.Reports e ↔ s.Punctual e := by
  have hkeeps := keeps_stepWait s e
  have hreports : (∀ r, s.waitReturn e = some r → r.result ≠ VkResult.timeout → 0 ≤ r.result →
      ∃ sink, r.sink = some sink ∧ sink ≠ VkResult.timeout) ↔ s.Punctual e := by
    have hall : (∀ r, s.waitReturn e = some r → r.result = VkResult.timeout ∨ r.result < 0) →
        (∀ r, s.waitReturn e = some r → r.result ≠ VkResult.timeout → 0 ≤ r.result →
          ∃ sink, r.sink = some sink ∧ sink ≠ VkResult.timeout) := by
      intro hbad r hr htimeout hpos
      rcases hbad r hr with heq | hneg
      · exact absurd heq htimeout
      · exact absurd hpos (not_le.2 hneg)
    match e with
    | .cross (.presentWaited n result) =>
      by_cases hthread : s.threads (.waiter n) = .running .waitingForPresent
      swap
      · have hnone : s.waitReturn (.cross (.presentWaited n result)) = none := by
          rw [waitReturn]
          split
          · rename_i hrunning
            exact absurd hrunning hthread
          · rfl
        rw [hnone]
        exact iff_of_true (fun _ h => absurd h nofun) fun h => absurd h hthread
      have hreturn : s.waitReturn (.cross (.presentWaited n result)) = some
          { result := (s.markResult result).markedResult result, sink := some result } := by
        simp only [waitReturn, hthread]
      rw [hreturn]
      constructor
      · rintro h - rfl hsub
        have hmarked : (s.markResult VkResult.timeout).markedResult VkResult.timeout = VkResult.suboptimal := by
          rw [markedResult_timeout, hsub]
          rfl
        obtain ⟨sink, hsink, hne⟩ := h _ rfl (by rw [hmarked]; decide) (by rw [hmarked]; decide)
        exact hne (Option.some.inj hsink).symm
      · intro h r hr htimeout hpos
        obtain rfl := Option.some.inj hr
        refine ⟨result, rfl, ?_⟩
        rintro rfl
        have hsub := h hthread rfl
        rw [markedResult_timeout] at htimeout hpos
        split at htimeout
        · exact htimeout rfl
        · rename_i hfail
          rw [if_neg hfail] at hpos
          rcases hstatus with hstatus | hstatus | hstatus
          · exact hfail hstatus
          · exact hsub hstatus
          · exact absurd hpos (not_le.2 hstatus)
    | .cross (.waitForPresent _ _ _) =>
      exact iff_of_true (hall fun r hr => .inr (errorReturn_error hr)) trivial
    | .cross (.resume (.waiter n) timedOut) =>
      refine iff_of_true (hall fun r hr => ?_) trivial
      simp only [waitReturn] at hr
      split at hr
      · split at hr
        · rw [← Option.some.inj hr]
          exact .inl rfl
        · exact .inr (errorReturn_error hr)
      · exact absurd hr nofun
    | .expire n =>
      refine iff_of_true (hall fun r hr => ?_) trivial
      simp only [waitReturn] at hr
      split at hr
      · rw [← Option.some.inj hr]
        exact .inl rfl
      · exact absurd hr nofun
    | .cross (.setPresentId _) | .cross (.acquire _) | .cross (.acquired _) | .cross (.restored _)
    | .cross (.queuePresent _ _)
    | .cross (.submitted _ _ _) | .cross (.pushWork _) | .cross (.releaseImage _ _) | .cross .takeWork
    | .cross (.sourceDone _ _) | .cross (.submitSink _ _) | .cross (.presentSink _) | .cross .publish
    | .cross (.pump _ _) | .cross .pumped | .cross (.wake _) | .cross (.resume .worker _)
    | .cross (.resume .app _) => exact iff_of_true (fun _ h => absurd h nofun) trivial
  rw [← hreports]
  exact ⟨Reports.returns, fun h => ⟨hkeeps.negative, hkeeps.suboptimal, h⟩⟩

/-- In every run the status is kept, and a timeout of the sink is never reported as success, if and only
if the sink never times out while the status is suboptimal. -/
theorem status_reported_iff (images pumps : Nat) (hasQueue : Bool) (created : Nat → Bool)
    (events : List WaitEvent) :
    Runs.Along stepWait Reports (init images pumps hasQueue created) events ↔
      Runs.Along stepWait Punctual (init images pumps hasQueue created) events := by
  have hall : Runs.Along stepWait (fun _ _ => True) (init images pumps hasQueue created) events :=
    Runs.Along.of_forall fun _ _ => trivial
  refine hall.congr (I := fun s => IsStatus s.swapchainStatus) (.inl rfl) (fun s e hs _ => ?_)
    fun s e hs _ => reports_iff hs e
  exact (keeps_stepWait s e).isStatus hs

/-- The sink's swapchain becomes suboptimal, an image is presented with the id 1, and the application waits
for that present. -/
def suboptimalWait : List WaitEvent :=
  [.pump { index := 0, acquireNextImage := VkResult.suboptimal } .app, .pumped, .takeWork, .setPresentId 1,
    .acquire { timeout := none, semaphore := false, fence := false }, .acquired {}, .queuePresent 0 0,
    .submitted 0 0 none, .pushWork .worker, .resume .worker false, .sourceDone true .worker, .submitSink true 0,
    .presentSink VkResult.suboptimal, .publish, .waitForPresent 0 1 true].map .cross

/-- The sink times out, and the call returns `VK_SUBOPTIMAL_KHR`, which is a success. -/
theorem timeout_reported_suboptimal :
    ((suboptimalWait.foldl stepWait (init 1 0 true fun _ => true)).waitReturn
        (.cross (.presentWaited 0 VkResult.timeout))) =
      some { result := VkResult.suboptimal, sink := some VkResult.timeout } := by
  decide +kernel

end CrossSwapchain

end PyroFling
