import PyroFling.CrossDevice

/-!
# Where the acquire entry points agree

A call that gets an image leaves a trace in the swapchain it is made on. So the entry points agree when
they resolve to the same swapchain, and otherwise only if both are refused for the same reason.
-/

namespace PyroFling

namespace CrossSwapchain

variable {s : CrossSwapchain} {call : AcquireCall} {results : AcquireResults}

/-- How a swapchain refuses a call at once, or when its time is up. -/
def refusal (s : CrossSwapchain) (call : AcquireCall) : Option VkResult :=
  if s.swapchainStatus < 0 then some s.swapchainStatus
  else if s.acquireQueue = [] then
    call.timeout.map fun timeout => if timeout = 0 then VkResult.notReady else VkResult.timeout
  else none

lemma goto_idle (h : s.threads .app = .running .idle) : s.goto .app .idle = s := by
  rw [goto, setThread, ← h, Function.update_eq_self]

lemma threads_goto (s : CrossSwapchain) (place : CrossPlace) :
    (s.goto .app place).threads .app = .running place := by
  simp [goto, setThread]

/-- The call returns before it has taken an image. -/
lemma acquire_of_logEmpty (hidle : s.threads .app = .running .idle) {code : VkResult}
    (h : s.waitForImage call = (s.logEmpty code).goto .app .idle) :
    ∃ s', s.acquire call results = some (code, none, s') ∧ s'.state = s.state := by
  have hstay : (((s.logEmpty code).goto .app .idle).step (.acquired results)).step (.restored []) =
      (s.logEmpty code).goto .app .idle := by
    simp only [step, threads_goto]
  have hlogged : ((s.logEmpty code).goto .app .idle) = s.logEmpty code := goto_idle hidle
  refine ⟨s.logEmpty code, ?_, rfl⟩
  have hthreads : (s.logEmpty code).threads .app = .running .idle := hidle
  rw [acquire, h, hstay, hlogged]
  simp only [hthreads]
  simp [logEmpty, logReturn]

lemma waitForImage_of_ready (h : s.Ready (.image call)) (hplace : ∀ w, (s.takeImage call).threads .app ≠ .blocked w) :
    s.waitForImage call = s.takeImage call := by
  have hstep : s.step (.acquire call) = s.takeImage call := if_pos h
  rw [waitForImage, hstep]
  split
  · rename_i w hblocked
    exact absurd hblocked (hplace w)
  · rfl

lemma step_acquire_of_not_ready (h : ¬s.Ready (.image call)) :
    s.step (.acquire call) = s.setThread .app (.blocked (.image call)) := if_neg h

lemma waitForImage_of_timeOut (h : ¬s.Ready (.image call)) {timeout : Nat} (htimeout : call.timeout = some timeout) :
    s.waitForImage call =
      (s.logEmpty (if timeout = 0 then VkResult.notReady else VkResult.timeout)).goto .app .idle := by
  have hthread : ∀ thread, (s.setThread .app thread).threads .app = thread := by
    simp [setThread]
  have hwake : (s.setThread .app (.blocked (.image call))).step (.wake .app) =
      s.setThread .app (.woken (.image call)) := by
    rw [step, hthread]
    simp [setThread, Monitor.Thread.wake]
  have hnot : ¬(s.setThread .app (.woken (.image call))).Ready (.image call) := h
  simp only [waitForImage, step_acquire_of_not_ready h, hthread]
  rw [htimeout, hwake, if_pos Option.isSome_some]
  simp only [step, hthread]
  rw [if_pos ⟨trivial, hnot⟩, timeOut, htimeout]
  simp [goto, setThread, logEmpty, logReturn]

lemma acquire_of_refusal (results : AcquireResults) (hidle : s.threads .app = .running .idle) {code : VkResult}
    (h : s.refusal call = some code) :
    ∃ s', s.acquire call results = some (code, none, s') ∧ s'.state = s.state := by
  unfold refusal at h
  split_ifs at h with herror hempty
  · obtain rfl := Option.some.inj h
    have htake : s.takeImage call = (s.logEmpty s.swapchainStatus).goto .app .idle := if_pos herror
    apply acquire_of_logEmpty hidle
    rw [waitForImage_of_ready (.inr herror), htake]
    intro w
    rw [htake, threads_goto]
    exact nofun
  · obtain ⟨timeout, htimeout, rfl⟩ := Option.map_eq_some_iff.1 h
    have hnot : ¬s.Ready (.image call) := fun hready => hready.elim (fun hne => hne hempty) herror
    exact acquire_of_logEmpty hidle (waitForImage_of_timeOut hnot htimeout)

/-- There is nothing to put back. -/
lemma restored_goto_idle (s : CrossSwapchain) : (s.goto .app .idle).step (.restored []) = s.goto .app .idle := by
  simp only [step, threads_goto]

/-- A push that nobody disturbs. -/
lemma restored_beginRestore (s : CrossSwapchain) (index : Nat) (res : VkResult) :
    ∃ r, r.index = some index ∧ (s.beginRestore index (some res)).step (.restored []) =
      ((((s.beginRestore index (some res)).putBack index).markResult res).logReturn r).goto .app .idle := by
  have hstep : (s.beginRestore index (some res)).step (.restored []) =
      (s.beginRestore index (some res)).restore index s.acquireQueue (some res) [] := by
    simp only [step, beginRestore, threads_goto]
  have hsame : (s.beginRestore index (some res)).acquireQueue = s.acquireQueue := rfl
  rw [hstep, restore, if_pos hsame]
  exact ⟨_, rfl, rfl⟩

/-- However a call with an image ends, the image is gone from the queue or there is an error. -/
lemma finishAcquire_spec (himport : results.importSemaphoreFd ≤ 0 ∧ results.importFenceFd ≤ 0)
    (call : AcquireCall) (index : Nat) {s' : CrossSwapchain}
    (hs' : (s.finishAcquire call index results).step (.restored []) = s') :
    s'.threads .app = .running .idle ∧ (∃ r, s'.returns.getLast? = some r ∧ r.index = some index) ∧
      (s'.acquireQueue = s.acquireQueue ∨ s'.swapchainStatus < 0) := by
  have hrestores : ∀ res, acquireExit call results = .restores res → res < 0 := by
    intro res hres
    unfold acquireExit at hres
    split_ifs at hres with _ hsemaphore _ _ _ hfence
    · obtain rfl := AcquireExit.restores.inj hres
      exact lt_of_le_of_ne himport.1 hsemaphore.2
    · obtain rfl := AcquireExit.restores.inj hres
      exact lt_of_le_of_ne himport.2 hfence
  unfold finishAcquire at hs'
  split at hs'
  · rw [restored_goto_idle] at hs'
    subst hs'
    exact ⟨threads_goto _ _, ⟨_, List.getLast?_concat, rfl⟩, .inl rfl⟩
  · rename_i res hexit
    have hneg := hrestores res hexit
    obtain ⟨r, hindex, hrestored⟩ := restored_beginRestore s index res
    rw [hrestored] at hs'
    subst hs'
    refine ⟨threads_goto _ _, ⟨r, List.getLast?_concat, hindex⟩, .inr ?_⟩
    change (((s.beginRestore index (some res)).putBack index).markResult res).swapchainStatus < 0
    have hmerge : mergeStatus ((s.beginRestore index (some res)).putBack index).swapchainStatus res = res :=
      if_pos (.inl hneg)
    unfold markResult
    rw [hmerge]
    split_ifs with hsuccess
    · rw [hsuccess] at hneg
      exact absurd hneg (by decide)
    · exact hneg
  · rw [restored_goto_idle] at hs'
    subst hs'
    exact ⟨threads_goto _ _, ⟨_, List.getLast?_concat, rfl⟩, .inl rfl⟩
  · dsimp only at hs'
    rw [restored_goto_idle] at hs'
    subst hs'
    refine ⟨threads_goto _ _, ?_, ?_⟩
    · split <;> exact ⟨_, List.getLast?_concat, rfl⟩
    · split <;> exact .inl rfl

/-- A call that is not refused and does not wait for ever changes the swapchain. -/
lemma acquire_of_image (himport : results.importSemaphoreFd ≤ 0 ∧ results.importFenceFd ≤ 0)
    (hstatus : ¬s.swapchainStatus < 0) {index : Nat} {rest : List Nat} (hqueue : s.acquireQueue = index :: rest) :
    ∃ result s', s.acquire call results = some (result, some index, s') ∧ s'.state ≠ s.state := by
  have htake : s.takeImage call = { s with
      acquireQueue := rest, held := s.held ++ [index] }.goto .app (.acquiring call index) := by
    rw [takeImage, if_neg hstatus, hqueue]
  have hwait : s.waitForImage call = { s with
      acquireQueue := rest, held := s.held ++ [index] }.goto .app (.acquiring call index) := by
    have hready : s.Ready (.image call) := .inl (by
      rw [hqueue]
      exact List.cons_ne_nil _ _)
    rw [waitForImage_of_ready hready, htake]
    intro w
    rw [htake, threads_goto]
    exact nofun
  have hstep : ∀ t : CrossSwapchain, t.threads .app = .running (.acquiring call index) →
      t.step (.acquired results) = t.finishAcquire call index results := by
    intro t ht
    simp only [step, ht]
  rw [acquire, hwait, hstep _ (threads_goto _ _)]
  generalize hs' : (finishAcquire _ call index results).step (.restored []) = s'
  obtain ⟨hidle, ⟨r, hlast, hindex⟩, hchanged⟩ := finishAcquire_spec himport call index hs'
  refine ⟨r.result, s', ?_, fun heq => ?_⟩
  · simp only [hidle, hlast]
    rw [Option.map_some, hindex]
  · have hqueues : s'.state.acquireQueue = s.state.acquireQueue := by rw [heq]
    have hstatuses : s'.state.swapchainStatus = s.state.swapchainStatus := by rw [heq]
    change s'.acquireQueue = s.acquireQueue at hqueues
    change s'.swapchainStatus = s.swapchainStatus at hstatuses
    rcases hchanged with hshorter | herror
    · have hrest : s'.acquireQueue = rest := hshorter
      rw [hrest, hqueue] at hqueues
      exact List.ne_cons_self hqueues
    · rw [hstatuses] at herror
      exact hstatus herror

/-- A call with an empty queue and no timeout waits. -/
lemma acquire_of_wait (hstatus : ¬s.swapchainStatus < 0) (hqueue : s.acquireQueue = [])
    (htimeout : call.timeout = none) : s.acquire call results = none := by
  have hnot : ¬s.Ready (.image call) := fun hready => hready.elim (fun hne => hne hqueue) hstatus
  have hthread : ∀ thread, (s.setThread .app thread).threads .app = thread := by
    simp [setThread]
  have hwait : s.waitForImage call = s.setThread .app (.blocked (.image call)) := by
    simp only [waitForImage, step_acquire_of_not_ready hnot, hthread, htimeout]
    rfl
  rw [acquire, hwait]
  simp only [step, hthread]

lemma acquire_cases (hidle : s.threads .app = .running .idle)
    (himport : results.importSemaphoreFd ≤ 0 ∧ results.importFenceFd ≤ 0) (call : AcquireCall) :
    (∃ code, s.refusal call = some code ∧
      ∃ s', s.acquire call results = some (code, none, s') ∧ s'.state = s.state) ∨
    (s.refusal call = none ∧ ∃ result index s',
      s.acquire call results = some (result, some index, s') ∧ s'.state ≠ s.state) ∨
    (s.refusal call = none ∧ s.acquire call results = none) := by
  cases hrefusal : s.refusal call with
  | some code => exact .inl ⟨code, rfl, acquire_of_refusal results hidle hrefusal⟩
  | none =>
    right
    unfold refusal at hrefusal
    split_ifs at hrefusal with hstatus hqueue
    · right
      exact ⟨rfl, acquire_of_wait hstatus hqueue (Option.map_eq_none_iff.1 hrefusal)⟩
    · left
      obtain ⟨index, rest, hcons⟩ := List.exists_cons_of_ne_nil hqueue
      obtain ⟨result, s', hacquire, hchanged⟩ := acquire_of_image himport hstatus hcons
      exact ⟨rfl, result, index, s', hacquire, hchanged⟩

end CrossSwapchain

namespace CrossDevice

open CrossSwapchain

variable {d : CrossDevice} {results : BitVec 64 → AcquireResults}

/-- The swapchain of the info and the object that its semaphore is taken for both refuse the call, with
the same code. -/
def BothRefuse (d : CrossDevice) (info : AcquireNextImageInfo) : Prop :=
  ∃ s t code, d.swapchains info.swapchain = some s ∧ d.swapchains info.semaphore = some t ∧
    s.refusal (acquireCall info.timeout info.semaphore info.fence) = some code ∧
    t.refusal (acquireCall info.timeout info.semaphore info.fence) = some code

/-- No swapchain changes in a call that is refused. -/
lemma swapchains_of_same {address : BitVec 64} {s s' : CrossSwapchain} (hs : d.swapchains address = some s)
    (hsame : s'.state = s.state) :
    (fun a => (Function.update d.swapchains address (some s') a).map CrossSwapchain.state) =
      fun a => (d.swapchains a).map CrossSwapchain.state := by
  funext a
  rcases eq_or_ne a address with rfl | hne
  · rw [Function.update_self, hs, Option.map_some, Option.map_some, hsame]
  · rw [Function.update_of_ne hne]

/-- The entry points agree if and only if the semaphore has the value of the swapchain's handle, or is
the address of another swapchain and both refuse the call with the same code. A swapchain is used by one
thread at a time, and importing a payload succeeds or returns an error. -/
theorem acquire_agree_iff (hidle : ∀ a s, d.swapchains a = some s → s.threads .app = .running .idle)
    (himport : ∀ a, (results a).importSemaphoreFd ≤ 0 ∧ (results a).importFenceFd ≤ 0)
    (info : AcquireNextImageInfo) :
    d.acquireNextImage2 info results =
        d.acquireNextImage info.swapchain info.timeout info.semaphore info.fence results ↔
      info.semaphore = info.swapchain ∨ d.BothRefuse info := by
  set call := acquireCall info.timeout info.semaphore info.fence with hcall
  unfold acquireNextImage2 acquireNextImage
  constructor
  · intro hsame
    by_cases hne : info.semaphore = info.swapchain
    · exact .inl hne
    right
    unfold acquireAt at hsame
    rw [← hcall] at hsame
    cases ht : d.swapchains info.semaphore with
    | none =>
      rw [ht] at hsame
      cases hs : d.swapchains info.swapchain with
      | none =>
        rw [hs] at hsame
        exact absurd (AcquireOutcome.undefined.inj hsame) hne
      | some s =>
        rw [hs] at hsame
        dsimp only at hsame
        split at hsame <;> exact absurd hsame nofun
    | some t =>
      rw [ht] at hsame
      cases hs : d.swapchains info.swapchain with
      | none =>
        rw [hs] at hsame
        dsimp only at hsame
        split at hsame <;> exact absurd hsame nofun
      | some s =>
        rw [hs] at hsame
        dsimp only at hsame
        rcases acquire_cases (hidle _ t ht) (himport info.semaphore) call with
          ⟨code, htrefusal, t', htacquire, htstate⟩ | ⟨-, result, index, t', htacquire, htstate⟩ | ⟨-, htacquire⟩
        · rw [htacquire] at hsame
          rcases acquire_cases (hidle _ s hs) (himport info.swapchain) call with
            ⟨code', hsrefusal, s', hsacquire, hsstate⟩ | ⟨-, result, index, s', hsacquire, hsstate⟩ |
              ⟨-, hsacquire⟩
          · rw [hsacquire] at hsame
            obtain ⟨rfl, -, -⟩ := AcquireOutcome.returns.inj hsame
            exact ⟨s, t, code, hs, ht, hsrefusal, htrefusal⟩
          · rw [hsacquire] at hsame
            exact absurd (AcquireOutcome.returns.inj hsame).2.1 nofun
          · rw [hsacquire] at hsame
            exact absurd hsame nofun
        · rw [htacquire] at hsame
          rcases hsacquire : s.acquire call (results info.swapchain) with _ | ⟨result', index', s'⟩
          · rw [hsacquire] at hsame
            exact absurd hsame nofun
          · rw [hsacquire] at hsame
            have hstates := congrFun (AcquireOutcome.returns.inj hsame).2.2 info.semaphore
            rw [Function.update_self, Function.update_of_ne hne, ht] at hstates
            exact absurd (Option.some.inj hstates) htstate
        · rw [htacquire] at hsame
          rcases hsacquire : s.acquire call (results info.swapchain) with _ | ⟨result', index', s'⟩
          · rw [hsacquire] at hsame
            exact absurd (AcquireOutcome.waits.inj hsame) hne
          · rw [hsacquire] at hsame
            exact absurd hsame nofun
  · rintro (heq | ⟨s, t, code, hs, ht, hsrefusal, htrefusal⟩)
    · rw [heq]
    · obtain ⟨s', hsacquire, hsstate⟩ :=
        acquire_of_refusal (results info.swapchain) (hidle _ s hs) hsrefusal
      obtain ⟨t', htacquire, htstate⟩ :=
        acquire_of_refusal (results info.semaphore) (hidle _ t ht) htrefusal
      unfold acquireAt
      rw [← hcall] at hsacquire htacquire ⊢
      rw [ht, hs]
      dsimp only
      rw [hsacquire, htacquire]
      dsimp only
      rw [swapchains_of_same ht htstate, swapchains_of_same hs hsstate]

/-- A swapchain with one image, after the worker has acquired it from the sink with this result. -/
def acquiredFromSink (acquireNextImage : VkResult) : CrossSwapchain :=
  [CrossEvent.pump { index := 0, acquireNextImage := acquireNextImage } .app, .pumped].foldl step
    (init 1 0 true fun _ => true)

/-- One swapchain at the address 16, and as many at 32 as are given. -/
def atAddresses (s : CrossSwapchain) (t : Option CrossSwapchain) : CrossDevice where
  swapchains a := if a = 16 then some s else if a = 32 then t else none

/-- Both swapchains have lost their device, so it does not matter which of them is asked. -/
theorem acquire_agree_lost :
    let lost := acquiredFromSink VkResult.errorDeviceLost
    let info : AcquireNextImageInfo := { swapchain := 16, timeout := 0, semaphore := 32, fence := 0 }
    (atAddresses lost (some lost)).acquireNextImage2 info (fun _ => {}) =
      (atAddresses lost (some lost)).acquireNextImage 16 0 32 0 (fun _ => {}) := by
  intro lost info
  refine (acquire_agree_iff (fun a s hs => ?_) (fun _ => ⟨le_rfl, le_rfl⟩) info).2
    (.inr ⟨lost, lost, VkResult.errorDeviceLost, rfl, rfl, rfl, rfl⟩)
  simp only [atAddresses] at hs
  split_ifs at hs <;> exact Option.some.inj hs ▸ rfl

/-- With an image in the queue, `AcquireNextImageKHR` returns it and `AcquireNextImage2KHR` finds no
swapchain. -/
theorem acquire2_finds_semaphore :
    ¬(atAddresses (acquiredFromSink VkResult.success) none).acquireNextImage2
        { swapchain := 16, timeout := 0, semaphore := 32, fence := 0 } (fun _ => {}) =
      (atAddresses (acquiredFromSink VkResult.success) none).acquireNextImage 16 0 32 0 (fun _ => {}) :=
  nofun

end CrossDevice

end PyroFling
