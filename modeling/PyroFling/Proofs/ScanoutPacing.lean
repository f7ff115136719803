import PyroFling.Library.Runs
import PyroFling.Proofs.FrameCompletion
import PyroFling.Proofs.ScanoutSafety

/-!
# Pacing of the scan-out

Without immediate encoding, a present is given a cycle that comes after the period of the one
before it, and a heartbeat shows the newest image whose cycle has come. An image is retired early if
a newer one can replace it at the next heartbeat, so that whatever has been shown is always covered
by a ready image that is at least as new.
-/

namespace PyroFling

namespace Swapchain

variable {c c' : Swapchain} {v : VideoEncode}

/-- The conditions under which a present is accepted. -/
def accepts (c : Swapchain) (input : PresentInput) (p : PresentImage) : Bool :=
  p.imageGroupSerial = c.imageGroupSerial ∧ p.index < c.numImages ∧ c.lastPresentId < p.id ∧
    (c.images p.index).state = .clientOwned ∧
    ¬(p.vkExternalSemaphoreType ≠ 0 ∧ input.imported = false)

/-- The cycle that an accepted present has been given, and its period. -/
def acceptedTarget (v : VideoEncode) (c : Swapchain) : SwapchainEvent → Option (Nat × Nat)
  | .present input p =>
    if c.accepts input p then
      some (((c.handlePresent v input p).2.images p.index).targetTimestamp, p.period)
    else none
  | _ => none

/-- What a heartbeat shows: the present id of the image, if there is one. -/
def selectedId (c : Swapchain) : SwapchainEvent → Option (Option Nat)
  | .heartbeat timeNs => some ((c.heartbeat timeNs).2.1.map fun i => (c.images i).presentId)
  | _ => none

/-! ### Targets -/

lemma handlePresent_accepts {input : PresentInput} {p : PresentImage} (h : c.accepts input p = true) :
    c.handlePresent v input p = (c.accept p).submitPresent v input p := by
  simp only [accepts, decide_eq_true_eq] at h
  obtain ⟨hserial, hindex, hid, hstate, himported⟩ := h
  rw [handlePresent, if_neg (not_not.2 hserial), if_neg (Nat.not_le.2 hindex), if_neg (Nat.not_le.2 hid)]
  exact (if_neg (not_not.2 hstate)).trans (if_neg himported)

lemma submitPresent_schedule (c : Swapchain) (hv : v.immediate = false) (input : PresentInput)
    (p : PresentImage) :
    (c.submitPresent v input p).2.earliestNextTimestamp = c.earliestNextTimestamp ∧
      ∀ i, ((c.submitPresent v input p).2.images i).targetTimestamp = (c.images i).targetTimestamp := by
  obtain ⟨handled, hhandled, hresult⟩ := submitPresent_cases c v input p
  obtain rfl := hhandled.resolve_right fun himmediate => by simp [hv] at himmediate
  obtain ⟨hs, himages⟩ := sameSchedule_send c (.ok p.serial)
  rcases hresult with heq | heq
  · rw [heq]
    exact ⟨hs.earliest, fun i => by rw [himages]⟩
  · rw [heq]
    obtain ⟨limit, hr⟩ := retires_retireReplacedImages { (c.send (.ok p.serial)).2 with
      notifications := (c.send (.ok p.serial)).2.notifications ++
        [{ serial := c.imageGroupSerial, index := p.index, ts := input.ts }] }
    refine ⟨hr.schedule.earliest.trans hs.earliest, fun i => ?_⟩
    rcases hr.image i with hsame | ⟨-, -, hsame⟩
    · rw [hsame, himages]
    · rw [hsame, himages]
      rfl

/-- An accepted present gets the next free cycle, and pushes the following one back. -/
lemma accepted_schedule (hv : v.immediate = false) {input : PresentInput} {p : PresentImage}
    (h : c.accepts input p = true) :
    ((c.handlePresent v input p).2.images p.index).targetTimestamp = c.computeNextTargetTimestamp ∧
      (c.handlePresent v input p).2.earliestNextTimestamp = c.computeNextTargetTimestamp + p.period := by
  obtain ⟨hearliest, htarget⟩ := submitPresent_schedule (c.accept p) hv input p
  rw [handlePresent_accepts h]
  refine ⟨?_, hearliest⟩
  rw [htarget, accept_image]

lemma earliest_step (hv : v.immediate = false) (c : Swapchain) (e : SwapchainEvent) :
    c.earliestNextTimestamp ≤ (c.step v e).earliestNextTimestamp := by
  have hretire : ∀ d : Swapchain, d.retireReplacedImages.2.earliestNextTimestamp =
      d.earliestNextTimestamp := by
    intro d
    obtain ⟨limit, hr⟩ := retires_retireReplacedImages d
    exact hr.schedule.earliest
  cases e with
  | present input p =>
    rcases handlePresent_cases c v input p with ⟨last, m, -, -, heq⟩ | ⟨-, -, -, -, heq⟩
    · rw [step, heq, (sameSchedule_send _ m).1.earliest]
    · rw [step, heq, (submitPresent_schedule (c.accept p) hv input p).1]
      exact (le_max_right _ _).trans (Nat.le_add_right _ _)
  | notified e n =>
    rw [step, notify]
    rcases handleAsync_cases { c with notifications := c.notifications.erase n } v e n true with
      heq | ⟨limit, hr⟩
    · rw [heq]
    · rw [hr.schedule.earliest, (settles_settle _ v e n true).earliest]
  | heartbeat timeNs =>
    rw [step]
    rcases heartbeat_cases c timeNs with ⟨-, heq⟩ | ⟨-, ⟨results, heq⟩ | ⟨-, results, hr⟩⟩
    · rw [heq]
      exact le_rfl
    · rw [heq]
      exact le_rfl
    · rw [hr.schedule.earliest]
      exact le_rfl
  | heartbeatStalled =>
    rw [step, heartbeatStalled, hretire]
  | socket results => exact le_rfl

/-! ### Selected images -/

/-- A present that has been shown is covered as if it were due. -/
def shown (id : Nat) : TimestampCompleteMapping := { timestamp := 0, completeId := id }

/-- A heartbeat shows an image that can be scanned out, and at least as new a one as any other. -/
lemma heartbeat_selected {timeNs i : Nat} (h : (c.heartbeat timeNs).2.1 = some i) :
    i < c.numImages ∧ c.Candidate (c.timestampCompleted + 1) i := by
  rcases heartbeat_cases c timeNs with ⟨-, heq⟩ | ⟨hscanout, -⟩
  · rw [heq] at h
    cases h
  · rw [hscanout] at h
    obtain ⟨hcandidate, hlt⟩ := getTarget_some h
    exact ⟨hlt, hcandidate⟩

lemma heartbeat_completed (c : Swapchain) (timeNs : Nat) :
    (c.heartbeat timeNs).2.2.timestampCompleted = c.timestampCompleted + 1 := by
  rcases heartbeat_cases c timeNs with ⟨-, heq⟩ | ⟨-, ⟨results, heq⟩ | ⟨-, results, hr⟩⟩
  · rw [heq]
    rfl
  · rw [heq]
    rfl
  · exact hr.schedule.completed

lemma IsCovered.selected {id : Nat} (h : c.IsCovered (shown id)) (timeNs : Nat) :
    ∃ i, (c.heartbeat timeNs).2.1 = some i ∧ id ≤ (c.images i).presentId := by
  obtain ⟨i, hi, hready, hid, htarget⟩ := h
  rcases heartbeat_cases c timeNs with ⟨hnone, -⟩ | ⟨hscanout, -⟩
  · omega
  · have hcandidate : c.tick.Candidate (c.timestampCompleted + 1) i :=
      ⟨hready, htarget.trans (by simp [shown])⟩
    obtain ⟨t, ht, hle⟩ := getTarget_newest (c := c.tick) hi hcandidate
    exact ⟨t, hscanout.trans ht, hid.trans hle⟩

/-- What keeps the books of a connection without immediate encoding. -/
structure Paced (c : Swapchain) : Prop where
  noted : c.Noted
  covered : c.Covered

lemma Paced.step (h : c.Paced) (hv : v.immediate = false) {e : SwapchainEvent} (he : c.Legal e) :
    (c.step v e).Paced := by
  cases e with
  | present input p => exact ⟨h.noted.handlePresent input p, h.covered.handlePresent hv input p⟩
  | notified e n => exact ⟨h.noted.notify e he, h.covered.notify hv h.noted e he⟩
  | heartbeat timeNs => exact ⟨h.noted.heartbeat timeNs, h.covered.heartbeat timeNs⟩
  | heartbeatStalled => exact ⟨h.noted.heartbeatStalled, h.covered.heartbeatStalled⟩
  | socket results =>
    exact ⟨h.noted.of_images rfl rfl rfl rfl, h.covered.of_quiet rfl rfl le_rfl (List.Subset.refl _)⟩

lemma IsCovered.step {m : TimestampCompleteMapping} (hm : c.IsCovered m) (h : c.Paced)
    (hv : v.immediate = false) {e : SwapchainEvent} (he : c.Legal e) : (c.step v e).IsCovered m := by
  cases e with
  | present input p => exact hm.handlePresent hv input p
  | notified e n => exact hm.notify hv h.noted e he
  | heartbeat timeNs => exact hm.heartbeat h.covered timeNs
  | heartbeatStalled => exact hm.heartbeatStalled
  | socket results => exact hm.of_quiet rfl rfl le_rfl

/-- What a heartbeat shows stays covered. -/
lemma Paced.shown (h : c.Paced) {timeNs i : Nat} (hi : (c.heartbeat timeNs).2.1 = some i) :
    (c.heartbeat timeNs).2.2.IsCovered (shown (c.images i).presentId) := by
  obtain ⟨hlt, hready, htarget⟩ := heartbeat_selected hi
  have hcovered : c.IsCovered (Swapchain.shown (c.images i).presentId) :=
    ⟨i, hlt, hready, le_rfl, htarget.trans (le_max_right _ _)⟩
  exact hcovered.heartbeat h.covered timeNs

lemma Fresh.paced (h : c.Fresh) : c.Paced := ⟨h.noted, by simp [Covered, h.mappings]⟩

/-- In every run of a connection with one image group and without immediate encoding, the targets of
accepted presents respect the periods, a heartbeat shows an image only when its cycle has come, the
ids of the images that are shown never decrease, and once an image has been shown every heartbeat
shows one. -/
theorem scanout_paced (hv : v.immediate = false) (hfresh : c.Fresh) (events : List SwapchainEvent)
    (hlegal : Runs.Along (step v) Legal c events) :
    (Runs.observed (step v) (acceptedTarget v) c events).Pairwise (fun p q => p.1 + p.2 ≤ q.1) ∧
      (∀ timeNs i, ((events.foldl (step v) c).heartbeat timeNs).2.1 = some i →
        ((events.foldl (step v) c).images i).targetTimestamp ≤
          ((events.foldl (step v) c).heartbeat timeNs).2.2.timestampCompleted) ∧
      (Runs.observed (step v) selectedId c events).reduceOption.Pairwise (· ≤ ·) ∧
      (Runs.observed (step v) selectedId c events).Pairwise (fun a b => a.isSome → b.isSome) := by
  have hnewer : (Runs.observed (step v) selectedId c events).Pairwise
      (fun a b => ∀ id ∈ a, ∃ id' ∈ b, id ≤ id') := by
    apply hlegal.pairwise (I := Paced) (B := fun a c => ∀ id ∈ a, c.IsCovered (shown id)) hfresh.paced
    · exact fun _ _ h he => h.step hv he
    · intro c e a h he hseen id hid
      cases e with
      | heartbeat timeNs =>
        obtain rfl := Option.some.inj hseen
        obtain ⟨i, hi, rfl⟩ := Option.map_eq_some_iff.1 hid
        exact h.shown hi
      | present _ _ | notified _ _ | heartbeatStalled | socket _ => cases hseen
    · exact fun c e a h he ha id hid => (ha id hid).step h hv he
    · intro c e a b h he ha hseen id hid
      cases e with
      | heartbeat timeNs =>
        obtain rfl := Option.some.inj hseen
        obtain ⟨i, hi, hle⟩ := (ha id hid).selected timeNs
        exact ⟨_, Option.map_eq_some_iff.2 ⟨i, hi, rfl⟩, hle⟩
      | present _ _ | notified _ _ | heartbeatStalled | socket _ => cases hseen
  refine ⟨?_, ?_, ?_, ?_⟩
  · apply hlegal.pairwise (I := fun _ => True) (B := fun a c => a.1 + a.2 ≤ c.earliestNextTimestamp) trivial
    · exact fun _ _ _ _ => trivial
    · intro c e a _ _ hseen
      cases e with
      | present input p =>
        simp only [acceptedTarget] at hseen
        split at hseen
        case isTrue haccepts =>
          obtain rfl := Option.some.inj hseen
          obtain ⟨htarget, hearliest⟩ := accepted_schedule hv haccepts
          rw [step, htarget, hearliest]
        case isFalse => cases hseen
      | heartbeat _ | notified _ _ | heartbeatStalled | socket _ => cases hseen
    · exact fun c e a _ _ ha => ha.trans (earliest_step hv c e)
    · intro c e a b _ _ ha hseen
      cases e with
      | present input p =>
        simp only [acceptedTarget] at hseen
        split at hseen
        case isTrue haccepts =>
          obtain rfl := Option.some.inj hseen
          rw [(accepted_schedule hv haccepts).1]
          exact ha.trans (le_max_right _ _)
        case isFalse => cases hseen
      | heartbeat _ | notified _ _ | heartbeatStalled | socket _ => cases hseen
  · intro timeNs i hi
    rw [heartbeat_completed]
    exact (heartbeat_selected hi).2.2
  · refine List.pairwise_filterMap.2 (hnewer.imp ?_)
    rintro a b hab id rfl id' rfl
    obtain ⟨id'', hid, hle⟩ := hab id rfl
    exact Option.some.inj hid ▸ hle
  · refine hnewer.imp ?_
    intro a b hab ha
    obtain ⟨id, hid⟩ := Option.isSome_iff_exists.1 ha
    obtain ⟨id', hid', -⟩ := hab id hid
    exact Option.isSome_iff_exists.2 ⟨id', hid'⟩

/-- The first of two presents is noticed to be done after the second was shown, and a heartbeat is
missed. -/
theorem scanout_paced_late :
    let events : List SwapchainEvent := [.present {} (presentOf 0 1), .present {} (presentOf 1 2),
      .notified {} ⟨1, 1, 0⟩, .heartbeat 1, .heartbeat 1, .notified {} ⟨1, 0, 0⟩, .heartbeatStalled, .heartbeat 1]
    let ids := Runs.observed (step { immediate := false }) selectedId twoImages events
    ids = [none, some 2, some 2] ∧ ids.reduceOption.Pairwise (· ≤ ·) := by
  intro events ids
  have hpaced := scanout_paced (v := { immediate := false }) rfl twoImages_fresh events (by decide)
  exact ⟨by decide, hpaced.2.2.1⟩

end Swapchain

end PyroFling
