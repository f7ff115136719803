import PyroFling.Library.Runs
import PyroFling.Proofs.SwapchainSteps

/-!
# Notifications for any client

A client may create image groups and present images as it likes. Images of earlier groups are kept,
and an image is presented only while the client owns it, so that the notification of an image is
outstanding only while the image waits for it. Hence a notification that is not out of date always
finds its image in a state that `handle_async` expects.
-/

namespace PyroFling

/-- What can happen to a connection whose client may create image groups. -/
inductive ConnectionEvent
  | imageGroup (input : ImageGroupInput) (g : ImageGroup)
  | other (e : SwapchainEvent)

namespace Swapchain

variable {c c' : Swapchain} {v : VideoEncode}

/-! ### Image groups -/

/-- New images are added behind the others, and the client gets an answer. -/
structure Creates (c c' : Swapchain) : Prop where
  numImages : c.numImages ≤ c'.numImages
  images : ∀ i < c.numImages, c'.images i = c.images i
  notifications : c'.notifications = c.notifications
  asserted : c'.asserted = c.asserted

lemma Creates.trans {c'' : Swapchain} (h : Creates c c') (h' : Creates c' c'') : Creates c c'' where
  numImages := h.numImages.trans h'.numImages
  images i hi := (h'.images i (hi.trans_le h.numImages)).trans (h.images i hi)
  notifications := h'.notifications.trans h.notifications
  asserted := h'.asserted.trans h.asserted

lemma creates_send (c : Swapchain) (m : ServerMessage) : Creates c (c.send m).2 := by
  obtain ⟨hs, himages⟩ := sameSchedule_send c m
  exact ⟨hs.numImages.ge, fun i _ => by rw [himages], hs.notifications, hs.asserted⟩

lemma creates_pushImage (c : Swapchain) (crossDevice : Bool) : Creates c (c.pushImage crossDevice) where
  numImages := Nat.le_succ _
  images _ hi := Function.update_of_ne hi.ne ..
  notifications := rfl
  asserted := rfl

lemma creates_createImages (input : ImageGroupInput) (serial : Nat) (is : List Nat) (c : Swapchain) :
    Creates c (createImages input serial is c).2 := by
  induction is generalizing c with
  | nil => exact creates_send c _
  | cons i is ih =>
    rw [createImages]
    split
    case isTrue => exact (creates_pushImage c _).trans (ih _)
    case isFalse => exact creates_send c _

lemma creates_handleSwapchainCreate (c : Swapchain) (input : ImageGroupInput) (g : ImageGroup) :
    Creates c (c.handleSwapchainCreate input g).2 := by
  have hserial : ∀ color, Creates c { c with imageGroupSerial := g.serial, colorSpace := color } :=
    fun _ => ⟨le_rfl, fun _ _ => rfl, rfl, rfl⟩
  have hsend : ∀ color m,
      Creates c ({ c with imageGroupSerial := g.serial, colorSpace := color }.send m).2 :=
    fun color m => (hserial color).trans (creates_send _ m)
  unfold handleSwapchainCreate
  simp only
  split_ifs
  case neg =>
    split
    case h_1 => exact hsend _ _
    case h_2 =>
      split_ifs
      case pos => exact hsend _ _
      case neg => exact (hserial _).trans (creates_createImages _ _ _ _)
  all_goals exact hsend _ _

lemma Creates.outstanding (hc : Creates c c') (h : c.Outstanding) : c'.Outstanding :=
  h.of_waiting hc.numImages hc.notifications fun n hn =>
    (hc.images n.index (h.index n hn)).symm ▸ h.waiting n hn

/-! ### Assertions -/

lemma asserted_handleAsync (e : EncoderInput) {n : Notification} (g : Bool) (h : c.asserted = true)
    (hindex : n.index < c.numImages) (hwaiting : (c.images n.index).state = .presentQueued ∨
      (c.images n.index).state = .presentPendingReady) :
    (c.handleAsync v e n g).2.asserted = true := by
  rcases handleAsync_cases c v e n g with heq | ⟨limit, hr⟩
  · rw [heq]
    exact h
  · rw [hr.schedule.asserted, (settles_settle c v e n g).asserted]
    simp [h, hindex, hwaiting]

lemma asserted_retireReplacedImages (c : Swapchain) : c.retireReplacedImages.2.asserted = c.asserted := by
  obtain ⟨limit, hr⟩ := retires_retireReplacedImages c
  exact hr.schedule.asserted

lemma asserted_submitPresent (input : PresentInput) {p : PresentImage} (h : c.asserted = true)
    (hindex : p.index < c.numImages) (hstate : (c.images p.index).state = .presentQueued) :
    (c.submitPresent v input p).2.asserted = true := by
  obtain ⟨handled, hhandled, hresult⟩ := submitPresent_cases c v input p
  obtain ⟨hs, himages⟩ := sameSchedule_send c (.ok p.serial)
  have hasserted : handled.asserted = true := by
    rcases hhandled with rfl | ⟨-, rfl⟩
    · exact hs.asserted.trans h
    · apply asserted_handleAsync
      · exact hs.asserted.trans h
      · exact hs.numImages.symm ▸ hindex
      · exact .inl (by rw [himages]; exact hstate)
  rcases hresult with heq | heq
  · rw [heq]
    exact hasserted
  · rw [heq, asserted_retireReplacedImages]
    exact hasserted

lemma asserted_handlePresent (input : PresentInput) (p : PresentImage) (h : c.asserted = true) :
    (c.handlePresent v input p).2.asserted = true := by
  rcases handlePresent_cases c v input p with ⟨last, m, -, -, heq⟩ | ⟨-, hindex, -, -, heq⟩
  · rw [heq]
    exact (sameSchedule_send _ m).1.asserted.trans h
  · rw [heq]
    exact asserted_submitPresent input h hindex (by rw [accept_image])

lemma asserted_heartbeat (c : Swapchain) (timeNs : Nat) : (c.heartbeat timeNs).2.2.asserted = c.asserted := by
  rcases heartbeat_cases c timeNs with ⟨-, heq⟩ | ⟨-, ⟨results, heq⟩ | ⟨-, results, hr⟩⟩
  · rw [heq]
    rfl
  · rw [heq]
    rfl
  · exact hr.schedule.asserted

/-! ### Runs -/

def connectionStep (v : VideoEncode) (c : Swapchain) : ConnectionEvent → Swapchain
  | .imageGroup input g => (c.handleSwapchainCreate input g).2
  | .other e => c.step v e

/-- All but the notifications is up to the client. -/
def Delivers (c : Swapchain) : ConnectionEvent → Prop
  | .other (.notified _ n) => n ∈ c.notifications
  | _ => True

instance (c : Swapchain) : (e : ConnectionEvent) → Decidable (c.Delivers e)
  | .other (.notified _ _) => inferInstanceAs (Decidable (_ ∈ _))
  | .imageGroup _ _ | .other (.present _ _) | .other (.heartbeat _) | .other .heartbeatStalled
  | .other (.socket _) => inferInstanceAs (Decidable True)

/-- The notifications fit the images, and no assertion has failed. -/
structure Expected (c : Swapchain) : Prop where
  outstanding : c.Outstanding
  asserted : c.asserted = true

lemma Expected.connectionStep (h : c.Expected) {e : ConnectionEvent} (he : c.Delivers e) :
    (c.connectionStep v e).Expected := by
  cases e with
  | imageGroup input g =>
    have hc := creates_handleSwapchainCreate c input g
    exact ⟨hc.outstanding h.outstanding, hc.asserted.trans h.asserted⟩
  | other e =>
    cases e with
    | present input p =>
      exact ⟨h.outstanding.handlePresent input p, asserted_handlePresent input p h.asserted⟩
    | notified e n =>
      refine ⟨h.outstanding.notify e he, ?_⟩
      apply asserted_handleAsync
      · exact h.asserted
      · exact h.outstanding.index n he
      · exact h.outstanding.waiting n he
    | heartbeat timeNs =>
      exact ⟨h.outstanding.heartbeat timeNs, (asserted_heartbeat c timeNs).trans h.asserted⟩
    | heartbeatStalled =>
      exact ⟨h.outstanding.heartbeatStalled, (asserted_retireReplacedImages _).trans h.asserted⟩
    | socket results => exact ⟨h.outstanding.of_images rfl rfl rfl, h.asserted⟩

/-- A new connection has no notifications. -/
lemma expected_new : ({} : Swapchain).Expected := by
  refine ⟨⟨?_, ?_, List.nodup_nil⟩, rfl⟩ <;>
    · intro n hn
      cases hn

/-- Whatever a client sends, at most one notification is outstanding for each image, and none for an
image that the client owns or that is ready. A notification that `handle_async` does not ignore is
therefore for an existing image that waits for it, and the assertions have held so far. -/
theorem notifications_expected (v : VideoEncode) (events : List ConnectionEvent)
    (hdelivers : Runs.Along (connectionStep v) Delivers {} events) :
    let c := events.foldl (connectionStep v) {}
    (∀ i, (c.notifications.map Notification.index).count i ≤ 1) ∧
      (∀ i, (c.images i).state = .clientOwned ∨ (c.images i).state = .presentReady →
        ∀ n ∈ c.notifications, n.index ≠ i) ∧
      (∀ n ∈ c.notifications, n.serial = c.imageGroupSerial → n.index < c.numImages ∧
        ((c.images n.index).state = .presentQueued ∨
          (c.images n.index).state = .presentPendingReady)) ∧
      c.asserted = true := by
  intro c
  have h : c.Expected := hdelivers.invariant expected_new fun _ _ h he => h.connectionStep he
  refine ⟨List.nodup_iff_count_le_one.1 h.outstanding.nodup, fun i hi n hn heq => ?_, fun n hn _ => ?_,
    h.asserted⟩
  · subst heq
    rcases h.outstanding.waiting n hn with hw | hw <;> rw [hw] at hi <;> simp at hi
  · exact ⟨h.outstanding.index n hn, h.outstanding.waiting n hn⟩

/-- A group of two images. -/
def twoImageGroup (serial : Nat) : ConnectionEvent :=
  .imageGroup {} {
    serial := serial, numImages := 2, width := 640, height := 480, vkColorSpace := 0, vkImageUsage := 5
    vkExternalMemoryType := 1, vkNumViewFormats := 0, fds := 2 }

def presentEvent (serial index id : Nat) : ConnectionEvent :=
  .other (.present {} {
    serial := 100 + id, imageGroupSerial := serial, period := 1, index := index
    vkExternalSemaphoreType := 0, id := id })

/-- The client replaces its group, and takes up its old serial again, while the GPU is busy with an
image; in immediate mode. -/
theorem notifications_expected_regrouped :
    let events := [twoImageGroup 7, presentEvent 7 1 1, twoImageGroup 8, presentEvent 8 3 2, twoImageGroup 7,
      presentEvent 7 1 3]
    let c := events.foldl (connectionStep ⟨true, false⟩) {}
    c.notifications = [⟨7, 1, 0⟩, ⟨8, 3, 0⟩] ∧ c.imageGroupSerial = 7 ∧
      (1 < c.numImages ∧ ((c.images 1).state = .presentQueued ∨
        (c.images 1).state = .presentPendingReady)) ∧ c.asserted = true := by
  intro events c
  have hdelivers : Runs.Along (connectionStep ⟨true, false⟩) Delivers {} events := by decide
  obtain ⟨-, -, hmatching, hasserted⟩ := notifications_expected ⟨true, false⟩ events hdelivers
  refine ⟨by decide, by decide, ?_, hasserted⟩
  exact hmatching ⟨7, 1, 0⟩ (by decide) (by decide)

end Swapchain

end PyroFling
