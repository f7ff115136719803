import PyroFling.Library.Runs
import PyroFling.Proofs.SwapchainSteps

/-!
# The images that are read

`encode_surface` is only called with images that have not been given back since they were presented.
For the images that a heartbeat chooses, this rests on a relation between the images and the list
of the presents that are to be reported: as long as a present is in the list, an image that is at
least as new and at least as early is ready, so that the image that is scanned out is never older
than what the heartbeat reports and retires.
-/

namespace PyroFling
open Runs

/-- The image that is given back. -/
def HistoryEntry.returned? : HistoryEntry → Option Nat
  | .sent m => m.returned?
  | .accepted _ => none

/-- The image has not been given back since its last present. -/
def Kept (history : List HistoryEntry) (i : Nat) : Prop :=
  ∃ before after, history = before ++ .accepted i :: after ∧ ∀ e ∈ after, e.returned? ≠ some i

lemma Kept.append {history entries : List HistoryEntry} {i : Nat} (h : Kept history i)
    (hentries : ∀ e ∈ entries, e.returned? ≠ some i) : Kept (history ++ entries) i := by
  obtain ⟨before, after, rfl, hafter⟩ := h
  refine ⟨before, after ++ entries, by simp, fun e he => ?_⟩
  rcases List.mem_append.1 he with he | he
  · exact hafter e he
  · exact hentries e he

lemma ServerMessage.isAnswer.returned {m : ServerMessage} (h : m.isAnswer = true) :
    m.returned? = none := by
  cases m <;> first | rfl | cases h

/-- The image was ready, or about to be, and still held by the server. -/
def EncodeCall.Safe (call : EncodeCall) : Prop :=
  (call.image.state = .presentPendingReady ∨ call.image.state = .presentReady) ∧
    Kept call.history call.index

namespace Swapchain

variable {c c' : Swapchain} {v : VideoEncode}

/-! ### Images that are not the client's are held -/

structure Held (c : Swapchain) : Prop where
  kept : ∀ i, (c.images i).state ≠ .clientOwned → Kept c.history i
  encoded : ∀ call ∈ c.encodeCalls, call.Safe

/-- Messages are sent that give nothing back. -/
lemma Held.of_history (h : c.Held) (himages : c'.images = c.images)
    (hcalls : c'.encodeCalls = c.encodeCalls) (hhistory : ∃ entries,
      c'.history = c.history ++ entries ∧ ∀ e ∈ entries, HistoryEntry.returned? e = none) :
    c'.Held := by
  obtain ⟨entries, heq, hentries⟩ := hhistory
  refine ⟨fun i hi => ?_, fun call hcall => h.encoded call (hcalls ▸ hcall)⟩
  rw [heq]
  exact (h.kept i (himages ▸ hi)).append fun e he => by simp [hentries e he]

lemma Held.of_quiet (h : c.Held) (himages : c'.images = c.images)
    (hcalls : c'.encodeCalls = c.encodeCalls) (hhistory : c'.history = c.history) : c'.Held :=
  h.of_history himages hcalls ⟨[], by simpa using hhistory, by simp⟩

lemma Held.send (h : c.Held) {m : ServerMessage} (hm : m.returned? = none) : (c.send m).2.Held := by
  rcases send_cases c m with ⟨results, heq⟩ | ⟨results, heq⟩ <;> rw [heq]
  · exact h.of_quiet rfl rfl rfl
  · exact h.of_history rfl rfl ⟨[.sent m], rfl, by simpa [HistoryEntry.returned?] using hm⟩

lemma Retires.held {limit : Nat} (hr : Retires limit c c') (h : c.Held) : c'.Held := by
  obtain ⟨out, -, hhistory, hout⟩ := hr.traffic
  refine ⟨fun i hi => ?_, fun call hcall => h.encoded call (hr.schedule.encodeCalls ▸ hcall)⟩
  have hsame := hr.of_ready hi
  rw [hhistory]
  refine (h.kept i (hsame ▸ hi)).append fun e he => ?_
  obtain ⟨m, hm, rfl⟩ := List.mem_map.1 he
  obtain ⟨j, hj, -, howned⟩ := hout m hm
  rw [HistoryEntry.returned?, hj]
  rintro ⟨⟩
  exact hi howned

lemma Held.retireReplacedImages (h : c.Held) : c.retireReplacedImages.2.Held := by
  obtain ⟨limit, hr⟩ := retires_retireReplacedImages c
  exact hr.held h

lemma Settles.held {n : Notification} {g : Bool} (hs : Settles n g c c') (h : c.Held)
    (hwaiting : (c.images n.index).state ≠ .clientOwned) : c'.Held := by
  refine ⟨fun i hi => ?_, fun call hcall => ?_⟩
  · rw [hs.history]
    by_cases heq : i = n.index
    · exact h.kept i (heq ▸ hwaiting)
    · exact h.kept i (hs.other i heq ▸ hi)
  · rcases hs.encodeCalls with heq | ⟨-, heq⟩
    · exact h.encoded call (heq ▸ hcall)
    · rw [heq, List.mem_append] at hcall
      rcases hcall with hcall | hcall
      · exact h.encoded call hcall
      · rw [List.mem_singleton.1 hcall]
        exact ⟨by cases g <;> simp, h.kept _ hwaiting⟩

lemma Held.handleAsync (h : c.Held) (e : EncoderInput) (n : Notification) (g : Bool)
    (hwaiting : (c.images n.index).state ≠ .clientOwned) : (c.handleAsync v e n g).2.Held := by
  rcases handleAsync_cases c v e n g with heq | ⟨limit, hr⟩
  · rwa [heq]
  · exact hr.held ((settles_settle c v e n g).held h hwaiting)

lemma Held.accept (h : c.Held) (p : PresentImage) : (c.accept p).Held := by
  refine ⟨fun i hi => ?_, h.encoded⟩
  by_cases heq : i = p.index
  · exact ⟨c.history, [], by rw [heq]; rfl, by simp⟩
  · rw [accept_other c p heq] at hi
    exact (h.kept i hi).append (by simp [HistoryEntry.returned?])

lemma Held.handlePresent (h : c.Held) (input : PresentInput) (p : PresentImage) :
    (c.handlePresent v input p).2.Held := by
  rcases handlePresent_cases c v input p with ⟨last, m, -, hm, heq⟩ | ⟨-, -, -, -, heq⟩
  · rw [heq]
    have hbefore : Held { c with lastPresentId := last } := h.of_quiet rfl rfl rfl
    exact hbefore.send (ServerMessage.isAnswer.returned hm)
  · rw [heq]
    obtain ⟨handled, hhandled, hresult⟩ := submitPresent_cases (c.accept p) v input p
    have hsent := (h.accept p).send (m := .ok p.serial) rfl
    have hheld : handled.Held := by
      rcases hhandled with rfl | ⟨-, rfl⟩
      · exact hsent
      · refine hsent.handleAsync _ _ _ ?_
        rw [(sameSchedule_send _ _).2, accept_image]
        simp
    rcases hresult with heq | heq
    · exact heq ▸ hheld
    · rw [heq]
      exact Held.retireReplacedImages (hheld.of_quiet rfl rfl rfl)

lemma Held.notify (h : c.Held) (hnoted : c.Noted) (e : EncoderInput) {n : Notification}
    (hn : n ∈ c.notifications) : (c.notify v e n).2.Held := by
  have herased : Held { c with notifications := c.notifications.erase n } := h.of_quiet rfl rfl rfl
  refine herased.handleAsync e n true ?_
  rcases hnoted.waiting n hn with hw | hw <;> simp [hw]

lemma Held.heartbeat (h : c.Held) (timeNs : Nat) : (c.heartbeat timeNs).2.2.Held := by
  rcases heartbeat_cases c timeNs with ⟨-, heq⟩ | ⟨-, ⟨results, heq⟩ | ⟨-, results, hr⟩⟩
  · rw [heq]
    exact h.of_quiet rfl rfl rfl
  · rw [heq]
    exact h.of_quiet rfl rfl rfl
  · exact hr.held (h.of_history rfl rfl ⟨_, rfl, by simp [HistoryEntry.returned?, report,
      ServerMessage.returned?]⟩)

lemma Held.heartbeatStalled (h : c.Held) : c.heartbeatStalled.2.Held :=
  Held.retireReplacedImages (h.of_quiet rfl rfl rfl)

/-! ### Presents that are to be reported -/

/-- The image is ready, as new as the present, and can be scanned out when it is due. -/
def Covers (c : Swapchain) (m : TimestampCompleteMapping) (i : Nat) : Prop :=
  i < c.numImages ∧ (c.images i).state = .presentReady ∧ m.completeId ≤ (c.images i).presentId ∧
    (c.images i).targetTimestamp ≤ max m.timestamp (c.timestampCompleted + 1)

/-- Every present that is to be reported has a ready image to stand for it. -/
def Covered (c : Swapchain) : Prop := ∀ m ∈ c.timestampCompleteMappings, ∃ i, c.Covers m i

/-- An image stands for the present. -/
def IsCovered (c : Swapchain) (m : TimestampCompleteMapping) : Prop := ∃ i, c.Covers m i

section IsCovered

variable {m : TimestampCompleteMapping}

lemma IsCovered.of_quiet (h : c.IsCovered m) (himages : c'.images = c.images)
    (hnum : c'.numImages = c.numImages) (hcompleted : c.timestampCompleted ≤ c'.timestampCompleted) :
    c'.IsCovered m := by
  obtain ⟨i, hi, hready, hid, htarget⟩ := h
  refine ⟨i, hnum ▸ hi, himages ▸ hready, himages ▸ hid, ?_⟩
  rw [himages]
  omega

lemma IsCovered.send (h : c.IsCovered m) (message : ServerMessage) : (c.send message).2.IsCovered m := by
  obtain ⟨hs, himages⟩ := sameSchedule_send c message
  exact h.of_quiet himages hs.numImages hs.completed.ge

/-- An image that is retired for a newer one is replaced by it. -/
lemma Retires.isCovered {t : Nat} {limit : Nat} (hr : Retires limit c c') (h : c.IsCovered m)
    (ht : t < c.numImages) (hcandidate : c.Candidate (c.timestampCompleted + 1) t)
    (hlimit : limit ≤ (c.images t).presentId) : c'.IsCovered m := by
  have hstays : c'.images t = c.images t := by
    rcases hr.image t with heq | ⟨-, hlt, -⟩
    · exact heq
    · omega
  obtain ⟨i, hi, hready, hid, htarget⟩ := h
  rw [← hr.schedule.numImages] at hi ht
  rw [← hr.schedule.completed] at htarget
  have hcandidate' : (c.images t).targetTimestamp ≤ c'.timestampCompleted + 1 :=
    hr.schedule.completed ▸ hcandidate.2
  rcases hr.image i with heq | ⟨-, hlt, -⟩
  · exact ⟨i, hi, heq ▸ hready, heq ▸ hid, heq ▸ htarget⟩
  · exact ⟨t, ht, hstays ▸ hcandidate.1, by rw [hstays]; omega, by rw [hstays]; omega⟩

lemma IsCovered.retireReplacedImages (h : c.IsCovered m) : c.retireReplacedImages.2.IsCovered m := by
  rcases retireReplacedImages_cases c with heq | ⟨t, hcandidate, ht, hr⟩
  · rwa [heq]
  · exact hr.isCovered h ht hcandidate le_rfl

lemma Settles.isCovered {n : Notification} {g : Bool} (hs : Settles n g c c') (h : c.IsCovered m)
    (hready : (c.images n.index).state ≠ .presentReady) : c'.IsCovered m := by
  obtain ⟨i, hi, hready', hid, htarget⟩ := h
  have hother := hs.other i (by rintro rfl; exact hready hready')
  refine ⟨i, hs.numImages ▸ hi, hother ▸ hready', hother ▸ hid, ?_⟩
  rw [hother, hs.completed]
  exact htarget

/-- In non-immediate mode, `handle_async` retires what is replaced. -/
lemma handleAsync_of_paced (hv : v.immediate = false) (c : Swapchain) (e : EncoderInput) (n : Notification)
    (g : Bool) : (c.handleAsync v e n g).2 = c ∨
      (c.handleAsync v e n g).2 = (c.settle v e n g).retireReplacedImages.2 := by
  unfold Swapchain.handleAsync
  split
  case isTrue => exact .inl rfl
  case isFalse =>
    split
    case isTrue => exact .inl rfl
    case isFalse =>
      refine .inr ?_
      simp only [hv, Bool.false_eq_true, if_false]

lemma IsCovered.notify (h : c.IsCovered m) (hv : v.immediate = false) (hnoted : c.Noted)
    (e : EncoderInput) {n : Notification} (hn : n ∈ c.notifications) :
    (c.notify v e n).2.IsCovered m := by
  have herased : IsCovered { c with notifications := c.notifications.erase n } m :=
    h.of_quiet rfl rfl le_rfl
  have hready : (c.images n.index).state ≠ .presentReady := by
    rcases hnoted.waiting n hn with hw | hw <;> simp [hw]
  rw [Swapchain.notify]
  rcases handleAsync_of_paced hv { c with notifications := c.notifications.erase n } e n true with heq | heq
  · rwa [heq]
  · rw [heq]
    exact ((settles_settle _ v e n true).isCovered herased hready).retireReplacedImages

/-- A present that is accepted in non-immediate mode waits for the GPU. -/
lemma handlePresent_of_paced (hv : v.immediate = false) (c : Swapchain) (input : PresentInput)
    (p : PresentImage) :
    (∃ last message, (c.handlePresent v input p).2 =
        ({ c with lastPresentId := last }.send message).2) ∨
      (c.images p.index).state = .clientOwned ∧
        ((c.handlePresent v input p).2 = ((c.accept p).send (.ok p.serial)).2 ∨
          ∃ ns, (c.handlePresent v input p).2 =
            ({ ((c.accept p).send (.ok p.serial)).2 with notifications := ns }.retireReplacedImages).2) := by
  rcases handlePresent_cases c v input p with ⟨last, m, -, -, heq⟩ | ⟨-, -, -, hstate, heq⟩
  · exact .inl ⟨last, m, heq⟩
  · refine .inr ⟨hstate, ?_⟩
    rw [heq]
    obtain ⟨handled, hhandled, hresult⟩ := submitPresent_cases (c.accept p) v input p
    obtain rfl := hhandled.resolve_right fun himmediate => by simp [hv] at himmediate
    rcases hresult with heq | heq
    · exact .inl heq
    · exact .inr ⟨_, heq⟩

lemma IsCovered.handlePresent (h : c.IsCovered m) (hv : v.immediate = false) (input : PresentInput)
    (p : PresentImage) : (c.handlePresent v input p).2.IsCovered m := by
  rcases handlePresent_of_paced hv c input p with ⟨last, message, heq⟩ | ⟨hstate, hresult⟩
  · rw [heq]
    have hbefore : IsCovered { c with lastPresentId := last } m := h.of_quiet rfl rfl le_rfl
    exact hbefore.send message
  · have haccept : (c.accept p).IsCovered m := by
      obtain ⟨i, hi, hready, hcover⟩ := h
      have hother := accept_other c p (i := i) (by rintro rfl; rw [hstate] at hready; cases hready)
      refine ⟨i, hi, hother ▸ hready, ?_⟩
      rw [hother]
      exact hcover
    have hsent := haccept.send (.ok p.serial)
    rcases hresult with heq | ⟨ns, heq⟩
    · rwa [heq]
    · rw [heq]
      exact IsCovered.retireReplacedImages (hsent.of_quiet rfl rfl le_rfl)

lemma IsCovered.heartbeatStalled (h : c.IsCovered m) : c.heartbeatStalled.2.IsCovered m :=
  IsCovered.retireReplacedImages (h.of_quiet rfl rfl (Nat.le_succ _))

/-- The image that is scanned out is at least as new as what is reported. -/
lemma Covered.scanout (h : c.Covered) (hne : c.tick.completeId ≠ 0) : ∃ t,
    c.tick.getTargetImageIndexForTimestamp (c.timestampCompleted + 1) = some t ∧
      c.tick.completeId ≤ (c.images t).presentId := by
  obtain ⟨m, hm, hdue, hid⟩ := completeId_mem hne
  obtain ⟨i, hi, hready, hnewer, htarget⟩ := h m hm
  have hdue' : m.timestamp ≤ c.timestampCompleted + 1 := hdue
  have hcandidate : c.tick.Candidate (c.timestampCompleted + 1) i :=
    ⟨hready, show (c.images i).targetTimestamp ≤ _ by omega⟩
  obtain ⟨t, ht, hle⟩ := getTarget_newest (c := c.tick) hi hcandidate
  exact ⟨t, ht, hid ▸ hnewer.trans hle⟩

lemma IsCovered.heartbeat (h : c.IsCovered m) (hcovered : c.Covered) (timeNs : Nat) :
    (c.heartbeat timeNs).2.2.IsCovered m := by
  rcases heartbeat_cases c timeNs with ⟨-, heq⟩ | ⟨-, ⟨results, heq⟩ | ⟨hne, results, hr⟩⟩
  · rw [heq]
    exact h.of_quiet rfl rfl (Nat.le_succ _)
  · rw [heq]
    exact h.of_quiet rfl rfl (Nat.le_succ _)
  · obtain ⟨t, ht, hle⟩ := hcovered.scanout hne
    obtain ⟨⟨hready, htarget⟩, hlt⟩ := getTarget_some ht
    refine hr.isCovered (t := t) ?_ hlt ⟨hready, ?_⟩ hle
    · exact h.of_quiet rfl rfl (Nat.le_succ _)
    · exact htarget.trans (Nat.le_succ _)

end IsCovered

lemma Covered.of_quiet (h : c.Covered) (himages : c'.images = c.images)
    (hnum : c'.numImages = c.numImages) (hcompleted : c.timestampCompleted ≤ c'.timestampCompleted)
    (hmappings : c'.timestampCompleteMappings ⊆ c.timestampCompleteMappings) : c'.Covered :=
  fun m hm => IsCovered.of_quiet (h m (hmappings hm)) himages hnum hcompleted

lemma Covered.retireReplacedImages (h : c.Covered) : c.retireReplacedImages.2.Covered := by
  obtain ⟨limit, hr⟩ := retires_retireReplacedImages c
  exact fun m hm => IsCovered.retireReplacedImages (h m (hr.schedule.mappings ▸ hm))

/-- An image that has become ready stands for its own present. -/
lemma Settles.covered {n : Notification} (hs : Settles n true c c') (h : c.Covered)
    (hindex : n.index < c.numImages) (hready : (c.images n.index).state ≠ .presentReady) :
    c'.Covered := by
  obtain ⟨semaphore, himage⟩ := hs.image
  intro m hm
  rw [hs.mappings, List.mem_append] at hm
  rcases hm with hm | hm
  · exact hs.isCovered (h m hm) hready
  · split at hm
    case isTrue =>
      rw [List.mem_singleton.1 hm]
      refine ⟨n.index, hs.numImages ▸ hindex, by rw [himage]; rfl, by rw [himage]; exact le_rfl, ?_⟩
      rw [himage]
      exact le_max_left _ _
    case isFalse => cases hm

lemma Covered.handlePresent (h : c.Covered) (hv : v.immediate = false) (input : PresentInput)
    (p : PresentImage) : (c.handlePresent v input p).2.Covered := by
  have hmappings : (c.handlePresent v input p).2.timestampCompleteMappings =
      c.timestampCompleteMappings := by
    rcases handlePresent_of_paced hv c input p with ⟨last, message, heq⟩ | ⟨-, heq | ⟨ns, heq⟩⟩
    · rw [heq]
      exact (sameSchedule_send _ message).1.mappings
    · rw [heq]
      exact (sameSchedule_send _ _).1.mappings
    · rw [heq]
      obtain ⟨limit, hr⟩ := retires_retireReplacedImages
        { ((c.accept p).send (.ok p.serial)).2 with notifications := ns }
      exact hr.schedule.mappings.trans (sameSchedule_send _ _).1.mappings
  exact fun m hm => IsCovered.handlePresent (h m (hmappings ▸ hm)) hv input p

lemma Covered.notify (h : c.Covered) (hv : v.immediate = false) (hnoted : c.Noted) (e : EncoderInput)
    {n : Notification} (hn : n ∈ c.notifications) : (c.notify v e n).2.Covered := by
  have herased : Covered { c with notifications := c.notifications.erase n } :=
    h.of_quiet rfl rfl le_rfl (List.Subset.refl _)
  have hready : (c.images n.index).state ≠ .presentReady := by
    rcases hnoted.waiting n hn with hw | hw <;> simp [hw]
  rw [Swapchain.notify]
  rcases handleAsync_of_paced hv { c with notifications := c.notifications.erase n } e n true with heq | heq
  · rwa [heq]
  · rw [heq]
    exact ((settles_settle _ v e n true).covered herased (hnoted.index n hn) hready).retireReplacedImages

lemma Covered.heartbeatStalled (h : c.Covered) : c.heartbeatStalled.2.Covered :=
  Covered.retireReplacedImages (h.of_quiet rfl rfl (Nat.le_succ _) (List.Subset.refl _))

lemma Covered.heartbeat (h : c.Covered) (timeNs : Nat) : (c.heartbeat timeNs).2.2.Covered := by
  have hmappings : (c.heartbeat timeNs).2.2.timestampCompleteMappings ⊆ c.timestampCompleteMappings := by
    rcases heartbeat_cases c timeNs with ⟨-, heq⟩ | ⟨-, ⟨results, heq⟩ | ⟨-, results, hr⟩⟩
    · rw [heq]
      exact List.Subset.refl _
    · rw [heq]
      exact List.filter_subset_self _
    · rw [hr.schedule.mappings]
      exact List.filter_subset_self _
  exact fun m hm => IsCovered.heartbeat (h m (hmappings hm)) h timeNs

/-! ### Immediate mode -/

/-- Between two operations of immediate mode nothing is ready, unless its id is the last one. -/
structure Drained (c : Swapchain) : Prop where
  ready : ∀ i, (c.images i).state = .presentReady → uint64Max ≤ (c.images i).presentId
  id : ∀ i, (c.images i).state ≠ .clientOwned → (c.images i).presentId ≤ uint64Max
  mapped : ∀ m ∈ c.timestampCompleteMappings, m.completeId ≤ uint64Max

lemma Drained.of_quiet (h : c.Drained) (himages : c'.images = c.images)
    (hmappings : c'.timestampCompleteMappings ⊆ c.timestampCompleteMappings) : c'.Drained where
  ready i := himages ▸ h.ready i
  id i := himages ▸ h.id i
  mapped m hm := h.mapped m (hmappings hm)

lemma Drained.send (h : c.Drained) (m : ServerMessage) : (c.send m).2.Drained := by
  obtain ⟨hs, himages⟩ := sameSchedule_send c m
  exact h.of_quiet himages (by rw [hs.mappings]; exact List.Subset.refl _)

lemma Retires.drained {limit : Nat} (hr : Retires limit c c') (h : c.Drained) : c'.Drained := by
  refine ⟨fun i hi => ?_, fun i hi => ?_, fun m hm => h.mapped m (hr.schedule.mappings ▸ hm)⟩
  · have hsame := hr.of_ready (i := i) (by rw [hi]; simp)
    rw [hsame] at hi ⊢
    exact h.ready i hi
  · have hsame := hr.of_ready hi
    rw [hsame] at hi ⊢
    exact h.id i hi

lemma Drained.retireReplacedImages (h : c.Drained) : c.retireReplacedImages.2.Drained := by
  obtain ⟨limit, hr⟩ := retires_retireReplacedImages c
  exact hr.drained h

lemma Settles.drained {n : Notification} {g : Bool} (hs : Settles n g c c') (h : c.Drained)
    (hindex : n.index < c.numImages) (hwaiting : (c.images n.index).state ≠ .clientOwned) :
    (c'.retireObsoleteImages uint64Max).2.Drained := by
  have hr := retires_retireObsoleteImages c' uint64Max
  obtain ⟨semaphore, himage⟩ := hs.image
  have honly : ∀ j ≠ n.index, (c'.images j).state = .presentReady →
      uint64Max ≤ (c'.images j).presentId := by
    intro j hj hready
    rw [hs.other j hj] at hready ⊢
    exact h.ready j hready
  refine ⟨fun i hi => ?_, fun i hi => ?_, fun m hm => ?_⟩
  · by_cases heq : i = n.index
    · subst heq
      exact retireLoop_candidate (List.mem_range.2 (hs.numImages ▸ hindex)) honly hi
    · have hsame := hr.of_ready (i := i) (by rw [hi]; simp)
      rw [hsame] at hi ⊢
      exact honly i heq hi
  · rw [hr.of_ready hi]
    by_cases heq : i = n.index
    · rw [heq, himage]
      exact h.id n.index hwaiting
    · rw [hr.of_ready hi] at hi
      rw [hs.other i heq] at hi ⊢
      exact h.id i hi
  · rw [hr.schedule.mappings, hs.mappings, List.mem_append] at hm
    rcases hm with hm | hm
    · exact h.mapped m hm
    · split at hm
      case isTrue => exact List.mem_singleton.1 hm ▸ h.id n.index hwaiting
      case isFalse => cases hm

lemma Drained.handleAsync (h : c.Drained) (hv : v.immediate = true) (e : EncoderInput)
    {n : Notification} (g : Bool) (hindex : n.index < c.numImages)
    (hwaiting : (c.images n.index).state ≠ .clientOwned) : (c.handleAsync v e n g).2.Drained := by
  unfold Swapchain.handleAsync
  split
  case isTrue => exact h
  case isFalse =>
    split
    case isTrue => exact h
    case isFalse =>
      exact (settles_settle c v e n g).drained h hindex hwaiting

lemma Drained.accept (h : c.Drained) {p : PresentImage} (hp : p.id ≤ uint64Max) :
    (c.accept p).Drained := by
  refine ⟨fun i hi => ?_, fun i hi => ?_, h.mapped⟩
  · by_cases heq : i = p.index
    · rw [heq, accept_image] at hi
      cases hi
    · rw [accept_other c p heq] at hi ⊢
      exact h.ready i hi
  · by_cases heq : i = p.index
    · rw [heq, accept_image]
      exact hp
    · rw [accept_other c p heq] at hi ⊢
      exact h.id i hi

lemma Drained.handlePresent (h : c.Drained) (hv : v.immediate = true) (input : PresentInput)
    {p : PresentImage} (hp : p.id ≤ uint64Max) : (c.handlePresent v input p).2.Drained := by
  rcases handlePresent_cases c v input p with ⟨last, m, -, -, heq⟩ | ⟨-, hindex, -, -, heq⟩
  · rw [heq]
    have hbefore : Drained { c with lastPresentId := last } := h.of_quiet rfl (List.Subset.refl _)
    exact hbefore.send m
  · rw [heq]
    have hsent := (h.accept hp).send (.ok p.serial)
    obtain ⟨hs, himages⟩ := sameSchedule_send (c.accept p) (.ok p.serial)
    obtain ⟨handled, hhandled, hresult⟩ := submitPresent_cases (c.accept p) v input p
    have hdrained : handled.Drained := by
      rcases hhandled with rfl | ⟨-, rfl⟩
      · exact hsent
      · refine hsent.handleAsync hv _ _ (hs.numImages ▸ hindex) ?_
        rw [himages, accept_image]
        simp
    rcases hresult with heq | heq
    · exact heq ▸ hdrained
    · rw [heq]
      exact Drained.retireReplacedImages (hdrained.of_quiet rfl (List.Subset.refl _))

lemma Drained.notify (h : c.Drained) (hv : v.immediate = true) (hnoted : c.Noted) (e : EncoderInput)
    {n : Notification} (hn : n ∈ c.notifications) : (c.notify v e n).2.Drained := by
  have herased : Drained { c with notifications := c.notifications.erase n } :=
    h.of_quiet rfl (List.Subset.refl _)
  refine herased.handleAsync hv e true (hnoted.index n hn) ?_
  rcases hnoted.waiting n hn with hw | hw <;> simp [hw]

lemma Drained.heartbeat (h : c.Drained) (timeNs : Nat) : (c.heartbeat timeNs).2.2.Drained := by
  rcases heartbeat_cases c timeNs with ⟨-, heq⟩ | ⟨-, ⟨results, heq⟩ | ⟨-, results, hr⟩⟩
  · rw [heq]
    exact h.of_quiet rfl (List.Subset.refl _)
  · rw [heq]
    exact h.of_quiet rfl (List.filter_subset_self _)
  · exact hr.drained (h.of_quiet rfl (List.filter_subset_self _))

lemma Drained.heartbeatStalled (h : c.Drained) : c.heartbeatStalled.2.Drained :=
  Drained.retireReplacedImages (h.of_quiet rfl (List.Subset.refl _))

/-! ### One connection -/

/-- All that has to be known about a connection. -/
structure Guarded (v : VideoEncode) (c : Swapchain) : Prop where
  noted : c.Noted
  held : c.Held
  covered : v.immediate = false → c.Covered
  drained : v.immediate = true → c.Drained

lemma Fresh.guarded (h : c.Fresh) (v : VideoEncode) : c.Guarded v where
  noted := h.noted
  held := ⟨fun i hi => absurd (h.owned i) hi, by simp [h.encodeCalls]⟩
  covered _ := by simp [Covered, h.mappings]
  drained _ := ⟨by simp [h.owned], by simp [h.owned], by simp [h.mappings]⟩

lemma Guarded.of_quiet (h : c.Guarded v) (hschedule : SameSchedule c c') (himages : c'.images = c.images)
    (hhistory : c'.history = c.history) : c'.Guarded v where
  noted := h.noted.of_images hschedule.serial hschedule.numImages hschedule.notifications himages
  held := h.held.of_quiet himages hschedule.encodeCalls hhistory
  covered hv := (h.covered hv).of_quiet himages hschedule.numImages hschedule.completed.ge
    (by rw [hschedule.mappings]; exact List.Subset.refl _)
  drained hv := (h.drained hv).of_quiet himages (by rw [hschedule.mappings]; exact List.Subset.refl _)

lemma Guarded.step (h : c.Guarded v) {e : SwapchainEvent} (he : c.Legal e) : (c.step v e).Guarded v := by
  obtain ⟨hnoted, hheld, hcovered, hdrained⟩ := h
  cases e with
  | present input p =>
    exact ⟨hnoted.handlePresent input p, hheld.handlePresent input p,
      fun hv => (hcovered hv).handlePresent hv input p, fun hv => (hdrained hv).handlePresent hv input he⟩
  | notified e n =>
    exact ⟨hnoted.notify e he, hheld.notify hnoted e he, fun hv => (hcovered hv).notify hv hnoted e he,
      fun hv => (hdrained hv).notify hv hnoted e he⟩
  | heartbeat timeNs =>
    exact ⟨hnoted.heartbeat timeNs, hheld.heartbeat timeNs, fun hv => (hcovered hv).heartbeat timeNs,
      fun hv => (hdrained hv).heartbeat timeNs⟩
  | heartbeatStalled =>
    exact ⟨hnoted.heartbeatStalled, hheld.heartbeatStalled, fun hv => (hcovered hv).heartbeatStalled,
      fun hv => (hdrained hv).heartbeatStalled⟩
  | socket results =>
    exact Guarded.of_quiet ⟨hnoted, hheld, hcovered, hdrained⟩
      ⟨rfl, rfl, rfl, rfl, rfl, rfl, rfl, rfl, rfl⟩ rfl rfl

lemma encodeSurface_image (c : Swapchain) (i : Nat) (pts : Int) (semaphore : Bool) (j : Nat) :
    ∃ last, (c.encodeSurface i pts semaphore).images j = { c.images j with lastReadSemaphore := last } := by
  by_cases hj : j = i
  · exact ⟨_, by rw [hj]; exact Function.update_self ..⟩
  · exact ⟨_, Function.update_of_ne hj ..⟩

lemma Guarded.encodeSurface (h : c.Guarded v) {i : Nat} (hready : (c.images i).state = .presentReady)
    (pts : Int) (semaphore : Bool) : (c.encodeSurface i pts semaphore).Guarded v := by
  have himage := encodeSurface_image c i pts semaphore
  refine ⟨?_, ⟨fun j hj => ?_, fun call hcall => ?_⟩, fun hv m hm => ?_, fun hv => ⟨fun j hj => ?_,
    fun j hj => ?_, (h.drained hv).mapped⟩⟩
  · have hout : (c.encodeSurface i pts semaphore).Outstanding := by
      refine h.noted.outstanding.of_waiting le_rfl rfl fun n hn => ?_
      obtain ⟨last, heq⟩ := himage n.index
      rw [heq]
      exact h.noted.waiting n hn
    exact h.noted.of_outstanding rfl (fun _ hn => .inl hn) hout
  · obtain ⟨last, heq⟩ := himage j
    rw [heq] at hj
    exact h.held.kept j hj
  · rcases List.mem_append.1 hcall with hcall | hcall
    · exact h.held.encoded call hcall
    · rw [List.mem_singleton.1 hcall]
      exact ⟨.inr hready, h.held.kept i (by rw [hready]; simp)⟩
  · obtain ⟨j, hj, hcovers⟩ := h.covered hv m hm
    obtain ⟨last, heq⟩ := himage j
    exact ⟨j, hj, by rw [heq]; exact hcovers⟩
  · obtain ⟨last, heq⟩ := himage j
    rw [heq] at hj ⊢
    exact (h.drained hv).ready j hj
  · obtain ⟨last, heq⟩ := himage j
    rw [heq] at hj ⊢
    exact (h.drained hv).id j hj

/-- A heartbeat does not retire the image it returns. -/
lemma Guarded.scanout (h : c.Guarded v) {timeNs i : Nat} (hi : (c.heartbeat timeNs).2.1 = some i) :
    ((c.heartbeat timeNs).2.2.images i).state = .presentReady := by
  rcases heartbeat_cases c timeNs with ⟨-, heq⟩ | ⟨hscanout, hresult⟩
  · rw [heq] at hi
    cases hi
  · rw [hscanout] at hi
    obtain ⟨⟨hready, -⟩, -⟩ := getTarget_some hi
    rcases hresult with ⟨results, heq⟩ | ⟨hne, results, hr⟩
    · rw [heq]
      exact hready
    · have hle : c.tick.completeId ≤ (c.images i).presentId := by
        cases hv : v.immediate with
        | false =>
          obtain ⟨t, ht, hle⟩ := (h.covered hv).scanout hne
          rw [hi] at ht
          exact Option.some.inj ht ▸ hle
        | true =>
          obtain ⟨m, hm, -, hid⟩ := completeId_mem hne
          exact hid ▸ ((h.drained hv).mapped m hm).trans ((h.drained hv).ready i hready)
      rcases hr.image i with heq | ⟨-, hlt, -⟩
      · rw [heq]
        exact hready
      · exact absurd hlt (Nat.not_lt.2 hle)

end Swapchain

/-! ### The server -/

/-- What can happen to the server. -/
inductive ServerEvent
  /-- A client has created its image group. -/
  | connect (c : Swapchain)
  | disconnect (k : Nat)
  /-- A present, a notification or a change of the socket of one client. -/
  | client (k : Nat) (e : SwapchainEvent)
  | heartbeat (periodNs : Nat) (e : EncoderInput)
  | heartbeatStalled

def SwapchainEvent.isHeartbeat : SwapchainEvent → Bool
  | .heartbeat _ | .heartbeatStalled => true
  | _ => false

namespace SwapchainServer

variable {s s' : SwapchainServer}

def step (s : SwapchainServer) : ServerEvent → SwapchainServer
  | .connect c => { s with
      chains := Function.update s.chains s.numChains c
      numChains := s.numChains + 1
      handlers := s.handlers ++ [s.numChains] }
  | .disconnect k => { s with handlers := s.handlers.erase k }
  | .client k e => s.setChain k ((s.chains k).step s.videoEncode e)
  | .heartbeat periodNs e => (s.heartbeat periodNs e).2
  | .heartbeatStalled => s.heartbeatStalled.2

/-- Heartbeats come from the server's timer only. -/
def Legal (s : SwapchainServer) : ServerEvent → Prop
  | .connect c => c.Fresh
  | .client k e => k < s.numChains ∧ (s.chains k).Legal e ∧ e.isHeartbeat = false
  | _ => True

structure Guarded (s : SwapchainServer) : Prop where
  chain : ∀ k, (s.chains k).Guarded s.videoEncode
  handlers : s.handlers.Nodup
  existing : ∀ k ∈ s.handlers, k < s.numChains

lemma Guarded.setChain (h : s.Guarded) (k : Nat) {c : Swapchain} (hc : c.Guarded s.videoEncode) :
    (s.setChain k c).Guarded := by
  refine ⟨fun j => ?_, h.handlers, h.existing⟩
  by_cases hj : j = k
  · subst hj
    simpa [SwapchainServer.setChain] using hc
  · simpa [SwapchainServer.setChain, hj] using h.chain j

lemma Guarded.of_cancelled (h : s.Guarded) (ks : List Nat) : Guarded { s with cancelled := ks } :=
  ⟨h.chain, h.handlers, h.existing⟩

lemma Guarded.heartbeatStalledLoop (h : s.Guarded) (ks : List Nat) :
    (heartbeatStalledLoop ks s).2.Guarded := by
  induction ks generalizing s with
  | nil => exact h
  | cons k ks ih =>
    have hnext := h.setChain k ((h.chain k).step (e := .heartbeatStalled) trivial)
    rw [SwapchainServer.heartbeatStalledLoop]
    split
    case h_1 c hc =>
      rw [show (s.chains k).step s.videoEncode .heartbeatStalled = c from congrArg Prod.snd hc] at hnext
      exact hnext.of_cancelled _
    case h_2 c hc =>
      rw [show (s.chains k).step s.videoEncode .heartbeatStalled = c from congrArg Prod.snd hc] at hnext
      exact ih hnext

/-- The surface is one that the server holds. -/
def Holds (s : SwapchainServer) (surface : Option (Nat × Nat)) : Prop :=
  ∀ k i, surface = some (k, i) → ((s.chains k).images i).state = .presentReady

/-- The surfaces found so far are not touched by the heartbeats of the other clients. -/
lemma Guarded.heartbeatLoop (h : s.Guarded) (periodNs : Nat) {ks : List Nat} (hks : ks.Nodup)
    (surface : Option (Nat × Nat)) (hsurface : s.Holds surface)
    (hother : ∀ k i, surface = some (k, i) → k ∉ ks) :
    (heartbeatLoop periodNs ks surface s).2.2.Guarded ∧
      (heartbeatLoop periodNs ks surface s).2.2.Holds (heartbeatLoop periodNs ks surface s).2.1 := by
  induction ks generalizing s surface with
  | nil => exact ⟨h, hsurface⟩
  | cons k ks ih =>
    obtain ⟨hk, hks⟩ := List.nodup_cons.1 hks
    have hchain := (h.chain k).step (e := .heartbeat periodNs) trivial
    have hnext := h.setChain k hchain
    have hstays : ∀ c, (s.setChain k c).Holds surface := by
      intro c j i hji
      have hne : j ≠ k := fun heq => hother j i hji (by simp [heq])
      simpa [SwapchainServer.setChain, hne] using hsurface j i hji
    rw [SwapchainServer.heartbeatLoop]
    split
    case h_1 o c hc =>
      rw [show (s.chains k).step s.videoEncode (.heartbeat periodNs) = c from
        congrArg (fun r => r.2.2) hc] at hnext
      exact ⟨hnext.of_cancelled _, hstays c⟩
    case h_2 i c hc =>
      rw [show (s.chains k).step s.videoEncode (.heartbeat periodNs) = c from
        congrArg (fun r => r.2.2) hc] at hnext
      refine ih hnext hks _ ?_ ?_
      · rintro j i' ⟨⟩
        have hready := (h.chain k).scanout (congrArg (fun r => r.2.1) hc)
        rw [hc] at hready
        simpa [SwapchainServer.setChain] using hready
      · rintro j i' ⟨⟩
        exact hk
    case h_3 c hc =>
      rw [show (s.chains k).step s.videoEncode (.heartbeat periodNs) = c from
        congrArg (fun r => r.2.2) hc] at hnext
      exact ih hnext hks _ (hstays c) fun j i hji hj => hother j i hji (List.mem_cons_of_mem _ hj)

lemma Guarded.heartbeat (h : s.Guarded) (periodNs : Nat) (e : EncoderInput) :
    (s.heartbeat periodNs e).2.Guarded := by
  unfold SwapchainServer.heartbeat
  split
  case isTrue => exact h.heartbeatStalledLoop _
  case isFalse =>
    obtain ⟨hguarded, hholds⟩ := h.heartbeatLoop periodNs h.handlers none (by simp [Holds]) (by simp)
    split
    case h_1 o s' hs' =>
      rw [hs'] at hguarded
      exact hguarded
    case h_2 surface s' hs' =>
      rw [hs'] at hguarded hholds
      split
      case isTrue =>
        cases surface with
        | none => exact hguarded
        | some surface =>
          exact hguarded.setChain _ ((hguarded.chain _).encodeSurface (hholds _ _ rfl) _ _)
      case isFalse => exact hguarded

lemma Guarded.step (h : s.Guarded) {e : ServerEvent} (he : s.Legal e) : (s.step e).Guarded := by
  cases e with
  | connect c =>
    have hnew : s.numChains ∉ s.handlers := fun hmem => Nat.lt_irrefl _ (h.existing _ hmem)
    refine ⟨fun k => ?_, ?_, fun k hk => ?_⟩
    · by_cases hk : k = s.numChains
      · simpa [SwapchainServer.step, hk] using Swapchain.Fresh.guarded he s.videoEncode
      · simpa [SwapchainServer.step, hk] using h.chain k
    · exact (List.perm_append_singleton _ _).nodup_iff.2 (List.nodup_cons.2 ⟨hnew, h.handlers⟩)
    · rcases List.mem_append.1 hk with hk | hk
      · exact (h.existing k hk).trans (Nat.lt_succ_self _)
      · rw [List.mem_singleton.1 hk]
        exact Nat.lt_succ_self _
  | disconnect k =>
    exact ⟨h.chain, h.handlers.erase _, fun j hj => h.existing j (List.mem_of_mem_erase hj)⟩
  | client k e => exact h.setChain k ((h.chain k).step he.2.1)
  | heartbeat periodNs e => exact h.heartbeat periodNs e
  | heartbeatStalled => exact h.heartbeatStalledLoop _

lemma guarded_empty (v : VideoEncode) : Guarded { videoEncode := v } := by
  refine ⟨fun k => Swapchain.Fresh.guarded ⟨rfl, rfl, rfl, rfl, rfl, rfl, rfl, fun _ => rfl⟩ v,
    List.nodup_nil, by simp⟩

/-- In every run of the server, in both modes, whatever was handed to the encoder was ready, or about
to be, and had not been given back since it was presented. The same holds for what the next
heartbeat of any client returns, after that heartbeat. -/
theorem encoded_images_kept (v : VideoEncode) {events : List ServerEvent}
    (hlegal : Along step Legal { videoEncode := v } events) :
    let s := events.foldl step { videoEncode := v }
    (∀ k, ∀ call ∈ (s.chains k).encodeCalls, call.Safe) ∧
      ∀ k timeNs i, ((s.chains k).heartbeat timeNs).2.1 = some i →
        (((s.chains k).heartbeat timeNs).2.2.images i).state = .presentReady ∧
          Kept ((s.chains k).heartbeat timeNs).2.2.history i := by
  intro s
  have hguarded : s.Guarded := hlegal.invariant (guarded_empty v) fun _ _ hs he => hs.step he
  refine ⟨fun k call hcall => (hguarded.chain k).held.encoded call hcall, fun k timeNs i hi => ?_⟩
  have hready := (hguarded.chain k).scanout hi
  refine ⟨hready, ((hguarded.chain k).held.heartbeat timeNs).kept i ?_⟩
  rw [hready]
  simp

/-- Two clients; the later one's image is encoded. -/
theorem encoded_images_kept_two_clients :
    let s := List.foldl step { videoEncode := { immediate := false } }
      [.connect { numImages := 2, imageGroupSerial := 1 }, .connect { numImages := 1, imageGroupSerial := 1 },
        .client 1 (.present {} ⟨2, 1, 1, 0, 0, 1⟩), .client 1 (.notified {} ⟨1, 0, 0⟩), .heartbeat 1 {}]
    ((s.chains 1).encodeCalls.map EncodeCall.index = [0]) ∧
      ∀ k, ∀ call ∈ (s.chains k).encodeCalls, call.Safe := by
  refine ⟨by decide, (encoded_images_kept _ ?_).1⟩
  exact ⟨⟨rfl, rfl, rfl, rfl, rfl, rfl, rfl, fun _ => rfl⟩,
    ⟨rfl, rfl, rfl, rfl, rfl, rfl, rfl, fun _ => rfl⟩, ⟨by decide, by decide, rfl⟩,
    ⟨by decide, by decide, rfl⟩, trivial, trivial⟩

end SwapchainServer

end PyroFling
