import PyroFling.Library.Runs
import PyroFling.Proofs.SwapchainSteps

/-!
# Frame completion reports

Targets grow with present ids, so a heartbeat that reports a present leaves no older one behind
among the presents it knows to be done. A present whose GPU work is noticed to be done only after
a later one was reported is not known to it, and is reported after it.
-/

namespace PyroFling
open Runs

/-- The id that a message reports. -/
def HistoryEntry.frameComplete? : HistoryEntry → Option Nat
  | .sent (.frameComplete _ _ id _) => some id
  | _ => none

namespace Swapchain

variable {c c' : Swapchain} {v : VideoEncode}

/-- The ids of the `FrameComplete` messages sent, in order. -/
def frameCompletes (c : Swapchain) : List Nat := c.history.filterMap HistoryEntry.frameComplete?

/-- The presents that can still be reported. -/
def Pending (c : Swapchain) (m : TimestampCompleteMapping) : Prop :=
  m ∈ c.timestampCompleteMappings ∨
    ∃ i, (c.images i).state = .presentQueued ∧ m = (c.images i).mapping

/-- The notification for a queued image comes before anything later is reported. -/
def Prompt (c : Swapchain) : SwapchainEvent → Prop
  | .notified _ n => (c.images n.index).state = .presentQueued →
      ∀ id ∈ c.frameCompletes, id < (c.images n.index).presentId
  | _ => True

structure Ordered (c : Swapchain) : Prop where
  /-- A later present has a later target. -/
  target : ∀ m m', c.Pending m → c.Pending m' → m.completeId ≤ m'.completeId →
    m.timestamp ≤ m'.timestamp
  idBound : ∀ m, c.Pending m → m.completeId ≤ c.lastPresentId
  targetBound : ∀ m, c.Pending m → m.timestamp ≤ c.earliestNextTimestamp
  reported : ∀ id ∈ c.frameCompletes, id ≤ c.lastPresentId
  unreported : ∀ m ∈ c.timestampCompleteMappings, ∀ id ∈ c.frameCompletes, id < m.completeId
  increasing : c.frameCompletes.Pairwise (· < ·)

lemma Ordered.of_quiet (h : c.Ordered) (hpending : ∀ m, c'.Pending m → c.Pending m)
    (hmappings : c'.timestampCompleteMappings ⊆ c.timestampCompleteMappings)
    (hlast : c.lastPresentId ≤ c'.lastPresentId)
    (hearliest : c'.earliestNextTimestamp = c.earliestNextTimestamp)
    (hreports : c'.frameCompletes = c.frameCompletes) : c'.Ordered where
  target m m' hm hm' := h.target m m' (hpending m hm) (hpending m' hm')
  idBound m hm := (h.idBound m (hpending m hm)).trans hlast
  targetBound m hm := hearliest ▸ h.targetBound m (hpending m hm)
  reported id hid := (h.reported id (hreports ▸ hid)).trans hlast
  unreported m hm id hid := h.unreported m (hmappings hm) id (hreports ▸ hid)
  increasing := hreports ▸ h.increasing

lemma frameCompletes_append (hhistory : ∃ es, c'.history = c.history ++ es ∧
    ∀ e ∈ es, HistoryEntry.frameComplete? e = none) : c'.frameCompletes = c.frameCompletes := by
  obtain ⟨es, heq, hes⟩ := hhistory
  rw [frameCompletes, heq, List.filterMap_append, List.filterMap_eq_nil_iff.2 hes, List.append_nil,
    frameCompletes]

lemma Retires.ordered {limit : Nat} (hr : Retires limit c c') (h : c.Ordered) : c'.Ordered := by
  refine h.of_quiet ?_ (hr.schedule.mappings ▸ List.Subset.refl _) hr.schedule.lastPresentId.ge
    hr.schedule.earliest (frameCompletes_append ?_)
  · rintro m (hm | ⟨i, hqueued, rfl⟩)
    · exact .inl (hr.schedule.mappings ▸ hm)
    · have hsame := hr.of_ready (i := i) (by rw [hqueued]; simp)
      exact .inr ⟨i, hsame ▸ hqueued, by rw [hsame]⟩
  · obtain ⟨out, -, hhistory, hout⟩ := hr.traffic
    refine ⟨_, hhistory, fun e he => ?_⟩
    obtain ⟨m, hm, rfl⟩ := List.mem_map.1 he
    obtain ⟨i, hi, -, -⟩ := hout m hm
    cases m <;> first | rfl | cases hi

lemma Ordered.send_answer (h : c.Ordered) {m : ServerMessage} (hm : m.isAnswer = true) :
    (c.send m).2.Ordered ∧ (c.send m).2.frameCompletes = c.frameCompletes := by
  have hreports : (c.send m).2.frameCompletes = c.frameCompletes := by
    rcases send_cases c m with ⟨results, heq⟩ | ⟨results, heq⟩
    · rw [heq]
      rfl
    · rw [heq]
      refine frameCompletes_append ⟨[.sent m], rfl, fun e he => ?_⟩
      rw [List.mem_singleton.1 he]
      cases m <;> first | rfl | cases hm
  refine ⟨?_, hreports⟩
  rcases send_cases c m with ⟨results, heq⟩ | ⟨results, heq⟩ <;> rw [heq] at hreports ⊢ <;>
    exact h.of_quiet (fun _ hm => hm) (List.Subset.refl _) le_rfl rfl hreports

lemma frameCompletes_accept (c : Swapchain) (p : PresentImage) :
    (c.accept p).frameCompletes = c.frameCompletes :=
  frameCompletes_append ⟨[.accepted p.index], rfl, by simp [HistoryEntry.frameComplete?]⟩

/-- A new present has a later target than all before. -/
lemma Ordered.accept (h : c.Ordered) {p : PresentImage} (hid : c.lastPresentId < p.id) :
    (c.accept p).Ordered := by
  have hpending : ∀ m, (c.accept p).Pending m →
      c.Pending m ∨ m = { timestamp := c.computeNextTargetTimestamp, completeId := p.id } := by
    rintro m (hm | ⟨i, hqueued, rfl⟩)
    · exact .inl (.inl hm)
    · by_cases hi : i = p.index
      · exact .inr (by rw [hi, accept_image]; rfl)
      · rw [accept_other c p hi] at hqueued ⊢
        exact .inl (.inr ⟨i, hqueued, rfl⟩)
  have hreports := frameCompletes_accept c p
  have htarget : c.earliestNextTimestamp ≤ c.computeNextTargetTimestamp := le_max_right _ _
  refine ⟨?_, ?_, ?_, ?_, ?_, ?_⟩
  · intro m m' hm hm' hle
    rcases hpending m hm with hm | rfl <;> rcases hpending m' hm' with hm' | rfl
    · exact h.target m m' hm hm' hle
    · exact (h.targetBound m hm).trans htarget
    · have := h.idBound m' hm'
      simp only at hle
      omega
    · exact le_rfl
  · intro m hm
    rcases hpending m hm with hm | rfl
    · exact (h.idBound m hm).trans hid.le
    · exact le_rfl
  · intro m hm
    have hle : c.computeNextTargetTimestamp ≤ c.computeNextTargetTimestamp + p.period := Nat.le_add_right _ _
    rcases hpending m hm with hm | rfl
    · exact ((h.targetBound m hm).trans htarget).trans hle
    · exact hle
  · intro id hmem
    exact (h.reported id (hreports ▸ hmem)).trans hid.le
  · exact fun m hm id hmem => h.unreported m hm id (hreports ▸ hmem)
  · exact hreports ▸ h.increasing

/-- A present that becomes known to be done is later than all that was reported. -/
lemma Settles.ordered {n : Notification} {g : Bool} (hs : Settles n g c c') (h : c.Ordered)
    (hprompt : (c.images n.index).state = .presentQueued →
      ∀ id ∈ c.frameCompletes, id < (c.images n.index).presentId) : c'.Ordered := by
  have hmapping : ∀ m ∈ c'.timestampCompleteMappings, m ∈ c.timestampCompleteMappings ∨
      (c.images n.index).state = .presentQueued ∧ m = (c.images n.index).mapping := by
    intro m hm
    rw [hs.mappings, List.mem_append] at hm
    rcases hm with hm | hm
    · exact .inl hm
    · split at hm
      case isTrue hqueued => exact .inr ⟨hqueued, List.mem_singleton.1 hm⟩
      case isFalse => cases hm
  have hpending : ∀ m, c'.Pending m → c.Pending m := by
    rintro m (hm | ⟨i, hqueued, rfl⟩)
    · rcases hmapping m hm with hm | ⟨hqueued, rfl⟩
      · exact .inl hm
      · exact .inr ⟨_, hqueued, rfl⟩
    · by_cases hi : i = n.index
      · obtain ⟨semaphore, heq⟩ := hs.image
        rw [hi, heq] at hqueued
        cases g <;> cases hqueued
      · exact .inr ⟨i, hs.other i hi ▸ hqueued, by rw [hs.other i hi]⟩
  have hreports : c'.frameCompletes = c.frameCompletes := by
    rw [frameCompletes, hs.history, frameCompletes]
  have hlast := hs.lastPresentId
  have hearliest := hs.earliest
  refine ⟨fun m m' hm hm' => h.target m m' (hpending m hm) (hpending m' hm'), ?_, ?_, ?_, ?_, ?_⟩
  · exact fun m hm => hlast ▸ h.idBound m (hpending m hm)
  · exact fun m hm => hearliest ▸ h.targetBound m (hpending m hm)
  · exact fun id hid => hlast ▸ h.reported id (hreports ▸ hid)
  · intro m hm id hid
    rw [hreports] at hid
    rcases hmapping m hm with hm | ⟨hqueued, rfl⟩
    · exact h.unreported m hm id hid
    · exact hprompt hqueued id hid
  · exact hreports ▸ h.increasing

lemma Ordered.handleAsync (h : c.Ordered) (e : EncoderInput) (n : Notification) (g : Bool)
    (hprompt : (c.images n.index).state = .presentQueued →
      ∀ id ∈ c.frameCompletes, id < (c.images n.index).presentId) :
    (c.handleAsync v e n g).2.Ordered := by
  rcases handleAsync_cases c v e n g with heq | ⟨limit, hr⟩
  · rwa [heq]
  · exact hr.ordered ((settles_settle c v e n g).ordered h hprompt)

lemma Ordered.retireReplacedImages (h : c.Ordered) : c.retireReplacedImages.2.Ordered := by
  obtain ⟨limit, hr⟩ := retires_retireReplacedImages c
  exact hr.ordered h

lemma Ordered.handlePresent (h : c.Ordered) (input : PresentInput) (p : PresentImage) :
    (c.handlePresent v input p).2.Ordered := by
  rcases handlePresent_cases c v input p with ⟨last, m, hlast, hm, heq⟩ | ⟨-, -, hid, -, heq⟩
  · rw [heq]
    have hbefore : Ordered { c with lastPresentId := last } :=
      h.of_quiet (fun _ hm => hm) (List.Subset.refl _) (by rcases hlast with rfl | ⟨hlt, rfl⟩; exacts [le_rfl, hlt.le])
        rfl rfl
    exact (hbefore.send_answer hm).1
  · rw [heq]
    obtain ⟨handled, hhandled, hresult⟩ := submitPresent_cases (c.accept p) v input p
    obtain ⟨hsent, hreports⟩ := (h.accept hid).send_answer (m := .ok p.serial) rfl
    have hordered : handled.Ordered := by
      rcases hhandled with rfl | ⟨-, rfl⟩
      · exact hsent
      · -- Nothing later than the present itself can have been reported.
        refine hsent.handleAsync _ _ _ fun _ id hmem => ?_
        rw [hreports, frameCompletes_accept] at hmem
        rw [(sameSchedule_send _ _).2, accept_image]
        exact (h.reported id hmem).trans_lt hid
    rcases hresult with heq | heq
    · exact heq ▸ hordered
    · rw [heq]
      exact Ordered.retireReplacedImages
        (hordered.of_quiet (fun _ hm => hm) (List.Subset.refl _) le_rfl rfl rfl)

lemma Ordered.tick_dropDue (h : c.Ordered) : c.tick.dropDue.Ordered := by
  refine h.of_quiet ?_ (List.filter_subset_self _) le_rfl rfl rfl
  rintro m (hm | hm)
  · exact .inl (List.mem_of_mem_filter hm)
  · exact .inr hm

/-- A report is later than all before, and than all that is not due yet. -/
lemma Ordered.heartbeat (h : c.Ordered) (timeNs : Nat) : (c.heartbeat timeNs).2.2.Ordered := by
  rcases heartbeat_cases c timeNs with ⟨-, heq⟩ | ⟨-, ⟨results, heq⟩ | ⟨hne, results, hr⟩⟩
  · rw [heq]
    exact h.of_quiet (fun _ hm => hm) (List.Subset.refl _) le_rfl rfl rfl
  · rw [heq]
    exact h.tick_dropDue.of_quiet (fun _ hm => hm) (List.Subset.refl _) le_rfl rfl rfl
  · refine hr.ordered ?_
    obtain ⟨m, hm, hdue, hid⟩ := completeId_mem hne
    have hdrop := h.tick_dropDue
    have hreports : ∀ (d : Swapchain), d.history = c.history ++
        [.sent (c.tick.report timeNs c.tick.completeId)] →
        d.frameCompletes = c.frameCompletes ++ [c.tick.completeId] := by
      intro d hd
      simp [frameCompletes, hd, HistoryEntry.frameComplete?, report]
    refine ⟨hdrop.target, hdrop.idBound, hdrop.targetBound, ?_, ?_, ?_⟩
    · intro id hmem
      rw [hreports _ rfl, List.mem_append, List.mem_singleton] at hmem
      rcases hmem with hmem | rfl
      · exact h.reported id hmem
      · exact hid ▸ h.idBound m (.inl hm)
    · intro m' hm' id hmem
      rw [hreports _ rfl, List.mem_append, List.mem_singleton] at hmem
      obtain ⟨hm', hlater⟩ := List.mem_filter.1 hm'
      rcases hmem with hmem | rfl
      · exact h.unreported m' hm' id hmem
      · by_contra hle
        have htarget := h.target m' m (.inl hm') (.inl hm) (hid ▸ Nat.not_lt.1 hle)
        have hlater' := of_decide_eq_true hlater
        omega
    · rw [hreports _ rfl, List.pairwise_append]
      refine ⟨h.increasing, List.pairwise_singleton _ _, fun id hmem id' hmem' => ?_⟩
      rw [List.mem_singleton.1 hmem', ← hid]
      exact h.unreported m hm id hmem

lemma Ordered.step (h : c.Ordered) {e : SwapchainEvent} (hprompt : c.Prompt e) :
    (c.step v e).Ordered := by
  have hquiet : ∀ d : Swapchain, d.Pending = c.Pending →
      d.timestampCompleteMappings = c.timestampCompleteMappings →
      d.lastPresentId = c.lastPresentId → d.earliestNextTimestamp = c.earliestNextTimestamp →
      d.history = c.history → d.Ordered := by
    intro d hpending hmappings hlast hearliest hhistory
    exact h.of_quiet (fun m hm => hpending ▸ hm) (hmappings ▸ List.Subset.refl _) hlast.ge hearliest
      (by rw [frameCompletes, hhistory, frameCompletes])
  cases e with
  | present input p => exact h.handlePresent input p
  | notified e n =>
    exact (hquiet { c with notifications := c.notifications.erase n } rfl rfl rfl rfl rfl).handleAsync
      e n true hprompt
  | heartbeat timeNs => exact h.heartbeat timeNs
  | heartbeatStalled =>
    exact (hquiet { c.tick with timestampStalledCount := c.timestampStalledCount + 1 }
      rfl rfl rfl rfl rfl).retireReplacedImages
  | socket results => exact hquiet _ rfl rfl rfl rfl rfl

lemma Fresh.ordered (h : c.Fresh) : c.Ordered := by
  have hpending : ∀ m, ¬ c.Pending m := by
    rintro m (hm | ⟨i, hqueued, -⟩)
    · simp [h.mappings] at hm
    · simp [h.owned i] at hqueued
  have hreports : c.frameCompletes = [] := by simp [frameCompletes, h.history]
  exact ⟨fun m _ hm => absurd hm (hpending m), fun m hm => absurd hm (hpending m),
    fun m hm => absurd hm (hpending m), by simp [hreports], by simp [hreports], by simp [hreports]⟩

/-- If every notification that finds its image queued comes before anything later is reported, then
the reports are in order. -/
theorem frameCompletes_increasing (h : c.Fresh) {events : List SwapchainEvent}
    (hlegal : Along (step v) Legal c events) (hprompt : Along (step v) Prompt c events) :
    (events.foldl (step v) c).frameCompletes.Pairwise (· < ·) :=
  ((hlegal.and hprompt).invariant h.ordered fun _ _ hs he => hs.step he.2).increasing

/-- A connection with two images. -/
def twoImages : Swapchain := { numImages := 2, imageGroupSerial := 1 }

lemma twoImages_fresh : twoImages.Fresh := ⟨rfl, rfl, rfl, rfl, rfl, rfl, rfl, fun _ => rfl⟩

def presentOf (index id : Nat) : PresentImage :=
  { serial := id + 1, imageGroupSerial := 1, period := 1, index := index
    vkExternalSemaphoreType := 0, id := id }

instance (c : Swapchain) : (e : SwapchainEvent) → Decidable (c.Prompt e)
  | .notified _ _ => inferInstanceAs (Decidable (_ → _))
  | .present _ _ | .heartbeat _ | .heartbeatStalled | .socket _ => inferInstanceAs (Decidable True)

/-- Two presents whose GPU work ends in the wrong order, but before the second is due. -/
theorem frameCompletes_increasing_swapped :
    (List.foldl (step { immediate := false }) twoImages
      [.present {} (presentOf 0 1), .present {} (presentOf 1 2), .notified {} ⟨1, 1, 0⟩,
        .notified {} ⟨1, 0, 0⟩, .heartbeat 1, .heartbeat 1]).frameCompletes.Pairwise (· < ·) :=
  frameCompletes_increasing twoImages_fresh (by decide) (by decide)

/-- The first of two presents is noticed to be done after the second was reported. -/
theorem late_notification_reported : ¬ ∀ (v : VideoEncode) (c : Swapchain), c.Fresh →
    ∀ events, Along (step v) Legal c events →
      (events.foldl (step v) c).frameCompletes.Pairwise (· < ·) := by
  intro h
  have hreports := h { immediate := false } twoImages twoImages_fresh
    [.present {} (presentOf 0 1), .present {} (presentOf 1 2), .notified {} ⟨1, 1, 0⟩,
      .heartbeat 1, .heartbeat 1, .notified {} ⟨1, 0, 0⟩, .heartbeat 1] (by decide)
  revert hreports
  decide

end Swapchain

end PyroFling
