import PyroFling.Swapchain

/-!
# What the operations of a swapchain do

One specification for each loop and for sending. The main one is `Retires`: whatever part of
`retire_obsolete_images` is run before a send fails, it only gives back images that are ready and
older than the limit, and it only tells the client about those.
-/

namespace PyroFling

/-- The image that a message gives back to the client. -/
def ServerMessage.returned? : ServerMessage → Option Nat
  | .acquireImage _ i _ => some i
  | .retireImage _ i => some i
  | _ => none

/-- The message answers a request. -/
def ServerMessage.isAnswer : ServerMessage → Bool
  | .ok _ | .error _ | .errorProtocol _ | .errorParameter _ => true
  | _ => false

/-- An image that the client gets back. -/
def SwapchainImage.givenBack (image : SwapchainImage) : SwapchainImage :=
  { image with state := .clientOwned, lastReadSemaphore := false }

def SwapchainImage.mapping (image : SwapchainImage) : TimestampCompleteMapping :=
  { timestamp := image.targetTimestamp, completeId := image.presentId }

/-- What can happen to a connection. -/
inductive SwapchainEvent
  | present (input : PresentInput) (p : PresentImage)
  | notified (e : EncoderInput) (n : Notification)
  | heartbeat (timeNs : Nat)
  | heartbeatStalled
  | socket (results : List Bool)

namespace Swapchain

variable {c c' c'' : Swapchain}

/-- A send either fails and does nothing, or appends the message. -/
lemma send_cases (c : Swapchain) (m : ServerMessage) :
    (∃ results, c.send m = (false, { c with sendResults := results })) ∨
      ∃ results, c.send m = (true, { c with
        sendResults := results, asyncFd := c.asyncFd ++ [m], history := c.history ++ [.sent m] }) := by
  unfold send
  split
  · exact .inl ⟨_, rfl⟩
  · exact .inr ⟨_, rfl⟩

lemma send_of_results_nil (h : c.sendResults = []) (m : ServerMessage) :
    c.send m = (true, { c with
      asyncFd := c.asyncFd ++ [m], history := c.history ++ [.sent m] }) := by
  cases c
  simp only at h
  subst h
  rfl

/-- All but the images and the traffic is the same. -/
structure SameSchedule (c c' : Swapchain) : Prop where
  numImages : c'.numImages = c.numImages
  mappings : c'.timestampCompleteMappings = c.timestampCompleteMappings
  serial : c'.imageGroupSerial = c.imageGroupSerial
  completed : c'.timestampCompleted = c.timestampCompleted
  lastPresentId : c'.lastPresentId = c.lastPresentId
  earliest : c'.earliestNextTimestamp = c.earliestNextTimestamp
  notifications : c'.notifications = c.notifications
  asserted : c'.asserted = c.asserted
  encodeCalls : c'.encodeCalls = c.encodeCalls

lemma SameSchedule.refl (c : Swapchain) : SameSchedule c c := ⟨rfl, rfl, rfl, rfl, rfl, rfl, rfl, rfl, rfl⟩

lemma SameSchedule.trans (h : SameSchedule c c') (h' : SameSchedule c' c'') : SameSchedule c c'' :=
  ⟨h'.1.trans h.1, h'.2.trans h.2, h'.3.trans h.3, h'.4.trans h.4, h'.5.trans h.5, h'.6.trans h.6,
    h'.7.trans h.7, h'.8.trans h.8, h'.9.trans h.9⟩

lemma sameSchedule_send (c : Swapchain) (m : ServerMessage) :
    SameSchedule c (c.send m).2 ∧ (c.send m).2.images = c.images := by
  rcases send_cases c m with ⟨results, h⟩ | ⟨results, h⟩ <;> rw [h] <;>
    exact ⟨⟨rfl, rfl, rfl, rfl, rfl, rfl, rfl, rfl, rfl⟩, rfl⟩

/-- The state in which an accepted present is submitted. -/
def accept (c : Swapchain) (p : PresentImage) : Swapchain :=
  ({ c with lastPresentId := p.id } : Swapchain).queuePresent p

lemma accept_image (c : Swapchain) (p : PresentImage) :
    (c.accept p).images p.index = { c.images p.index with
      targetPeriod := p.period, targetTimestamp := c.computeNextTargetTimestamp, presentId := p.id
      state := .presentQueued } := by
  simp [accept, queuePresent, setImage, computeNextTargetTimestamp]

lemma accept_other (c : Swapchain) (p : PresentImage) {i : Nat} (hi : i ≠ p.index) :
    (c.accept p).images i = c.images i := by
  simp [accept, queuePresent, setImage, hi]

/-- Images that are ready and older than `limit` are given back, and the client is told about no
others. -/
structure Retires (limit : Nat) (c c' : Swapchain) : Prop where
  schedule : SameSchedule c c'
  image : ∀ i, c'.images i = c.images i ∨ (c.images i).state = .presentReady ∧
    (c.images i).presentId < limit ∧ c'.images i = (c.images i).givenBack
  traffic : ∃ out : List ServerMessage, c'.asyncFd = c.asyncFd ++ out ∧
    c'.history = c.history ++ out.map .sent ∧ ∀ m ∈ out, ∃ i, m.returned? = some i ∧
      (c.images i).state = .presentReady ∧ (c'.images i).state = .clientOwned

section Retire

variable {limit : Nat}

lemma Retires.refl (limit : Nat) (c : Swapchain) : Retires limit c c :=
  ⟨.refl c, fun _ => .inl rfl, [], by simp, by simp, by simp⟩

lemma Retires.clientOwned (h : Retires limit c c') {i : Nat} (hi : (c.images i).state = .clientOwned) :
    c'.images i = c.images i := by
  rcases h.image i with heq | ⟨hready, -, -⟩
  · exact heq
  · rw [hi] at hready
    cases hready

lemma Retires.of_ready (h : Retires limit c c') {i : Nat} (hi : (c'.images i).state ≠ .clientOwned) :
    c'.images i = c.images i := by
  rcases h.image i with heq | ⟨-, -, heq⟩
  · exact heq
  · rw [heq] at hi
    exact absurd rfl hi

lemma Retires.trans (h : Retires limit c c') (h' : Retires limit c' c'') : Retires limit c c'' := by
  obtain ⟨out, hfd, hhistory, hout⟩ := h.traffic
  obtain ⟨out', hfd', hhistory', hout'⟩ := h'.traffic
  refine ⟨h.schedule.trans h'.schedule, fun i => ?_, out ++ out', ?_, ?_, fun m hm => ?_⟩
  · rcases h.image i with heq | ⟨hready, hid, heq⟩
    · rw [← heq]
      exact h'.image i
    · have hstay := h'.clientOwned (i := i) (by rw [heq]; rfl)
      exact .inr ⟨hready, hid, hstay.trans heq⟩
  · rw [hfd', hfd, List.append_assoc]
  · rw [hhistory', hhistory, List.map_append, List.append_assoc]
  · rcases List.mem_append.1 hm with hm | hm
    · obtain ⟨i, hi, hready, howned⟩ := hout m hm
      exact ⟨i, hi, hready, by rw [h'.clientOwned howned, howned]⟩
    · obtain ⟨i, hi, hready, howned⟩ := hout' m hm
      have hsame := h.of_ready (i := i) (by rw [hready]; simp)
      exact ⟨i, hi, hsame ▸ hready, howned⟩

/-- The state after an image was given back and `out` was sent. -/
def returning (c : Swapchain) (i : Nat) (results : List Bool) (out : List ServerMessage) :
    Swapchain :=
  { c with
    images := Function.update c.images i (c.images i).givenBack
    sendResults := results
    asyncFd := c.asyncFd ++ out
    history := c.history ++ out.map .sent }

/-- The messages that give an image back. -/
def returnMessages (c : Swapchain) (i : Nat) : List ServerMessage :=
  [.acquireImage c.imageGroupSerial i (c.images i).lastReadSemaphore,
    .retireImage c.imageGroupSerial i]

lemma retire_eq (c : Swapchain) (i : Nat) : c.retire i =
    let r := (c.returning i c.sendResults []).send
      (.acquireImage c.imageGroupSerial i (c.images i).lastReadSemaphore)
    if r.1 then r.2.send (.retireImage r.2.imageGroupSerial i) else (false, r.2) := by
  simp only [retire, sendAcquireRetire, setImage, returning, SwapchainImage.givenBack,
    Function.update_idem, Function.update_self, List.append_nil, List.map_nil]
  split
  · rename_i hsend
    rw [hsend, if_neg Bool.false_ne_true]
  · rename_i hsend
    rw [hsend, if_pos rfl]

/-- The image is given back even if the client cannot be told. -/
lemma retire_cases (c : Swapchain) (i : Nat) : ∃ results out, out <+: c.returnMessages i ∧
    (c.retire i).2 = c.returning i results out := by
  rw [retire_eq]
  let acquire : ServerMessage := .acquireImage c.imageGroupSerial i (c.images i).lastReadSemaphore
  rcases send_cases (c.returning i c.sendResults []) acquire with ⟨results, h⟩ | ⟨results, h⟩
  · rw [h]
    exact ⟨results, [], List.nil_prefix, rfl⟩
  · have hsent : (c.returning i c.sendResults []).send acquire =
        (true, c.returning i results [acquire]) := by
      rw [h]
      simp [returning]
    rw [hsent]
    rcases send_cases (c.returning i results [acquire]) (.retireImage c.imageGroupSerial i) with
      ⟨results', h'⟩ | ⟨results', h'⟩
    · exact ⟨results', [acquire], ⟨[.retireImage c.imageGroupSerial i], rfl⟩, congrArg Prod.snd h'⟩
    · refine ⟨results', c.returnMessages i, List.prefix_rfl, (congrArg Prod.snd h').trans ?_⟩
      simp [returning, returnMessages, acquire]

lemma retire_of_results_nil (h : c.sendResults = []) (i : Nat) :
    c.retire i = (true, c.returning i [] (c.returnMessages i)) := by
  have hbase : (c.returning i c.sendResults []).sendResults = [] := h
  rw [retire_eq, send_of_results_nil hbase]
  simp only
  rw [send_of_results_nil (by exact h)]
  simp [returning, returnMessages, h]

lemma retires_retire {i : Nat} (hready : (c.images i).state = .presentReady)
    (hid : (c.images i).presentId < limit) : Retires limit c (c.retire i).2 := by
  obtain ⟨results, out, hout, heq⟩ := retire_cases c i
  rw [heq]
  refine ⟨⟨rfl, rfl, rfl, rfl, rfl, rfl, rfl, rfl, rfl⟩, fun j => ?_, out, rfl, rfl, fun m hm => ?_⟩
  · by_cases hj : j = i
    · subst hj
      exact .inr ⟨hready, hid, Function.update_self ..⟩
    · exact .inl (Function.update_of_ne hj ..)
  · have hreturned : m.returned? = some i := by
      have := hout.subset hm
      simp only [returnMessages, List.mem_cons, List.not_mem_nil, or_false] at this
      rcases this with rfl | rfl <;> rfl
    refine ⟨i, hreturned, hready, ?_⟩
    simp [returning, SwapchainImage.givenBack]

/-- Every image of the loop is passed over or given back. -/
lemma retires_retireLoop (limit : Nat) (is : List Nat) (c : Swapchain) :
    Retires limit c (retireLoop limit is c).2 := by
  induction is generalizing c with
  | nil => exact .refl limit c
  | cons i is ih =>
    rw [retireLoop]
    split
    case isTrue h =>
      have hretire := retires_retire h.1 h.2
      split
      case h_1 c' hc' => rwa [hc'] at hretire
      case h_2 c' hc' =>
        rw [hc'] at hretire
        exact hretire.trans (ih c')
    case isFalse => exact ih c

lemma retires_retireObsoleteImages (c : Swapchain) (limit : Nat) :
    Retires limit c (c.retireObsoleteImages limit).2 := retires_retireLoop limit _ c

/-- The only candidate for retirement in a list does not survive the loop, not even if a send
fails. -/
lemma retireLoop_candidate {is : List Nat} {i : Nat} (hi : i ∈ is)
    (honly : ∀ j ≠ i, (c.images j).state = .presentReady → limit ≤ (c.images j).presentId) :
    ((retireLoop limit is c).2.images i).state = .presentReady →
      limit ≤ ((retireLoop limit is c).2.images i).presentId := by
  induction is with
  | nil => cases hi
  | cons j is ih =>
    rw [retireLoop]
    split
    case isTrue h =>
      obtain rfl : j = i := by
        by_contra hne
        exact absurd h.2 (Nat.not_lt.2 (honly j hne h.1))
      have howned : ((c.retire j).2.images j).state = .clientOwned := by
        obtain ⟨results, out, -, heq⟩ := retire_cases c j
        simp [heq, returning, SwapchainImage.givenBack]
      split
      case h_1 c' hc' =>
        rw [hc'] at howned
        exact fun hready => absurd (hready.symm.trans howned) (by simp)
      case h_2 c' hc' =>
        rw [hc'] at howned
        rw [(retires_retireLoop limit is c').clientOwned howned]
        exact fun hready => absurd (hready.symm.trans howned) (by simp)
    case isFalse h =>
      rcases List.mem_cons.1 hi with rfl | hmem
      · intro hready
        have hsame := (retires_retireLoop limit is c).of_ready (i := i) (by rw [hready]; simp)
        rw [hsame] at hready ⊢
        exact Nat.not_lt.1 fun hlt => h ⟨hready, hlt⟩
      · exact ih hmem

end Retire

/-! ### Choosing an image -/

section Target

variable {ts : Nat}

/-- The image can be scanned out at `ts`. -/
def Candidate (c : Swapchain) (ts i : Nat) : Prop :=
  (c.images i).state = .presentReady ∧ (c.images i).targetTimestamp ≤ ts

lemma targetLoop_spec (c : Swapchain) (ts : Nat) (is : List Nat) (best : Option Nat) (hbest : ∀ t ∈ best, c.Candidate ts t) :
    (∀ t ∈ c.targetLoop ts is best, c.Candidate ts t ∧ (t ∈ is ∨ t ∈ best)) ∧
      ∀ i, (i ∈ is ∧ c.Candidate ts i ∨ i ∈ best) →
        ∃ t ∈ c.targetLoop ts is best, (c.images i).presentId ≤ (c.images t).presentId := by
  induction is generalizing best with
  | nil =>
    simp only [targetLoop, List.not_mem_nil, false_and, false_or]
    exact ⟨fun t ht => ⟨hbest t ht, ht⟩, fun i hi => ⟨i, hi, le_rfl⟩⟩
  | cons j is ih =>
    rw [targetLoop]
    split
    case isTrue h =>
      obtain ⟨hfrom, hmax⟩ := ih (some j) (by rintro t ⟨⟩; exact ⟨h.1, h.2.1⟩)
      refine ⟨fun t ht => ?_, fun i hi => ?_⟩
      · obtain ⟨hcandidate, hmem | ⟨⟨⟩⟩⟩ := hfrom t ht
        · exact ⟨hcandidate, .inl (List.mem_cons_of_mem _ hmem)⟩
        · exact ⟨hcandidate, .inl List.mem_cons_self⟩
      · rcases hi with ⟨hmem, hcandidate⟩ | hi
        · rcases List.mem_cons.1 hmem with rfl | hmem
          · exact hmax i (.inr rfl)
          · exact hmax i (.inl ⟨hmem, hcandidate⟩)
        · -- The best one so far is older than `j`.
          obtain ⟨t, ht, hle⟩ := hmax j (.inr rfl)
          rw [Option.mem_def] at hi
          have hlt : (c.images i).presentId < (c.images j).presentId := by simpa [hi] using h.2.2
          exact ⟨t, ht, hlt.le.trans hle⟩
    case isFalse h =>
      obtain ⟨hfrom, hmax⟩ := ih best hbest
      refine ⟨fun t ht => ?_, fun i hi => ?_⟩
      · obtain ⟨hcandidate, hmem | hmem⟩ := hfrom t ht
        · exact ⟨hcandidate, .inl (List.mem_cons_of_mem _ hmem)⟩
        · exact ⟨hcandidate, .inr hmem⟩
      · rcases hi with ⟨hmem, hcandidate⟩ | hi
        · rcases List.mem_cons.1 hmem with rfl | hmem
          · -- A candidate is passed over only for a newer one.
            cases hb : best with
            | none => exact absurd ⟨hcandidate.1, hcandidate.2, by simp [hb]⟩ h
            | some b =>
              have hle : (c.images i).presentId ≤ (c.images b).presentId := by
                by_contra hlt
                exact h ⟨hcandidate.1, hcandidate.2, by simpa [hb] using hlt⟩
              obtain ⟨t, ht, hle'⟩ := hmax b (.inr hb)
              exact ⟨t, hb ▸ ht, hle.trans hle'⟩
          · exact hmax i (.inl ⟨hmem, hcandidate⟩)
        · exact hmax i (.inr hi)

lemma getTarget_some {t : Nat} (h : c.getTargetImageIndexForTimestamp ts = some t) :
    c.Candidate ts t ∧ t < c.numImages := by
  obtain ⟨hcandidate, hmem⟩ := (targetLoop_spec c ts (List.range c.numImages) none (by simp)).1 t h
  exact ⟨hcandidate, by simpa using hmem⟩

/-- A candidate is passed over only for a newer one. -/
lemma getTarget_newest {i : Nat} (hi : i < c.numImages) (h : c.Candidate ts i) :
    ∃ t, c.getTargetImageIndexForTimestamp ts = some t ∧
      (c.images i).presentId ≤ (c.images t).presentId :=
  (targetLoop_spec c ts (List.range c.numImages) none (by simp)).2 i
    (.inl ⟨List.mem_range.2 hi, h⟩)

/-- The loop over the mappings computes a maximum. -/
lemma completeLoop_spec (now : Nat) (ms : List TimestampCompleteMapping) (id : Nat) :
    let result := ms.foldl (fun id m =>
      if m.timestamp ≤ now ∧ id < m.completeId then m.completeId else id) id
    (result = id ∨ ∃ m ∈ ms, m.timestamp ≤ now ∧ m.completeId = result) ∧ id ≤ result ∧
      ∀ m ∈ ms, m.timestamp ≤ now → m.completeId ≤ result := by
  induction ms generalizing id with
  | nil => simp
  | cons m ms ih =>
    simp only [List.foldl_cons]
    obtain ⟨hfrom, hle, hmax⟩ := ih (if m.timestamp ≤ now ∧ id < m.completeId then m.completeId else id)
    refine ⟨?_, ?_, ?_⟩
    · rcases hfrom with heq | ⟨m', hm', hdue⟩
      · rw [heq]
        split
        case isTrue h => exact .inr ⟨m, List.mem_cons_self, h.1, rfl⟩
        case isFalse => exact .inl rfl
      · exact .inr ⟨m', List.mem_cons_of_mem _ hm', hdue⟩
    · refine le_trans ?_ hle
      split <;> omega
    · intro m' hm' hdue
      rcases List.mem_cons.1 hm' with rfl | hm'
      · refine le_trans ?_ hle
        split <;> omega
      · exact hmax m' hm' hdue

lemma completeId_mem (h : c.completeId ≠ 0) :
    ∃ m ∈ c.timestampCompleteMappings, m.timestamp ≤ c.timestampCompleted ∧
      m.completeId = c.completeId :=
  (completeLoop_spec c.timestampCompleted c.timestampCompleteMappings 0).1.resolve_left h

end Target

/-! ### Operations -/

section Operations

variable {v : VideoEncode}

/-- Either nothing can replace an image yet, or a candidate for the next heartbeat does. -/
lemma retireReplacedImages_cases (c : Swapchain) :
    c.retireReplacedImages = (true, c) ∨ ∃ t, c.Candidate (c.timestampCompleted + 1) t ∧
      t < c.numImages ∧ Retires (c.images t).presentId c c.retireReplacedImages.2 := by
  unfold retireReplacedImages
  split
  case h_1 => exact .inl rfl
  case h_2 t ht =>
    obtain ⟨hcandidate, hlt⟩ := getTarget_some ht
    exact .inr ⟨t, hcandidate, hlt, retires_retireObsoleteImages c _⟩

lemma retires_retireReplacedImages (c : Swapchain) :
    ∃ limit, Retires limit c c.retireReplacedImages.2 := by
  rcases retireReplacedImages_cases c with h | ⟨t, -, -, h⟩
  · exact ⟨0, by rw [h]; exact .refl 0 c⟩
  · exact ⟨_, h⟩

/-- What `handle_async` does before images are retired. -/
structure Settles (n : Notification) (confirmedGpuDone : Bool) (c c' : Swapchain) : Prop where
  other : ∀ i ≠ n.index, c'.images i = c.images i
  image : ∃ semaphore, c'.images n.index = { c.images n.index with
    state := if confirmedGpuDone then .presentReady else .presentPendingReady
    lastReadSemaphore := semaphore }
  mappings : c'.timestampCompleteMappings = c.timestampCompleteMappings ++
    if (c.images n.index).state = .presentQueued then [(c.images n.index).mapping] else []
  numImages : c'.numImages = c.numImages
  serial : c'.imageGroupSerial = c.imageGroupSerial
  completed : c'.timestampCompleted = c.timestampCompleted
  lastPresentId : c'.lastPresentId = c.lastPresentId
  earliest : c'.earliestNextTimestamp = c.earliestNextTimestamp
  sendResults : c'.sendResults = c.sendResults
  asyncFd : c'.asyncFd = c.asyncFd
  notifications : c'.notifications = c.notifications
  asserted : c'.asserted = (c.asserted && decide (n.index < c.numImages) &&
    decide ((c.images n.index).state = .presentQueued ∨
      (c.images n.index).state = .presentPendingReady))
  history : c'.history = c.history
  encodeCalls : c'.encodeCalls = c.encodeCalls ∨ (c.images n.index).state = .presentQueued ∧
    c'.encodeCalls = c.encodeCalls ++ [{
      index := n.index, pts := n.ts, history := c.history
      image := { c.images n.index with
        state := if confirmedGpuDone then .presentReady else .presentPendingReady } }]

lemma settles_settle (c : Swapchain) (v : VideoEncode) (e : EncoderInput) (n : Notification)
    (g : Bool) : Settles n g c (c.settle v e n g) := by
  by_cases hqueued : (c.images n.index).state = .presentQueued
  · by_cases hencode : (v.immediate && e.free) = true
    · constructor <;>
        simp +contextual [settle, check, setImage, pushMapping, notifyAsyncSurface, encodeSurface,
          hqueued, hencode, SwapchainImage.mapping]
    · constructor <;>
        simp +contextual [settle, check, setImage, pushMapping, notifyAsyncSurface,
          hqueued, hencode, SwapchainImage.mapping]
  · constructor <;> simp +contextual [settle, check, setImage, hqueued]

lemma handleAsync_cases (c : Swapchain) (v : VideoEncode) (e : EncoderInput) (n : Notification)
    (g : Bool) : (c.handleAsync v e n g).2 = c ∨
      ∃ limit, Retires limit (c.settle v e n g) (c.handleAsync v e n g).2 := by
  unfold handleAsync
  split
  case isTrue => exact .inl rfl
  case isFalse =>
    split
    case isTrue => exact .inl rfl
    case isFalse =>
      split
      case isTrue => exact .inr ⟨_, retires_retireObsoleteImages _ _⟩
      case isFalse => exact .inr (retires_retireReplacedImages _)

/-- A present that is answered with an error uses up at most its id. -/
lemma handlePresent_cases (c : Swapchain) (v : VideoEncode) (input : PresentInput) (p : PresentImage) :
    (∃ last m, (last = c.lastPresentId ∨ c.lastPresentId < p.id ∧ last = p.id) ∧
        m.isAnswer = true ∧ (c.handlePresent v input p).2 = ({ c with lastPresentId := last }.send m).2) ∨
      p.imageGroupSerial = c.imageGroupSerial ∧ p.index < c.numImages ∧ c.lastPresentId < p.id ∧
        (c.images p.index).state = .clientOwned ∧
        c.handlePresent v input p = (c.accept p).submitPresent v input p := by
  by_cases hserial : p.imageGroupSerial ≠ c.imageGroupSerial
  · have h : c.handlePresent v input p = c.send (.errorParameter p.serial) := if_pos hserial
    exact .inl ⟨_, _, .inl rfl, rfl, congrArg Prod.snd h⟩
  by_cases hindex : c.numImages ≤ p.index
  · have h : c.handlePresent v input p = c.send (.errorProtocol p.serial) :=
      (if_neg hserial).trans (if_pos hindex)
    exact .inl ⟨_, _, .inl rfl, rfl, congrArg Prod.snd h⟩
  by_cases hid : p.id ≤ c.lastPresentId
  · have h : c.handlePresent v input p = c.send (.errorParameter p.serial) :=
      (if_neg hserial).trans ((if_neg hindex).trans (if_pos hid))
    exact .inl ⟨_, _, .inl rfl, rfl, congrArg Prod.snd h⟩
  have hid' := Nat.not_le.1 hid
  by_cases hstate : (c.images p.index).state ≠ .clientOwned
  · have h : c.handlePresent v input p =
        { c with lastPresentId := p.id }.send (.errorProtocol p.serial) := by
      rw [handlePresent, if_neg hserial, if_neg hindex, if_neg hid]
      exact if_pos hstate
    exact .inl ⟨_, _, .inr ⟨hid', rfl⟩, rfl, congrArg Prod.snd h⟩
  by_cases himport : p.vkExternalSemaphoreType ≠ 0 ∧ input.imported = false
  · have h : c.handlePresent v input p =
        (false, ({ c with lastPresentId := p.id }.send (.error p.serial)).2) := by
      rw [handlePresent, if_neg hserial, if_neg hindex, if_neg hid]
      exact (if_neg hstate).trans (if_pos himport)
    exact .inl ⟨p.id, .error p.serial, .inr ⟨hid', rfl⟩, rfl, by rw [h]⟩
  · refine .inr ⟨not_not.1 hserial, Nat.not_le.1 hindex, hid', not_not.1 hstate, ?_⟩
    rw [handlePresent, if_neg hserial, if_neg hindex, if_neg hid]
    exact (if_neg hstate).trans (if_neg himport)

lemma submitPresent_cases (c : Swapchain) (v : VideoEncode) (input : PresentInput) (p : PresentImage) :
    let sent := (c.send (.ok p.serial)).2
    let n : Notification := { serial := c.imageGroupSerial, index := p.index, ts := input.ts }
    ∃ handled, (handled = sent ∨ v.immediate = true ∧ handled = (sent.handleAsync v input.encoder n false).2) ∧
      ((c.submitPresent v input p).2 = handled ∨ (c.submitPresent v input p).2 =
        ({ handled with notifications := handled.notifications ++ [n] }.retireReplacedImages).2) := by
  intro sent n
  rw [submitPresent]
  rcases hsend : c.send (.ok p.serial) with ⟨ok, c'⟩
  obtain rfl : sent = c' := congrArg Prod.snd hsend
  cases ok with
  | false => exact ⟨sent, .inl rfl, .inl rfl⟩
  | true =>
    by_cases hwait : ((c.images p.index).srcCrossDeviceBuffer || !v.immediate) = true
    · refine ⟨sent, .inl rfl, .inr ?_⟩
      simp only [hwait, if_true]
      rfl
    · have himmediate : v.immediate = true := by
        by_contra hv
        exact hwait (by simp [hv])
      refine ⟨_, .inr ⟨himmediate, rfl⟩, ?_⟩
      rcases hasync : sent.handleAsync v input.encoder n false with ⟨ok, c'⟩
      simp only [hwait, Bool.false_eq_true, if_false]
      cases ok with
      | false => exact .inl (by rw [hasync])
      | true => exact .inr (by rw [hasync])

/-- The clock of a heartbeat. -/
def tick (c : Swapchain) : Swapchain := { c with timestampCompleted := c.timestampCompleted + 1 }

/-- The mappings that a heartbeat keeps. -/
def dropDue (c : Swapchain) : Swapchain :=
  { c with timestampCompleteMappings :=
      c.timestampCompleteMappings.filter fun m => c.timestampCompleted < m.timestamp }

/-- The report of a heartbeat. -/
def report (c : Swapchain) (timeNs id : Nat) : ServerMessage :=
  .frameComplete c.imageGroupSerial timeNs id c.timestampCompleted

lemma heartbeat_eq (h : c.numImages ≠ 0) (timeNs : Nat) : c.heartbeat timeNs =
    if c.tick.completeId = 0 then
      (true, c.tick.getTargetImageIndexForTimestamp (c.timestampCompleted + 1), c.tick.dropDue)
    else
      match c.tick.dropDue.send (c.tick.report timeNs c.tick.completeId) with
      | (false, d) => (false, c.tick.getTargetImageIndexForTimestamp (c.timestampCompleted + 1), d)
      | (true, d) => ((d.retireObsoleteImages c.tick.completeId).1,
          c.tick.getTargetImageIndexForTimestamp (c.timestampCompleted + 1),
          (d.retireObsoleteImages c.tick.completeId).2) := if_neg h

/-- A heartbeat drops the mappings that are due. If there are any, it reports the latest of them and
retires what is older. -/
lemma heartbeat_cases (c : Swapchain) (timeNs : Nat) :
    c.numImages = 0 ∧ c.heartbeat timeNs = (true, none, c.tick) ∨
      (c.heartbeat timeNs).2.1 = c.tick.getTargetImageIndexForTimestamp (c.timestampCompleted + 1) ∧
        ((∃ results, (c.heartbeat timeNs).2.2 = { c.tick.dropDue with sendResults := results }) ∨
          c.tick.completeId ≠ 0 ∧ ∃ results, Retires c.tick.completeId { c.tick.dropDue with
              sendResults := results
              asyncFd := c.asyncFd ++ [c.tick.report timeNs c.tick.completeId]
              history := c.history ++ [.sent (c.tick.report timeNs c.tick.completeId)] }
            (c.heartbeat timeNs).2.2) := by
  by_cases hnone : c.numImages = 0
  · exact .inl ⟨hnone, if_pos hnone⟩
  right
  have hheartbeat := heartbeat_eq hnone timeNs
  by_cases hzero : c.tick.completeId = 0
  · rw [hheartbeat, if_pos hzero]
    exact ⟨rfl, .inl ⟨c.sendResults, rfl⟩⟩
  · rw [hheartbeat, if_neg hzero]
    rcases send_cases c.tick.dropDue (c.tick.report timeNs c.tick.completeId) with
      ⟨results, h⟩ | ⟨results, h⟩
    · rw [h]
      exact ⟨rfl, .inl ⟨results, rfl⟩⟩
    · rw [h]
      exact ⟨rfl, .inr ⟨hzero, results, retires_retireObsoleteImages _ _⟩⟩

end Operations

/-! ### Notifications -/

/-- Every notification that is due is for an image that waits for it, and there is only one for
each image. -/
structure Outstanding (c : Swapchain) : Prop where
  index : ∀ n ∈ c.notifications, n.index < c.numImages
  waiting : ∀ n ∈ c.notifications, (c.images n.index).state = .presentQueued ∨
    (c.images n.index).state = .presentPendingReady
  nodup : (c.notifications.map Notification.index).Nodup

/-- With a single image group, the notifications are also for this group. -/
structure Noted (c : Swapchain) : Prop where
  serial : ∀ n ∈ c.notifications, n.serial = c.imageGroupSerial
  index : ∀ n ∈ c.notifications, n.index < c.numImages
  waiting : ∀ n ∈ c.notifications, (c.images n.index).state = .presentQueued ∨
    (c.images n.index).state = .presentPendingReady
  nodup : (c.notifications.map Notification.index).Nodup

section Notifications

variable {v : VideoEncode}

lemma Noted.outstanding (h : c.Noted) : c.Outstanding := ⟨h.index, h.waiting, h.nodup⟩

lemma Outstanding.noted (h : c.Outstanding)
    (hserial : ∀ n ∈ c.notifications, n.serial = c.imageGroupSerial) : c.Noted :=
  ⟨hserial, h.index, h.waiting, h.nodup⟩

/-- The notifications are for the same group as before. -/
lemma Noted.of_outstanding (h : c.Noted) (hserial : c'.imageGroupSerial = c.imageGroupSerial)
    (hnotifications : ∀ n ∈ c'.notifications, n ∈ c.notifications ∨ n.serial = c.imageGroupSerial)
    (h' : c'.Outstanding) : c'.Noted := by
  refine h'.noted fun n hn => ?_
  rw [hserial]
  exact (hnotifications n hn).elim (h.serial n) id

/-- The images that wait for a notification keep their state. -/
lemma Outstanding.of_waiting (h : c.Outstanding) (hnum : c.numImages ≤ c'.numImages)
    (hnotifications : c'.notifications = c.notifications)
    (himages : ∀ n ∈ c.notifications, (c'.images n.index).state = .presentQueued ∨
      (c'.images n.index).state = .presentPendingReady) : c'.Outstanding where
  index n hn := (h.index n (hnotifications ▸ hn)).trans_le hnum
  waiting n hn := himages n (hnotifications ▸ hn)
  nodup := hnotifications ▸ h.nodup

lemma Outstanding.of_images (h : c.Outstanding) (hnum : c'.numImages = c.numImages)
    (hnotifications : c'.notifications = c.notifications) (himages : c'.images = c.images) :
    c'.Outstanding :=
  h.of_waiting hnum.ge hnotifications fun n hn => himages ▸ h.waiting n hn

lemma Outstanding.send (h : c.Outstanding) (m : ServerMessage) : (c.send m).2.Outstanding := by
  obtain ⟨hs, himages⟩ := sameSchedule_send c m
  exact h.of_images hs.numImages hs.notifications himages

lemma Retires.outstanding {limit : Nat} (hr : Retires limit c c') (h : c.Outstanding) :
    c'.Outstanding := by
  refine h.of_waiting hr.schedule.numImages.ge hr.schedule.notifications ?_
  intro n hn
  rcases hr.image n.index with heq | ⟨hready, -, -⟩
  · exact heq ▸ h.waiting n hn
  · rcases h.waiting n hn with hw | hw <;> rw [hready] at hw <;> cases hw

lemma Outstanding.retireReplacedImages (h : c.Outstanding) : c.retireReplacedImages.2.Outstanding := by
  obtain ⟨limit, hr⟩ := retires_retireReplacedImages c
  exact hr.outstanding h

/-- The image of the notification may leave the states in which others wait. -/
lemma Settles.outstanding {n : Notification} {g : Bool} (hs : Settles n g c c') (h : c.Outstanding)
    (hn : g = true → ∀ n' ∈ c.notifications, n'.index ≠ n.index) : c'.Outstanding := by
  refine h.of_waiting hs.numImages.ge hs.notifications fun n' hn' => ?_
  by_cases hi : n'.index = n.index
  · obtain ⟨semaphore, heq⟩ := hs.image
    cases g with
    | true => exact absurd hi (hn rfl n' hn')
    | false => exact .inr (by rw [hi, heq]; rfl)
  · rw [hs.other _ hi]
    exact h.waiting n' hn'

lemma Outstanding.handleAsync (h : c.Outstanding) (e : EncoderInput) (n : Notification) (g : Bool)
    (hn : g = true → ∀ n' ∈ c.notifications, n'.index ≠ n.index) :
    (c.handleAsync v e n g).2.Outstanding := by
  rcases handleAsync_cases c v e n g with heq | ⟨limit, hr⟩
  · rwa [heq]
  · exact hr.outstanding ((settles_settle c v e n g).outstanding h hn)

/-- No notification is due for an image that the client owns. -/
lemma Outstanding.not_mem (h : c.Outstanding) {i : Nat} (hi : (c.images i).state = .clientOwned) :
    ∀ n ∈ c.notifications, n.index ≠ i := by
  rintro n hn rfl
  rcases h.waiting n hn with hw | hw <;> rw [hi] at hw <;> cases hw

lemma Outstanding.accept (h : c.Outstanding) {p : PresentImage}
    (hstate : (c.images p.index).state = .clientOwned) : (c.accept p).Outstanding := by
  refine h.of_waiting le_rfl rfl fun n hn => ?_
  rw [accept_other c p (h.not_mem hstate n hn)]
  exact h.waiting n hn

/-- An image that was handled before the GPU is done still waits. -/
lemma handleAsync_waiting {e : EncoderInput} {n : Notification}
    (h : (c.images n.index).state = .presentQueued) :
    ((c.handleAsync v e n false).2.images n.index).state = .presentQueued ∨
      ((c.handleAsync v e n false).2.images n.index).state = .presentPendingReady := by
  rcases handleAsync_cases c v e n false with heq | ⟨limit, hr⟩
  · rw [heq]
    exact .inl h
  · obtain ⟨semaphore, himage⟩ := (settles_settle c v e n false).image
    have hpending : ((c.settle v e n false).images n.index).state = .presentPendingReady := by
      rw [himage]
      rfl
    rcases hr.image n.index with heq | ⟨hready, -, -⟩
    · exact .inr (heq ▸ hpending)
    · rw [hpending] at hready
      cases hready

lemma notifications_handleAsync (c : Swapchain) (v : VideoEncode) (e : EncoderInput) (n : Notification)
    (g : Bool) : (c.handleAsync v e n g).2.notifications = c.notifications ∧
      (c.handleAsync v e n g).2.imageGroupSerial = c.imageGroupSerial ∧
      (c.handleAsync v e n g).2.numImages = c.numImages := by
  rcases handleAsync_cases c v e n g with heq | ⟨limit, hr⟩
  · rw [heq]
    exact ⟨rfl, rfl, rfl⟩
  · have hs := settles_settle c v e n g
    exact ⟨hr.schedule.notifications.trans hs.notifications, hr.schedule.serial.trans hs.serial,
      hr.schedule.numImages.trans hs.numImages⟩

/-- The state in which the notification of a submitted present may be added. -/
lemma Outstanding.submitted (h : c.Outstanding) (input : PresentInput) {p : PresentImage}
    {handled : Swapchain} (hstate : (c.images p.index).state = .presentQueued)
    (hhandled : handled = (c.send (.ok p.serial)).2 ∨ v.immediate = true ∧
      handled = ((c.send (.ok p.serial)).2.handleAsync v input.encoder
        { serial := c.imageGroupSerial, index := p.index, ts := input.ts } false).2) :
    handled.Outstanding ∧ ((handled.images p.index).state = .presentQueued ∨
        (handled.images p.index).state = .presentPendingReady) ∧
      handled.notifications = c.notifications ∧ handled.imageGroupSerial = c.imageGroupSerial ∧
      handled.numImages = c.numImages := by
  obtain ⟨hs, himages⟩ := sameSchedule_send c (.ok p.serial)
  have hqueued : ((c.send (.ok p.serial)).2.images p.index).state = .presentQueued := by
    rw [himages]
    exact hstate
  have hsent := h.send (.ok p.serial)
  rcases hhandled with rfl | ⟨-, rfl⟩
  · exact ⟨hsent, .inl hqueued, hs.notifications, hs.serial, hs.numImages⟩
  · obtain ⟨hn, hg, hi⟩ := notifications_handleAsync (c.send (.ok p.serial)).2 v input.encoder
      { serial := c.imageGroupSerial, index := p.index, ts := input.ts } false
    exact ⟨hsent.handleAsync _ _ _ (by simp), handleAsync_waiting hqueued,
      hn.trans hs.notifications, hg.trans hs.serial, hi.trans hs.numImages⟩

lemma Outstanding.append (h : c.Outstanding) {n : Notification} (hindex : n.index < c.numImages)
    (hwaiting : (c.images n.index).state = .presentQueued ∨
      (c.images n.index).state = .presentPendingReady)
    (hfresh : ∀ n' ∈ c.notifications, n'.index ≠ n.index) :
    Outstanding { c with notifications := c.notifications ++ [n] } := by
  refine ⟨?_, ?_, ?_⟩
  · intro n' hn'
    rcases List.mem_append.1 hn' with hn' | hn'
    · exact h.index n' hn'
    · rw [List.mem_singleton.1 hn']
      exact hindex
  · intro n' hn'
    rcases List.mem_append.1 hn' with hn' | hn'
    · exact h.waiting n' hn'
    · rw [List.mem_singleton.1 hn']
      exact hwaiting
  · simp only [List.map_append, List.map_cons, List.map_nil]
    refine List.nodup_append.2 ⟨h.nodup, List.nodup_singleton _, ?_⟩
    intro i hi j hj
    obtain ⟨n', hn', rfl⟩ := List.mem_map.1 hi
    rw [List.mem_singleton.1 hj]
    exact hfresh n' hn'

lemma Outstanding.submitPresent (h : c.Outstanding) (input : PresentInput) {p : PresentImage}
    (hindex : p.index < c.numImages) (hstate : (c.images p.index).state = .presentQueued)
    (hfresh : ∀ n ∈ c.notifications, n.index ≠ p.index) :
    (c.submitPresent v input p).2.Outstanding := by
  obtain ⟨handled, hhandled, hresult⟩ := submitPresent_cases c v input p
  obtain ⟨hout, hwaiting, hnotifications, -, hnum⟩ := h.submitted input hstate hhandled
  rcases hresult with heq | heq
  · exact heq ▸ hout
  · rw [heq]
    apply Outstanding.retireReplacedImages
    apply hout.append
    · exact hnum ▸ hindex
    · exact hwaiting
    · exact hnotifications ▸ hfresh

lemma Outstanding.handlePresent (h : c.Outstanding) (input : PresentInput) (p : PresentImage) :
    (c.handlePresent v input p).2.Outstanding := by
  rcases handlePresent_cases c v input p with ⟨last, m, -, -, heq⟩ | ⟨-, hindex, -, hstate, heq⟩
  · rw [heq]
    have hbefore : Outstanding { c with lastPresentId := last } := h.of_images rfl rfl rfl
    exact hbefore.send m
  · rw [heq]
    refine (h.accept hstate).submitPresent input hindex (by rw [accept_image]) ?_
    exact h.not_mem hstate

/-- Reading a notification from the pipe makes its image free of notifications. -/
lemma Outstanding.erase (h : c.Outstanding) {n : Notification} (hn : n ∈ c.notifications) :
    Outstanding { c with notifications := c.notifications.erase n } ∧
      ∀ n' ∈ c.notifications.erase n, n'.index ≠ n.index := by
  have hperm := List.perm_cons_erase hn
  have hnodup : ((n :: c.notifications.erase n).map Notification.index).Nodup :=
    (hperm.map _).nodup_iff.1 h.nodup
  obtain ⟨hfresh, hrest⟩ := List.nodup_cons.1 hnodup
  refine ⟨⟨fun n' hn' => h.index n' (List.mem_of_mem_erase hn'),
    fun n' hn' => h.waiting n' (List.mem_of_mem_erase hn'), hrest⟩, fun n' hn' heq => hfresh ?_⟩
  exact heq ▸ List.mem_map_of_mem hn'

lemma Outstanding.notify (h : c.Outstanding) (e : EncoderInput) {n : Notification}
    (hn : n ∈ c.notifications) : (c.notify v e n).2.Outstanding :=
  (h.erase hn).1.handleAsync e n true fun _ => (h.erase hn).2

lemma Outstanding.heartbeat (h : c.Outstanding) (timeNs : Nat) :
    (c.heartbeat timeNs).2.2.Outstanding := by
  rcases heartbeat_cases c timeNs with ⟨-, heq⟩ | ⟨-, ⟨results, heq⟩ | ⟨-, results, hr⟩⟩
  · rw [heq]
    exact h.of_images rfl rfl rfl
  · rw [heq]
    exact h.of_images rfl rfl rfl
  · exact hr.outstanding (h.of_images rfl rfl rfl)

lemma Outstanding.heartbeatStalled (h : c.Outstanding) : c.heartbeatStalled.2.Outstanding :=
  Outstanding.retireReplacedImages (h.of_images rfl rfl rfl)

/-! ### Notifications of a single group -/

lemma Noted.of_images (h : c.Noted) (hserial : c'.imageGroupSerial = c.imageGroupSerial)
    (hnum : c'.numImages = c.numImages) (hnotifications : c'.notifications = c.notifications)
    (himages : c'.images = c.images) : c'.Noted :=
  h.of_outstanding hserial (fun _ hn => .inl (hnotifications ▸ hn))
    (h.outstanding.of_images hnum hnotifications himages)

lemma Noted.send (h : c.Noted) (m : ServerMessage) : (c.send m).2.Noted := by
  obtain ⟨hs, himages⟩ := sameSchedule_send c m
  exact h.of_images hs.serial hs.numImages hs.notifications himages

lemma Retires.noted {limit : Nat} (hr : Retires limit c c') (h : c.Noted) : c'.Noted :=
  h.of_outstanding hr.schedule.serial (fun _ hn => .inl (hr.schedule.notifications ▸ hn))
    (hr.outstanding h.outstanding)

lemma Noted.retireReplacedImages (h : c.Noted) : c.retireReplacedImages.2.Noted := by
  obtain ⟨limit, hr⟩ := retires_retireReplacedImages c
  exact hr.noted h

lemma Noted.handleAsync (h : c.Noted) (e : EncoderInput) (n : Notification) (g : Bool)
    (hn : g = true → ∀ n' ∈ c.notifications, n'.index ≠ n.index) :
    (c.handleAsync v e n g).2.Noted := by
  obtain ⟨hnotifications, hserial, -⟩ := notifications_handleAsync c v e n g
  exact h.of_outstanding hserial (fun _ hn => .inl (hnotifications ▸ hn))
    (h.outstanding.handleAsync e n g hn)

lemma Noted.not_mem (h : c.Noted) {i : Nat} (hi : (c.images i).state = .clientOwned) :
    ∀ n ∈ c.notifications, n.index ≠ i := h.outstanding.not_mem hi

lemma Noted.accept (h : c.Noted) {p : PresentImage} (hstate : (c.images p.index).state = .clientOwned) :
    (c.accept p).Noted :=
  h.of_outstanding rfl (fun _ hn => .inl hn) (h.outstanding.accept hstate)

lemma Noted.submitPresent (h : c.Noted) (input : PresentInput) {p : PresentImage}
    (hindex : p.index < c.numImages) (hstate : (c.images p.index).state = .presentQueued)
    (hfresh : ∀ n ∈ c.notifications, n.index ≠ p.index) : (c.submitPresent v input p).2.Noted := by
  have hout := h.outstanding.submitPresent (v := v) input hindex hstate hfresh
  obtain ⟨handled, hhandled, hresult⟩ := submitPresent_cases c v input p
  obtain ⟨-, -, hnotifications, hserial, -⟩ := h.outstanding.submitted input hstate hhandled
  rcases hresult with heq | heq
  · rw [heq] at hout ⊢
    exact h.of_outstanding hserial (fun _ hn => .inl (hnotifications ▸ hn)) hout
  · rw [heq] at hout ⊢
    obtain ⟨limit, hr⟩ := retires_retireReplacedImages { handled with
      notifications := handled.notifications ++ [{ serial := c.imageGroupSerial, index := p.index, ts := input.ts }] }
    refine h.of_outstanding (hr.schedule.serial.trans hserial) (fun n hn => ?_) hout
    rw [hr.schedule.notifications] at hn
    rcases List.mem_append.1 hn with hn | hn
    · exact .inl (hnotifications ▸ hn)
    · exact .inr (by rw [List.mem_singleton.1 hn])

lemma Noted.handlePresent (h : c.Noted) (input : PresentInput) (p : PresentImage) :
    (c.handlePresent v input p).2.Noted := by
  rcases handlePresent_cases c v input p with ⟨last, m, -, -, heq⟩ | ⟨-, hindex, -, hstate, heq⟩
  · rw [heq]
    have hbefore : Noted { c with lastPresentId := last } := h.of_images rfl rfl rfl rfl
    exact hbefore.send m
  · rw [heq]
    refine (h.accept hstate).submitPresent input hindex (by rw [accept_image]) ?_
    exact h.not_mem hstate

lemma Noted.notify (h : c.Noted) (e : EncoderInput) {n : Notification} (hn : n ∈ c.notifications) :
    (c.notify v e n).2.Noted := by
  have herased : Noted { c with notifications := c.notifications.erase n } :=
    h.of_outstanding rfl (fun n' hn' => .inl (List.mem_of_mem_erase hn')) (h.outstanding.erase hn).1
  exact herased.handleAsync e n true fun _ => (h.outstanding.erase hn).2

lemma Noted.heartbeat (h : c.Noted) (timeNs : Nat) : (c.heartbeat timeNs).2.2.Noted := by
  rcases heartbeat_cases c timeNs with ⟨-, heq⟩ | ⟨-, ⟨results, heq⟩ | ⟨-, results, hr⟩⟩
  · rw [heq]
    exact h.of_images rfl rfl rfl rfl
  · rw [heq]
    exact h.of_images rfl rfl rfl rfl
  · exact hr.noted (h.of_images rfl rfl rfl rfl)

lemma Noted.heartbeatStalled (h : c.Noted) : c.heartbeatStalled.2.Noted :=
  Noted.retireReplacedImages (h.of_images rfl rfl rfl rfl)

end Notifications

/-! ### Runs -/

/-- The socket of a connection may start to fail at any time. -/
def step (v : VideoEncode) (c : Swapchain) : SwapchainEvent → Swapchain
  | .present input p => (c.handlePresent v input p).2
  | .notified e n => (c.notify v e n).2
  | .heartbeat timeNs => (c.heartbeat timeNs).2.2
  | .heartbeatStalled => c.heartbeatStalled.2
  | .socket results => { c with sendResults := results }

/-- Only presents that the GPU is busy with are notified, in any order. The id of a present is a
64-bit value. -/
def Legal (c : Swapchain) : SwapchainEvent → Prop
  | .present _ p => p.id ≤ uint64Max
  | .notified _ n => n ∈ c.notifications
  | _ => True

instance (c : Swapchain) : (e : SwapchainEvent) → Decidable (c.Legal e)
  | .present _ p => inferInstanceAs (Decidable (p.id ≤ _))
  | .notified _ _ => inferInstanceAs (Decidable (_ ∈ _))
  | .heartbeat _ | .heartbeatStalled | .socket _ => inferInstanceAs (Decidable True)

/-- A connection whose image group was just created. Heartbeats may have gone by before. -/
structure Fresh (c : Swapchain) : Prop where
  mappings : c.timestampCompleteMappings = []
  notifications : c.notifications = []
  lastPresentId : c.lastPresentId = 0
  earliest : c.earliestNextTimestamp = 0
  asserted : c.asserted = true
  history : c.history = []
  encodeCalls : c.encodeCalls = []
  owned : ∀ i, (c.images i).state = .clientOwned

lemma Fresh.noted (h : c.Fresh) : c.Noted := by
  constructor <;> simp [h.notifications]

end Swapchain

end PyroFling
