import PyroFling.Proofs.NotificationSafety

/-!
# Requests that are answered with an error

A client learns from an error that its request had no effect. `handle_present` has already noted
the id of a present when it finds that the client does not own the image, and
`handle_swapchain_create` takes over the serial and the color space before it looks at the rest of
the request; a group that is created is added to the images that are there. This file says which
requests leave a connection as an answer promises it, along whole runs of a connection.
-/

namespace PyroFling
namespace Swapchain

variable {c c' : Swapchain} {v : VideoEncode}

/-! ### Answers -/

/-- Whether the next message reaches the socket. -/
def canSend (c : Swapchain) : Bool := c.sendResults.head? ≠ some false

/-- The same connection, but for the traffic on its socket. -/
def SameState (c c' : Swapchain) : Prop :=
  c' = { c with sendResults := c'.sendResults, asyncFd := c'.asyncFd, history := c'.history }

/-- All that the client has been sent is the message `m`. -/
def Answered (c c' : Swapchain) (m : ServerMessage) : Prop := c'.history = c.history ++ [.sent m]

/-- A present of image `index` has been accepted. -/
def Accepted (c c' : Swapchain) (index : Nat) : Prop :=
  ∃ rest, c'.history = c.history ++ .accepted index :: rest

lemma send_sameState (c : Swapchain) (m : ServerMessage) : SameState c (c.send m).2 := by
  rcases send_cases c m with ⟨results, h⟩ | ⟨results, h⟩ <;> rw [h] <;> rfl

lemma send_answered (h : c.canSend = true) (m : ServerMessage) : Answered c (c.send m).2 m := by
  unfold send
  split
  · rename_i hfalse
    simp [canSend, hfalse] at h
  · rfl

lemma answered_send {m m' : ServerMessage} (h : Answered c (c.send m).2 m') :
    c.canSend = true ∧ m' = m := by
  unfold send at h
  split at h
  · simp [Answered] at h
  · rename_i hresults
    refine ⟨?_, ?_⟩
    · cases hhead : c.sendResults with
      | nil => simp [canSend, hhead]
      | cons ok rest =>
        cases ok with
        | false => exact absurd hhead (hresults rest)
        | true => simp [canSend, hhead]
    · simpa [Answered, eq_comm] using h

/-! ### Presents -/

/-- The present is for an image of the current group, with an id that has not been used. -/
def Fits (c : Swapchain) (p : PresentImage) : Prop :=
  p.imageGroupSerial = c.imageGroupSerial ∧ p.index < c.numImages ∧ c.lastPresentId < p.id

instance (c : Swapchain) (p : PresentImage) : Decidable (c.Fits p) :=
  inferInstanceAs (Decidable (_ ∧ _))

lemma handlePresent_outcome (c : Swapchain) (v : VideoEncode) (input : PresentInput) (p : PresentImage) :
    (¬c.Fits p ∧ ∃ m, (m = .errorParameter p.serial ∨ m = .errorProtocol p.serial) ∧
      c.handlePresent v input p = c.send m) ∨
    (c.Fits p ∧ (c.images p.index).state ≠ .clientOwned ∧ c.handlePresent v input p =
      { c with lastPresentId := p.id }.send (.errorProtocol p.serial)) ∨
    (c.Fits p ∧ (c.images p.index).state = .clientOwned ∧ input.imported = false ∧
      c.handlePresent v input p = (false, ({ c with lastPresentId := p.id }.send (.error p.serial)).2)) ∨
    (c.Fits p ∧ (c.images p.index).state = .clientOwned ∧
      c.handlePresent v input p = (c.accept p).submitPresent v input p) := by
  by_cases hserial : p.imageGroupSerial ≠ c.imageGroupSerial
  · exact .inl ⟨fun h => hserial h.1, _, .inl rfl, if_pos hserial⟩
  by_cases hindex : c.numImages ≤ p.index
  · exact .inl ⟨fun h => absurd h.2.1 (Nat.not_lt.2 hindex), _, .inr rfl,
      (if_neg hserial).trans (if_pos hindex)⟩
  by_cases hid : p.id ≤ c.lastPresentId
  · exact .inl ⟨fun h => absurd h.2.2 (Nat.not_lt.2 hid), _, .inl rfl,
      (if_neg hserial).trans ((if_neg hindex).trans (if_pos hid))⟩
  have hfits : c.Fits p := ⟨not_not.1 hserial, Nat.not_le.1 hindex, Nat.not_le.1 hid⟩
  right
  by_cases hstate : (c.images p.index).state ≠ .clientOwned
  · refine .inl ⟨hfits, hstate, ?_⟩
    rw [handlePresent, if_neg hserial, if_neg hindex, if_neg hid]
    exact if_pos hstate
  right
  by_cases himport : p.vkExternalSemaphoreType ≠ 0 ∧ input.imported = false
  · refine .inl ⟨hfits, not_not.1 hstate, himport.2, ?_⟩
    rw [handlePresent, if_neg hserial, if_neg hindex, if_neg hid]
    exact (if_neg hstate).trans (if_pos himport)
  · refine .inr ⟨hfits, not_not.1 hstate, ?_⟩
    rw [handlePresent, if_neg hserial, if_neg hindex, if_neg hid]
    exact (if_neg hstate).trans (if_neg himport)

lemma history_send (c : Swapchain) (m : ServerMessage) : c.history <+: (c.send m).2.history := by
  rcases send_cases c m with ⟨results, h⟩ | ⟨results, h⟩
  · rw [h]
  · rw [h]
    exact List.prefix_append _ _

lemma Retires.history {limit : Nat} (h : Retires limit c c') : c.history <+: c'.history := by
  obtain ⟨out, -, hhistory, -⟩ := h.traffic
  rw [hhistory]
  exact List.prefix_append _ _

lemma history_submitPresent (c : Swapchain) (v : VideoEncode) (input : PresentInput)
    (p : PresentImage) : c.history <+: (c.submitPresent v input p).2.history := by
  obtain ⟨handled, hhandled, hresult⟩ := submitPresent_cases c v input p
  have hprefix : c.history <+: handled.history := by
    rcases hhandled with rfl | ⟨-, rfl⟩
    · exact history_send c _
    · apply (history_send c _).trans
      rcases handleAsync_cases (c.send (.ok p.serial)).2 v input.encoder
        { serial := c.imageGroupSerial, index := p.index, ts := input.ts } false with heq | ⟨limit, hr⟩
      · rw [heq]
      · rw [← (settles_settle (c.send (.ok p.serial)).2 v input.encoder _ false).history]
        exact hr.history
  rcases hresult with heq | heq
  · rw [heq]
    exact hprefix
  · rw [heq]
    obtain ⟨limit, hr⟩ := retires_retireReplacedImages { handled with
      notifications := handled.notifications ++ [{
        serial := c.imageGroupSerial, index := p.index, ts := input.ts }] }
    exact hprefix.trans hr.history

/-- An accepted present is in the history, whatever happens after it. -/
lemma accepted_accept (c : Swapchain) (v : VideoEncode) (input : PresentInput) (p : PresentImage) :
    Accepted c ((c.accept p).submitPresent v input p).2 p.index := by
  obtain ⟨rest, hrest⟩ := history_submitPresent (c.accept p) v input p
  refine ⟨rest, ?_⟩
  rw [← hrest]
  simp [accept, queuePresent, setImage]

/-- A present that is accepted is not the one that is answered. -/
lemma Accepted.not_answered {index : Nat} {m : ServerMessage} (h : Accepted c c' index) :
    ¬Answered c c' m := by
  obtain ⟨rest, hrest⟩ := h
  simp [Answered, hrest]

/-- A present is accepted if and only if it fits and the client owns the image. -/
lemma accepted_iff (input : PresentInput) (himported : input.imported = true) (p : PresentImage) :
    Accepted c (c.handlePresent v input p).2 p.index ↔
      c.Fits p ∧ (c.images p.index).state = .clientOwned := by
  have hsend : ∀ (d : Swapchain) m, d.history = c.history → ¬Accepted c (d.send m).2 p.index := by
    rintro d m hd ⟨rest, hrest⟩
    rcases send_cases d m with ⟨results, h⟩ | ⟨results, h⟩ <;> rw [h] at hrest <;> simp [hd] at hrest
  rcases handlePresent_outcome c v input p with
    ⟨hfits, m, -, h⟩ | ⟨-, hstate, h⟩ | ⟨-, -, hfalse, -⟩ | ⟨hfits, howned, h⟩
  · rw [h]
    exact iff_of_false (hsend c m rfl) fun hall => hfits hall.1
  · rw [h]
    exact iff_of_false (hsend _ _ rfl) fun hall => hstate hall.2
  · rw [himported] at hfalse
    cases hfalse
  · rw [h]
    exact iff_of_true (accepted_accept c v input p) ⟨hfits, howned⟩

/-- The server answers a present with `ErrorParameter` or `ErrorProtocol`. -/
def Rejected (c c' : Swapchain) (p : PresentImage) : Prop :=
  Answered c c' (.errorParameter p.serial) ∨ Answered c c' (.errorProtocol p.serial)

/-- A rejected present changes nothing. In particular its id, if it is new, can be used for any image of
the group as soon as the client owns the image. -/
structure Harmless (v : VideoEncode) (c : Swapchain) (input : PresentInput) (p : PresentImage) :
    Prop where
  same : Rejected c (c.handlePresent v input p).2 p → SameState c (c.handlePresent v input p).2
  again : Rejected c (c.handlePresent v input p).2 p → ∀ p', p'.id = p.id → c.Fits p' →
    ∀ images input', (images p'.index).state = .clientOwned → input'.imported = true →
      let d := { (c.handlePresent v input p).2 with images := images }
      Accepted d (d.handlePresent v input' p').2 p'.index

/-- The present fits, but the client does not own the image, and can be told so. -/
def TooEarly (c : Swapchain) (p : PresentImage) : Prop :=
  c.Fits p ∧ (c.images p.index).state ≠ .clientOwned ∧ c.canSend = true

instance (c : Swapchain) (p : PresentImage) : Decidable (c.TooEarly p) :=
  inferInstanceAs (Decidable (_ ∧ _))

lemma not_harmless (input : PresentInput) {p : PresentImage} (h : c.TooEarly p) :
    ¬Harmless v c input p := by
  obtain ⟨hfits, hstate, hsend⟩ := h
  intro hharmless
  rcases handlePresent_outcome c v input p with
    ⟨hnot, -⟩ | ⟨-, -, heq⟩ | ⟨-, howned, -⟩ | ⟨-, howned, -⟩
  · exact hnot hfits
  · have hrejected : Rejected c (c.handlePresent v input p).2 p := by
      rw [heq]
      exact .inr (send_answered (c := { c with lastPresentId := p.id }) hsend _)
    have hlast := congrArg Swapchain.lastPresentId (hharmless.same hrejected)
    rw [heq, (sameSchedule_send _ _).1.lastPresentId] at hlast
    exact absurd hlast hfits.2.2.ne'
  · exact hstate howned
  · exact hstate howned

lemma harmless_of_not_tooEarly (input : PresentInput) {p : PresentImage} (h : ¬c.TooEarly p) :
    Harmless v c input p := by
  have hsame : Rejected c (c.handlePresent v input p).2 p → SameState c (c.handlePresent v input p).2 := by
    intro hrejected
    rcases handlePresent_outcome c v input p with
      ⟨-, m, -, heq⟩ | ⟨hfits, hstate, heq⟩ | ⟨-, -, -, heq⟩ | ⟨-, -, heq⟩
    · rw [heq]
      exact send_sameState c m
    · rw [heq] at hrejected
      have hsend : c.canSend = true := by
        rcases hrejected with hr | hr
        · exact (answered_send (c := { c with lastPresentId := p.id }) hr).1
        · exact (answered_send (c := { c with lastPresentId := p.id }) hr).1
      exact absurd ⟨hfits, hstate, hsend⟩ h
    · rw [heq] at hrejected
      rcases hrejected with hr | hr
      · exact nomatch (answered_send (c := { c with lastPresentId := p.id }) hr).2
      · exact nomatch (answered_send (c := { c with lastPresentId := p.id }) hr).2
    · rw [heq] at hrejected
      rcases hrejected with hr | hr
      · exact absurd hr (accepted_accept c v input p).not_answered
      · exact absurd hr (accepted_accept c v input p).not_answered
  refine ⟨hsame, ?_⟩
  intro hrejected p' _ hfits images input' howned himported d
  rw [accepted_iff input' himported]
  have hstate := hsame hrejected
  refine ⟨⟨?_, ?_, ?_⟩, howned⟩
  · exact hfits.1.trans (congrArg Swapchain.imageGroupSerial hstate).symm
  · exact hfits.2.1.trans_eq (congrArg Swapchain.numImages hstate).symm
  · exact (congrArg Swapchain.lastPresentId hstate).trans_lt hfits.2.2

/-- Of the steps of a connection, what a rejected present does. -/
def HarmlessStep (v : VideoEncode) (c : Swapchain) : ConnectionEvent → Prop
  | .other (.present input p) => Harmless v c input p
  | _ => True

/-- No present comes before its image is given back. -/
def Timely (c : Swapchain) : ConnectionEvent → Prop
  | .other (.present _ p) => ¬c.TooEarly p
  | _ => True

/-- Along every run of a connection, the presents that are rejected change nothing if and only if none
of them is for an image that the client does not own. -/
theorem rejected_presents_harmless_iff (v : VideoEncode) (c : Swapchain) (events : List ConnectionEvent) :
    Runs.Along (connectionStep v) (HarmlessStep v) c events ↔
      Runs.Along (connectionStep v) Timely c events := by
  apply Runs.Along.congr (P := fun _ _ => True) (I := fun _ => True)
  · exact Runs.Along.of_forall fun _ _ => trivial
  · trivial
  · exact fun _ _ _ _ => trivial
  · intro c e _ _
    cases e with
    | imageGroup input g => exact Iff.rfl
    | other e =>
      cases e with
      | present input p =>
        constructor
        · exact fun hharmless hearly => not_harmless input hearly hharmless
        · exact fun htimely => harmless_of_not_tooEarly input htimely
      | notified e n => exact Iff.rfl
      | heartbeat timeNs => exact Iff.rfl
      | heartbeatStalled => exact Iff.rfl
      | socket results => exact Iff.rfl

/-- The client presents an image twice: the second present is rejected, and yet its id is used up. -/
theorem rejected_present_uses_id :
    ¬Runs.Along (connectionStep ⟨false, false⟩) (HarmlessStep ⟨false, false⟩) {}
      [twoImageGroup 7, presentEvent 7 1 1, presentEvent 7 1 2] := by
  rintro ⟨-, -, h, -⟩
  exact not_harmless _ (by decide) h

/-! ### Image groups -/

/-- The checks of `handle_swapchain_create` up to the one of the color space. -/
def FormatAdmitted (input : ImageGroupInput) (g : ImageGroup) : Prop :=
  g.numImages = g.fds ∧ g.vkImageUsage &&& imageUsageSampledBit ≠ 0 ∧
    g.vkImageUsage &&& imageUsageTransferSrcBit ≠ 0 ∧
    g.vkExternalMemoryType = input.opaqueMemoryHandleType ∧ g.vkColorSpace ∈ colorSpaces

/-- All the checks. -/
def Admitted (input : ImageGroupInput) (g : ImageGroup) : Prop :=
  FormatAdmitted input g ∧ ¬(g.vkNumViewFormats = 0 ∧ input.formatIsSrgb = true) ∧
    ∃ width height, input.maxExtent = some (width, height) ∧
      ¬(width < g.width ∨ g.width = 0 ∨ height < g.height ∨ g.height = 0)

/-- What a request has taken over when it is refused. -/
def takeOver (c : Swapchain) (g : ImageGroup) (colorSpace : Nat) : Swapchain :=
  { c with imageGroupSerial := g.serial, colorSpace := colorSpace }

lemma handleSwapchainCreate_outcome (c : Swapchain) (input : ImageGroupInput) (g : ImageGroup) :
    (¬FormatAdmitted input g ∧ c.handleSwapchainCreate input g =
      (c.takeOver g c.colorSpace).send (.errorParameter g.serial)) ∨
    (FormatAdmitted input g ∧ ¬Admitted input g ∧ c.handleSwapchainCreate input g =
      (c.takeOver g g.vkColorSpace).send (.errorParameter g.serial)) ∨
    (Admitted input g ∧ c.handleSwapchainCreate input g =
      createImages input g.serial (List.range g.numImages) (c.takeOver g g.vkColorSpace)) := by
  unfold handleSwapchainCreate
  simp only
  by_cases hfds : g.numImages ≠ g.fds
  · exact .inl ⟨fun h => hfds h.1, if_pos hfds⟩
  by_cases hsampled : g.vkImageUsage &&& imageUsageSampledBit = 0
  · exact .inl ⟨fun h => h.2.1 hsampled, (if_neg hfds).trans (if_pos hsampled)⟩
  by_cases htransfer : g.vkImageUsage &&& imageUsageTransferSrcBit = 0
  · refine .inl ⟨fun h => h.2.2.1 htransfer, ?_⟩
    rw [if_neg hfds, if_neg hsampled, if_pos htransfer]
    rfl
  by_cases hmemory : g.vkExternalMemoryType ≠ input.opaqueMemoryHandleType
  · refine .inl ⟨fun h => hmemory h.2.2.2.1, ?_⟩
    rw [if_neg hfds, if_neg hsampled, if_neg htransfer, if_pos hmemory]
    rfl
  by_cases hcolor : g.vkColorSpace ∉ colorSpaces
  · refine .inl ⟨fun h => hcolor h.2.2.2.2, ?_⟩
    rw [if_neg hfds, if_neg hsampled, if_neg htransfer, if_neg hmemory, if_pos hcolor]
    rfl
  have hformat : FormatAdmitted input g :=
    ⟨not_not.1 hfds, hsampled, htransfer, not_not.1 hmemory, not_not.1 hcolor⟩
  right
  rw [if_neg hfds, if_neg hsampled, if_neg htransfer, if_neg hmemory, if_neg hcolor]
  by_cases hsrgb : g.vkNumViewFormats = 0 ∧ input.formatIsSrgb = true
  · rw [if_pos hsrgb]
    exact .inl ⟨hformat, fun h => h.2.1 hsrgb, rfl⟩
  rw [if_neg hsrgb]
  split
  · rename_i hnone
    refine .inl ⟨hformat, ?_, rfl⟩
    rintro ⟨-, -, width, height, hsome, -⟩
    rw [hnone] at hsome
    cases hsome
  · rename_i width height hsome
    by_cases hextent : width < g.width ∨ g.width = 0 ∨ height < g.height ∨ g.height = 0
    · rw [if_pos hextent]
      refine .inl ⟨hformat, ?_, rfl⟩
      rintro ⟨-, -, width', height', hsome', hfine⟩
      rw [hsome] at hsome'
      cases hsome'
      exact hfine hextent
    · rw [if_neg hextent]
      exact .inr ⟨⟨hformat, hsrgb, width, height, hsome, hextent⟩, rfl⟩

/-- The images of a group, behind those that are there. -/
def pushImages (input : ImageGroupInput) (c : Swapchain) (is : List Nat) : Swapchain :=
  is.foldl (fun c i => c.pushImage (input.crossDevice i)) c

lemma createImages_eq (input : ImageGroupInput) (serial : Nat) (is : List Nat) (c : Swapchain) :
    ((∀ i ∈ is, input.created i = true) ∧
      createImages input serial is c = (pushImages input c is).send (.ok serial)) ∨
    ((∃ i ∈ is, input.created i = false) ∧ ∃ images n, createImages input serial is c =
      (false, ({ c with images := images, numImages := n }.send (.error serial)).2)) := by
  induction is generalizing c with
  | nil => exact .inl ⟨fun i hi => absurd hi List.not_mem_nil, rfl⟩
  | cons i is ih =>
    by_cases hcreated : input.created i = true
    · rw [createImages, if_pos hcreated]
      rcases ih (c.pushImage (input.crossDevice i)) with ⟨hall, heq⟩ | ⟨⟨j, hj, hfalse⟩, images, n, heq⟩
      · refine .inl ⟨fun j hj => ?_, heq⟩
        rcases List.mem_cons.1 hj with rfl | hj
        · exact hcreated
        · exact hall j hj
      · exact .inr ⟨⟨j, List.mem_cons_of_mem i hj, hfalse⟩, images, n, heq⟩
    · refine .inr ⟨⟨i, List.mem_cons_self, by simpa using hcreated⟩, c.images, c.numImages, ?_⟩
      rw [createImages, if_neg hcreated]

/-- Pushing the images of a group changes nothing else. -/
lemma pushImages_range (input : ImageGroupInput) (c : Swapchain) (n : Nat) :
    ∃ images, pushImages input c (List.range n) = { c with
        images := images, numImages := c.numImages + n } ∧
      ∀ i < n, images (c.numImages + i) = { srcCrossDeviceBuffer := input.crossDevice i } := by
  induction n with
  | zero => exact ⟨c.images, rfl, fun i hi => absurd hi (Nat.not_lt_zero i)⟩
  | succ n ih =>
    obtain ⟨images, heq, himages⟩ := ih
    refine ⟨Function.update images (c.numImages + n)
      { srcCrossDeviceBuffer := input.crossDevice n }, ?_, fun i hi => ?_⟩
    · have hlast : pushImages input c (List.range (n + 1)) =
          (pushImages input c (List.range n)).pushImage (input.crossDevice n) := by
        rw [pushImages, List.range_succ, List.foldl_append]
        rfl
      rw [hlast, heq]
      rfl
    · by_cases hin : i = n
      · subst hin
        exact Function.update_self ..
      · rw [Function.update_of_ne (by omega)]
        exact himages i (by omega)

/-- An `ErrorParameter` leaves the connection as it was. After an `OK` the images are those of the new
group, and what is accepted depends on nothing that happened before. -/
structure Atomic (c : Swapchain) (input : ImageGroupInput) (g : ImageGroup) : Prop where
  refused : Answered c (c.handleSwapchainCreate input g).2 (.errorParameter g.serial) →
    SameState c (c.handleSwapchainCreate input g).2
  granted : Answered c (c.handleSwapchainCreate input g).2 (.ok g.serial) →
    let c' := (c.handleSwapchainCreate input g).2
    c'.imageGroupSerial = g.serial ∧ c'.numImages = g.numImages ∧
      (∀ i < g.numImages, c'.images i = { srcCrossDeviceBuffer := input.crossDevice i }) ∧
      c'.timestampCompleteMappings = [] ∧ c'.notifications = [] ∧
      ∀ v input' p, input'.imported = true →
        (Accepted c' (c'.handlePresent v input' p).2 p.index ↔
          p.imageGroupSerial = g.serial ∧ p.index < g.numImages ∧ 0 < p.id)

/-- A request that is refused repeats the serial of the group and, if it gets as far as that, its color
space; a group is created only if there is none with images yet. -/
def Undisturbing (c : Swapchain) (input : ImageGroupInput) (g : ImageGroup) : Prop :=
  c.canSend = true →
    (¬Admitted input g → g.serial = c.imageGroupSerial ∧
      (FormatAdmitted input g → g.vkColorSpace = c.colorSpace)) ∧
    (Admitted input g → (∀ i < g.numImages, input.created i = true) → c.numImages = 0)

/-- A connection without images has not accepted any presents. -/
structure Unused (c : Swapchain) : Prop where
  lastPresentId : c.lastPresentId = 0
  mappings : c.timestampCompleteMappings = []
  notifications : c.notifications = []

lemma answered_takeOver {g : ImageGroup} {color : Nat} {m m' : ServerMessage}
    (h : Answered c ((c.takeOver g color).send m).2 m') : c.canSend = true ∧ m' = m :=
  answered_send (c := c.takeOver g color) h

lemma created_eq {input : ImageGroupInput} {g : ImageGroup} (hadmitted : Admitted input g)
    (hcreated : ∀ i < g.numImages, input.created i = true) :
    ∃ images, c.handleSwapchainCreate input g = { c.takeOver g g.vkColorSpace with
        images := images, numImages := c.numImages + g.numImages }.send (.ok g.serial) ∧
      ∀ i < g.numImages, images (c.numImages + i) = { srcCrossDeviceBuffer := input.crossDevice i } := by
  rcases handleSwapchainCreate_outcome c input g with ⟨hnot, -⟩ | ⟨-, hnot, -⟩ | ⟨-, heq⟩
  · exact absurd hadmitted.1 hnot
  · exact absurd hadmitted hnot
  · obtain ⟨images, hpush, himages⟩ := pushImages_range input (c.takeOver g g.vkColorSpace) g.numImages
    refine ⟨images, ?_, himages⟩
    rcases createImages_eq input g.serial (List.range g.numImages) (c.takeOver g g.vkColorSpace) with
      ⟨-, hok⟩ | ⟨⟨i, hi, hfalse⟩, -⟩
    · rw [heq, hok, hpush]
      rfl
    · rw [hcreated i (List.mem_range.1 hi)] at hfalse
      cases hfalse

lemma undisturbing_of_atomic {input : ImageGroupInput} {g : ImageGroup} (h : Atomic c input g) :
    Undisturbing c input g := by
  intro hsend
  constructor
  · intro hnot
    rcases handleSwapchainCreate_outcome c input g with ⟨hformat, heq⟩ | ⟨hformat, -, heq⟩ | ⟨hadmitted, -⟩
    · have hsame := h.refused (by rw [heq]; exact send_answered (c := c.takeOver g c.colorSpace) hsend _)
      refine ⟨?_, fun hadmitted => absurd hadmitted hformat⟩
      have hserial := congrArg Swapchain.imageGroupSerial hsame
      rw [heq, (sameSchedule_send _ _).1.serial] at hserial
      exact hserial
    · have hsame := h.refused (by rw [heq]; exact send_answered (c := c.takeOver g g.vkColorSpace) hsend _)
      have hserial := congrArg Swapchain.imageGroupSerial hsame
      have hcolor := congrArg Swapchain.colorSpace hsame
      have hsent := congrArg Swapchain.colorSpace (send_sameState (c.takeOver g g.vkColorSpace)
        (.errorParameter g.serial))
      rw [heq, (sameSchedule_send _ _).1.serial] at hserial
      rw [heq, hsent] at hcolor
      exact ⟨hserial, fun _ => hcolor⟩
    · exact absurd hadmitted hnot
  · intro hadmitted hcreated
    obtain ⟨images, heq, -⟩ := created_eq (c := c) hadmitted hcreated
    obtain ⟨-, hnum, -⟩ := h.granted (by
      rw [heq]
      exact send_answered (c := { c.takeOver g g.vkColorSpace with
        images := images, numImages := c.numImages + g.numImages }) hsend _)
    rw [heq, (sameSchedule_send _ _).1.numImages] at hnum
    simp only at hnum
    omega

/-- What the answer says about the request. -/
lemma answered_handleSwapchainCreate {input : ImageGroupInput} {g : ImageGroup} {m : ServerMessage}
    (h : Answered c (c.handleSwapchainCreate input g).2 m) : c.canSend = true ∧
    (m = .errorParameter g.serial → ¬Admitted input g) ∧
    (m = .ok g.serial → Admitted input g ∧ ∀ i < g.numImages, input.created i = true) := by
  rcases handleSwapchainCreate_outcome c input g with ⟨hnot, heq⟩ | ⟨-, hnot, heq⟩ | ⟨hadmitted, heq⟩
  · rw [heq] at h
    obtain ⟨hsend, rfl⟩ := answered_takeOver h
    exact ⟨hsend, fun _ hadmitted => hnot hadmitted.1, fun hok => nomatch hok⟩
  · rw [heq] at h
    obtain ⟨hsend, rfl⟩ := answered_takeOver h
    exact ⟨hsend, fun _ => hnot, fun hok => nomatch hok⟩
  · rw [heq] at h
    rcases createImages_eq input g.serial (List.range g.numImages) (c.takeOver g g.vkColorSpace) with
      ⟨hall, hok⟩ | ⟨-, images, n, herror⟩
    · obtain ⟨images, hpush, -⟩ := pushImages_range input (c.takeOver g g.vkColorSpace) g.numImages
      rw [hok, hpush] at h
      obtain ⟨hsend, rfl⟩ := answered_send (c := { c.takeOver g g.vkColorSpace with
        images := images, numImages := c.numImages + g.numImages }) h
      exact ⟨hsend, (fun herror => nomatch herror),
        fun _ => ⟨hadmitted, fun i hi => hall i (List.mem_range.2 hi)⟩⟩
    · rw [herror] at h
      obtain ⟨hsend, rfl⟩ := answered_send (c := { c.takeOver g g.vkColorSpace with
        images := images, numImages := n }) h
      exact ⟨hsend, (fun hrefused => nomatch hrefused), fun hok => nomatch hok⟩

lemma atomic_of_undisturbing {input : ImageGroupInput} {g : ImageGroup}
    (hunused : c.numImages = 0 → c.Unused) (h : Undisturbing c input g) : Atomic c input g := by
  constructor
  · intro hanswered
    obtain ⟨hsend, hrefused, -⟩ := answered_handleSwapchainCreate hanswered
    obtain ⟨hserial, hcolor⟩ := (h hsend).1 (hrefused rfl)
    rcases handleSwapchainCreate_outcome c input g with ⟨-, heq⟩ | ⟨hformat, -, heq⟩ | ⟨hadmitted, -⟩
    · have hsame : c.takeOver g c.colorSpace = c := by rw [takeOver, hserial]
      rw [heq, hsame]
      exact send_sameState c _
    · have hsame : c.takeOver g g.vkColorSpace = c := by rw [takeOver, hserial, hcolor hformat]
      rw [heq, hsame]
      exact send_sameState c _
    · exact absurd hadmitted (hrefused rfl)
  · intro hanswered c'
    obtain ⟨hsend, -, hgranted⟩ := answered_handleSwapchainCreate hanswered
    obtain ⟨hadmitted, hcreated⟩ := hgranted rfl
    have hzero := (h hsend).2 hadmitted hcreated
    obtain ⟨hlast, hmappings, hnotifications⟩ := hunused hzero
    obtain ⟨images, heq, himages⟩ := created_eq (c := c) hadmitted hcreated
    obtain ⟨hs, hi⟩ := sameSchedule_send { c.takeOver g g.vkColorSpace with
      images := images, numImages := c.numImages + g.numImages } (.ok g.serial)
    rw [← heq] at hs hi
    rw [hzero, Nat.zero_add] at hs
    have hfresh : ∀ i < g.numImages, c'.images i = { srcCrossDeviceBuffer := input.crossDevice i } := by
      intro i hlt
      rw [← himages i hlt, hzero, Nat.zero_add]
      exact congrFun hi i
    refine ⟨hs.serial, hs.numImages, hfresh, hs.mappings.trans hmappings,
      hs.notifications.trans hnotifications, fun v input' p himported => ?_⟩
    have hlast' : c'.lastPresentId = 0 := hs.lastPresentId.trans hlast
    rw [accepted_iff input' himported, Fits, hs.serial, hs.numImages, hlast']
    constructor
    · exact fun hall => hall.1
    · intro hfits
      refine ⟨hfits, ?_⟩
      rw [hfresh p.index hfits.2.1]

/-! ### Runs of requests -/

lemma numImages_handleAsync (c : Swapchain) (v : VideoEncode) (e : EncoderInput) (n : Notification)
    (g : Bool) : (c.handleAsync v e n g).2.numImages = c.numImages := by
  rcases handleAsync_cases c v e n g with heq | ⟨limit, hr⟩
  · rw [heq]
  · exact hr.schedule.numImages.trans (settles_settle c v e n g).numImages

lemma numImages_retireReplacedImages (c : Swapchain) : c.retireReplacedImages.2.numImages = c.numImages := by
  obtain ⟨limit, hr⟩ := retires_retireReplacedImages c
  exact hr.schedule.numImages

lemma numImages_submitPresent (c : Swapchain) (v : VideoEncode) (input : PresentInput)
    (p : PresentImage) : (c.submitPresent v input p).2.numImages = c.numImages := by
  obtain ⟨handled, hhandled, hresult⟩ := submitPresent_cases c v input p
  have hsend := (sameSchedule_send c (.ok p.serial)).1.numImages
  have hnum : handled.numImages = c.numImages := by
    rcases hhandled with rfl | ⟨-, rfl⟩
    · exact hsend
    · rw [numImages_handleAsync, hsend]
  rcases hresult with heq | heq
  · rw [heq, hnum]
  · rw [heq, numImages_retireReplacedImages]
    exact hnum

lemma numImages_handlePresent (c : Swapchain) (v : VideoEncode) (input : PresentInput)
    (p : PresentImage) : (c.handlePresent v input p).2.numImages = c.numImages := by
  rcases handlePresent_cases c v input p with ⟨last, m, -, -, heq⟩ | ⟨-, -, -, -, heq⟩
  · rw [heq, (sameSchedule_send _ m).1.numImages]
  · rw [heq, numImages_submitPresent]
    rfl

lemma numImages_heartbeat (c : Swapchain) (timeNs : Nat) :
    (c.heartbeat timeNs).2.2.numImages = c.numImages := by
  rcases heartbeat_cases c timeNs with ⟨-, heq⟩ | ⟨-, ⟨results, heq⟩ | ⟨-, results, hr⟩⟩
  · rw [heq]
    rfl
  · rw [heq]
    rfl
  · exact hr.schedule.numImages

lemma numImages_connectionStep (c : Swapchain) (v : VideoEncode) (e : ConnectionEvent) :
    c.numImages ≤ (c.connectionStep v e).numImages := by
  cases e with
  | imageGroup input g => exact (creates_handleSwapchainCreate c input g).numImages
  | other e =>
    cases e with
    | present input p => exact (numImages_handlePresent c v input p).ge
    | notified e n =>
      exact (numImages_handleAsync { c with notifications := c.notifications.erase n } v e n true).ge
    | heartbeat timeNs => exact (numImages_heartbeat c timeNs).ge
    | heartbeatStalled =>
      exact (numImages_retireReplacedImages { c with
        timestampCompleted := c.timestampCompleted + 1
        timestampStalledCount := c.timestampStalledCount + 1 }).ge
    | socket results => exact le_rfl

lemma SameSchedule.unused (h : SameSchedule c c') (hc : c.Unused) : c'.Unused :=
  ⟨h.lastPresentId.trans hc.lastPresentId, h.mappings.trans hc.mappings,
    h.notifications.trans hc.notifications⟩

lemma Unused.handleSwapchainCreate (h : c.Unused) (input : ImageGroupInput) (g : ImageGroup) :
    (c.handleSwapchainCreate input g).2.Unused := by
  have hsend : ∀ color images n m, (({ c.takeOver g color with
      images := images, numImages := n } : Swapchain).send m).2.Unused := by
    intro color images n m
    exact (sameSchedule_send _ m).1.unused ⟨h.lastPresentId, h.mappings, h.notifications⟩
  rcases handleSwapchainCreate_outcome c input g with ⟨-, heq⟩ | ⟨-, -, heq⟩ | ⟨-, heq⟩
  · rw [heq]
    exact hsend _ c.images c.numImages _
  · rw [heq]
    exact hsend _ c.images c.numImages _
  · rw [heq]
    rcases createImages_eq input g.serial (List.range g.numImages) (c.takeOver g g.vkColorSpace) with
      ⟨-, hok⟩ | ⟨-, images, n, herror⟩
    · obtain ⟨images, hpush, -⟩ := pushImages_range input (c.takeOver g g.vkColorSpace) g.numImages
      rw [hok, hpush]
      exact hsend _ _ _ _
    · rw [herror]
      exact hsend _ _ _ _

/-- Nothing happens to a connection without images, except that it gets some. -/
lemma Unused.connectionStep (h : c.Unused) (hempty : c.numImages = 0) {e : ConnectionEvent}
    (he : c.Delivers e) : (c.connectionStep v e).Unused := by
  cases e with
  | imageGroup input g => exact h.handleSwapchainCreate input g
  | other e =>
    cases e with
    | present input p =>
      have hindex : ¬c.Fits p := by
        intro hfits
        have := hfits.2.1
        omega
      rcases handlePresent_outcome c v input p with
        ⟨-, m, -, heq⟩ | ⟨hfits, -⟩ | ⟨hfits, -⟩ | ⟨hfits, -⟩
      · rw [Swapchain.connectionStep, Swapchain.step, heq]
        exact (sameSchedule_send c m).1.unused h
      · exact absurd hfits hindex
      · exact absurd hfits hindex
      · exact absurd hfits hindex
    | notified e n =>
      have hmem : n ∈ c.notifications := he
      rw [h.notifications] at hmem
      cases hmem
    | heartbeat timeNs =>
      have heq : c.heartbeat timeNs = (true, none, c.tick) := if_pos hempty
      rw [Swapchain.connectionStep, Swapchain.step, heq]
      exact ⟨h.lastPresentId, h.mappings, h.notifications⟩
    | heartbeatStalled =>
      obtain ⟨limit, hr⟩ := retires_retireReplacedImages { c with
        timestampCompleted := c.timestampCompleted + 1
        timestampStalledCount := c.timestampStalledCount + 1 }
      exact hr.schedule.unused ⟨h.lastPresentId, h.mappings, h.notifications⟩
    | socket results => exact ⟨h.lastPresentId, h.mappings, h.notifications⟩

/-- Of the steps of a connection, what a request for an image group does. -/
def AtomicStep (c : Swapchain) : ConnectionEvent → Prop
  | .imageGroup input g => Atomic c input g
  | .other _ => True

def UndisturbingStep (c : Swapchain) : ConnectionEvent → Prop
  | .imageGroup input g => Undisturbing c input g
  | .other _ => True

/-- Along every run of a connection, the requests for image groups are atomic if and only if those that
are refused repeat what is there, and only the first group with images is granted. -/
theorem image_groups_atomic_iff (v : VideoEncode) (events : List ConnectionEvent)
    (hdelivers : Runs.Along (connectionStep v) Delivers {} events) :
    Runs.Along (connectionStep v) AtomicStep {} events ↔
      Runs.Along (connectionStep v) UndisturbingStep {} events := by
  apply hdelivers.congr (I := fun c => c.numImages = 0 → c.Unused)
  · exact fun _ => ⟨rfl, rfl, rfl⟩
  · intro c e h he hzero
    have hempty : c.numImages = 0 := by
      have := numImages_connectionStep c v e
      omega
    exact (h hempty).connectionStep hempty he
  · intro c e h _
    cases e with
    | imageGroup input g => exact ⟨undisturbing_of_atomic, atomic_of_undisturbing h⟩
    | other e => exact Iff.rfl

/-- A request for images that no client can present. -/
def emptyExtent (serial : Nat) : ImageGroup where
  serial := serial
  numImages := 2
  width := 0
  height := 0
  vkColorSpace := 0
  vkImageUsage := 5
  vkExternalMemoryType := 1
  vkNumViewFormats := 0
  fds := 2

lemma twoImageGroup_admitted (serial : Nat) :
    Admitted {} { emptyExtent serial with width := 640, height := 480 } := by
  have hsampled : (5 : BitVec 32) &&& imageUsageSampledBit ≠ 0 := by decide
  have htransfer : (5 : BitVec 32) &&& imageUsageTransferSrcBit ≠ 0 := by decide
  have hcolor : 0 ∈ colorSpaces := by decide
  exact ⟨⟨rfl, hsampled, htransfer, rfl, hcolor⟩, by simp, 16384, 16384, rfl, by simp⟩

lemma emptyExtent_not_admitted (serial : Nat) : ¬Admitted {} (emptyExtent serial) := by
  rintro ⟨-, -, width, height, -, hextent⟩
  exact hextent (.inr (.inl rfl))

theorem first_group_atomic :
    Runs.Along (connectionStep ⟨false, false⟩) Delivers {} [twoImageGroup 7, presentEvent 7 1 1] ∧
    Runs.Along (connectionStep ⟨false, false⟩) AtomicStep {} [twoImageGroup 7, presentEvent 7 1 1] := by
  have hdelivers : Runs.Along (connectionStep ⟨false, false⟩) Delivers {}
      [twoImageGroup 7, presentEvent 7 1 1] := ⟨trivial, trivial, trivial⟩
  refine ⟨hdelivers, (image_groups_atomic_iff ⟨false, false⟩ _ hdelivers).2 ⟨fun _ => ⟨?_, ?_⟩, trivial, trivial⟩⟩
  · exact fun hnot => absurd (twoImageGroup_admitted 7) hnot
  · exact fun _ _ => rfl

/-- A second group is added to the first one, and a request that is refused replaces the serial of the
group the client goes on with. -/
theorem second_group_not_atomic :
    ¬Runs.Along (connectionStep ⟨false, false⟩) AtomicStep {} [twoImageGroup 7, twoImageGroup 8] ∧
    ¬Runs.Along (connectionStep ⟨false, false⟩) AtomicStep {}
      [twoImageGroup 7, .imageGroup {} (emptyExtent 8)] := by
  constructor
  · rintro ⟨-, h, -⟩
    have hnone := (undisturbing_of_atomic h (by decide)).2 (twoImageGroup_admitted 8) fun _ _ => rfl
    exact absurd hnone (by decide)
  · rintro ⟨-, h, -⟩
    have hserial := ((undisturbing_of_atomic h (by decide)).1 (emptyExtent_not_admitted 8)).1
    exact absurd hserial (by decide)

end Swapchain
end PyroFling
