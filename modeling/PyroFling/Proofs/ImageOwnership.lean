import PyroFling.Capture
import PyroFling.Library.Runs
import PyroFling.Proofs.SwapchainSteps

/-!
# Who owns an image

The capture layer and the server run side by side and talk over a socket. An image is with the
client, in a present on its way to the server, with the server, or on its way back, and it is never
in two of these places at once. So neither side ever sees a message that it does not expect.
-/

namespace PyroFling
open Runs

/-- Both ends of a connection. What the client has sent and the server has not handled yet is in
`toServer`; the other direction is `server.asyncFd`. -/
structure SurfaceSession where
  client : SurfaceState
  toServer : List PresentImage := []
  server : Swapchain

inductive SurfaceEvent
  /-- `processPresent` finds an image. -/
  | acquire
  /-- `processPresent` sends it. -/
  | present (mode : SyncMode) (isFifo : Bool) (khrPresentId : Nat)
  /-- The client handles a message. -/
  | receive
  | handlePresent (input : PresentInput)
  | notified (e : EncoderInput) (n : Notification)
  | heartbeat (timeNs : Nat)
  | heartbeatStalled

/-- The two messages with which an image comes back. -/
inductive Return
  | acquire
  | retire
  deriving DecidableEq

namespace ServerMessage

def returnOf (i : Nat) : ServerMessage → Option Return
  | .acquireImage _ j _ => if j = i then some .acquire else none
  | .retireImage _ j => if j = i then some .retire else none
  | _ => none

/-- The serial of an `OK`. -/
def okSerial? : ServerMessage → Option Nat
  | .ok serial => some serial
  | _ => none

/-- An event of this image group. -/
def IsEventOf (serial numImages : Nat) : ServerMessage → Prop
  | .acquireImage s i _ => s = serial ∧ i < numImages
  | .retireImage s i => s = serial ∧ i < numImages
  | .frameComplete s _ _ _ => s = serial
  | _ => False

/-- What the server may send to a client that behaves. -/
def IsExpected (serial numImages : Nat) (m : ServerMessage) : Prop :=
  m.IsEventOf serial numImages ∨ ∃ s, m = .ok s

end ServerMessage

/-- What the messages on their way say about an image. -/
def returnsOf (i : Nat) (ms : List ServerMessage) : List Return := ms.filterMap (·.returnOf i)

/-- Where an image can be: its flags on the client, the number of presents on their way, its state
on the server and the messages that bring it back. -/
inductive Placed : Bool → Bool → Nat → ImageState → List Return → Prop
  | client : Placed true true 0 .clientOwned []
  | presenting : Placed false false 1 .clientOwned []
  | server {state : ImageState} (h : state ≠ .clientOwned) : Placed false false 0 state []
  | returning : Placed false false 0 .clientOwned [.acquire, .retire]
  | retiring : Placed false true 0 .clientOwned [.retire]

/-- What the server does to an image between two presents. -/
inductive Moves : ImageState → List Return → ImageState → List Return → Prop
  | stay {state : ImageState} {l : List Return} : Moves state l state l
  | progress {state state' : ImageState} {l : List Return} (h : state ≠ .clientOwned)
      (h' : state' ≠ .clientOwned) : Moves state l state' l
  | giveBack {state : ImageState} {l : List Return} (h : state ≠ .clientOwned) :
      Moves state l .clientOwned (l ++ [.acquire, .retire])

lemma Moves.trans {a b c : ImageState} {l m n : List Return} (h : Moves a l b m) (h' : Moves b m c n) :
    Moves a l c n := by
  cases h with
  | stay => exact h'
  | progress ha hb =>
    cases h' with
    | stay => exact .progress ha hb
    | progress _ hc => exact .progress ha hc
    | giveBack _ => exact .giveBack ha
  | giveBack ha =>
    cases h' with
    | stay => exact .giveBack ha
    | progress hb _ => exact absurd rfl hb
    | giveBack hb => exact absurd rfl hb

lemma Placed.moves {r a : Bool} {k : Nat} {state state' : ImageState} {l l' : List Return}
    (h : Placed r a k state l) (hm : Moves state l state' l') : Placed r a k state' l' := by
  cases hm with
  | stay => exact h
  | progress hs hs' =>
    cases h with
    | server _ => exact .server hs'
    | client | presenting | returning | retiring => exact absurd rfl hs
  | giveBack hs =>
    cases h with
    | server _ => exact .returning
    | client | presenting | returning | retiring => exact absurd rfl hs

namespace Swapchain

variable {c c' c'' : Swapchain} {v : VideoEncode}

/-- An operation of the server that succeeds and answers nothing. -/
structure Serves (c c' : Swapchain) : Prop where
  numImages : c'.numImages = c.numImages
  serial : c'.imageGroupSerial = c.imageGroupSerial
  lastPresentId : c'.lastPresentId = c.lastPresentId
  sendResults : c'.sendResults = []
  moves : ∀ i, Moves (c.images i).state (returnsOf i c.asyncFd) (c'.images i).state (returnsOf i c'.asyncFd)
  events : ∃ out, c'.asyncFd = c.asyncFd ++ out ∧ ∀ m ∈ out, m.IsEventOf c.imageGroupSerial c.numImages

lemma Serves.trans (h : Serves c c') (h' : Serves c' c'') : Serves c c'' := by
  obtain ⟨out, hfd, hout⟩ := h.events
  obtain ⟨out', hfd', hout'⟩ := h'.events
  refine ⟨h'.numImages.trans h.numImages, h'.serial.trans h.serial,
    h'.lastPresentId.trans h.lastPresentId, h'.sendResults, fun i => (h.moves i).trans (h'.moves i),
    out ++ out', by rw [hfd', hfd, List.append_assoc], fun m hm => ?_⟩
  rcases List.mem_append.1 hm with hm | hm
  · exact hout m hm
  · exact h.serial ▸ h.numImages ▸ hout' m hm

lemma serves_of_quiet (hresults : c.sendResults = []) (himages : ∀ i, Moves (c.images i).state
      (returnsOf i c.asyncFd) (c'.images i).state (returnsOf i c.asyncFd))
    (hnum : c'.numImages = c.numImages) (hserial : c'.imageGroupSerial = c.imageGroupSerial)
    (hlast : c'.lastPresentId = c.lastPresentId) (hresults' : c'.sendResults = c.sendResults)
    (hfd : c'.asyncFd = c.asyncFd) : Serves c c' :=
  ⟨hnum, hserial, hlast, hresults'.trans hresults, fun i => by rw [hfd]; exact himages i, [],
    by simpa using hfd, by simp⟩

lemma returnsOf_append (i : Nat) (ms ms' : List ServerMessage) :
    returnsOf i (ms ++ ms') = returnsOf i ms ++ returnsOf i ms' := List.filterMap_append

lemma returnsOf_returnMessages (c : Swapchain) (i : Nat) :
    returnsOf i (c.returnMessages i) = [.acquire, .retire] := by
  simp [returnsOf, returnMessages, ServerMessage.returnOf]

lemma returnsOf_returnMessages_ne (c : Swapchain) {i j : Nat} (h : j ≠ i) :
    returnsOf j (c.returnMessages i) = [] := by
  simp [returnsOf, returnMessages, ServerMessage.returnOf, Ne.symm h]

lemma serves_retire (hresults : c.sendResults = []) {i : Nat} (hi : i < c.numImages)
    (hready : (c.images i).state = .presentReady) : Serves c (c.retire i).2 := by
  rw [retire_of_results_nil hresults]
  refine ⟨rfl, rfl, rfl, rfl, fun j => ?_, c.returnMessages i, rfl, ?_⟩
  · simp only [returning, returnsOf_append]
    by_cases hj : j = i
    · subst hj
      rw [returnsOf_returnMessages, Function.update_self]
      exact .giveBack (by rw [hready]; simp)
    · rw [returnsOf_returnMessages_ne c hj, List.append_nil, Function.update_of_ne hj]
      exact .stay
  · simp [returnMessages, ServerMessage.IsEventOf, hi]

lemma serves_refl (hresults : c.sendResults = []) : Serves c c :=
  serves_of_quiet hresults (fun _ => .stay) rfl rfl rfl rfl rfl

lemma serves_retireLoop (hresults : c.sendResults = []) (limit : Nat) {is : List Nat}
    (his : ∀ i ∈ is, i < c.numImages) :
    (retireLoop limit is c).1 = true ∧ Serves c (retireLoop limit is c).2 := by
  induction is generalizing c with
  | nil => exact ⟨rfl, serves_refl hresults⟩
  | cons i is ih =>
    rw [retireLoop]
    split
    case isTrue h =>
      have hserves := serves_retire hresults (his i List.mem_cons_self) h.1
      rw [retire_of_results_nil hresults] at hserves ⊢
      obtain ⟨hok, hrest⟩ := ih hserves.sendResults
        fun j hj => hserves.numImages ▸ his j (List.mem_cons_of_mem _ hj)
      exact ⟨hok, hserves.trans hrest⟩
    case isFalse => exact ih hresults fun j hj => his j (List.mem_cons_of_mem _ hj)

lemma serves_retireObsoleteImages (hresults : c.sendResults = []) (limit : Nat) :
    (c.retireObsoleteImages limit).1 = true ∧ Serves c (c.retireObsoleteImages limit).2 :=
  serves_retireLoop hresults limit fun _ hi => List.mem_range.1 hi

lemma serves_retireReplacedImages (hresults : c.sendResults = []) :
    c.retireReplacedImages.1 = true ∧ Serves c c.retireReplacedImages.2 := by
  unfold retireReplacedImages
  split
  case h_1 => exact ⟨rfl, serves_refl hresults⟩
  case h_2 => exact serves_retireObsoleteImages hresults _

/-- An image that waits becomes ready, and may be given back at once. -/
lemma serves_handleAsync (hresults : c.sendResults = []) (e : EncoderInput) {n : Notification} (g : Bool)
    (hindex : n.index ≠ uint64Max) (hwaiting : (c.images n.index).state ≠ .clientOwned) :
    (c.handleAsync v e n g).1 = true ∧ Serves c (c.handleAsync v e n g).2 := by
  have hs := settles_settle c v e n g
  have hsettle : Serves c (c.settle v e n g) := by
    refine serves_of_quiet hresults (fun i => ?_) hs.numImages hs.serial hs.lastPresentId
      hs.sendResults hs.asyncFd
    by_cases hi : i = n.index
    · obtain ⟨semaphore, himage⟩ := hs.image
      rw [hi, himage]
      exact .progress hwaiting (by cases g <;> simp)
    · rw [hs.other i hi]
      exact .stay
  unfold handleAsync
  rw [if_neg hindex]
  split
  case isTrue => exact ⟨rfl, serves_refl hresults⟩
  case isFalse =>
    split
    case isTrue =>
      obtain ⟨hok, hserves⟩ := serves_retireObsoleteImages hsettle.sendResults uint64Max
      exact ⟨hok, hsettle.trans hserves⟩
    case isFalse =>
      obtain ⟨hok, hserves⟩ := serves_retireReplacedImages hsettle.sendResults
      exact ⟨hok, hsettle.trans hserves⟩

/-- What follows once a present is queued. -/
lemma serves_submitPresent (hresults : c.sendResults = []) (input : PresentInput) {p : PresentImage}
    (hindex : p.index ≠ uint64Max) (hqueued : (c.images p.index).state = .presentQueued) :
    (c.submitPresent v input p).1 = true ∧
      Serves (c.send (.ok p.serial)).2 (c.submitPresent v input p).2 := by
  have hsent := send_of_results_nil hresults (.ok p.serial)
  have hstate : ((c.send (.ok p.serial)).2.images p.index).state ≠ .clientOwned := by
    rw [(sameSchedule_send c _).2, hqueued]
    simp
  have hresults' : (c.send (.ok p.serial)).2.sendResults = [] := by
    rw [hsent]
    exact hresults
  have hfinish : ∀ (d : Swapchain) (n : Notification), Serves (c.send (.ok p.serial)).2 d →
      ({ d with notifications := d.notifications ++ [n] }.retireReplacedImages).1 = true ∧
        Serves (c.send (.ok p.serial)).2
          ({ d with notifications := d.notifications ++ [n] }.retireReplacedImages).2 := by
    intro d n hd
    have hnote : Serves d { d with notifications := d.notifications ++ [n] } :=
      serves_of_quiet hd.sendResults (fun _ => .stay) rfl rfl rfl rfl rfl
    obtain ⟨hok, hretire⟩ := serves_retireReplacedImages hnote.sendResults
    exact ⟨hok, (hd.trans hnote).trans hretire⟩
  rw [submitPresent, show c.send (.ok p.serial) = (true, (c.send (.ok p.serial)).2) by rw [hsent]]
  by_cases hwait : ((c.images p.index).srcCrossDeviceBuffer || !v.immediate) = true
  · simp only [hwait, if_true]
    exact hfinish _ _ (serves_refl hresults')
  · simp only [hwait, Bool.false_eq_true, if_false]
    obtain ⟨hok, hasync⟩ := serves_handleAsync (v := v) hresults' input.encoder
      (n := { serial := c.imageGroupSerial, index := p.index, ts := input.ts }) false hindex hstate
    rw [show (c.send (.ok p.serial)).2.handleAsync v input.encoder
        { serial := c.imageGroupSerial, index := p.index, ts := input.ts } false =
      (true, ((c.send (.ok p.serial)).2.handleAsync v input.encoder
        { serial := c.imageGroupSerial, index := p.index, ts := input.ts } false).2) from
      Prod.ext hok rfl]
    exact hfinish _ _ hasync

lemma serves_heartbeatStalled (hresults : c.sendResults = []) : Serves c c.heartbeatStalled.2 := by
  have htick : Serves c { c with
      timestampCompleted := c.timestampCompleted + 1
      timestampStalledCount := c.timestampStalledCount + 1 } :=
    serves_of_quiet hresults (fun _ => .stay) rfl rfl rfl rfl rfl
  exact htick.trans (serves_retireReplacedImages htick.sendResults).2

lemma serves_send (hresults : c.sendResults = []) {m : ServerMessage}
    (hm : m.IsEventOf c.imageGroupSerial c.numImages) (hreturn : m.returned? = none) :
    Serves c (c.send m).2 := by
  rw [send_of_results_nil hresults]
  refine ⟨rfl, rfl, rfl, hresults, fun i => ?_, [m], rfl, by simpa using hm⟩
  have hnone : returnsOf i [m] = [] := by
    cases m <;> first | rfl | cases hreturn
  simp only [returnsOf_append, hnone, List.append_nil]
  exact .stay

lemma serves_heartbeat (hresults : c.sendResults = []) (timeNs : Nat) :
    Serves c (c.heartbeat timeNs).2.2 := by
  have htick : Serves c c.tick := serves_of_quiet hresults (fun _ => .stay) rfl rfl rfl rfl rfl
  have hdrop : Serves c c.tick.dropDue := serves_of_quiet hresults (fun _ => .stay) rfl rfl rfl rfl rfl
  by_cases hnone : c.numImages = 0
  · have heq : c.heartbeat timeNs = (true, none, c.tick) := if_pos hnone
    rw [heq]
    exact htick
  rw [heartbeat_eq hnone]
  split
  case isTrue => exact hdrop
  case isFalse =>
    have hsend := serves_send hdrop.sendResults (m := c.tick.report timeNs c.tick.completeId) rfl rfl
    have hsent := send_of_results_nil hdrop.sendResults (c.tick.report timeNs c.tick.completeId)
    rw [hsent] at hsend ⊢
    exact (hdrop.trans hsend).trans (serves_retireObsoleteImages hsend.sendResults _).2

end Swapchain

namespace SurfaceSession

variable {s : SurfaceSession} {v : VideoEncode}

def step (v : VideoEncode) (s : SurfaceSession) : SurfaceEvent → SurfaceSession
  | .acquire =>
    if s.client.clientIndex = none then
      { s with client := { s.client with clientIndex := s.client.acquire } }
    else s
  | .present mode isFifo khrPresentId =>
    match s.client.clientIndex with
    | some i =>
      let (p, client) := s.client.processPresent i mode isFifo khrPresentId
      { s with client := client, toServer := s.toServer ++ [p] }
    | none => s
  | .receive =>
    match s.server.asyncFd with
    | m :: rest => { s with client := (s.client.process m).2, server := { s.server with asyncFd := rest } }
    | [] => s
  | .handlePresent input =>
    match s.toServer with
    | p :: rest => { s with toServer := rest, server := (s.server.handlePresent v input p).2 }
    | [] => s
  | .notified e n => { s with server := (s.server.notify v e n).2 }
  | .heartbeat timeNs => { s with server := (s.server.heartbeat timeNs).2.2 }
  | .heartbeatStalled => { s with server := s.server.heartbeatStalled.2 }

/-- Semaphores can be imported, and only presents that the GPU is busy with are notified. -/
def Legal (s : SurfaceSession) : SurfaceEvent → Prop
  | .handlePresent input => input.imported = true
  | .notified _ n => n ∈ s.server.notifications
  | _ => True

instance (s : SurfaceSession) : (e : SurfaceEvent) → Decidable (s.Legal e)
  | .handlePresent input => inferInstanceAs (Decidable (input.imported = true))
  | .notified _ _ => inferInstanceAs (Decidable (_ ∈ _))
  | .acquire | .present .. | .receive | .heartbeat _ | .heartbeatStalled =>
    inferInstanceAs (Decidable True)

/-- The presents of an image that are on their way. -/
def presentsOf (s : SurfaceSession) (i : Nat) : Nat := s.toServer.countP (·.index = i)

/-- The image is in one place. -/
def PlacedAt (s : SurfaceSession) (i : Nat) : Prop :=
  Placed (s.client.image i).ready (s.client.image i).acquired (s.presentsOf i)
    (s.server.images i).state (returnsOf i s.server.asyncFd)

structure Agrees (s : SurfaceSession) : Prop where
  numImages : s.server.numImages = s.client.numImages
  size : s.client.numImages ≤ maxSockets
  serial : s.server.imageGroupSerial = s.client.imageGroupSerial
  sendResults : s.server.sendResults = []
  noted : s.server.Noted
  presents : ∀ p ∈ s.toServer, p.imageGroupSerial = s.client.imageGroupSerial ∧
    p.index < s.client.numImages
  /-- Ids grow, from the last one that the server has seen. -/
  ids : (s.server.lastPresentId :: s.toServer.map PresentImage.id).Pairwise (· < ·)
  idBound : ∀ id ∈ s.server.lastPresentId :: s.toServer.map PresentImage.id, id ≤ s.client.presentId
  /-- Every request that is not answered yet is still on its way, or its answer is. -/
  replies : ∃ k, s.client.sendSerial = s.client.receivedReplies + k ∧
    s.server.asyncFd.filterMap ServerMessage.okSerial? ++ s.toServer.map PresentImage.serial =
      List.range' (s.client.receivedReplies + 1) k
  expected : ∀ m ∈ s.server.asyncFd, m.IsExpected s.client.imageGroupSerial s.client.numImages
  clientIndex : ∀ i ∈ s.client.clientIndex, i < s.client.numImages ∧
    (s.client.image i).ready = true ∧ (s.client.image i).acquired = true
  placed : ∀ i < s.client.numImages, s.PlacedAt i

lemma Agrees.serves (h : s.Agrees) {c : Swapchain} (hs : s.server.Serves c) (hnoted : c.Noted) :
    Agrees { s with server := c } := by
  obtain ⟨out, hfd, hout⟩ := hs.events
  have hok : c.asyncFd.filterMap ServerMessage.okSerial? =
      s.server.asyncFd.filterMap ServerMessage.okSerial? := by
    have hnone : out.filterMap ServerMessage.okSerial? = [] := by
      rw [List.filterMap_eq_nil_iff]
      intro m hm
      have := hout m hm
      cases m <;> first | rfl | exact this.elim
    rw [hfd, List.filterMap_append, hnone, List.append_nil]
  refine ⟨hs.numImages.trans h.numImages, h.size, hs.serial.trans h.serial, hs.sendResults, hnoted,
    h.presents, ?_, ?_, ?_, ?_, h.clientIndex, fun i hi => ?_⟩
  · simp only [hs.lastPresentId]
    exact h.ids
  · simp only [hs.lastPresentId]
    exact h.idBound
  · simp only [hok]
    exact h.replies
  · intro m hm
    rcases List.mem_append.1 (hfd ▸ hm) with hm | hm
    · exact h.expected m hm
    · exact .inl (h.serial ▸ h.numImages ▸ hout m hm)
  · exact (h.placed i hi).moves (hs.moves i)

lemma Agrees.acquire (h : s.Agrees) :
    Agrees { s with client := { s.client with clientIndex := s.client.acquire } } := by
  refine ⟨h.numImages, h.size, h.serial, h.sendResults, h.noted, h.presents, h.ids, h.idBound,
    h.replies, h.expected, fun i hi => ?_, h.placed⟩
  have hfound := List.find?_some hi
  rw [Bool.and_eq_true] at hfound
  exact ⟨List.mem_range.1 (List.mem_of_find?_eq_some hi), hfound⟩

/-- A usable image is with the client. -/
lemma PlacedAt.of_usable {i : Nat} (h : s.PlacedAt i) (hready : (s.client.image i).ready = true)
    (hacquired : (s.client.image i).acquired = true) : s.presentsOf i = 0 ∧
      (s.server.images i).state = .clientOwned ∧ returnsOf i s.server.asyncFd = [] := by
  unfold PlacedAt at h
  rw [hready, hacquired] at h
  generalize s.presentsOf i = k, (s.server.images i).state = state,
    returnsOf i s.server.asyncFd = l at h
  cases h
  exact ⟨rfl, rfl, rfl⟩

lemma Agrees.present (h : s.Agrees) {i : Nat} (hi : s.client.clientIndex = some i) (mode : SyncMode)
    (isFifo : Bool) (khrPresentId : Nat) :
    Agrees { s with
      client := (s.client.processPresent i mode isFifo khrPresentId).2
      toServer := s.toServer ++ [(s.client.processPresent i mode isFifo khrPresentId).1] } := by
  obtain ⟨hlt, hready, hacquired⟩ := h.clientIndex i hi
  have hindex : i % 2 ^ 16 = i := Nat.mod_eq_of_lt (by
    have := h.size
    simp only [maxSockets] at this
    omega)
  obtain ⟨k, hserial, hreplies⟩ := h.replies
  refine ⟨h.numImages, h.size, h.serial, h.sendResults, h.noted, fun p hp => ?_, ?_, fun id hid => ?_,
    ⟨k + 1, ?_, ?_⟩, h.expected, by simp [SurfaceState.processPresent], fun j hj => ?_⟩
  · rcases List.mem_append.1 hp with hp | hp
    · exact h.presents p hp
    · rw [List.mem_singleton.1 hp]
      exact ⟨rfl, hindex.trans_lt hlt⟩
  · rw [List.map_append, ← List.cons_append, List.pairwise_append]
    refine ⟨h.ids, List.pairwise_singleton _ _, fun id hid id' hid' => ?_⟩
    rw [List.map_singleton, List.mem_singleton] at hid'
    rw [hid']
    exact Nat.lt_succ_of_le (h.idBound id hid)
  · rw [List.map_append, ← List.cons_append] at hid
    rcases List.mem_append.1 hid with hid | hid
    · exact (h.idBound id hid).trans (Nat.le_succ _)
    · rw [List.map_singleton, List.mem_singleton] at hid
      exact hid.le
  · simp only [SurfaceState.processPresent, SurfaceState.setImage]
    omega
  · rw [List.map_append, ← List.append_assoc, hreplies, List.range'_concat, List.map_singleton]
    simp only [SurfaceState.processPresent, SurfaceState.setImage, hserial]
    congr 2
    omega
  · have hplaced := h.placed j hj
    unfold PlacedAt presentsOf at *
    simp only [SurfaceState.processPresent, SurfaceState.setImage, List.countP_append,
      List.countP_singleton, hindex]
    by_cases heq : j = i
    · subst heq
      obtain ⟨hnone, hstate, hreturns⟩ := PlacedAt.of_usable (s := s) hplaced hready hacquired
      unfold presentsOf at hnone
      rw [hnone, hstate, hreturns]
      simp only [Function.update_self, decide_true, if_true]
      exact .presenting
    · simpa [heq, Ne.symm heq] using hplaced

/-- The parts of the agreement that concern a message that is handled. -/
lemma Agrees.tail (h : s.Agrees) {m : ServerMessage} {rest : List ServerMessage}
    (hm : s.server.asyncFd = m :: rest) (hevent : m.okSerial? = none) {client : SurfaceState}
    (hnum : client.numImages = s.client.numImages)
    (hserial : client.imageGroupSerial = s.client.imageGroupSerial)
    (hid : client.presentId = s.client.presentId) (hsend : client.sendSerial = s.client.sendSerial)
    (hreplies : client.receivedReplies = s.client.receivedReplies)
    (hindex : ∀ i ∈ client.clientIndex, i < s.client.numImages ∧
      (client.image i).ready = true ∧ (client.image i).acquired = true)
    (hplaced : ∀ i < s.client.numImages, Placed (client.image i).ready (client.image i).acquired
      (s.presentsOf i) (s.server.images i).state (returnsOf i rest)) :
    Agrees { s with client := client, server := { s.server with asyncFd := rest } } := by
  have hok : rest.filterMap ServerMessage.okSerial? =
      s.server.asyncFd.filterMap ServerMessage.okSerial? := by
    rw [hm, List.filterMap_cons_none hevent]
  refine ⟨h.numImages.trans hnum.symm, hnum ▸ h.size, h.serial.trans hserial.symm, h.sendResults,
    h.noted.of_images rfl rfl rfl rfl, ?_, h.ids, hid ▸ h.idBound, ?_, ?_, hnum ▸ hindex,
    hnum ▸ hplaced⟩
  · simp only [hnum, hserial]
    exact h.presents
  · simp only [hsend, hreplies, hok]
    exact h.replies
  · simp only [hnum, hserial]
    exact fun m' hm' => h.expected m' (hm ▸ List.mem_cons_of_mem _ hm')

lemma returnsOf_cons_none {i : Nat} {m : ServerMessage} {rest : List ServerMessage}
    (h : m.returnOf i = none) : returnsOf i (m :: rest) = returnsOf i rest :=
  List.filterMap_cons_none h

/-- A message about an image that is not usable changes this image only. -/
lemma Agrees.setImage (h : s.Agrees) {m : ServerMessage} {rest : List ServerMessage}
    (hm : s.server.asyncFd = m :: rest) (hevent : m.okSerial? = none) {i : Nat}
    (hother : ∀ j ≠ i, m.returnOf j = none) (hready : (s.client.image i).ready = false)
    {image : ExportableImage} (hplaced : Placed image.ready image.acquired (s.presentsOf i)
      (s.server.images i).state (returnsOf i rest)) :
    Agrees { s with
      client := s.client.setImage i image, server := { s.server with asyncFd := rest } } := by
  refine h.tail hm hevent rfl rfl rfl rfl rfl (fun j hj => ?_) fun j hj => ?_
  · obtain ⟨hlt, hready', hacquired'⟩ := h.clientIndex j hj
    have hne : j ≠ i := by
      rintro rfl
      rw [hready] at hready'
      cases hready'
    simpa [SurfaceState.setImage, hne] using ⟨hlt, hready', hacquired'⟩
  · by_cases hne : j = i
    · subst hne
      simpa [SurfaceState.setImage] using hplaced
    · have hplaced' := h.placed j hj
      unfold PlacedAt at hplaced'
      rw [hm, returnsOf_cons_none (hother j hne)] at hplaced'
      simpa [SurfaceState.setImage, hne] using hplaced'

/-- The first message about an image that is on its way. -/
lemma PlacedAt.of_returning {i : Nat} {r : Return} {rest : List Return} (h : s.PlacedAt i)
    (hreturns : returnsOf i s.server.asyncFd = r :: rest) :
    s.presentsOf i = 0 ∧ (s.server.images i).state = .clientOwned ∧ (s.client.image i).ready = false ∧
      (r = .acquire ∧ rest = [.retire] ∧ (s.client.image i).acquired = false ∨
        r = .retire ∧ rest = [] ∧ (s.client.image i).acquired = true) := by
  unfold PlacedAt at h
  rw [hreturns] at h
  generalize s.presentsOf i = k, (s.server.images i).state = state,
    (s.client.image i).ready = ready, (s.client.image i).acquired = acquired at h
  cases h
  · exact ⟨rfl, rfl, rfl, .inl ⟨rfl, rfl, rfl⟩⟩
  · exact ⟨rfl, rfl, rfl, .inr ⟨rfl, rfl, rfl⟩⟩

lemma Agrees.receive (h : s.Agrees) {m : ServerMessage} {rest : List ServerMessage}
    (hm : s.server.asyncFd = m :: rest) : (s.client.process m).1 = true ∧
      Agrees { s with client := (s.client.process m).2, server := { s.server with asyncFd := rest } } := by
  have hexpected := h.expected m (hm ▸ List.mem_cons_self)
  cases m with
  | ok serial =>
    obtain ⟨k, hsend, hreplies⟩ := h.replies
    rw [hm, List.filterMap_cons_some (show ServerMessage.okSerial? (.ok serial) = some serial from rfl),
      List.cons_append] at hreplies
    obtain ⟨k, rfl⟩ : ∃ k', k = k' + 1 := by
      cases k with
      | zero => cases hreplies
      | succ k => exact ⟨k, rfl⟩
    rw [List.range'_succ, List.cons.injEq] at hreplies
    refine ⟨by simp [SurfaceState.process, SurfaceState.handleReply, hreplies.1], ?_⟩
    have hreturns : ∀ i, returnsOf i s.server.asyncFd = returnsOf i rest := by
      intro i
      rw [hm]
      exact returnsOf_cons_none rfl
    refine ⟨h.numImages, h.size, h.serial, h.sendResults, h.noted.of_images rfl rfl rfl rfl,
      h.presents, h.ids, h.idBound, ⟨k, ?_, hreplies.2⟩,
      fun m' hm' => h.expected m' (hm ▸ List.mem_cons_of_mem _ hm'), h.clientIndex, fun i hi => ?_⟩
    · simp only [SurfaceState.process, SurfaceState.handleReply]
      omega
    · have hplaced := h.placed i hi
      unfold PlacedAt at hplaced
      rw [hreturns i] at hplaced
      exact hplaced
  | error serial | errorProtocol serial | errorParameter serial =>
    rcases hexpected with hevent | ⟨serial', hok⟩
    · exact hevent.elim
    · cases hok
  | acquireImage serial i semaphore =>
    obtain ⟨hserial, hi⟩ := hexpected.resolve_right (by rintro ⟨_, ⟨⟩⟩)
    have hself : returnsOf i s.server.asyncFd = .acquire :: returnsOf i rest := by
      rw [hm]
      exact List.filterMap_cons_some (by simp [ServerMessage.returnOf])
    obtain ⟨hpresents, hstate, hready, ⟨-, hrest, hacquired⟩ | ⟨hr, -, -⟩⟩ :=
      (h.placed i hi).of_returning hself
    case inr => cases hr
    have hprocess : s.client.process (.acquireImage serial i semaphore) = (true, s.client.setImage i
        { s.client.image i with acquired := true, fencePending := false, liveAcquirePayload := semaphore }) := by
      simp [SurfaceState.process, SurfaceState.handleEvent, hserial, Nat.not_le.2 hi, hacquired]
    rw [hprocess]
    refine ⟨rfl, h.setImage hm rfl (fun j hj => by simp [ServerMessage.returnOf, Ne.symm hj]) hready ?_⟩
    rw [hpresents, hstate, hrest, hready]
    exact .retiring
  | retireImage serial i =>
    obtain ⟨hserial, hi⟩ := hexpected.resolve_right (by rintro ⟨_, ⟨⟩⟩)
    have hself : returnsOf i s.server.asyncFd = .retire :: returnsOf i rest := by
      rw [hm]
      exact List.filterMap_cons_some (by simp [ServerMessage.returnOf])
    obtain ⟨hpresents, hstate, hready, ⟨hr, -, -⟩ | ⟨-, hrest, hacquired⟩⟩ :=
      (h.placed i hi).of_returning hself
    case inl => cases hr
    have hprocess : s.client.process (.retireImage serial i) =
        (true, s.client.setImage i { s.client.image i with ready := true }) := by
      simp [SurfaceState.process, SurfaceState.handleEvent, hserial, Nat.not_le.2 hi, hready]
    rw [hprocess]
    refine ⟨rfl, h.setImage hm rfl (fun j hj => by simp [ServerMessage.returnOf, Ne.symm hj]) hready ?_⟩
    rw [hpresents, hstate, hrest, hacquired]
    exact .client
  | frameComplete serial periodNs id timestamp =>
    have hserial : serial = s.client.imageGroupSerial := hexpected.resolve_right (by rintro ⟨_, ⟨⟩⟩)
    subst hserial
    simp only [SurfaceState.process, SurfaceState.handleEvent, ne_eq, not_true, if_false]
    refine ⟨trivial, h.tail hm rfl rfl rfl rfl rfl rfl h.clientIndex fun i hi => ?_⟩
    have hplaced := h.placed i hi
    unfold PlacedAt at hplaced
    rw [hm, returnsOf_cons_none rfl] at hplaced
    exact hplaced

/-- A present on its way finds its image with the client. -/
lemma PlacedAt.of_presenting {i : Nat} (h : s.PlacedAt i) (hpos : 0 < s.presentsOf i) :
    s.presentsOf i = 1 ∧ (s.server.images i).state = .clientOwned ∧
      returnsOf i s.server.asyncFd = [] ∧ (s.client.image i).ready = false ∧
      (s.client.image i).acquired = false := by
  unfold PlacedAt at h
  generalize s.presentsOf i = k, (s.server.images i).state = state,
    (s.client.image i).ready = ready, (s.client.image i).acquired = acquired,
    returnsOf i s.server.asyncFd = l at h hpos
  cases h
  case presenting => exact ⟨rfl, rfl, rfl, rfl, rfl⟩
  all_goals exact absurd hpos (Nat.lt_irrefl 0)

/-- The server after it has accepted a present and answered it. -/
def answered (c : Swapchain) (p : PresentImage) : Swapchain :=
  { c.accept p with
    asyncFd := c.asyncFd ++ [.ok p.serial], history := (c.accept p).history ++ [.sent (.ok p.serial)] }

lemma Agrees.answered (h : s.Agrees) {p : PresentImage} {rest : List PresentImage}
    (hp : s.toServer = p :: rest) :
    Agrees { s with toServer := rest, server := answered s.server p } := by
  obtain ⟨hserial, hindex⟩ := h.presents p (hp ▸ List.mem_cons_self)
  have hpos : 0 < s.presentsOf p.index := by
    unfold presentsOf
    rw [hp, List.countP_cons_of_pos (by simp)]
    exact Nat.succ_pos _
  obtain ⟨hone, hstate, hreturns, hready, hacquired⟩ := (h.placed p.index hindex).of_presenting hpos
  obtain ⟨k, hsend, hreplies⟩ := h.replies
  have hids := h.ids
  have hbound := h.idBound
  rw [hp, List.map_cons] at hids hbound
  refine ⟨h.numImages, h.size, h.serial, h.sendResults, (h.noted.accept hstate).of_images rfl rfl rfl rfl,
    fun q hq => h.presents q (hp ▸ List.mem_cons_of_mem _ hq), (List.pairwise_cons.1 hids).2,
    fun id hid => hbound id (List.mem_cons_of_mem _ hid), ⟨k, hsend, ?_⟩, fun m hm => ?_, h.clientIndex,
    fun i hi => ?_⟩
  · rw [hp, List.map_cons] at hreplies
    simpa [SurfaceSession.answered, ServerMessage.okSerial?] using hreplies
  · rcases List.mem_append.1 hm with hm | hm
    · exact h.expected m hm
    · exact .inr ⟨_, List.mem_singleton.1 hm⟩
  · have hplaced := h.placed i hi
    have hreturns' : returnsOf i (SurfaceSession.answered s.server p).asyncFd = returnsOf i s.server.asyncFd := by
      rw [SurfaceSession.answered, Swapchain.returnsOf_append]
      exact List.append_nil _
    unfold PlacedAt at hplaced ⊢
    unfold presentsOf at hone hplaced ⊢
    simp only [hreturns']
    rw [hp] at hone hplaced
    by_cases hne : i = p.index
    · subst hne
      rw [List.countP_cons_of_pos (by simp)] at hone
      have hnone : rest.countP (·.index = p.index) = 0 := by omega
      rw [hready, hacquired, hnone, hreturns]
      refine .server ?_
      simp [SurfaceSession.answered, Swapchain.accept_image]
    · rw [List.countP_cons_of_neg (by simpa using Ne.symm hne)] at hplaced
      have himage : (SurfaceSession.answered s.server p).images i = s.server.images i :=
        Swapchain.accept_other s.server p hne
      rw [himage]
      exact hplaced

lemma Agrees.handlePresent (h : s.Agrees) {p : PresentImage} {rest : List PresentImage}
    (hp : s.toServer = p :: rest) {input : PresentInput} (himport : input.imported = true) :
    (s.server.handlePresent v input p).1 = true ∧
      Agrees { s with toServer := rest, server := (s.server.handlePresent v input p).2 } := by
  obtain ⟨hserial, hindex⟩ := h.presents p (hp ▸ List.mem_cons_self)
  have hanswered := h.answered hp
  have hnoted := h.noted.handlePresent input p (v := v)
  have hid : s.server.lastPresentId < p.id := by
    have hids := h.ids
    rw [hp, List.map_cons] at hids
    exact (List.pairwise_cons.1 hids).1 _ List.mem_cons_self
  have hstate : (s.server.images p.index).state = .clientOwned := by
    refine ((h.placed p.index hindex).of_presenting ?_).2.1
    unfold presentsOf
    rw [hp, List.countP_cons_of_pos (by simp)]
    exact Nat.succ_pos _
  have heq : s.server.handlePresent v input p = (s.server.accept p).submitPresent v input p := by
    rw [Swapchain.handlePresent, if_neg (by rw [hserial, h.serial]; simp),
      if_neg (by rw [h.numImages]; exact Nat.not_le.2 hindex), if_neg (Nat.not_le.2 hid)]
    exact (if_neg (by simp [hstate])).trans (if_neg (by simp [himport]))
  have hbig : p.index ≠ uint64Max := by
    have hsize := h.size
    simp only [maxSockets] at hsize
    simp only [uint64Max]
    omega
  obtain ⟨hok, hserves⟩ := Swapchain.serves_submitPresent (c := s.server.accept p) (v := v)
    h.sendResults input hbig (by rw [Swapchain.accept_image])
  rw [Swapchain.send_of_results_nil (c := s.server.accept p) h.sendResults] at hserves
  rw [heq] at hnoted ⊢
  exact ⟨hok, hanswered.serves hserves hnoted⟩

lemma Agrees.step (h : s.Agrees) {e : SurfaceEvent} (he : s.Legal e) : (s.step v e).Agrees := by
  cases e with
  | acquire =>
    simp only [SurfaceSession.step]
    split
    case isTrue => exact h.acquire
    case isFalse => exact h
  | present mode isFifo khrPresentId =>
    simp only [SurfaceSession.step]
    split
    case h_1 i hi => exact h.present hi mode isFifo khrPresentId
    case h_2 => exact h
  | receive =>
    simp only [SurfaceSession.step]
    split
    case h_1 m rest hm => exact (h.receive hm).2
    case h_2 => exact h
  | handlePresent input =>
    simp only [SurfaceSession.step]
    split
    case h_1 p rest hp => exact (h.handlePresent hp he).2
    case h_2 => exact h
  | notified e n =>
    have herased : s.server.Serves { s.server with notifications := s.server.notifications.erase n } :=
      Swapchain.serves_of_quiet h.sendResults (fun _ => .stay) rfl rfl rfl rfl rfl
    have hbig : n.index ≠ uint64Max := by
      have hsize := h.size
      have hindex := h.noted.index n he
      rw [h.numImages] at hindex
      simp only [maxSockets] at hsize
      simp only [uint64Max]
      omega
    have hwaiting : (s.server.images n.index).state ≠ .clientOwned := by
      rcases h.noted.waiting n he with hw | hw <;> simp [hw]
    exact h.serves (herased.trans (Swapchain.serves_handleAsync herased.sendResults e true hbig hwaiting).2)
      (h.noted.notify e he)
  | heartbeat timeNs =>
    exact h.serves (Swapchain.serves_heartbeat h.sendResults timeNs) (h.noted.heartbeat timeNs)
  | heartbeatStalled =>
    exact h.serves (Swapchain.serves_heartbeatStalled h.sendResults) h.noted.heartbeatStalled

/-- A connection whose image group was just created on both sides. The server's answer to it has not
arrived yet. -/
structure Start (s : SurfaceSession) : Prop where
  fresh : s.server.Fresh
  sendResults : s.server.sendResults = []
  asyncFd : s.server.asyncFd = [.ok s.client.imageGroupSerial]
  toServer : s.toServer = []
  serial : s.server.imageGroupSerial = s.client.imageGroupSerial
  numImages : s.server.numImages = s.client.numImages
  size : s.client.numImages ≤ maxSockets
  clientIndex : s.client.clientIndex = none
  presentId : s.client.presentId = 0
  sendSerial : s.client.sendSerial = s.client.imageGroupSerial
  receivedReplies : s.client.receivedReplies + 1 = s.client.imageGroupSerial
  usable : ∀ i, (s.client.image i).ready = true ∧ (s.client.image i).acquired = true

lemma Start.agrees (h : s.Start) : s.Agrees := by
  refine ⟨h.numImages, h.size, h.serial, h.sendResults, h.fresh.noted, by simp [h.toServer],
    by simp [h.toServer], by simp [h.toServer, h.fresh.lastPresentId], ⟨1, ?_, ?_⟩, ?_, ?_, fun i _ => ?_⟩
  · rw [h.sendSerial, h.receivedReplies]
  · simp [h.asyncFd, h.toServer, ServerMessage.okSerial?, h.receivedReplies]
  · intro m hm
    rw [h.asyncFd, List.mem_singleton] at hm
    exact .inr ⟨_, hm⟩
  · simp [h.clientIndex]
  · unfold PlacedAt presentsOf
    rw [(h.usable i).1, (h.usable i).2, h.toServer, h.fresh.owned i, h.asyncFd]
    exact .client

/-- The places of an image, as either side sees them. -/
inductive Place
  | client
  | presenting
  | server
  | returning
  deriving DecidableEq

def At (s : SurfaceSession) (i : Nat) : Place → Prop
  | .client => (s.client.image i).ready = true ∧ (s.client.image i).acquired = true ∧
      (s.server.images i).state = .clientOwned
  | .presenting => ∃ p ∈ s.toServer, p.index = i
  | .server => (s.server.images i).state ≠ .clientOwned
  | .returning => ∃ m ∈ s.server.asyncFd, m.returned? = some i

lemma at_presenting_iff (s : SurfaceSession) (i : Nat) : s.At i .presenting ↔ 0 < s.presentsOf i := by
  simp [At, presentsOf, List.countP_pos_iff]

lemma returned?_iff (m : ServerMessage) (i : Nat) : m.returned? = some i ↔ (m.returnOf i).isSome := by
  cases m with
  | acquireImage serial j semaphore =>
    by_cases h : j = i <;> simp [ServerMessage.returned?, ServerMessage.returnOf, h]
  | retireImage serial j =>
    by_cases h : j = i <;> simp [ServerMessage.returned?, ServerMessage.returnOf, h]
  | _ => simp [ServerMessage.returned?, ServerMessage.returnOf]

lemma at_returning_iff (s : SurfaceSession) (i : Nat) :
    s.At i .returning ↔ returnsOf i s.server.asyncFd ≠ [] := by
  simp only [At, returned?_iff]
  rw [returnsOf, Ne, List.filterMap_eq_nil_iff]
  simp [← Option.isSome_iff_ne_none]

/-- What the places say amounts to being in one place. -/
lemma PlacedAt.existsUnique {i : Nat} (h : s.PlacedAt i) : ∃! place, s.At i place := by
  have hpresenting := at_presenting_iff s i
  have hreturning := at_returning_iff s i
  unfold PlacedAt at h
  generalize hr : (s.client.image i).ready = ready, ha : (s.client.image i).acquired = acquired,
    s.presentsOf i = k, hs : (s.server.images i).state = state,
    returnsOf i s.server.asyncFd = l at h hpresenting hreturning
  have hclient : s.At i .client ↔ ready = true ∧ acquired = true ∧ state = .clientOwned := by
    rw [At, hr, ha, hs]
  have hserver : s.At i .server ↔ state ≠ .clientOwned := by
    rw [At, hs]
  have hplace : ∃! place : Place, match place with
      | .client => ready = true ∧ acquired = true ∧ state = .clientOwned
      | .presenting => 0 < k
      | .server => state ≠ .clientOwned
      | .returning => l ≠ [] := by
    cases h with
    | client => exact ⟨.client, by simp, by rintro (_ | _ | _ | _) h <;> simp_all⟩
    | presenting => exact ⟨.presenting, by simp, by rintro (_ | _ | _ | _) h <;> simp_all⟩
    | server hne => exact ⟨.server, hne, by rintro (_ | _ | _ | _) h <;> simp_all⟩
    | returning => exact ⟨.returning, by simp, by rintro (_ | _ | _ | _) h <;> simp_all⟩
    | retiring => exact ⟨.returning, by simp, by rintro (_ | _ | _ | _) h <;> simp_all⟩
  obtain ⟨place, hat, hunique⟩ := hplace
  refine ⟨place, ?_, fun place' hat' => hunique place' ?_⟩
  · cases place
    · exact hclient.2 hat
    · exact hpresenting.2 hat
    · exact hserver.2 hat
    · exact hreturning.2 hat
  · cases place'
    · exact hclient.1 hat'
    · exact hpresenting.1 hat'
    · exact hserver.1 hat'
    · exact hreturning.1 hat'

/-- In every run of the two sides every image is in exactly one place, the server has not answered
with an error, the client can handle the next message, and the server accepts the next present. -/
theorem image_ownership (hstart : s.Start) (v : VideoEncode) {events : List SurfaceEvent}
    (hlegal : Along (step v) Legal s events) :
    let t := events.foldl (step v) s
    (∀ i < t.client.numImages, ∃! place, t.At i place) ∧
      (∀ m ∈ t.server.asyncFd, ∀ serial, m ≠ .errorProtocol serial ∧ m ≠ .errorParameter serial) ∧
      (∀ m rest, t.server.asyncFd = m :: rest → (t.client.process m).1 = true) ∧
      ∀ p rest input, t.toServer = p :: rest → PresentInput.imported input = true →
        (t.server.handlePresent v input p).1 = true := by
  intro t
  have hagrees : t.Agrees := hlegal.invariant hstart.agrees fun _ _ hs he => hs.step he
  refine ⟨fun i hi => (hagrees.placed i hi).existsUnique, fun m hm serial => ?_,
    fun m rest hm => (hagrees.receive hm).1, fun p rest input hp hi => (hagrees.handlePresent hp hi).1⟩
  rcases hagrees.expected m hm with hevent | ⟨serial', rfl⟩
  · constructor <;> rintro rfl <;> exact hevent
  · constructor <;> rintro ⟨⟩

/-- A connection with three images. -/
def threeImages : SurfaceSession where
  client := { numImages := 3, imageGroupSerial := 3, sendSerial := 3, receivedReplies := 2 }
  server := { numImages := 3, imageGroupSerial := 3, asyncFd := [.ok 3] }

lemma threeImages_start : threeImages.Start :=
  ⟨⟨rfl, rfl, rfl, rfl, rfl, rfl, rfl, fun _ => rfl⟩, rfl, rfl, rfl, rfl, rfl, by decide, rfl, rfl, rfl,
    rfl, fun _ => ⟨rfl, rfl⟩⟩

/-- Two presents are on their way through the server. -/
theorem image_ownership_two_presents :
    let t := List.foldl (step { immediate := false }) threeImages
      [.acquire, .present .default true 0, .acquire, .receive, .present .default true 0,
        .handlePresent {}, .handlePresent {}, .notified {} ⟨3, 1, 0⟩, .heartbeat 1, .heartbeat 1,
        .notified {} ⟨3, 0, 0⟩, .receive]
    ∀ i < t.client.numImages, ∃! place, t.At i place := by
  refine (image_ownership threeImages_start _ ?_).1
  decide

end SurfaceSession

end PyroFling
