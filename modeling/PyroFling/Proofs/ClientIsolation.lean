import PyroFling.Heartbeat
import PyroFling.Library.Runs
import PyroFling.Proofs.SwapchainSteps

/-!
# One client's failure is everybody's

A heartbeat calls the clients one after the other and stops at the first one that cannot be sent a
message. Its connection is cancelled, but the clients behind it are not called, and the handler of
the timer ends the dispatcher. This file counts the messages a heartbeat has for a client, and shows
that clients are independent of each other exactly as long as all of them can be sent.
-/

namespace PyroFling

namespace Swapchain

variable {c : Swapchain}

/-! ### Messages that are due -/

/-- One of the next `n` messages to the client cannot be sent. -/
def refuses (c : Swapchain) (n : Nat) : Bool := decide (false ∈ c.sendResults.take n)

/-- The image is ready and has been replaced by one with the id `limit`. -/
def isObsolete (c : Swapchain) (limit i : Nat) : Bool :=
  (c.images i).state = .presentReady ∧ (c.images i).presentId < limit

/-- An image is given back with two messages. -/
def dueRetirements (c : Swapchain) (limit : Nat) : Nat :=
  2 * (List.range c.numImages).countP (c.isObsolete limit)

/-- The clock of a stalled heartbeat. -/
def stall (c : Swapchain) : Swapchain :=
  { c with
    timestampCompleted := c.timestampCompleted + 1
    timestampStalledCount := c.timestampStalledCount + 1 }

/-- The messages of a stalled heartbeat. -/
def dueStalled (c : Swapchain) : Nat :=
  match c.stall.getTargetImageIndexForTimestamp (c.stall.timestampCompleted + 1) with
  | none => 0
  | some target => c.dueRetirements (c.images target).presentId

/-- The messages of a heartbeat: a completion, if there is one, and what it makes obsolete. -/
def dueBeat (c : Swapchain) : Nat :=
  if c.numImages = 0 then 0
  else if c.tick.completeId = 0 then 0
  else 1 + c.dueRetirements c.tick.completeId

@[simp] lemma refuses_zero (c : Swapchain) : c.refuses 0 = false := by simp [refuses]

lemma refuses_congr {d : Swapchain} (h : d.sendResults = c.sendResults) (n : Nat) :
    d.refuses n = c.refuses n := by rw [refuses, h, refuses]

lemma refuses_add {d : Swapchain} {m : Nat} (h : d.sendResults = c.sendResults.drop m) (n : Nat) :
    c.refuses (m + n) = (c.refuses m || d.refuses n) := by
  rw [refuses, refuses, refuses, h, List.take_add]
  simp

lemma send_spec (c : Swapchain) (m : ServerMessage) :
    (c.send m).1 = !c.refuses 1 ∧ (c.send m).2.sendResults = c.sendResults.drop 1 := by
  unfold send refuses
  split
  · rename_i results heq
    simp [heq]
  · rename_i results
    cases hresults : c.sendResults with
    | nil => simp
    | cons ok rest =>
      cases ok with
      | false => exact absurd hresults (results rest)
      | true => simp

/-- Giving back an image succeeds if both messages can be sent. -/
lemma retire_spec (c : Swapchain) (i : Nat) : (c.retire i).1 = !c.refuses 2 ∧
    (c.refuses 2 = false → (c.retire i).2.sendResults = c.sendResults.drop 2) := by
  let acquire : ServerMessage := .acquireImage c.imageGroupSerial i (c.images i).lastReadSemaphore
  obtain ⟨hfst, hsnd⟩ := send_spec (c.returning i c.sendResults []) acquire
  rw [retire_eq]
  rcases hsend : (c.returning i c.sendResults []).send acquire with ⟨ok, c'⟩
  rw [hsend] at hfst hsnd
  simp only at hfst hsnd
  have hfirst : c.refuses 1 = !ok := by
    rw [← refuses_congr (c := c) (d := c.returning i c.sendResults []) rfl, hfst, Bool.not_not]
  have hboth : c.refuses 2 = (c.refuses 1 || c'.refuses 1) := refuses_add (m := 1) hsnd 1
  cases ok with
  | false => simp [hboth, hfirst]
  | true =>
    obtain ⟨hlast, hrest⟩ := send_spec c' (.retireImage c'.imageGroupSerial i)
    simp only [hboth, hfirst, Bool.not_true, Bool.false_or, if_true]
    refine ⟨hlast, fun _ => ?_⟩
    rw [hrest, hsnd, List.drop_drop]
    rfl

lemma retire_other (c : Swapchain) {i j : Nat} (hj : j ≠ i) : (c.retire i).2.images j = c.images j := by
  obtain ⟨results, out, -, heq⟩ := retire_cases c i
  rw [heq]
  exact Function.update_of_ne hj ..

/-- The loop succeeds if and only if none of its messages is refused. -/
lemma retireLoop_fst (limit : Nat) {is : List Nat} (hnodup : is.Nodup) (c : Swapchain) :
    (retireLoop limit is c).1 = !c.refuses (2 * is.countP (c.isObsolete limit)) := by
  induction is generalizing c with
  | nil => simp [retireLoop]
  | cons i is ih =>
    obtain ⟨hi, htail⟩ := List.nodup_cons.1 hnodup
    rw [retireLoop]
    by_cases hobsolete : (c.images i).state = .presentReady ∧ (c.images i).presentId < limit
    · rw [if_pos hobsolete, List.countP_cons_of_pos (by simpa [isObsolete] using hobsolete)]
      obtain ⟨hfst, hsnd⟩ := retire_spec c i
      have hsame : is.countP ((c.retire i).2.isObsolete limit) = is.countP (c.isObsolete limit) := by
        apply List.countP_congr
        intro j hj
        have hother : j ≠ i := fun h => hi (h ▸ hj)
        rw [isObsolete, retire_other c hother, isObsolete]
      have hcount : 2 * (is.countP (c.isObsolete limit) + 1) =
          2 + 2 * is.countP (c.isObsolete limit) := by ring
      rw [hcount]
      cases hfirst : c.refuses 2 with
      | true =>
        have hrefused : c.refuses (2 + 2 * is.countP (c.isObsolete limit)) = true := by
          rw [refuses_add (d := { c with sendResults := c.sendResults.drop 2 }) rfl, hfirst]
          rfl
        rw [hrefused]
        rw [hfirst] at hfst
        split
        · rfl
        · rename_i hretire
          rw [hretire] at hfst
          cases hfst
      | false =>
        rw [refuses_add (hsnd hfirst), hfirst, Bool.false_or, ← hsame]
        rw [hfirst] at hfst
        split
        · rename_i hretire
          rw [hretire] at hfst
          cases hfst
        · rename_i c' hretire
          rw [hretire]
          exact ih htail c'
    · rw [if_neg hobsolete, List.countP_cons_of_neg (by simpa [isObsolete] using hobsolete)]
      exact ih htail c

lemma retireObsoleteImages_fst (c : Swapchain) (limit : Nat) :
    (c.retireObsoleteImages limit).1 = !c.refuses (c.dueRetirements limit) :=
  retireLoop_fst limit List.nodup_range c

/-- A stalled heartbeat fails if and only if one of the messages that are due is refused. -/
lemma heartbeatStalled_fst (c : Swapchain) : c.heartbeatStalled.1 = !c.refuses c.dueStalled := by
  have hstalled : c.heartbeatStalled = c.stall.retireReplacedImages := rfl
  rw [hstalled, retireReplacedImages, dueStalled]
  cases c.stall.getTargetImageIndexForTimestamp (c.stall.timestampCompleted + 1) with
  | none => simp
  | some target => exact retireObsoleteImages_fst c.stall _

lemma heartbeat_fst (c : Swapchain) (timeNs : Nat) : (c.heartbeat timeNs).1 = !c.refuses c.dueBeat := by
  by_cases hnone : c.numImages = 0
  · simp [heartbeat, dueBeat, hnone]
  by_cases hzero : c.tick.completeId = 0
  · rw [heartbeat_eq hnone, dueBeat, if_neg hnone, if_pos hzero]
    simp [hzero]
  rw [heartbeat_eq hnone, dueBeat, if_neg hnone, if_neg hzero, if_neg hzero]
  obtain ⟨hfst, hsnd⟩ := send_spec c.tick.dropDue (c.tick.report timeNs c.tick.completeId)
  obtain ⟨hsame, himages⟩ := sameSchedule_send c.tick.dropDue (c.tick.report timeNs c.tick.completeId)
  rcases hsend : c.tick.dropDue.send (c.tick.report timeNs c.tick.completeId) with ⟨ok, d⟩
  rw [hsend] at hfst hsnd hsame himages
  simp only at hfst hsnd himages
  have hfirst : c.refuses 1 = !ok := by
    rw [hfst, Bool.not_not]
    rfl
  have hdue : d.dueRetirements c.tick.completeId = c.dueRetirements c.tick.completeId := by
    have hobsolete : d.isObsolete c.tick.completeId = c.isObsolete c.tick.completeId := by
      funext i
      rw [isObsolete, himages]
      rfl
    rw [dueRetirements, hsame.numImages, hobsolete]
    rfl
  rw [refuses_add (c := c) (d := d) hsnd, hfirst, ← hdue]
  cases ok with
  | false => rfl
  | true => exact retireObsoleteImages_fst d _

end Swapchain

/-! ### One heartbeat -/

inductive Tick
  | stalled
  | regular (e : EncoderInput)

namespace SwapchainServer

variable {s : SwapchainServer}

/-- Whether the server takes a heartbeat as a stalled one. -/
def stalls (s : SwapchainServer) : Tick → Bool
  | .stalled => true
  | .regular e => !s.videoEncode.immediate && !e.free

/-- The messages that are due for a client. -/
def due (s : SwapchainServer) (t : Tick) (k : Nat) : Nat :=
  if s.stalls t then (s.chains k).dueStalled else (s.chains k).dueBeat

/-- One of the messages that are due cannot be sent to the client. -/
def refused (s : SwapchainServer) (t : Tick) (k : Nat) : Bool := (s.chains k).refuses (s.due t k)

/-- The clients of a list go through a transition of their own, and the others stay. -/
def advance (s : SwapchainServer) (ks : List Nat) (f : Swapchain → Swapchain) : SwapchainServer :=
  { s with chains := fun k => if k ∈ ks then f (s.chains k) else s.chains k }

lemma advance_cons (f : Swapchain → Swapchain) {k : Nat} {ks : List Nat} (hk : k ∉ ks) :
    (s.setChain k (f (s.chains k))).advance ks f = s.advance (k :: ks) f := by
  have hchains : (fun j => if j ∈ ks then f ((s.setChain k (f (s.chains k))).chains j)
      else (s.setChain k (f (s.chains k))).chains j) =
      fun j => if j ∈ k :: ks then f (s.chains j) else s.chains j := by
    funext j
    by_cases hj : j = k
    · subst hj
      simp [hk, setChain]
    · simp [hj, setChain]
  rw [advance, advance, hchains]
  rfl

lemma all_setChain (f : Swapchain → Bool) (c : Swapchain) {k : Nat} {ks : List Nat} (hk : k ∉ ks) :
    ks.all (fun j => f ((s.setChain k c).chains j)) = ks.all (fun j => f (s.chains j)) := by
  rw [Bool.eq_iff_iff, List.all_eq_true, List.all_eq_true]
  apply forall₂_congr
  intro j hj
  have hne : j ≠ k := fun h => hk (h ▸ hj)
  have hother : (s.setChain k c).chains j = s.chains j := Function.update_of_ne hne ..
  rw [hother]

/-- The loop over stalled clients: it gets through if none of them fails. -/
lemma heartbeatStalledLoop_spec {ks : List Nat} (hnodup : ks.Nodup) (s : SwapchainServer) :
    (heartbeatStalledLoop ks s).1 = ks.all (fun k => (s.chains k).heartbeatStalled.1) ∧
      ((heartbeatStalledLoop ks s).1 = true →
        (heartbeatStalledLoop ks s).2 = s.advance ks fun c => c.heartbeatStalled.2) := by
  induction ks generalizing s with
  | nil =>
    refine ⟨rfl, fun _ => ?_⟩
    simp [heartbeatStalledLoop, advance]
  | cons k ks ih =>
    obtain ⟨hk, htail⟩ := List.nodup_cons.1 hnodup
    rw [heartbeatStalledLoop, List.all_cons]
    rcases hbeat : (s.chains k).heartbeatStalled with ⟨ok, c⟩
    cases ok with
    | false => simp
    | true =>
      obtain ⟨hfst, hsnd⟩ := ih htail (s.setChain k c)
      have hall := all_setChain (s := s) (fun c => c.heartbeatStalled.1) c hk
      refine ⟨by simpa [hall] using hfst, fun hok => ?_⟩
      rw [hsnd hok, ← advance_cons _ hk, hbeat]

lemma heartbeatLoop_spec (periodNs : Nat) {ks : List Nat} (hnodup : ks.Nodup)
    (surface : Option (Nat × Nat)) (s : SwapchainServer) :
    (heartbeatLoop periodNs ks surface s).1 = ks.all (fun k => ((s.chains k).heartbeat periodNs).1) ∧
      ((heartbeatLoop periodNs ks surface s).1 = true → (heartbeatLoop periodNs ks surface s).2.2 =
        s.advance ks fun c => (c.heartbeat periodNs).2.2) := by
  induction ks generalizing s surface with
  | nil =>
    refine ⟨rfl, fun _ => ?_⟩
    simp [heartbeatLoop, advance]
  | cons k ks ih =>
    obtain ⟨hk, htail⟩ := List.nodup_cons.1 hnodup
    rw [heartbeatLoop, List.all_cons]
    rcases hbeat : (s.chains k).heartbeat periodNs with ⟨ok, image, c⟩
    cases ok with
    | false => simp
    | true =>
      have hall := all_setChain (s := s) (fun c => (c.heartbeat periodNs).1) c hk
      cases image with
      | none =>
        obtain ⟨hfst, hsnd⟩ := ih htail surface (s.setChain k c)
        refine ⟨by simpa [hall] using hfst, fun hok => ?_⟩
        rw [hsnd hok, ← advance_cons _ hk, hbeat]
      | some i =>
        obtain ⟨hfst, hsnd⟩ := ih htail (some (k, i)) (s.setChain k c)
        refine ⟨by simpa [hall] using hfst, fun hok => ?_⟩
        rw [hsnd hok, ← advance_cons _ hk, hbeat]

/-- A heartbeat of the server. -/
def beat (s : SwapchainServer) (periodNs : Nat) : Tick → Bool × SwapchainServer
  | .stalled => s.heartbeatStalled
  | .regular e => s.heartbeat periodNs e

lemma timestampCompleted_heartbeatStalled (c : Swapchain) :
    c.heartbeatStalled.2.timestampCompleted = c.timestampCompleted + 1 := by
  obtain ⟨limit, hr⟩ := Swapchain.retires_retireReplacedImages c.stall
  exact hr.schedule.completed

lemma timestampCompleted_heartbeat (c : Swapchain) (timeNs : Nat) :
    (c.heartbeat timeNs).2.2.timestampCompleted = c.timestampCompleted + 1 := by
  rcases Swapchain.heartbeat_cases c timeNs with ⟨-, heq⟩ | ⟨-, ⟨results, heq⟩ | ⟨-, results, hr⟩⟩
  · rw [heq]
    rfl
  · rw [heq]
    rfl
  · exact hr.schedule.completed

lemma timestampCompleted_encodeSurface (s : SwapchainServer) (surface : Option (Nat × Nat))
    (e : EncoderInput) (k : Nat) : ((s.encodeSurface surface e).chains k).timestampCompleted =
      (s.chains k).timestampCompleted := by
  cases surface with
  | none => rfl
  | some target =>
    obtain ⟨j, i⟩ := target
    by_cases hk : k = j
    · subst hk
      simp [encodeSurface, setChain, Swapchain.encodeSurface, Swapchain.setImage]
    · simp [encodeSurface, setChain, hk]

/-- A stalled heartbeat fails if and only if a client refuses a message. Otherwise every client's clock
advances, and no connection is cancelled. -/
lemma heartbeatStalled_spec (hnodup : s.handlers.Nodup) :
    s.heartbeatStalled.1 = s.handlers.all (fun k => !(s.chains k).refuses (s.chains k).dueStalled) ∧
      (s.heartbeatStalled.1 = true → s.heartbeatStalled.2.cancelled = s.cancelled ∧
        ∀ k ∈ s.handlers, (s.heartbeatStalled.2.chains k).timestampCompleted =
          (s.chains k).timestampCompleted + 1) := by
  obtain ⟨hfst, hsnd⟩ := heartbeatStalledLoop_spec hnodup s
  simp only [Swapchain.heartbeatStalled_fst] at hfst
  refine ⟨hfst, fun hok => ?_⟩
  rw [heartbeatStalled, hsnd hok]
  refine ⟨rfl, fun k hk => ?_⟩
  simp only [advance, if_pos hk]
  exact timestampCompleted_heartbeatStalled _

lemma heartbeat_spec (hnodup : s.handlers.Nodup) (periodNs : Nat) (e : EncoderInput)
    (hbusy : (!s.videoEncode.immediate && !e.free) = false) :
    (s.heartbeat periodNs e).1 = s.handlers.all (fun k => !(s.chains k).refuses (s.chains k).dueBeat) ∧
      ((s.heartbeat periodNs e).1 = true → (s.heartbeat periodNs e).2.cancelled = s.cancelled ∧
        ∀ k ∈ s.handlers, ((s.heartbeat periodNs e).2.chains k).timestampCompleted =
          (s.chains k).timestampCompleted + 1) := by
  obtain ⟨hfst, hsnd⟩ := heartbeatLoop_spec periodNs hnodup none s
  simp only [Swapchain.heartbeat_fst] at hfst
  rw [← hfst, heartbeat, hbusy, if_neg Bool.false_ne_true]
  rcases hloop : heartbeatLoop periodNs s.handlers none s with ⟨ok, surface, s'⟩
  rw [hloop] at hsnd
  cases ok with
  | false => simp
  | true =>
    obtain rfl : s' = _ := hsnd rfl
    have hclock : ∀ k ∈ s.handlers, ((s.advance s.handlers fun c =>
        (c.heartbeat periodNs).2.2).chains k).timestampCompleted =
          (s.chains k).timestampCompleted + 1 := by
      intro k hk
      simp only [advance, if_pos hk]
      exact timestampCompleted_heartbeat _ periodNs
    simp only
    split
    · refine ⟨rfl, fun _ => ⟨?_, fun k hk => ?_⟩⟩
      · cases surface <;> rfl
      · rw [timestampCompleted_encodeSurface]
        exact hclock k hk
    · exact ⟨rfl, fun _ => ⟨rfl, hclock⟩⟩

lemma beat_spec (hnodup : s.handlers.Nodup) (periodNs : Nat) (t : Tick) :
    (s.beat periodNs t).1 = s.handlers.all (fun k => !s.refused t k) ∧
      ((s.beat periodNs t).1 = true → (s.beat periodNs t).2.cancelled = s.cancelled ∧
        ∀ k ∈ s.handlers, ((s.beat periodNs t).2.chains k).timestampCompleted =
          (s.chains k).timestampCompleted + 1) := by
  cases t with
  | stalled => exact heartbeatStalled_spec hnodup
  | regular e =>
    cases hbusy : (!s.videoEncode.immediate && !e.free) with
    | true =>
      have hbeat : s.beat periodNs (.regular e) = s.heartbeatStalled := by
        rw [beat, heartbeat, hbusy, if_pos rfl]
      have hrefused : s.refused (.regular e) = s.refused .stalled := by
        funext k
        simp only [refused, due, stalls, hbusy]
      rw [hbeat, hrefused]
      exact heartbeatStalled_spec hnodup
    | false =>
      have hrefused : s.refused (.regular e) =
          fun k => (s.chains k).refuses (s.chains k).dueBeat := by
        funext k
        simp only [refused, due, stalls, hbusy, Bool.false_eq_true, if_false]
      rw [hrefused]
      exact heartbeat_spec hnodup periodNs e hbusy

lemma handlers_heartbeatStalledLoop (ks : List Nat) (s : SwapchainServer) :
    (heartbeatStalledLoop ks s).2.handlers = s.handlers := by
  induction ks generalizing s with
  | nil => rfl
  | cons k ks ih =>
    rw [heartbeatStalledLoop]
    split
    · rfl
    · exact ih _

lemma handlers_heartbeatLoop (periodNs : Nat) (ks : List Nat) (surface : Option (Nat × Nat))
    (s : SwapchainServer) : (heartbeatLoop periodNs ks surface s).2.2.handlers = s.handlers := by
  induction ks generalizing s surface with
  | nil => rfl
  | cons k ks ih =>
    rw [heartbeatLoop]
    split
    · rfl
    · exact ih _ _
    · exact ih _ _

/-- A heartbeat does not change who is connected: cancelled connections go away later. -/
lemma handlers_beat (s : SwapchainServer) (periodNs : Nat) (t : Tick) :
    (s.beat periodNs t).2.handlers = s.handlers := by
  cases t with
  | stalled => exact handlers_heartbeatStalledLoop _ s
  | regular e =>
    have hloop := handlers_heartbeatLoop periodNs s.handlers none s
    rw [beat, heartbeat]
    split
    · exact handlers_heartbeatStalledLoop _ s
    · split
      · rename_i hresult
        rw [hresult] at hloop
        exact hloop
      · rename_i surface s' hresult
        rw [hresult] at hloop
        split
        · cases surface <;> exact hloop
        · exact hloop

end SwapchainServer

namespace HeartbeatHandler

/-- What happens with a heartbeat, if there is still a dispatcher. -/
def step (h : HeartbeatHandler) (t : Tick) : HeartbeatHandler :=
  if h.killed then h else (h.conclude (h.server.beat h.timebaseNs t)).2

/-- The same server without the clients that refuse a message. -/
def without (h : HeartbeatHandler) (t : Tick) : HeartbeatHandler :=
  { h with server := { h.server with
      handlers := h.server.handlers.filter fun k => !h.server.refused t k } }

/-- The clients that refuse a message lose their connections. The others do not notice, and the
dispatcher goes on. -/
structure Isolated (h : HeartbeatHandler) (t : Tick) : Prop where
  running : (h.step t).killed = false
  cancelled : (h.step t).server.cancelled =
    h.server.cancelled ++ h.server.handlers.filter (h.server.refused t)
  others : ∀ k ∈ h.server.handlers, h.server.refused t k = false →
    (h.step t).server.chains k = ((h.without t).step t).server.chains k ∧
      ((h.step t).server.chains k).timestampCompleted = (h.server.chains k).timestampCompleted + 1

/-- No client refuses a message that is due. -/
def AllReachable (h : HeartbeatHandler) (t : Tick) : Prop :=
  h.killed = false ∧ ∀ k ∈ h.server.handlers, h.server.refused t k = false

instance (h : HeartbeatHandler) (t : Tick) : Decidable (h.AllReachable t) :=
  inferInstanceAs (Decidable (_ ∧ _))

lemma isolated_iff {h : HeartbeatHandler} (hnodup : h.server.handlers.Nodup) (t : Tick) :
    h.Isolated t ↔ h.AllReachable t := by
  obtain ⟨hfst, hsnd⟩ := SwapchainServer.beat_spec hnodup h.timebaseNs t
  constructor
  · intro hisolated
    have hrunning := hisolated.running
    cases hkilled : h.killed with
    | true => simp [step, hkilled] at hrunning
    | false =>
      simp only [step, hkilled, Bool.false_eq_true, if_false, conclude, Bool.false_or,
        Bool.not_eq_false'] at hrunning
      refine ⟨hkilled, fun k hk => ?_⟩
      rw [hrunning, eq_comm, List.all_eq_true] at hfst
      simpa using hfst k hk
  · rintro ⟨hkilled, hreach⟩
    have hok : (h.server.beat h.timebaseNs t).1 = true := by
      rw [hfst, List.all_eq_true]
      intro k hk
      rw [hreach k hk]
      rfl
    obtain ⟨hcancelled, hclock⟩ := hsnd hok
    have hstep : h.step t = { h with server := (h.server.beat h.timebaseNs t).2 } := by
      simp [step, conclude, hkilled, hok]
    have hwithout : h.without t = h := by
      have hall : (h.server.handlers.filter fun k => !h.server.refused t k) = h.server.handlers := by
        rw [List.filter_eq_self]
        intro k hk
        rw [hreach k hk]
        rfl
      rw [without, hall]
    have hnone : h.server.handlers.filter (h.server.refused t) = [] := by
      rw [List.filter_eq_nil_iff]
      intro k hk
      simp [hreach k hk]
    refine ⟨?_, ?_, fun k hk _ => ?_⟩
    · rw [hstep]
      exact hkilled
    · rw [hstep, hnone, List.append_nil]
      exact hcancelled
    · rw [hwithout, hstep]
      exact ⟨rfl, hclock k hk⟩

lemma foldl_killed {h : HeartbeatHandler} (hkilled : h.killed = true) (ticks : List Tick) :
    ticks.foldl step h = h := by
  induction ticks with
  | nil => rfl
  | cons t ticks ih => rw [List.foldl_cons, step, if_pos hkilled, ih]

lemma step_conclude {h : HeartbeatHandler} (hkilled : h.killed = false) (t : Tick) :
    h.step t = (h.conclude (h.server.beat h.timebaseNs t)).2 ∧
      (h.conclude (h.server.beat h.timebaseNs t)).1 = !(h.step t).killed := by
  have hstep : h.step t = (h.conclude (h.server.beat h.timebaseNs t)).2 := by
    rw [step, hkilled, if_neg Bool.false_ne_true]
  refine ⟨hstep, ?_⟩
  rw [hstep, conclude, hkilled, Bool.false_or, Bool.not_not]

lemma stalledLoop_eq (n : Nat) {h : HeartbeatHandler} (hkilled : h.killed = false) :
    (stalledLoop n h).2 = (List.replicate n Tick.stalled).foldl step h ∧
      (stalledLoop n h).1 = !(stalledLoop n h).2.killed := by
  induction n generalizing h with
  | zero => exact ⟨rfl, by simp [stalledLoop, hkilled]⟩
  | succ n ih =>
    obtain ⟨hstep, hresult⟩ := step_conclude hkilled .stalled
    rw [List.replicate_succ, List.foldl_cons, stalledLoop, hstep]
    rw [hstep] at hresult
    simp only [SwapchainServer.beat] at hresult ⊢
    rcases hconclude : h.conclude h.server.heartbeatStalled with ⟨ok, h'⟩
    rw [hconclude] at hresult
    simp only at hresult
    cases ok with
    | false =>
      have hdead : h'.killed = true := by simpa using hresult.symm
      exact ⟨(foldl_killed hdead _).symm, hresult⟩
    | true => exact ih (by simpa using hresult.symm)

/-- The handler of the timer goes through the periods that have passed, one after the other. -/
theorem handle_eq {h : HeartbeatHandler} (hkilled : h.killed = false) (timeouts : Nat)
    (e : EncoderInput) : (h.handle timeouts e).2 =
      (List.replicate (timeouts - 1) Tick.stalled ++ [Tick.regular e]).foldl step h := by
  obtain ⟨hloop, hresult⟩ := stalledLoop_eq (timeouts - 1) hkilled
  rw [List.foldl_append, ← hloop, handle]
  rcases hend : stalledLoop (timeouts - 1) h with ⟨ok, h'⟩
  rw [hend] at hresult
  simp only at hresult
  cases ok with
  | false =>
    have hdead : h'.killed = true := by simpa using hresult.symm
    exact (foldl_killed hdead _).symm
  | true =>
    have halive : h'.killed = false := by simpa using hresult.symm
    exact (step_conclude halive (.regular e)).1.symm

/-- Along every series of heartbeats, clients are isolated from each other if and only if no client
refuses a message. -/
theorem clients_isolated_iff (h : HeartbeatHandler) (hnodup : h.server.handlers.Nodup)
    (ticks : List Tick) :
    Runs.Along step Isolated h ticks ↔ Runs.Along step AllReachable h ticks := by
  apply Runs.Along.congr (P := fun _ _ => True) (I := fun h => h.server.handlers.Nodup)
  · exact Runs.Along.of_forall fun _ _ => trivial
  · exact hnodup
  · intro h t hnodup _
    unfold step
    split
    · exact hnodup
    · rw [conclude, SwapchainServer.handlers_beat]
      exact hnodup
  · exact fun h t hnodup _ => isolated_iff hnodup t

/-- Two clients of which the first has an image that is due. -/
def twoClients (results : List Bool) : HeartbeatHandler where
  server := {
    videoEncode := ⟨false, false⟩
    handlers := [0, 1]
    chains := fun k => if k = 0 then {
      numImages := 1, images := fun _ => { state := .presentReady, presentId := 1, targetTimestamp := 1 }
      timestampCompleteMappings := [⟨1, 1⟩], sendResults := results } else {} }
  timebaseNs := 16666666

theorem clients_isolated_reachable : (twoClients [true]).server.handlers.Nodup ∧
    Runs.Along step Isolated (twoClients [true]) [.regular {}, .stalled] := by
  have hnodup : (twoClients [true]).server.handlers.Nodup := by decide
  exact ⟨hnodup, (clients_isolated_iff (twoClients [true]) hnodup _).2 (by decide)⟩

/-- The first client's socket is full: the second client misses the heartbeat, and the server ends. -/
theorem full_socket_ends_server : (twoClients [false]).server.handlers.Nodup ∧
    ¬Runs.Along step Isolated (twoClients [false]) [.regular {}] ∧
    ((twoClients [false]).step (.regular {})).killed = true ∧
    (((twoClients [false]).step (.regular {})).server.chains 1).timestampCompleted = 0 := by
  have hnodup : (twoClients [false]).server.handlers.Nodup := by decide
  refine ⟨hnodup, fun h => ?_, by decide, by decide⟩
  exact absurd ((isolated_iff hnodup _).1 h.1) (by decide)

end HeartbeatHandler

end PyroFling
