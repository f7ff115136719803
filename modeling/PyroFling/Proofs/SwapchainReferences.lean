import PyroFling.Library.Runs
import PyroFling.Proofs.ClientIsolation
import PyroFling.Proofs.ScanoutPacing
import PyroFling.SwapchainLifetime

/-!
# The references of swapchains

The references of a swapchain are those of its two connections in the dispatcher, of the list of handlers
and of its tasks, and those that were taken for a task that was not created after all. So nothing uses a
swapchain that has been deleted, whatever the order in which its connections and its tasks come to an end.
-/

namespace PyroFling
open RefCount

/-! ### What presents and notifications ask for -/

namespace Swapchain

variable {c : Swapchain} {v : VideoEncode} {input : PresentInput} {p : PresentImage}

lemma handlePresent_of_marksAsync (h : c.MarksAsync input p) :
    c.handlePresent v input p = (c.accept p).submitPresent v input p := by
  obtain ⟨hserial, hindex, hid, hstate, himported⟩ := h
  apply handlePresent_accepts
  rw [accepts, decide_eq_true_eq]
  refine ⟨hserial, hindex, hid, hstate, fun hfailed => ?_⟩
  rcases himported with hnone | himported
  · exact hfailed.1 hnone
  · rw [hfailed.2] at himported
    cases himported

lemma notifications_retireReplacedImages (c : Swapchain) :
    c.retireReplacedImages.2.notifications = c.notifications := by
  obtain ⟨limit, hr⟩ := retires_retireReplacedImages c
  exact hr.schedule.notifications

/-- A present that takes a reference creates a task, or the client is hung up on. -/
lemma createdTask_cases (h : c.MarksAsync input p) :
    (c.createdTask v input p).length = 1 ∨
      c.createdTask v input p = [] ∧ (c.handlePresent v input p).1 = false := by
  have hsent := (sameSchedule_send (c.accept p) (.ok p.serial)).1.notifications
  rw [createdTask, handlePresent_of_marksAsync h, submitPresent]
  rcases hsend : (c.accept p).send (.ok p.serial) with ⟨ok, c'⟩
  rw [hsend] at hsent
  have hold : c'.notifications = c.notifications := hsent
  cases ok with
  | false => exact .inr ⟨by rw [hold, List.drop_length], rfl⟩
  | true =>
    dsimp only
    rcases hasync : (if ((c.accept p).images p.index).srcCrossDeviceBuffer || !v.immediate then (true, c')
      else c'.handleAsync v input.encoder
        { serial := (c.accept p).imageGroupSerial, index := p.index, ts := input.ts } false) with ⟨ok, c''⟩
    have hkept : c''.notifications = c.notifications := by
      rw [← hold]
      split at hasync
      · rw [(Prod.mk.inj hasync).2]
      · have hhandled := (notifications_handleAsync c' v input.encoder
          { serial := (c.accept p).imageGroupSerial, index := p.index, ts := input.ts } false).1
        rw [hasync] at hhandled
        exact hhandled
    cases ok with
    | false => exact .inr ⟨by rw [hkept, List.drop_length], rfl⟩
    | true =>
      left
      dsimp only
      rw [notifications_retireReplacedImages, hkept, List.drop_left, List.length_singleton]

/-- The sentinel makes the connection of the pipe hang up. -/
lemma notify_sentinel (c : Swapchain) (v : VideoEncode) (e : EncoderInput) :
    (c.notify v e sentinel).1 = false := by
  have hindex : sentinel.index = uint64Max := rfl
  rw [notify, handleAsync, if_pos hindex]

end Swapchain

lemma SwapchainServer.cancelled_heartbeatStalledLoop (ks : List Nat) (s : SwapchainServer) :
    s.cancelled ⊆ (heartbeatStalledLoop ks s).2.cancelled := by
  induction ks generalizing s with
  | nil => exact List.Subset.refl _
  | cons k ks ih =>
    rw [heartbeatStalledLoop]
    split
    · exact List.subset_append_left _ _
    · exact ih (s.setChain k _)

lemma SwapchainServer.cancelled_heartbeatLoop (periodNs : Nat) (ks : List Nat) (surface : Option (Nat × Nat))
    (s : SwapchainServer) : s.cancelled ⊆ (heartbeatLoop periodNs ks surface s).2.2.cancelled := by
  induction ks generalizing s surface with
  | nil => exact List.Subset.refl _
  | cons k ks ih =>
    rw [heartbeatLoop]
    split
    · exact List.subset_append_left _ _
    · exact ih _ (s.setChain k _)
    · exact ih _ (s.setChain k _)

lemma SwapchainServer.cancelled_heartbeat (s : SwapchainServer) (periodNs : Nat) (e : EncoderInput) :
    s.cancelled ⊆ (s.heartbeat periodNs e).2.cancelled := by
  have hloop := cancelled_heartbeatLoop periodNs s.handlers none s
  rw [heartbeat]
  split
  · exact cancelled_heartbeatStalledLoop s.handlers s
  · rcases hresult : heartbeatLoop periodNs s.handlers none s with ⟨ok, surface, s'⟩
    rw [hresult] at hloop
    cases ok with
    | false => exact hloop
    | true =>
      dsimp only
      split
      · cases surface <;> exact hloop
      · exact hloop

namespace SwapchainHost

variable {R : Counting} {count : R.Counter → Nat} {s : SwapchainHost R} {f : Nat → Nat} {i : Nat}

/-! ### Single references -/

/-- The objects have `f` references, and none was used after its end. -/
structure Held (count : R.Counter → Nat) (f : Nat → Nat) (s : SwapchainHost R) : Prop where
  pool : s.pool.Sound count f
  safe : s.safe = true

lemma Held.congr {g : Nat → Nat} (h : Held count f s) (heq : ∀ j, g j = f j) : Held count g s where
  pool := h.pool.congr heq
  safe := h.safe

lemma Held.notMem_deleted (h : Held count f s) (hi : 0 < f i) : i ∉ s.pool.deleted := by
  have hcount := h.pool.deleted i
  rw [if_neg fun hzero => hi.ne' hzero.2] at hcount
  exact List.count_eq_zero.1 hcount

/-- An object with a reference may be used. -/
lemma Held.touch_eq (h : Held count f s) (hi : 0 < f i) : s.touch i = s := by
  rw [touch, decide_eq_true (h.notMem_deleted hi), Bool.and_true]

lemma Held.addReference (hR : R.Lawful count) (h : Held count f s) (hi : 0 < f i) :
    Held count (Function.update f i (f i + 1)) (s.addReference i) where
  pool := h.pool.addReference hR hi
  safe := by
    rw [SwapchainHost.addReference, h.touch_eq hi]
    exact h.safe

lemma Held.releaseReference (hR : R.Lawful count) (h : Held count f s) (hi : 0 < f i) :
    Held count (Function.update f i (f i - 1)) (s.releaseReference i) where
  pool := h.pool.releaseReference hR hi
  safe := by
    rw [SwapchainHost.releaseReference, h.touch_eq hi]
    exact h.safe

lemma Held.writePipe (h : Held count f s) (hi : 0 < f i) (n : Notification) :
    Held count f (s.writePipe i n) where
  pool := h.pool
  safe := by
    rw [SwapchainHost.writePipe, h.touch_eq hi]
    exact h.safe

lemma Held.unregisterHandler (hR : R.Lawful count) (h : Held count f s) (hi : 0 < f i)
    (hmem : i ∈ s.server.handlers) :
    Held count (Function.update f i (f i - 1)) (s.unregisterHandler i) := by
  have hassert : Held count f { s with
      server := { s.server with handlers := s.server.handlers.erase i }
      safe := s.safe && decide (i ∈ s.server.handlers) } :=
    ⟨h.pool, by rw [decide_eq_true hmem, Bool.and_true, h.safe]⟩
  exact hassert.releaseReference hR hi

/-! ### All references -/

/-- How many references there are to an object. -/
def holders (s : SwapchainHost R) (i : Nat) : Nat :=
  s.server.handlers.count i + (s.socket i).toNat + (s.pipe i).toNat + (s.tasks i).length + s.written i +
    s.forgotten i

/-- The references are accounted for, the list has the objects with a socket, and a pipe whose socket has
gone will hang up. A dispatcher that waits has a socket that is no longer in the list. -/
structure Kept (count : R.Counter → Nat) (s : SwapchainHost R) : Prop where
  held : Held count (holders s) s
  listed : ∀ i, s.stuck ≠ some i → s.server.handlers.count i = (s.socket i).toNat
  told : ∀ i < s.pool.made, s.refused i = false → s.socket i = false → s.pipe i = true →
    Swapchain.sentinel ∈ s.pending i
  waits : ∀ i, s.stuck = some i → s.server.handlers.count i = 0 ∧ s.socket i = true ∧ s.pipeFull i = true

/-- A reference is forgotten only when the client is about to be disconnected. -/
structure Inv (count : R.Counter → Nat) (s : SwapchainHost R) : Prop extends Kept count s where
  forgot : ∀ i, s.forgotten i ≠ 0 → s.socket i = false ∨ i ∈ s.server.cancelled ∨ s.stuck = some i

lemma ne_stuck (hfree : s.stuck = none) (i : Nat) : s.stuck ≠ some i := by
  rw [hfree]
  exact (Option.some_ne_none i).symm

lemma dropSocket_of_full (h : s.pipeFull i = true) :
    s.dropSocket i = { (s.unregisterHandler i).touch i with stuck := some i } := by
  have hfull : (s.unregisterHandler i).pipeFull i = true := h
  rw [dropSocket, releaseId, if_pos rfl]
  dsimp only
  rw [if_pos hfull, if_neg (Option.some_ne_none i)]

lemma dropSocket_of_room (hfree : s.stuck = none) (h : s.pipeFull i = false) :
    s.dropSocket i =
      { ((s.unregisterHandler i).writePipe i Swapchain.sentinel).releaseReference i with
        socket := Function.update s.socket i false } := by
  have hroom : ¬(s.unregisterHandler i).pipeFull i = true := by
    rw [Bool.not_eq_true]
    exact h
  rw [dropSocket, releaseId, if_pos rfl]
  dsimp only
  rw [if_neg hroom]
  exact if_pos hfree

lemma Kept.dropSocket (hR : R.Lawful count) (h : Kept count s) (hfree : s.stuck = none)
    (hi : s.socket i = true) : Kept count (s.dropSocket i) := by
  have hall : ∀ j, s.server.handlers.count j = (s.socket j).toNat := fun j => h.listed j (ne_stuck hfree j)
  have hlisted := hall i
  rw [hi, Bool.toNat_true] at hlisted
  have hmem : i ∈ s.server.handlers := List.count_pos_iff.1 (by omega)
  have hmine : 2 ≤ holders s i := by
    rw [holders, hlisted, hi, Bool.toNat_true]
    omega
  have hlist := h.held.unregisterHandler hR (i := i) (by omega) hmem
  have hleft : 0 < Function.update (holders s) i (holders s i - 1) i := by
    rw [Function.update_self]
    omega
  cases hfull : s.pipeFull i with
  | true =>
    rw [dropSocket_of_full hfull, hlist.touch_eq hleft]
    refine ⟨Held.congr ⟨hlist.pool, hlist.safe⟩ fun j => ?_, fun j hj => ?_, h.told, fun j hj => ?_⟩
    · change (s.server.handlers.erase i).count j + (s.socket j).toNat + (s.pipe j).toNat +
        (s.tasks j).length + s.written j + s.forgotten j = _
      rcases eq_or_ne j i with rfl | hne
      · rw [Function.update_self, List.count_erase_self, holders]
        omega
      · rw [Function.update_of_ne hne, List.count_erase_of_ne hne]
        rfl
    · have hne : j ≠ i := fun heq => hj (congrArg some heq.symm)
      change (s.server.handlers.erase i).count j = _
      rw [List.count_erase_of_ne hne]
      exact hall j
    · obtain rfl : i = j := Option.some.inj hj
      refine ⟨?_, hi, hfull⟩
      change (s.server.handlers.erase i).count i = 0
      rw [List.count_erase_self, hlisted]
  | false =>
    have hwritten := hlist.writePipe hleft Swapchain.sentinel
    have hreleased := hwritten.releaseReference hR hleft
    rw [dropSocket_of_room hfree hfull]
    refine ⟨Held.congr ⟨hreleased.pool, hreleased.safe⟩ fun j => ?_, fun j _ => ?_,
      fun j hj hrefused hsocket hpipe => ?_, fun j hj => ?_⟩
    · change (s.server.handlers.erase i).count j + (Function.update s.socket i false j).toNat +
        (s.pipe j).toNat + (s.tasks j).length + s.written j + s.forgotten j = _
      rcases eq_or_ne j i with rfl | hne
      · rw [Function.update_self, Function.update_self, Function.update_self, List.count_erase_self, holders,
          hi, Bool.toNat_true, Bool.toNat_false]
        omega
      · rw [Function.update_of_ne hne, Function.update_of_ne hne, Function.update_of_ne hne,
          List.count_erase_of_ne hne]
        rfl
    · change (s.server.handlers.erase i).count j = (Function.update s.socket i false j).toNat
      rcases eq_or_ne j i with rfl | hne
      · rw [Function.update_self, List.count_erase_self, hlisted]
        rfl
      · rw [Function.update_of_ne hne, List.count_erase_of_ne hne, hall j]
    · change s.pipe j = true at hpipe
      change Function.update s.socket i false j = false at hsocket
      change _ ∈ (if s.pipe i then Function.update s.pending i (s.pending i ++ [Swapchain.sentinel])
        else s.pending) j
      rcases eq_or_ne j i with rfl | hne
      · rw [if_pos hpipe, Function.update_self]
        exact List.mem_append_right _ (List.mem_singleton_self _)
      · rw [Function.update_of_ne hne] at hsocket
        have hold := h.told j hj hrefused hsocket hpipe
        split
        · rw [Function.update_of_ne hne]
          exact hold
        · exact hold
    · exact absurd hj (ne_stuck hfree j)

/-- Who refers to an object depends on these fields only. -/
lemma Kept.congr {s' : SwapchainHost R} (h : Kept count s) (hpool : s'.pool = s.pool) (hsafe : s'.safe = s.safe)
    (hhandlers : s'.server.handlers = s.server.handlers) (hsocket : s'.socket = s.socket)
    (hpipe : s'.pipe = s.pipe) (hpending : s'.pending = s.pending) (hrefused : s'.refused = s.refused)
    (hstuck : s'.stuck = s.stuck) (hcount : ∀ i, (s'.tasks i).length + s'.written i + s'.forgotten i =
      (s.tasks i).length + s.written i + s.forgotten i) : Kept count s' := by
  refine ⟨⟨?_, hsafe.trans h.held.safe⟩, ?_, ?_, ?_⟩
  · rw [hpool]
    refine h.held.pool.congr fun i => ?_
    have hrest := hcount i
    rw [holders, holders, hhandlers, hsocket, hpipe]
    omega
  · rw [hhandlers, hsocket, hstuck]
    exact h.listed
  · rw [hpool, hrefused, hsocket, hpipe, hpending]
    exact h.told
  · intro i hi
    rw [hstuck] at hi
    rw [hhandlers, hsocket, pipeFull, hpipe, hpending]
    exact h.waits i hi

lemma Held.dropPipe (hR : R.Lawful count) (h : Held count f s) (hi : 0 < f i) :
    Held count (Function.update f i (f i - 1)) (s.dropPipe i) := by
  have hstart : Held count f { s with
      pipe := Function.update s.pipe i false
      pending := Function.update s.pending i [] } := ⟨h.pool, h.safe⟩
  exact hstart.releaseReference hR hi

lemma Kept.dropPipe (hR : R.Lawful count) (h : Kept count s) (hfree : s.stuck = none)
    (hi : s.pipe i = true) : Kept count (s.dropPipe i) := by
  have hmine : 0 < holders s i := by
    rw [holders, hi, Bool.toNat_true]
    omega
  refine ⟨(h.held.dropPipe hR hmine).congr fun j => ?_, h.listed, fun j hj hrefused hsocket hpipe => ?_,
    fun j hj => ?_⟩
  · change s.server.handlers.count j + (s.socket j).toNat + (Function.update s.pipe i false j).toNat +
      (s.tasks j).length + s.written j + s.forgotten j = _
    rcases eq_or_ne j i with rfl | hne
    · rw [Function.update_self, Function.update_self, holders, hi, Bool.toNat_true, Bool.toNat_false]
      omega
    · rw [Function.update_of_ne hne, Function.update_of_ne hne]
      rfl
  · change Function.update s.pipe i false j = true at hpipe
    change _ ∈ Function.update s.pending i [] j
    rcases eq_or_ne j i with rfl | hne
    · rw [Function.update_self] at hpipe
      cases hpipe
    · rw [Function.update_of_ne hne] at hpipe ⊢
      exact h.told j hj hrefused hsocket hpipe
  · exact absurd hj (ne_stuck hfree j)

lemma Kept.hangUp (hR : R.Lawful count) (h : Kept count s) (hfree : s.stuck = none)
    (hi : s.socket i = true) : Kept count (s.hangUp i) := by
  rw [SwapchainHost.hangUp]
  split
  · exact h
  · exact h.dropSocket hR hfree hi

/-- Nobody refers to an object that has not been made. -/
lemma Kept.unmade (h : Kept count s) : s.server.handlers.count s.pool.made = 0 ∧
    s.socket s.pool.made = false ∧ s.pipe s.pool.made = false ∧ s.tasks s.pool.made = [] ∧
    s.written s.pool.made = 0 ∧ s.forgotten s.pool.made = 0 := by
  have hnone := h.held.pool.unmade s.pool.made (Nat.le_refl _)
  rw [holders] at hnone
  refine ⟨by omega, Bool.toNat_eq_zero.1 (by omega), Bool.toNat_eq_zero.1 (by omega), ?_, by omega, by omega⟩
  exact List.length_eq_zero_iff.1 (by omega)

lemma Kept.held_construct (hR : R.Lawful count) (h : Kept count s) (pipeAccepted : Bool)
    (sendResults : List Bool) :
    Held count (Function.update (holders s) s.pool.made (1 + pipeAccepted.toNat))
      (s.construct pipeAccepted sendResults) := by
  have hpool := (h.held.pool.make hR).addReference hR (i := s.pool.made)
    (by rw [Function.update_self]; exact Nat.one_pos)
  rw [Function.update_self, Function.update_idem] at hpool
  have hmade : Held count (Function.update (holders s) s.pool.made 2) { s with
      pool := s.pool.make.addReference s.pool.made
      pipe := Function.update s.pipe s.pool.made true
      server := { s.server with
        chains := Function.update s.server.chains s.pool.made { sendResults := sendResults }
        numChains := s.server.numChains + 1 } } := ⟨hpool, h.held.safe⟩
  cases pipeAccepted with
  | true => exact hmade
  | false =>
    have hdropped := hmade.dropPipe hR (i := s.pool.made) (by rw [Function.update_self]; omega)
    rw [Function.update_self, Function.update_idem] at hdropped
    exact hdropped

lemma Kept.held_register (hR : R.Lawful count) (h : Kept count s) (pipeAccepted created : Bool)
    (sendResults : List Bool) :
    Held count (Function.update (holders s) s.pool.made (2 * created.toNat + pipeAccepted.toNat))
      (s.register pipeAccepted created sendResults) := by
  have hmade := h.held_construct hR pipeAccepted sendResults
  cases created with
  | true =>
    have hadded := hmade.addReference hR (i := s.pool.made) (by rw [Function.update_self]; omega)
    rw [Function.update_self, Function.update_idem] at hadded
    refine Held.congr ⟨hadded.pool, hadded.safe⟩ fun j => ?_
    congr 1
    rw [Bool.toNat_true]
    omega
  | false =>
    have hreleased := hmade.releaseReference hR (i := s.pool.made) (by rw [Function.update_self]; omega)
    rw [Function.update_self, Function.update_idem] at hreleased
    refine Held.congr ⟨hreleased.pool, hreleased.safe⟩ fun j => ?_
    congr 1
    rw [Bool.toNat_false]
    omega

/-- What a new object has, and that the others are left alone. -/
structure Registered (i : Nat) (pipeAccepted created : Bool) (s s' : SwapchainHost R) : Prop where
  made : s'.pool.made = s.pool.made + 1
  handlers : s'.server.handlers = s.server.handlers ++ if created then [i] else []
  cancelled : s'.server.cancelled = s.server.cancelled
  socket : s'.socket = if created then Function.update s.socket i true else s.socket
  pipe : s'.pipe = Function.update s.pipe i pipeAccepted
  pending : ∀ j ≠ i, s'.pending j = s.pending j
  tasks : s'.tasks = s.tasks
  written : s'.written = s.written
  forgotten : s'.forgotten = s.forgotten
  refused : s'.refused = if created then s.refused else Function.update s.refused i true
  stuck : s'.stuck = s.stuck

lemma registered_register (s : SwapchainHost R) (pipeAccepted created : Bool) (sendResults : List Bool) :
    Registered s.pool.made pipeAccepted created s (s.register pipeAccepted created sendResults) := by
  have hpipe : Function.update (Function.update s.pipe s.pool.made true) s.pool.made false =
      Function.update s.pipe s.pool.made false := Function.update_idem _ _ _
  have hpending : ∀ j ≠ s.pool.made, Function.update s.pending s.pool.made [] j = s.pending j :=
    fun j hne => Function.update_of_ne hne _ _
  have hnone : s.server.handlers = s.server.handlers ++ [] := (List.append_nil _).symm
  cases created <;> cases pipeAccepted
  · exact ⟨rfl, hnone, rfl, rfl, hpipe, hpending, rfl, rfl, rfl, rfl, rfl⟩
  · exact ⟨rfl, hnone, rfl, rfl, rfl, fun _ _ => rfl, rfl, rfl, rfl, rfl, rfl⟩
  · exact ⟨rfl, rfl, rfl, rfl, hpipe, hpending, rfl, rfl, rfl, rfl, rfl⟩
  · exact ⟨rfl, rfl, rfl, rfl, rfl, fun _ _ => rfl, rfl, rfl, rfl, rfl, rfl⟩

lemma Kept.register (hR : R.Lawful count) (h : Kept count s) (hfree : s.stuck = none)
    (pipeAccepted created : Bool) (sendResults : List Bool) : Kept count (s.register pipeAccepted created sendResults) := by
  have hnew := registered_register s pipeAccepted created sendResults
  obtain ⟨hhandlers, hsocket, hpipe, htasks, hwritten, hforgotten⟩ := h.unmade
  refine ⟨(h.held_register hR pipeAccepted created sendResults).congr fun j => ?_, fun j _ => ?_,
    fun j hj hrefused hclosed hopen => ?_, fun j hj => ?_⟩
  · rw [holders, hnew.handlers, hnew.socket, hnew.pipe, hnew.tasks, hnew.written, hnew.forgotten,
      List.count_append]
    rcases eq_or_ne j s.pool.made with rfl | hne
    · rw [Function.update_self, Function.update_self, hhandlers, htasks, hwritten, hforgotten]
      cases created <;> simp [hsocket]
    · rw [Function.update_of_ne hne, Function.update_of_ne hne, holders]
      cases created <;> simp [hne, hne.symm]
  · rw [hnew.handlers, hnew.socket, List.count_append]
    rcases eq_or_ne j s.pool.made with rfl | hne
    · rw [hhandlers]
      cases created <;> simp [hsocket]
    · rw [h.listed j (ne_stuck hfree j)]
      cases created <;> simp [hne, hne.symm]
  · rw [hnew.refused] at hrefused
    rw [hnew.socket] at hclosed
    rw [hnew.pipe] at hopen
    rcases eq_or_ne j s.pool.made with rfl | hne
    · cases created <;> simp at hrefused hclosed
    · rw [hnew.pending j hne]
      rw [Function.update_of_ne hne] at hopen
      have hold : j < s.pool.made := by
        have hmade := hnew.made
        omega
      apply h.told j hold _ _ hopen
      · cases created <;> simpa [hne] using hrefused
      · cases created <;> simpa [hne] using hclosed
  · rw [hnew.stuck] at hj
    exact absurd hj (ne_stuck hfree j)

/-! ### Requests, tasks and notifications -/

lemma Kept.setChain (h : Kept count s) (i : Nat) (c : Swapchain) : Kept count (s.setChain i c) :=
  h.congr rfl rfl rfl rfl rfl rfl rfl rfl fun _ => rfl

lemma Kept.touch_eq (h : Kept count s) (hi : 0 < holders s i) : s.touch i = s := h.held.touch_eq hi

/-- The present holds one reference for its task, whether there is a task or not. -/
lemma Kept.markAsync (hR : R.Lawful count) (h : Kept count s) (hi : s.socket i = true) (input : PresentInput)
    (p : PresentImage) : Kept count (s.markAsync i input p) := by
  rw [SwapchainHost.markAsync]
  dsimp only
  split
  case isFalse => exact h
  case isTrue hmarks =>
    have hmine : 0 < holders s i := by
      rw [holders, hi, Bool.toNat_true]
      omega
    have hadded := h.held.addReference hR hmine
    refine ⟨Held.congr ⟨hadded.pool, hadded.safe⟩ fun j => ?_, h.listed, h.told, h.waits⟩
    have hone : ((s.server.chains i).createdTask s.server.videoEncode input p).length +
        (1 - ((s.server.chains i).createdTask s.server.videoEncode input p).length) = 1 := by
      rcases Swapchain.createdTask_cases hmarks with hone | ⟨hnone, -⟩
      · rw [hone]
      · rw [hnone]
        rfl
    change s.server.handlers.count j + (s.socket j).toNat + (s.pipe j).toNat +
      (Function.update s.tasks i _ j).length + s.written j + Function.update s.forgotten i _ j = _
    rcases eq_or_ne j i with rfl | hne
    · rw [Function.update_self, Function.update_self, Function.update_self, List.length_append, holders]
      omega
    · rw [Function.update_of_ne hne, Function.update_of_ne hne, Function.update_of_ne hne]
      rfl

lemma Kept.request (hR : R.Lawful count) (h : Kept count s) (hi : s.socket i = true) (r : ClientRequest) :
    Kept count (s.request i r).2 := by
  cases r with
  | imageGroup input g => exact h.setChain i _
  | present input p => exact (h.markAsync hR hi input p).setChain i _
  | other => exact h

lemma socket_request (s : SwapchainHost R) (i : Nat) (r : ClientRequest) :
    (s.request i r).2.socket = s.socket ∧ (s.request i r).2.server.cancelled = s.server.cancelled ∧
      (s.request i r).2.stuck = s.stuck := by
  cases r with
  | imageGroup input g => exact ⟨rfl, rfl, rfl⟩
  | present input p =>
    change (s.markAsync i input p).socket = s.socket ∧ (s.markAsync i input p).server.cancelled = _ ∧
      (s.markAsync i input p).stuck = s.stuck
    rw [markAsync]
    dsimp only
    split <;> exact ⟨rfl, rfl, rfl⟩
  | other => exact ⟨rfl, rfl, rfl⟩

/-- A reference is forgotten only if the client is hung up on. -/
lemma forgotten_request (s : SwapchainHost R) (i j : Nat) (r : ClientRequest)
    (h : j ≠ i ∨ (s.request i r).1 = true) : (s.request i r).2.forgotten j = s.forgotten j := by
  cases r with
  | imageGroup input g => rfl
  | present input p =>
    change (s.markAsync i input p).forgotten j = s.forgotten j
    rw [markAsync]
    dsimp only
    split
    case isFalse => rfl
    case isTrue hmarks =>
      rcases h with hne | hanswered
      · exact Function.update_of_ne hne _ _
      · have hone := (Swapchain.createdTask_cases hmarks).resolve_right fun hfailed =>
          Bool.false_ne_true (hfailed.2.symm.trans hanswered)
        change Function.update s.forgotten i _ j = s.forgotten j
        rw [hone]
        exact congrFun (Function.update_eq_self i s.forgotten) j
  | other => rfl

lemma Kept.writeNotification (h : Kept count s) {n : Notification} (hn : n ∈ s.tasks i)
    (hroom : s.pipeFull i = false) : Kept count ({ s with
      tasks := Function.update s.tasks i ((s.tasks i).erase n)
      written := Function.update s.written i (s.written i + 1) }.writePipe i n) := by
  have hlength := List.length_erase_of_mem hn
  have hpos := List.length_pos_of_mem hn
  have hmoved : Kept count { s with
      tasks := Function.update s.tasks i ((s.tasks i).erase n)
      written := Function.update s.written i (s.written i + 1) } := by
    refine h.congr rfl rfl rfl rfl rfl rfl rfl rfl fun j => ?_
    dsimp only
    rcases eq_or_ne j i with rfl | hne
    · rw [Function.update_self, Function.update_self, hlength]
      omega
    · rw [Function.update_of_ne hne, Function.update_of_ne hne]
  have hmine : 0 < holders { s with
      tasks := Function.update s.tasks i ((s.tasks i).erase n)
      written := Function.update s.written i (s.written i + 1) } i := by
    rw [holders]
    dsimp only
    rw [Function.update_self, Function.update_self]
    omega
  refine ⟨(hmoved.held.writePipe hmine n).congr fun j => rfl, hmoved.listed, ?_, ?_⟩
  · intro j hj hrefused hsocket hpipe
    have hold := hmoved.told j hj hrefused hsocket hpipe
    change _ ∈ (if s.pipe i then Function.update s.pending i (s.pending i ++ [n]) else s.pending) j
    split
    · rcases eq_or_ne j i with rfl | hne
      · rw [Function.update_self]
        exact List.mem_append_left _ hold
      · rw [Function.update_of_ne hne]
        exact hold
    · exact hold
  · intro j hj
    obtain ⟨hunlisted, hopen, hfull⟩ := h.waits j hj
    have hne : j ≠ i := by
      rintro rfl
      rw [hroom] at hfull
      cases hfull
    refine ⟨hunlisted, hopen, ?_⟩
    change (s.pipe j && decide (pipeCapacity ≤
      ((if s.pipe i then Function.update s.pending i (s.pending i ++ [n]) else s.pending) j).length)) = true
    split
    · rw [Function.update_of_ne hne]
      exact hfull
    · exact hfull

lemma Kept.finishTask (hR : R.Lawful count) (h : Kept count s) (hi : s.written i ≠ 0) :
    Kept count ({ s with
      written := Function.update s.written i (s.written i - 1) }.releaseReference i) := by
  have hmine : 0 < holders s i := by
    rw [holders]
    omega
  have hstart : Held count (holders s) { s with written := Function.update s.written i (s.written i - 1) } :=
    ⟨h.held.pool, h.held.safe⟩
  refine ⟨(hstart.releaseReference hR hmine).congr fun j => ?_, h.listed, h.told, h.waits⟩
  change s.server.handlers.count j + (s.socket j).toNat + (s.pipe j).toNat + (s.tasks j).length +
    Function.update s.written i (s.written i - 1) j + s.forgotten j = _
  rcases eq_or_ne j i with rfl | hne
  · rw [Function.update_self, Function.update_self, holders]
    omega
  · rw [Function.update_of_ne hne, Function.update_of_ne hne]
    rfl

/-- A notification is read: the sentinel closes the pipe, whatever came before it. -/
lemma Kept.readPipe (hR : R.Lawful count) (h : Kept count s) (hfree : s.stuck = none)
    (hi : s.pipe i = true) (e : EncoderInput) : Kept count (s.readPipe i e) := by
  have hmine : 0 < holders s i := by
    rw [holders, hi, Bool.toNat_true]
    omega
  rw [SwapchainHost.readPipe]
  cases hpending : s.pending i with
  | nil => exact h
  | cons n ns =>
    dsimp only
    rw [h.touch_eq hmine]
    split
    case isFalse =>
      -- Only what is pending has changed, and that is dropped.
      have hdropped := h.dropPipe hR hfree hi
      refine ⟨⟨hdropped.held.pool, ?_⟩, hdropped.listed, ?_, fun j hj => absurd hj (ne_stuck hfree j)⟩
      · exact hdropped.held.safe
      · intro j hj hrefused hsocket hpipe
        have hold := hdropped.told j hj hrefused hsocket hpipe
        change _ ∈ Function.update (Function.update s.pending i ns) i [] j
        rw [Function.update_idem]
        exact hold
    case isTrue hgoes =>
      refine ⟨⟨h.held.pool, h.held.safe⟩, h.listed, ?_, fun j hj => absurd hj (ne_stuck hfree j)⟩
      intro j hj hrefused hsocket hpipe
      have hold := h.told j hj hrefused hsocket hpipe
      change _ ∈ Function.update s.pending i ns j
      rcases eq_or_ne j i with rfl | hne
      · rw [Function.update_self]
        rw [hpending] at hold
        refine (List.mem_cons.1 hold).resolve_left fun heq => ?_
        rw [← heq, Swapchain.notify_sentinel] at hgoes
        cases hgoes
      · rw [Function.update_of_ne hne]
        exact hold

/-- The handlers of the list may be used. -/
lemma Kept.touch_handlers (h : Kept count s) {is : List Nat} (his : is ⊆ s.server.handlers) :
    is.foldl touch s = s := by
  induction is with
  | nil => rfl
  | cons i is ih =>
    obtain ⟨hi, hrest⟩ := List.cons_subset.1 his
    have hmine : 0 < holders s i := by
      have hpos := List.count_pos_iff.2 hi
      rw [holders]
      omega
    rw [List.foldl_cons, h.touch_eq hmine]
    exact ih hrest

lemma Kept.heartbeat (h : Kept count s) (periodNs : Nat) (e : EncoderInput) :
    Kept count { s.server.handlers.foldl touch s with server := (s.server.heartbeat periodNs e).2 } := by
  rw [h.touch_handlers (List.Subset.refl _)]
  exact h.congr rfl rfl (SwapchainServer.handlers_beat s.server periodNs (.regular e)) rfl rfl rfl rfl rfl
    fun _ => rfl

/-! ### Runs -/

lemma Inv.of_fields {s' : SwapchainHost R} (h : Inv count s) (hkept : Kept count s')
    (hforgotten : s'.forgotten = s.forgotten) (hsocket : ∀ j, s'.socket j = true → s.socket j = true)
    (hcancelled : s.server.cancelled ⊆ s'.server.cancelled) (hstuck : s.stuck = none ∨ s'.stuck = s.stuck) :
    Inv count s' where
  toKept := hkept
  forgot j hj := by
    rw [hforgotten] at hj
    rcases h.forgot j hj with hclosed | hmem | hwaits
    · left
      by_contra hopen
      rw [hsocket j (Bool.eq_true_of_not_eq_false hopen)] at hclosed
      cases hclosed
    · exact .inr (.inl (hcancelled hmem))
    · refine .inr (.inr ?_)
      rcases hstuck with hfree | hsame
      · exact absurd hwaits (ne_stuck hfree j)
      · rw [hsame]
        exact hwaits

/-- A client that is hung up on has lost its connection, unless the dispatcher waits. -/
lemma dropSocket_fields (hfree : s.stuck = none) (i : Nat) :
    (s.dropSocket i).forgotten = s.forgotten ∧ (s.dropSocket i).server.cancelled = s.server.cancelled ∧
      (∀ j ≠ i, (s.dropSocket i).socket j = s.socket j) ∧
      if s.pipeFull i then (s.dropSocket i).stuck = some i ∧ (s.dropSocket i).socket i = s.socket i
      else (s.dropSocket i).stuck = none ∧ (s.dropSocket i).socket i = false := by
  cases hfull : s.pipeFull i with
  | true =>
    rw [dropSocket_of_full hfull]
    exact ⟨rfl, rfl, fun _ _ => rfl, rfl, rfl⟩
  | false =>
    rw [dropSocket_of_room hfree hfull]
    exact ⟨rfl, rfl, fun j hne => Function.update_of_ne hne _ _, hfree, Function.update_self _ _ _⟩

lemma Inv.dropSocket (hR : R.Lawful count) (h : Inv count s) (hfree : s.stuck = none)
    (hi : s.socket i = true) : Inv count (s.dropSocket i) := by
  obtain ⟨hforgotten, hcancelled, hothers, -⟩ := dropSocket_fields hfree i
  refine h.of_fields (h.toKept.dropSocket hR hfree hi) hforgotten (fun j hj => ?_) ?_ (.inl hfree)
  · rcases eq_or_ne j i with rfl | hne
    · exact hi
    · rwa [hothers j hne] at hj
  · rw [hcancelled]
    exact List.Subset.refl _

/-- After hanging up it does not matter what was forgotten. -/
lemma Kept.inv_hangUp (hR : R.Lawful count) (h : Kept count s) (hfree : s.stuck = none)
    (hi : s.socket i = true)
    (hforgot : ∀ j ≠ i, s.forgotten j ≠ 0 → s.socket j = false ∨ j ∈ s.server.cancelled) :
    Inv count (s.hangUp i) where
  toKept := h.hangUp hR hfree hi
  forgot j hj := by
    rw [SwapchainHost.hangUp] at hj ⊢
    split at hj
    case isTrue hmem =>
      rw [if_pos hmem]
      rcases eq_or_ne j i with rfl | hne
      · exact .inr (.inl hmem)
      · exact (hforgot j hne hj).imp_right .inl
    case isFalse hmem =>
      obtain ⟨hforgotten, hcancelled, hothers, hlast⟩ := dropSocket_fields hfree i
      rw [if_neg hmem]
      rcases eq_or_ne j i with rfl | hne
      · split at hlast
        · exact .inr (.inr hlast.1)
        · exact .inl hlast.2
      · rw [hothers j hne, hcancelled]
        rw [hforgotten] at hj
        exact (hforgot j hne hj).imp_right .inl

/-- Who was forgotten, as long as the dispatcher does not wait. -/
lemma Inv.forgot_of_free (h : Inv count s) (hfree : s.stuck = none) (j : Nat) (hj : s.forgotten j ≠ 0) :
    s.socket j = false ∨ j ∈ s.server.cancelled :=
  (h.forgot j hj).imp_right fun hor => hor.resolve_right (ne_stuck hfree j)

lemma Inv.register (hR : R.Lawful count) (h : Inv count s) (hfree : s.stuck = none)
    (pipeAccepted created : Bool) (sendResults : List Bool) :
    Inv count (s.register pipeAccepted created sendResults) where
  toKept := h.toKept.register hR hfree pipeAccepted created sendResults
  forgot j hj := by
    have hnew := registered_register s pipeAccepted created sendResults
    rw [hnew.forgotten] at hj
    rw [hnew.socket, hnew.cancelled, hnew.stuck]
    have hne : j ≠ s.pool.made := by
      rintro rfl
      exact hj h.unmade.2.2.2.2.2
    cases created with
    | true =>
      rw [if_pos rfl, Function.update_of_ne hne]
      exact h.forgot j hj
    | false => exact h.forgot j hj

lemma Inv.request (hR : R.Lawful count) (h : Inv count s) (hfree : s.stuck = none)
    (hi : s.socket i = true) (r : ClientRequest) :
    Inv count (if (s.request i r).1 then (s.request i r).2 else (s.request i r).2.hangUp i) := by
  have hkept := h.toKept.request hR hi r
  obtain ⟨hsocket, hcancelled, hstuck⟩ := socket_request s i r
  split
  case isTrue hanswered =>
    have hforgotten : (s.request i r).2.forgotten = s.forgotten :=
      funext fun j => forgotten_request s i j r (.inr hanswered)
    refine h.of_fields hkept hforgotten ?_ ?_ (.inl hfree)
    · rw [hsocket]
      exact fun _ hj => hj
    · rw [hcancelled]
      exact List.Subset.refl _
  case isFalse =>
    apply hkept.inv_hangUp hR (hstuck.trans hfree)
    · rw [hsocket]
      exact hi
    · intro j hne hj
      rw [forgotten_request s i j r (.inl hne)] at hj
      rw [hsocket, hcancelled]
      exact h.forgot_of_free hfree j hj

lemma readPipe_fields (s : SwapchainHost R) (i : Nat) (e : EncoderInput) :
    (s.readPipe i e).forgotten = s.forgotten ∧ (s.readPipe i e).socket = s.socket ∧
      (s.readPipe i e).server.cancelled = s.server.cancelled ∧
      (s.readPipe i e).server.handlers = s.server.handlers ∧ (s.readPipe i e).stuck = s.stuck := by
  rw [readPipe]
  split
  · exact ⟨rfl, rfl, rfl, rfl, rfl⟩
  · dsimp only
    split <;> exact ⟨rfl, rfl, rfl, rfl, rfl⟩

lemma Inv.performTask (hR : R.Lawful count) (h : Inv count s) {a : Action} (ha : a.byTask = true) :
    Inv count (s.perform a) := by
  cases a with
  | writeNotification i n =>
    rw [perform]
    split
    case isTrue hgoes =>
      exact h.of_fields (h.toKept.writeNotification hgoes.1 hgoes.2) rfl (fun _ hj => hj)
        (List.Subset.refl _) (.inr rfl)
    case isFalse => exact h
  | finishTask i =>
    rw [perform]
    split
    case isTrue => exact h
    case isFalse hi =>
      exact h.of_fields (h.toKept.finishTask hR hi) rfl (fun _ hj => hj) (List.Subset.refl _) (.inr rfl)
  | register | request | dropSocket | dropPipe | readPipe | heartbeat => cases ha

lemma Inv.performDispatcher (hR : R.Lawful count) (h : Inv count s) (hfree : s.stuck = none) {a : Action}
    (ha : ¬a.byTask = true) : Inv count (s.perform a) := by
  cases a with
  | register pipeAccepted created sent sendResults =>
    have hregistered := h.register hR hfree pipeAccepted created sendResults
    have hnew := registered_register s pipeAccepted created sendResults
    rw [perform]
    split
    case isFalse => exact hregistered
    case isTrue hfailed =>
      obtain ⟨rfl, -⟩ := (Bool.and_eq_true _ _).mp hfailed
      have hstill := hnew.stuck.trans hfree
      apply hregistered.toKept.inv_hangUp hR hstill
      · rw [hnew.socket, if_pos rfl, Function.update_self]
      · exact fun j _ hj => hregistered.forgot_of_free hstill j hj
  | request i r =>
    rw [perform]
    split
    case isFalse => exact h
    case isTrue hi =>
      have hmine : 0 < holders s i := by
        rw [holders, hi, Bool.toNat_true]
        omega
      rw [h.touch_eq hmine]
      exact h.request hR hfree hi r
  | dropSocket i =>
    rw [perform]
    split
    case isTrue hi => exact h.dropSocket hR hfree hi
    case isFalse => exact h
  | dropPipe i =>
    rw [perform]
    split
    case isTrue hi =>
      exact h.of_fields (h.toKept.dropPipe hR hfree hi) rfl (fun _ hj => hj) (List.Subset.refl _) (.inl hfree)
    case isFalse => exact h
  | readPipe i e =>
    rw [perform]
    split
    case isTrue hi =>
      obtain ⟨hforgotten, hsocket, hcancelled, -⟩ := readPipe_fields s i e
      refine h.of_fields (h.toKept.readPipe hR hfree hi e) hforgotten ?_ ?_ (.inl hfree)
      · rw [hsocket]
        exact fun _ hj => hj
      · rw [hcancelled]
        exact List.Subset.refl _
    case isFalse => exact h
  | heartbeat periodNs e =>
    have hkept := h.toKept.heartbeat periodNs e
    refine h.of_fields hkept ?_ ?_ (s.server.cancelled_heartbeat periodNs e) (.inl hfree)
    · change (s.server.handlers.foldl touch s).forgotten = s.forgotten
      rw [h.touch_handlers (List.Subset.refl _)]
    · change ∀ j, (s.server.handlers.foldl touch s).socket j = true → _
      rw [h.touch_handlers (List.Subset.refl _)]
      exact fun _ hj => hj
  | writeNotification | finishTask => exact absurd rfl ha

/-- While the dispatcher waits only the tasks go on. -/
lemma Inv.step (hR : R.Lawful count) (h : Inv count s) (a : Action) : Inv count (s.step a) := by
  rw [SwapchainHost.step]
  by_cases ha : a.byTask = true
  · rw [if_pos (.inr ha)]
    exact h.performTask hR ha
  · by_cases hfree : s.stuck = none
    · rw [if_pos (.inl hfree)]
      exact h.performDispatcher hR hfree ha
    · rw [if_neg fun hor => hor.elim hfree ha]
      exact h

lemma Inv.initial (v : VideoEncode) : Inv count (initial R v) where
  held := ⟨Pool.Sound.initial.congr fun _ => rfl, rfl⟩
  listed _ _ := rfl
  told _ hi := absurd hi (Nat.not_lt_zero _)
  waits i hi := absurd hi (ne_stuck rfl i)
  forgot _ hi := absurd rfl hi

end SwapchainHost

end PyroFling
