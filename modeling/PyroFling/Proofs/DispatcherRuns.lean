import PyroFling.Library.SwapRemove
import PyroFling.Listener

/-!
# Runs of the dispatcher

Every connection that was ever created is in exactly one place: among the connections, among the
cancellations or destroyed, and those that are not destroyed are exactly what is registered with
epoll. A connection that hangs up after it was cancelled breaks this, and it is all that can.
-/

namespace PyroFling
open SwapRemove

/-- What stays the same for as long as a connection exists. -/
def Connection.slot (c : Connection) : Nat × Nat := (c.key, c.fd)

/-- Nothing but the end of a sentinel ends the loop. -/
def Exit.Regular (e : Exit) : Prop := e = .goesOn ∨ e = .sentinelEnded

lemma Exit.regular_ite (isSentinel : Bool) :
    (if isSentinel then Exit.sentinelEnded else Exit.goesOn).Regular := by
  cases isSentinel
  · exact .inl rfl
  · exact .inr rfl

namespace PollEvent

/-- The connection that an event is for. -/
def key? : PollEvent → Option Nat
  | .ready key .. => some key
  | _ => none

def readyKeys (events : List PollEvent) : List Nat := events.filterMap key?

end PollEvent

namespace Dispatcher

/-- The bookkeeping is right. -/
structure Sound (d : Dispatcher) : Prop where
  isOpen : d.isOpen = true
  placed : (d.live.map Connection.key ++ d.removed).Perm (List.range d.nextKey)
  registered : d.registered.Perm (d.live.map Connection.fd)
  fds : d.registered.Nodup

/-- What `epoll_wait` can return: each connection at most once, and it is registered. -/
structure Polled (d : Dispatcher) (events : List PollEvent) : Prop where
  nodup : (PollEvent.readyKeys events).Nodup
  live : ∀ key ∈ PollEvent.readyKeys events, key ∈ d.live.map Connection.key

/-- The event makes a connection hang up that is already cancelled by then. -/
def LateHangup (d : Dispatcher) : PollEvent → Prop
  | .ready key hup registering assigned actions result =>
    if hup then key ∈ d.cancellations.map Connection.key
    else result = false ∧ ∃ c ∈ d.live, c.key = key ∧
      key ∈ (d.callHandler c registering assigned actions).2.cancellations.map Connection.key
  | _ => False

instance (d : Dispatcher) : (e : PollEvent) → Decidable (d.LateHangup e)
  | .ready _ true _ _ _ _ => inferInstanceAs (Decidable (_ ∈ _))
  | .ready _ false _ _ _ _ => inferInstanceAs (Decidable (_ ∧ _))
  | .datagram _ => inferInstanceAs (Decidable False)
  | .client _ _ => inferInstanceAs (Decidable False)

/-- No event of the batch that is processed is a late hang-up. -/
def NoLateHangup : Dispatcher → List PollEvent → Prop
  | _, [] => True
  | d, e :: events => ¬ d.LateHangup e ∧
    ((d.handleEvent e).1 = .goesOn → NoLateHangup (d.handleEvent e).2 events)

instance decidableNoLateHangup :
    (d : Dispatcher) → (events : List PollEvent) → Decidable (d.NoLateHangup events)
  | _, [] => .isTrue trivial
  | d, e :: events =>
    have := decidableNoLateHangup (d.handleEvent e).2 events
    inferInstanceAs (Decidable (_ ∧ (_ → _)))

/-- What is required of an iteration over a batch: the books are right before it, after any number
of its events and after it; only a sentinel ends the loop; and all that was cancelled is gone. If
the loop ends, every connection that still existed is destroyed then, once. -/
structure KeepsBooks (d : Dispatcher) (events : List PollEvent) : Prop where
  before : d.Sound
  during : ∀ k, (d.handleEvents (events.take k)).1.Regular ∧ (d.handleEvents (events.take k)).2.Sound
  exit : (d.iterateInner (some events)).1.Regular
  after : (d.iterateInner (some events)).2.Sound
  cleared : (d.iterate (some events)).2.cancellations = []
  ended : (d.iterate (some events)).1 = false →
    (d.iterate (some events)).2.removed.Perm (List.range (d.iterate (some events)).2.nextKey)

/-- The states between two iterations, in runs without late hang-ups. Connections may also be added
and cancelled from outside of the handlers. -/
inductive Reachable : Dispatcher → Prop
  | new {signalfd eventfd : Nat} (h : signalfd ≠ eventfd) : Reachable (new signalfd eventfd)
  | act {d : Dispatcher} (hd : Reachable d) (a : Action) : Reachable (d.act a)
  | interrupted {d : Dispatcher} (hd : Reachable d) : Reachable (d.iterate none).2
  | iterate {d : Dispatcher} (hd : Reachable d) {events : List PollEvent} (hpolled : d.Polled events)
      (honTime : d.NoLateHangup events) (h : (d.iterate (some events)).1 = true) :
      Reachable (d.iterate (some events)).2

/-! ### Calls made by handlers -/

section Calls

variable {d : Dispatcher}

lemma Sound.keys_nodup (h : d.Sound) : (d.live.map Connection.key).Nodup :=
  ((List.nodup_append.1 (h.placed.nodup_iff.2 List.nodup_range)).1)

lemma Sound.fd_mem (h : d.Sound) {c : Connection} (hc : c ∈ d.live) : c.fd ∈ d.registered :=
  h.registered.mem_iff.2 (List.mem_map_of_mem hc)

/-- Only what is registered with which connection matters to the bookkeeping. -/
lemma Sound.of_perm {d' : Dispatcher} (h : d.Sound)
    (hkeys : (d'.live.map Connection.key).Perm (d.live.map Connection.key))
    (hfds : (d'.live.map Connection.fd).Perm (d.live.map Connection.fd))
    (hisOpen : d'.isOpen = d.isOpen) (hregistered : d'.registered = d.registered)
    (hnext : d'.nextKey = d.nextKey) (hremoved : d'.removed = d.removed) : d'.Sound := by
  refine ⟨hisOpen.trans h.isOpen, ?_, ?_, ?_⟩
  · rw [hremoved, hnext]
    exact (hkeys.append_right _).trans h.placed
  · rw [hregistered]
    exact h.registered.trans hfds.symm
  · rw [hregistered]
    exact h.fds

lemma live_register (d : Dispatcher) (fd : Nat) (handler : Option Handler) (id : Nat) :
    (({ d with
      connections := d.connections ++ [{ key := d.nextKey, fd := fd, id := id, handler := handler }]
      registered := d.registered ++ [fd]
      nextKey := d.nextKey + 1 } : Dispatcher).live).Perm
      ({ key := d.nextKey, fd := fd, id := id, handler := handler } :: d.live) := by
  simp only [live, List.append_assoc, List.singleton_append]
  exact List.perm_middle

lemma Sound.register (h : d.Sound) (fd : Nat) (handler : Option Handler) (id : Nat)
    (accepted : Bool) : (d.register fd handler id accepted).Sound := by
  unfold Dispatcher.register
  split
  case isFalse => exact h
  case isTrue hnew =>
    have hlive := live_register d fd handler id
    refine ⟨h.isOpen, ?_, ?_, ?_⟩
    · refine ((hlive.map _).append_right _).trans ?_
      simp only [List.map_cons, List.cons_append, List.range_succ]
      exact (List.Perm.cons _ h.placed).trans (List.perm_append_singleton _ _).symm
    · refine (List.perm_append_singleton _ _).trans ?_
      exact (List.Perm.cons _ h.registered).trans (hlive.map Connection.fd).symm
    · exact List.nodup_append.2 ⟨h.fds, List.nodup_singleton _, by
        intro a ha b hb
        rw [List.mem_singleton] at hb
        rintro rfl
        exact hnew.2 (hb ▸ ha)⟩

lemma slots_register (fd : Nat) (handler : Option Handler) (id : Nat) (accepted : Bool) :
    d.live.map Connection.slot ⊆ (d.register fd handler id accepted).live.map Connection.slot := by
  unfold Dispatcher.register
  split
  case isFalse => exact List.Subset.refl _
  case isTrue =>
    intro slot hslot
    exact ((live_register d fd handler id).map _).mem_iff.2 (List.mem_cons_of_mem _ hslot)

lemma live_cancelConnection (d : Dispatcher) (handler id : Nat) :
    (d.cancelConnection handler id).live.Perm d.live := by
  simp only [cancelConnection]
  split
  case h_1 c last hc hlast =>
    obtain ⟨hi, rfl⟩ := List.getElem?_eq_some_iff.1 hc
    have hperm := perm_cons_swapRemove hi
    rw [swapRemove, hlast] at hperm
    exact ((List.perm_append_singleton _ _).append_left _).trans
      (List.perm_middle.trans (hperm.symm.append_right _))
  case h_2 => exact List.Perm.refl _

lemma Sound.cancelConnection (h : d.Sound) (handler id : Nat) :
    (d.cancelConnection handler id).Sound := by
  have hlive := live_cancelConnection d handler id
  refine h.of_perm (hlive.map _) (hlive.map _) ?_ ?_ ?_ ?_ <;>
    (simp only [Dispatcher.cancelConnection]; split <;> rfl)

lemma Sound.act (h : d.Sound) : ∀ a : Action, (d.act a).Sound
  | .add fd handler id accepted => h.register fd (some handler) id accepted
  | .cancel handler id => h.cancelConnection handler id

lemma slots_act (d : Dispatcher) :
    ∀ a : Action, d.live.map Connection.slot ⊆ (d.act a).live.map Connection.slot
  | .add fd handler id accepted => slots_register fd (some handler) id accepted
  | .cancel handler id => ((live_cancelConnection d handler id).map _).symm.subset

lemma Sound.actAll (h : d.Sound) (actions : List Action) : (d.actAll actions).Sound := by
  induction actions generalizing d with
  | nil => exact h
  | cons a actions ih => exact ih (h.act a)

lemma slots_actAll (actions : List Action) (d : Dispatcher) :
    d.live.map Connection.slot ⊆ (d.actAll actions).live.map Connection.slot := by
  induction actions generalizing d with
  | nil => exact List.Subset.refl _
  | cons a actions ih => exact List.Subset.trans (slots_act d a) (ih (d.act a))

lemma map_setHandler {β : Type} (f : Connection → β)
    (hf : ∀ (c : Connection) (h : Option Handler), f { c with handler := h } = f c) (d : Dispatcher)
    (key : Nat) (handler : Option Handler) : (d.setHandler key handler).live.map f = d.live.map f := by
  have happly : ∀ c : Connection, f (if c.key = key then { c with handler := handler } else c) = f c := by
    intro c
    split
    · exact hf c handler
    · rfl
  simp only [setHandler, live, List.map_append, List.map_map, Function.comp_def, happly]

lemma Sound.setHandler (h : d.Sound) (key : Nat) (handler : Option Handler) :
    (d.setHandler key handler).Sound :=
  h.of_perm (.of_eq (map_setHandler _ (fun _ _ => rfl) d key handler))
    (.of_eq (map_setHandler _ (fun _ _ => rfl) d key handler)) rfl rfl rfl rfl

/-- A call to a handler leaves the connection where it is or moves it to the cancellations. -/
lemma Sound.callHandler (h : d.Sound) (c : Connection) (registering : List Action)
    (assigned : Option Handler) (actions : List Action) :
    (d.callHandler c registering assigned actions).2.Sound := by
  unfold Dispatcher.callHandler
  split
  · exact ((h.actAll registering).setHandler c.key assigned).actAll actions
  · exact h.actAll actions

lemma slots_callHandler (d : Dispatcher) (c : Connection) (registering : List Action)
    (assigned : Option Handler) (actions : List Action) :
    d.live.map Connection.slot ⊆
      (d.callHandler c registering assigned actions).2.live.map Connection.slot := by
  unfold Dispatcher.callHandler
  split
  · have hset := map_setHandler Connection.slot (fun _ _ => rfl) (d.actAll registering) c.key assigned
    exact List.Subset.trans (slots_actAll registering d)
      (hset ▸ slots_actAll actions ((d.actAll registering).setHandler c.key assigned))
  · exact slots_actAll actions d

lemma slot_callHandler (d : Dispatcher) (c : Connection) (registering : List Action)
    (assigned : Option Handler) (actions : List Action) :
    (d.callHandler c registering assigned actions).1.slot = c.slot := by
  unfold Dispatcher.callHandler
  split <;> rfl

end Calls

/-! ### Removing connections -/

section Removal

variable {d : Dispatcher}

lemma Sound.remove {d' : Dispatcher} (h : d.Sound) {c : Connection}
    (hlive : d.live.Perm (c :: d'.live)) (hregistered : d'.registered = d.registered.erase c.fd)
    (hremoved : d'.removed = c.key :: d.removed) (hisOpen : d'.isOpen = d.isOpen)
    (hnext : d'.nextKey = d.nextKey) : d'.Sound := by
  refine ⟨hisOpen.trans h.isOpen, ?_, ?_, ?_⟩
  · rw [hremoved, hnext]
    refine List.perm_middle.trans (List.Perm.trans ?_ h.placed)
    exact ((hlive.map Connection.key).append_right _).symm
  · rw [hregistered]
    have hfds := (h.registered.trans (hlive.map Connection.fd)).erase c.fd
    rwa [List.map_cons, List.erase_cons_head] at hfds
  · rw [hregistered]
    exact h.fds.erase _

lemma Sound.eq_of_key (h : d.Sound) {c c' : Connection} (hc : c ∈ d.live) (hc' : c' ∈ d.live)
    (hkey : c.key = c'.key) : c = c' :=
  List.inj_on_of_nodup_map h.keys_nodup hc hc' hkey

lemma Sound.deregister (h : d.Sound) {c : Connection} (hc : c ∈ d.live) :
    d.deregister c.fd = some { d with registered := d.registered.erase c.fd } :=
  if_pos (h.fd_mem hc)

/-- A connection that is not cancelled can hang up. -/
lemma Sound.hangUp (h : d.Sound) {c : Connection} (hc : c.slot ∈ d.connections.map Connection.slot) :
    (d.hangUp c).1.Regular ∧ (d.hangUp c).2.Sound ∧
      ∀ key ≠ c.key, key ∈ d.live.map Connection.key →
        key ∈ (d.hangUp c).2.live.map Connection.key := by
  obtain ⟨x, hx, hslot⟩ := List.mem_map.1 hc
  obtain ⟨hkey, hfd⟩ := Prod.mk.injEq .. ▸ hslot
  have hxlive : x ∈ d.live := List.mem_append_left _ hx
  have hany : d.connections.any (fun x => x.key = c.key) = true :=
    List.any_eq_true.2 ⟨x, hx, by simpa using hkey⟩
  obtain ⟨a, l₁, l₂, -, ha, hsplit, herase⟩ :=
    List.exists_of_eraseP hx (p := fun x : Connection => decide (x.key = c.key)) (by simpa using hkey)
  obtain rfl : a = x := h.eq_of_key (List.mem_append_left _ (by rw [hsplit]; simp)) hxlive
    ((of_decide_eq_true ha).trans hkey.symm)
  have hhang : d.hangUp c = (if c.isSentinel then .sentinelEnded else .goesOn,
      { d with registered := d.registered.erase a.fd, connections := l₁ ++ l₂,
               removed := a.key :: d.removed }) := by
    simp only [Dispatcher.hangUp, ← hfd, h.deregister hxlive, hany, if_true, herase, hkey]
  have hlive : d.live.Perm (a :: (l₁ ++ l₂ ++ d.cancellations)) := by
    simp only [live, hsplit]
    exact List.perm_middle.append_right _
  rw [hhang]
  refine ⟨Exit.regular_ite _, h.remove hlive rfl rfl rfl rfl, ?_⟩
  intro key hne hmem
  rcases List.mem_cons.1 ((hlive.map Connection.key).mem_iff.1 hmem) with heq | hmem
  · exact absurd (heq.trans hkey) hne
  · exact hmem

/-- All that was cancelled is destroyed at the end of the batch. -/
lemma Sound.cleanUp {cs : List Connection} (h : d.Sound) (hcs : d.cancellations = cs)
    (isSentinel : Bool) :
    (cleanUp cs isSentinel d).1.Regular ∧ (cleanUp cs isSentinel d).2.Sound ∧
      (cleanUp cs isSentinel d).2.cancellations = [] := by
  induction cs generalizing d isSentinel with
  | nil => exact ⟨Exit.regular_ite _, h, hcs⟩
  | cons c cs ih =>
    have hc : c ∈ d.live := List.mem_append_right _ (by rw [hcs]; simp)
    have hlive : d.live.Perm (c :: (d.connections ++ cs)) := by
      simp only [live, hcs]
      exact List.perm_middle
    have hsound : Sound { d with
        registered := d.registered.erase c.fd, cancellations := cs, removed := c.key :: d.removed } :=
      h.remove hlive rfl rfl rfl rfl
    simp only [Dispatcher.cleanUp, h.deregister hc]
    exact ih hsound rfl _

end Removal

/-! ### Batches -/

section Batch

variable {d : Dispatcher}

lemma keys_of_slots {l l' : List Connection} (h : l.map Connection.slot ⊆ l'.map Connection.slot) :
    l.map Connection.key ⊆ l'.map Connection.key := by
  have hkey : ∀ l : List Connection, l.map Connection.key = (l.map Connection.slot).map Prod.fst := by
    simp [Connection.slot]
  rw [hkey l, hkey l']
  exact List.map_subset _ h

lemma mem_connections {c : Connection} (hc : c.slot ∈ d.live.map Connection.slot)
    (hkey : c.key ∉ d.cancellations.map Connection.key) :
    c.slot ∈ d.connections.map Connection.slot := by
  rw [live, List.map_append, List.mem_append] at hc
  refine hc.resolve_right fun hmem => hkey ?_
  obtain ⟨x, hx, hslot⟩ := List.mem_map.1 hmem
  exact List.mem_map.2 ⟨x, hx, congrArg Prod.fst hslot⟩

/-- The step lemma: an event that is no late hang-up keeps the books and every other connection. -/
lemma Sound.handleEvent (h : d.Sound) {e : PollEvent} (honTime : ¬ d.LateHangup e)
    (hlive : ∀ key ∈ e.key?, key ∈ d.live.map Connection.key) :
    (d.handleEvent e).1.Regular ∧ (d.handleEvent e).2.Sound ∧
      ∀ key ∉ e.key?, key ∈ d.live.map Connection.key →
        key ∈ (d.handleEvent e).2.live.map Connection.key := by
  cases e with
  | datagram actions =>
    exact ⟨.inl rfl, h.actAll actions, fun key _ hkey => keys_of_slots (slots_actAll actions d) hkey⟩
  | client fd accepted =>
    cases fd with
    | none => exact ⟨.inl rfl, h, fun _ _ hkey => hkey⟩
    | some fd =>
      exact ⟨.inl rfl, h.register fd none 0 accepted,
        fun key _ hkey => keys_of_slots (slots_register fd none 0 accepted) hkey⟩
  | ready key hup registering assigned actions result =>
    obtain ⟨c, hc, rfl⟩ := List.mem_map.1 (hlive key rfl)
    obtain ⟨c', hfind⟩ : ∃ c', d.live.find? (fun x => x.key = c.key) = some c' :=
      Option.isSome_iff_exists.1 (List.find?_isSome.2 ⟨c, hc, by simp⟩)
    obtain rfl : c' = c := h.eq_of_key (List.mem_of_find?_eq_some hfind) hc
      (of_decide_eq_true (List.find?_some hfind :))
    simp only [Dispatcher.handleEvent, hfind]
    cases hup with
    | true =>
      have hplace := mem_connections (List.mem_map_of_mem hc) honTime
      obtain ⟨hexit, hsound, hkeys⟩ := h.hangUp hplace
      exact ⟨hexit, hsound, fun key hne => hkeys key fun heq => hne (heq ▸ rfl)⟩
    | false =>
      have hslots := slots_callHandler d c' registering assigned actions
      have hcalled := h.callHandler c' registering assigned actions
      cases result with
      | true => exact ⟨.inl rfl, hcalled, fun key _ hkey => keys_of_slots hslots hkey⟩
      | false =>
        have hslot := slot_callHandler d c' registering assigned actions
        have hkey : (d.callHandler c' registering assigned actions).1.key = c'.key :=
          congrArg Prod.fst hslot
        have hplace := mem_connections (hslot ▸ hslots (List.mem_map_of_mem hc))
          (fun hmem => honTime ⟨rfl, c', hc, rfl, hkey ▸ hmem⟩)
        obtain ⟨hexit, hsound, hkeys⟩ := hcalled.hangUp hplace
        refine ⟨hexit, hsound, fun key hne hmem => hkeys key ?_ (keys_of_slots hslots hmem)⟩
        exact fun heq => hne (heq.trans hkey ▸ rfl)

/-- The events that are left in a batch, once the others have been handled, are still for live
connections. -/
lemma Polled.of_cons {d' : Dispatcher} {e : PollEvent} {events : List PollEvent}
    (h : d.Polled (e :: events))
    (hkeys : ∀ key ∉ e.key?, key ∈ d.live.map Connection.key → key ∈ d'.live.map Connection.key) :
    d'.Polled events := by
  obtain ⟨hnodup, hlive⟩ := h
  simp only [PollEvent.readyKeys] at hnodup hlive ⊢
  cases hkey : e.key? with
  | none =>
    rw [List.filterMap_cons_none hkey] at hnodup hlive
    exact ⟨hnodup, fun key hmem => hkeys key (by simp [hkey]) (hlive key hmem)⟩
  | some own =>
    rw [List.filterMap_cons_some hkey] at hnodup hlive
    obtain ⟨hfresh, hnodup⟩ := List.nodup_cons.1 hnodup
    refine ⟨hnodup, fun key hmem => hkeys key ?_ (hlive key (List.mem_cons_of_mem _ hmem))⟩
    rw [hkey, Option.mem_some_iff]
    rintro rfl
    exact hfresh hmem

lemma Polled.head {e : PollEvent} {events : List PollEvent} (h : d.Polled (e :: events)) :
    ∀ key ∈ e.key?, key ∈ d.live.map Connection.key := by
  intro key hkey
  exact h.live key (List.mem_filterMap.2 ⟨e, List.mem_cons_self, hkey⟩)

lemma Polled.take {events : List PollEvent} (h : d.Polled events) (k : Nat) :
    d.Polled (events.take k) :=
  have hsub := (List.take_sublist k events).filterMap PollEvent.key?
  ⟨h.nodup.sublist hsub, fun key hkey => h.live key (hsub.subset hkey)⟩

lemma NoLateHangup.take {events : List PollEvent} (h : d.NoLateHangup events) (k : Nat) :
    d.NoLateHangup (events.take k) := by
  induction events generalizing d k with
  | nil => simpa using h
  | cons e events ih =>
    cases k with
    | zero => trivial
    | succ k => exact ⟨h.1, fun hexit => ih (h.2 hexit) k⟩

lemma Sound.handleEvents {events : List PollEvent} (h : d.Sound) (hpolled : d.Polled events)
    (honTime : d.NoLateHangup events) :
    (handleEvents d events).1.Regular ∧ (handleEvents d events).2.Sound := by
  induction events generalizing d with
  | nil => exact ⟨.inl rfl, h⟩
  | cons e events ih =>
    obtain ⟨hexit, hsound, hkeys⟩ := h.handleEvent honTime.1 hpolled.head
    have honTime' := honTime.2
    have hpolled' := hpolled.of_cons hkeys
    rw [Dispatcher.handleEvents]
    split
    case h_1 d' hd' =>
      rw [hd'] at hsound honTime' hpolled'
      exact ih hsound hpolled' (honTime' rfl)
    case h_2 => exact ⟨hexit, hsound⟩

lemma Sound.iterateInner {events : List PollEvent} (h : d.Sound) (hpolled : d.Polled events)
    (honTime : d.NoLateHangup events) :
    (d.iterateInner (some events)).1.Regular ∧ (d.iterateInner (some events)).2.Sound ∧
      ((d.iterateInner (some events)).1 = .goesOn →
        (d.iterateInner (some events)).2.cancellations = []) := by
  obtain ⟨hexit, hsound⟩ := h.handleEvents hpolled honTime
  simp only [Dispatcher.iterateInner, h.isOpen, Bool.not_true, Bool.false_eq_true, if_false]
  split
  case h_1 d' hd' =>
    rw [hd'] at hsound
    obtain ⟨hexit', hsound', hempty⟩ := hsound.cleanUp rfl false
    exact ⟨hexit', hsound', fun _ => hempty⟩
  case h_2 r hr =>
    exact ⟨hexit, hsound, fun hgoesOn => (hr _ (Prod.ext hgoesOn rfl)).elim⟩

end Batch

/-! ### Runs -/

section Runs

variable {d : Dispatcher}

lemma iterate_snd_of_goesOn {batch : Option (List PollEvent)} (h : (d.iterate batch).1 = true) :
    (d.iterateInner batch).1 = .goesOn ∧ (d.iterate batch).2 = (d.iterateInner batch).2 := by
  unfold Dispatcher.iterate at h ⊢
  split at h
  case h_1 d' hd' => simp [hd']
  case h_2 => exact absurd h (by simp)

lemma Sound.new (signalfd eventfd : Nat) : (new signalfd eventfd).Sound := by
  have hempty : Sound {} := ⟨rfl, .refl _, .refl _, List.nodup_nil⟩
  exact (hempty.register signalfd _ 0 true).register eventfd _ 0 true

lemma Reachable.sound (h : Reachable d) : d.Sound := by
  induction h with
  | new _ => exact Sound.new _ _
  | act _ a ih => exact ih.act a
  | @interrupted d _ ih =>
    have hinner : d.iterateInner none = (.goesOn, d) := by
      simp [Dispatcher.iterateInner, ih.isOpen]
    simpa [Dispatcher.iterate, hinner] using ih
  | iterate _ hpolled honTime h ih =>
    rw [(iterate_snd_of_goesOn h).2]
    exact (ih.iterateInner hpolled honTime).2.1

/-- In every run in which no connection hangs up after it was cancelled, the dispatcher keeps its
books. -/
theorem bookkeeping (hd : Reachable d) {events : List PollEvent} (hpolled : d.Polled events)
    (honTime : d.NoLateHangup events) : d.KeepsBooks events := by
  have hsound := hd.sound
  obtain ⟨hexit, hafter, hcleared⟩ := hsound.iterateInner hpolled honTime
  refine ⟨hsound, fun k => hsound.handleEvents (hpolled.take k) (honTime.take k), hexit, hafter, ?_, ?_⟩
  · unfold Dispatcher.iterate
    split
    case h_1 d' hd' =>
      rw [hd'] at hcleared
      exact hcleared rfl
    case h_2 => rfl
  · unfold Dispatcher.iterate
    split
    case h_1 => simp
    case h_2 e d' _ hd' =>
      rw [hd'] at hafter
      exact fun _ => hafter.placed

/-- A stream client: its socket connects, is given a handler and with it a timer. -/
def stream : Dispatcher :=
  let d := ((new 3 4).iterate (some [.client (some 10) true])).2
  (d.iterate (some [.ready 2 false [.add 11 { ref := 5 } 1 true] (some { ref := 5 }) [] true])).2

lemma stream_reachable : Reachable stream :=
  Reachable.iterate (Reachable.iterate (Reachable.new (by decide)) ⟨by decide, by decide⟩
    (by decide) (by decide)) ⟨by decide, by decide⟩ (by decide) (by decide)

/-- The timer of a client that is gone runs out: both of its connections are removed. -/
theorem bookkeeping_timeout :
    stream.KeepsBooks [.ready 3 false [] none [.cancel 5 0] false] :=
  bookkeeping stream_reachable ⟨by decide, by decide⟩ (by decide)

/-- The timer runs out while the socket hangs up: the socket is deregistered twice, which takes the
whole dispatcher down. -/
theorem cancelled_hangup_tears_down :
    ¬ ∀ d, Reachable d → ∀ events, d.Polled events → d.KeepsBooks events := by
  intro h
  have hexit := (h stream stream_reachable
    [.ready 3 false [] none [.cancel 5 0] false, .ready 2 true [] none [] false]
    ⟨by decide, by decide⟩).exit
  have hfailed : (stream.iterateInner (some
      [.ready 3 false [] none [.cancel 5 0] false, .ready 2 true [] none [] false])).1 =
      .epollFailed := by decide
  rw [hfailed] at hexit
  rcases hexit with h | h <;> cases h

end Runs

end Dispatcher

end PyroFling
