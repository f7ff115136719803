import PyroFling.Library.DeltaFrames
import PyroFling.Library.Runs
import PyroFling.Proofs.GamepadOrder
import PyroFling.VirtualGamepad

/-!
# Frames of the virtual gamepad

Whatever device it is, its keys and axes have the values of the state that the server took over last, and
every event that is written before the end of a report changes one of them. A reader gets a packet for each
state that looks different from the one before, if the changes fit in.
-/

namespace PyroFling
open DeltaFrames

/-! ### What a device shows of a state -/

lemma controlKeys_nodup : controlKeys.Nodup := by decide

lemma controlKeys_type : ∀ k ∈ controlKeys, k.1 ≠ evSyn := by decide

lemma shown_control (state : GamepadState) : ∀ control ∈ controls, state.shown control.1 = control.2 state := by
  simp only [controls, buttonMapping, axisMapping, List.zipIdx_cons, List.zipIdx_nil, List.map_cons, List.map_nil,
    List.cons_append, List.nil_append, List.forall_mem_cons]
  repeat' constructor
  intro control hcontrol
  cases hcontrol

lemma shown_initial : ∀ k ∈ controlKeys, ({} : GamepadState).shown k = 0 := by
  intro k hk
  obtain ⟨control, hcontrol, rfl⟩ := List.mem_map.1 hk
  rw [shown_control _ control hcontrol]
  revert control
  simp only [controls, buttonMapping, axisMapping, List.zipIdx_cons, List.zipIdx_nil, List.map_cons,
    List.map_nil, List.cons_append, List.nil_append]
  decide

/-! ### The events of a report -/

/-- The changes of some of the controls, written out. -/
lemma changes_map {part : List ((Nat × Nat) × (GamepadState → Int))}
    (hpart : ∀ control ∈ part, control ∈ controls) (old new : GamepadState) :
    (changes (part.map Prod.fst) old.shown new.shown).map changeEvent =
      part.flatMap fun control =>
        if control.2 new ≠ control.2 old then [changeEvent (control.1, control.2 new)] else [] := by
  induction part with
  | nil => rfl
  | cons control part ih =>
    have hcontrol := hpart control List.mem_cons_self
    have hrest := ih fun c hc => hpart c (List.mem_cons_of_mem control hc)
    rw [changes] at hrest ⊢
    rw [List.map_cons, List.filter_cons, shown_control old control hcontrol, shown_control new control hcontrol,
      List.flatMap_cons, ← hrest]
    by_cases hne : control.2 new ≠ control.2 old
    · rw [if_pos (decide_eq_true hne), if_pos hne, List.map_cons, List.map_cons,
        shown_control new control hcontrol]
      rfl
    · rw [if_neg (by rwa [decide_eq_true_iff]), if_neg hne]
      rfl

namespace VirtualGamepad

lemma axisEvents_eq (g : VirtualGamepad) (state : GamepadState) :
    g.axisEvents state = (axisMapping.map fun axis => ((evAbs, axis.1), axis.2)).flatMap fun control =>
      if control.2 state ≠ control.2 g.lastState then [changeEvent (control.1, control.2 state)] else [] := by
  rw [List.flatMap_map]
  rfl

/-- A button has an event if its bit is one of the different ones. -/
lemma buttonEvent_eq (buttons last : BitVec 16) (bit : Nat) (events : List InputEvent) :
    (if (buttons ^^^ last).getLsbD bit = true then events else []) =
      if (if buttons.getLsbD bit then (1 : Int) else 0) ≠ (if last.getLsbD bit then 1 else 0) then events
      else [] := by
  rw [BitVec.getLsbD_xor]
  cases buttons.getLsbD bit <;> cases last.getLsbD bit <;> rfl

lemma flatMap_deltaBits (delta : BitVec 16) (f : Nat → List InputEvent) :
    (deltaBits delta).flatMap f = (List.range 16).flatMap fun bit =>
      if delta.getLsbD bit = true then f bit else [] := by
  rw [deltaBits]
  induction List.range 16 with
  | nil => rfl
  | cons bit bits ih =>
    rw [List.filter_cons, List.flatMap_cons, ← ih]
    split_ifs <;> rfl

lemma buttonEvents_eq (g : VirtualGamepad) (state : GamepadState) :
    g.buttonEvents state = (buttonMapping.zipIdx.map fun button =>
        ((evKey, button.1), fun state : GamepadState => if state.buttons.getLsbD button.2 then 1 else 0)).flatMap
      fun control =>
        if control.2 state ≠ control.2 g.lastState then [changeEvent (control.1, control.2 state)] else [] := by
  rw [buttonEvents, flatMap_deltaBits, List.flatMap_map]
  simp only [buttonEvent_eq]
  simp [List.range_succ, buttonMapping, changeEvent]

lemma reportState_events {g : VirtualGamepad} (hmode : g.debugMode = .none) (state : GamepadState) :
    (g.reportState state).1 =
      (changes controlKeys g.lastState.shown state.shown).map changeEvent ++ [syn] := by
  rw [reportState, hmode, controlKeys, changes_map (fun _ h => h), controls, List.flatMap_append, ← buttonEvents_eq,
    ← axisEvents_eq, List.append_assoc]

end VirtualGamepad

/-! ### Frames -/

/-- What a reader of all keys and axes has. -/
def GamepadState.look (state : GamepadState) : List Int := controlKeys.map state.shown

namespace InputDevice

variable {dev : InputDevice}

/-- The device as something that takes changes. -/
def receiver (dev : InputDevice) : DeltaFrames.Receiver (Nat × Nat) Int dev.State where
  value := dev.value
  pending := dev.pending
  put d change := dev.write d (changeEvent change)

lemma Documented.lawful (h : dev.Documented) :
    dev.receiver.Lawful controlKeys (fun k v => ∃ state : GamepadState, v = state.shown k) dev.packetSize where
  value_put := by
    rintro d k hk v ⟨state, rfl⟩ k' hk'
    exact h.value_write d k hk state k' hk'
  pending_put := by
    rintro d k hk v ⟨state, rfl⟩ hroom
    exact h.pending_write d k hk state hroom

/-- An event that does not end a frame changes a value. -/
def Changes (dev : InputDevice) (d : dev.State) (e : InputEvent) : Prop :=
  e.type ≠ evSyn → dev.value d (e.type, e.code) ≠ e.value

variable {frame : List ((Nat × Nat) × Int)} {d : dev.State}

lemma foldl_changes (d : dev.State) (frame : List ((Nat × Nat) × Int)) :
    (frame.map changeEvent).foldl dev.write d = frame.foldl dev.receiver.put d := List.foldl_map

lemma changes_of_along (h : Runs.Along dev.receiver.put dev.receiver.Changes d frame) :
    Runs.Along dev.write dev.Changes d (frame.map changeEvent) := by
  induction frame generalizing d with
  | nil => trivial
  | cons change frame ih => exact ⟨fun _ => h.1.symm, ih h.2⟩

/-- A reader gets nothing as long as there is room for the changes. -/
lemma Documented.observed_changes (h : dev.Documented) (hroom : Runs.Along dev.receiver.put
    (dev.receiver.HasRoom dev.packetSize) d frame)
    (hframe : ∀ change ∈ frame, ∃ k ∈ controlKeys, ∃ state : GamepadState, change = (k, state.shown k)) :
    Runs.observed dev.write dev.frame d (frame.map changeEvent) = [] := by
  induction frame generalizing d with
  | nil => rfl
  | cons change frame ih =>
    obtain ⟨k, hk, state, rfl⟩ := hframe change List.mem_cons_self
    have hquiet : dev.packet d (changeEvent (k, state.shown k)) = false :=
      h.packet_write d k hk state hroom.1
    have hrest := ih hroom.2 fun c hc => hframe c (List.mem_cons_of_mem _ hc)
    rw [List.map_cons, Runs.observed, InputDevice.frame, hquiet, if_neg Bool.false_ne_true]
    exact hrest

end InputDevice

section Report

variable {dev : InputDevice} {g : VirtualGamepad} {d : dev.State} (hdev : dev.Documented)
  (hmode : g.debugMode = .none) (state : GamepadState)
  (hd : ∀ k ∈ controlKeys, dev.value d k = g.lastState.shown k)

include hdev hmode hd

/-- After a report the device has the values of the state, and every event was needed. -/
lemma VirtualGamepad.values_reportState :
    (∀ k ∈ controlKeys, dev.value ((g.reportState state).1.foldl dev.write d) k = state.shown k) ∧
      dev.pending ((g.reportState state).1.foldl dev.write d) = 0 ∧
      Runs.Along dev.write dev.Changes d (g.reportState state).1 := by
  obtain ⟨hvalue, halong⟩ := hdev.lawful.value_changes (List.Subset.refl _) controlKeys_nodup
    (fun k _ => ⟨state, rfl⟩) hd
  rw [reportState_events hmode, List.foldl_append, InputDevice.foldl_changes]
  refine ⟨fun k hk => ?_, hdev.pending_syn _, ?_⟩
  · rw [List.foldl_cons, List.foldl_nil, hdev.value_syn _ k hk]
    exact (hvalue k hk).trans (if_pos hk)
  · exact (InputDevice.changes_of_along halong).append ⟨fun hsyn => absurd rfl hsyn, trivial⟩

/-- A report that fits is one packet, or none if it looks the same. -/
lemma VirtualGamepad.observed_reportState (hpending : dev.pending d = 0)
    (hfits : (changes controlKeys g.lastState.shown state.shown).length ≤ dev.packetSize) :
    Runs.observed dev.write dev.frame d (g.reportState state).1 =
      if g.lastState.look ≠ state.look then [state.look] else [] := by
  obtain ⟨hvalue, -⟩ := hdev.lawful.value_changes (List.Subset.refl _) controlKeys_nodup
    (fun k _ => ⟨state, rfl⟩) hd
  obtain ⟨hcount, hroom⟩ := hdev.lawful.pending_changes (List.Subset.refl _) controlKeys_nodup
    (fun k _ => ⟨state, rfl⟩) hd (by
      change dev.pending d + _ ≤ _
      rwa [hpending, Nat.zero_add])
  have hquiet := hdev.observed_changes hroom fun change hchange => by
    obtain ⟨k, hk, rfl⟩ := List.mem_map.1 hchange
    exact ⟨k, (List.mem_filter.1 hk).1, state, rfl⟩
  have hlook : controlKeys.map (dev.value (dev.write
      ((changes controlKeys g.lastState.shown state.shown).foldl dev.receiver.put d) syn)) = state.look := by
    apply List.map_congr_left
    intro k hk
    rw [hdev.value_syn _ k hk]
    exact (hvalue k hk).trans (if_pos hk)
  have hcounted : dev.pending ((changes controlKeys g.lastState.shown state.shown).foldl dev.receiver.put d) =
      (changes controlKeys g.lastState.shown state.shown).length := by
    refine hcount.trans ?_
    change dev.pending d + _ = _
    rw [hpending, Nat.zero_add]
  have hsame : 0 < (changes controlKeys g.lastState.shown state.shown).length ↔
      g.lastState.look ≠ state.look := by
    rw [List.length_pos_iff, ne_eq, changes_eq_nil]
    exact not_congr eq_comm
  rw [reportState_events hmode, Runs.observed_append, hquiet, InputDevice.foldl_changes, List.nil_append,
    Runs.observed, Runs.observed, InputDevice.frame, hdev.packet_syn, hcounted, hlook]
  simp only [hsame, decide_eq_true_iff]
  split <;> rfl

end Report

/-! ### A device -/

/-- A device that hands out what it has when 16 values have changed. -/
structure Evdev where
  values : Nat × Nat → Int := fun _ => 0
  pending : Nat := 0

namespace Evdev

def write (d : Evdev) (e : InputEvent) : Evdev :=
  if e.type = evSyn then { d with pending := 0 }
  else if e.value = d.values (e.type, e.code) then d
  else
    { values := Function.update d.values (e.type, e.code) e.value
      pending := if d.pending + 1 < 16 then d.pending + 1 else 0 }

def packet (d : Evdev) (e : InputEvent) : Bool :=
  if e.type = evSyn then decide (0 < d.pending)
  else decide (e.value ≠ d.values (e.type, e.code) ∧ 16 ≤ d.pending + 1)

def device : InputDevice where
  State := Evdev
  created := {}
  value := values
  pending := pending
  packetSize := 15
  write := write
  packet := packet

variable {k : Nat × Nat}

lemma write_change (hk : k ∈ controlKeys) (d : Evdev) (v : Int) :
    d.write (changeEvent (k, v)) = if v = d.values k then d
      else
        { values := Function.update d.values k v
          pending := if d.pending + 1 < 16 then d.pending + 1 else 0 } :=
  if_neg (controlKeys_type k hk)

lemma values_write (hk : k ∈ controlKeys) (d : Evdev) (v : Int) :
    (d.write (changeEvent (k, v))).values = Function.update d.values k v := by
  rw [write_change hk]
  split
  case isTrue hsame => rw [hsame, Function.update_eq_self]
  case isFalse => rfl

lemma pending_write (hk : k ∈ controlKeys) (d : Evdev) (v : Int) (hroom : d.pending < 15) :
    (d.write (changeEvent (k, v))).pending = if v = d.values k then d.pending else d.pending + 1 := by
  have hlt : d.pending + 1 < 16 := Nat.succ_lt_succ hroom
  rw [write_change hk, if_pos hlt]
  exact apply_ite pending _ _ _

lemma packet_change (hk : k ∈ controlKeys) (d : Evdev) (v : Int) (hroom : d.pending < 15) :
    d.packet (changeEvent (k, v)) = false := by
  have hpacket : d.packet (changeEvent (k, v)) = decide (v ≠ d.values k ∧ 16 ≤ d.pending + 1) :=
    if_neg (controlKeys_type k hk)
  rw [hpacket]
  exact decide_eq_false fun hboth => Nat.not_le_of_lt (Nat.succ_lt_succ hroom) hboth.2

lemma documented : device.Documented where
  value_created _ _ := rfl
  pending_created := rfl
  value_write d _ hk state k' _ := congrFun (values_write hk d (state.shown _)) k'
  pending_write d _ hk state hroom := pending_write hk d (state.shown _) hroom
  packet_write d _ hk state hroom := packet_change hk d (state.shown _) hroom
  value_syn _ _ _ := rfl
  pending_syn _ := rfl
  packet_syn _ := rfl

end Evdev

/-! ### The server -/

namespace PyroStreamServer

/-- The gamepad of the server, and whether it is new. -/
def padState (s : PyroStreamServer) : GamepadState × Bool := (s.currentGamepadState, s.newGamepadState)

lemma gamepad_onUdpEvents (events : List PyroStreamConnection.UdpEvent) (s : PyroStreamServer) :
    (events.foldl onUdpEvent s).newGamepadState = true ∨ (events.foldl onUdpEvent s).padState = s.padState := by
  induction events generalizing s with
  | nil => exact Or.inr rfl
  | cons e events ih =>
    rw [List.foldl_cons]
    rcases ih (s.onUdpEvent e) with hnew | hsame
    · exact Or.inl hnew
    · rcases e with phase | ⟨remote, state⟩ | ⟨header, pts⟩
      · exact Or.inr hsame
      · rw [onUdpEvent, setGamepadState] at hsame ⊢
        dsimp only at hsame ⊢
        split at hsame
        · rename_i htakes
          rw [if_pos htakes]
          exact Or.inl (congrArg Prod.snd hsame)
        · rename_i htakes
          rw [if_neg htakes]
          exact Or.inr hsame
      · exact Or.inr hsame

lemma gamepad_handleUdpDatagram (s : PyroStreamServer) (pts : BitVec 64) (remote : RemoteAddress)
    (msg : List UInt8) :
    (s.handleUdpDatagram pts remote msg).newGamepadState = true ∨
      (s.handleUdpDatagram pts remote msg).padState = s.padState :=
  gamepad_onUdpEvents _ _

lemma gamepad_onEvents (events : List PyroStreamConnection.Event) (s : PyroStreamServer) :
    (events.foldl onEvent s).padState = s.padState := by
  induction events generalizing s with
  | nil => rfl
  | cons e events ih =>
    rw [List.foldl_cons, ih]
    cases e <;> rfl

lemma gamepad_handle (s : PyroStreamServer) (i id : Nat) (received : List UInt8) :
    (s.handle i id received).padState = s.padState := by
  rw [handle]
  split
  · exact gamepad_onEvents _ _
  · rfl

end PyroStreamServer

namespace GamepadHost

variable {s : GamepadHost}

/-- Before the first report. -/
def initial (pyro : PyroStreamServer) (debugMode : DebugMode) : GamepadHost where
  pyro := { pyro with currentGamepadState := {}, newGamepadState := false }
  uinput := { debugMode := debugMode }

/-- Every report changes no more than a packet holds. -/
def Narrow (dev : InputDevice) (reported : List GamepadState) : Prop :=
  List.IsChain (fun old new => (changes controlKeys old.shown new.shown).length ≤ dev.packetSize)
    ({} :: reported)

instance (dev : InputDevice) (reported : List GamepadState) : Decidable (Narrow dev reported) :=
  inferInstanceAs (Decidable (List.IsChain _ _))

/-- The state of the device after all events. -/
def device (s : GamepadHost) (dev : InputDevice) : dev.State := s.events.foldl dev.write dev.created

structure Sound (dev : InputDevice) (s : GamepadHost) : Prop where
  mode : s.uinput.debugMode = .none
  old : s.pyro.newGamepadState = false
  current : s.pyro.currentGamepadState = s.uinput.lastState
  last : ({} :: s.reported).getLast (List.cons_ne_nil _ _) = s.uinput.lastState
  value : ∀ k ∈ controlKeys, dev.value (s.device dev) k = s.uinput.lastState.shown k
  pending : dev.pending (s.device dev) = 0
  changing : Runs.Along dev.write dev.Changes dev.created s.events
  frames : Narrow dev s.reported → GamepadState.look {} :: Runs.observed dev.write dev.frame dev.created s.events =
    (s.reported.map GamepadState.look).destutter' (· ≠ ·) (GamepadState.look {})

variable {dev : InputDevice} (hdev : dev.Documented)

include hdev in
lemma Sound.initial (pyro : PyroStreamServer) : Sound dev (initial pyro .none) where
  mode := rfl
  old := rfl
  current := rfl
  last := rfl
  value k hk := (hdev.value_created k hk).trans (shown_initial k hk).symm
  pending := hdev.pending_created
  changing := trivial
  frames _ := rfl

lemma Sound.pyro (h : Sound dev s) {pyro : PyroStreamServer} (hpyro : pyro.padState = s.pyro.padState) :
    Sound dev { s with pyro := pyro } :=
  { h with
    old := (congrArg Prod.snd hpyro).trans h.old
    current := (congrArg Prod.fst hpyro).trans h.current }

include hdev in
lemma Sound.report (h : Sound dev s) {pyro : PyroStreamServer} (hold : pyro.newGamepadState = false) :
    Sound dev { s with
      pyro := pyro
      uinput := (s.uinput.reportState pyro.currentGamepadState).2
      events := s.events ++ (s.uinput.reportState pyro.currentGamepadState).1
      reported := s.reported ++ [pyro.currentGamepadState] } := by
  obtain ⟨hvalue, hpending, hchanging⟩ :=
    VirtualGamepad.values_reportState hdev h.mode pyro.currentGamepadState h.value
  have hdevice : (s.events ++ (s.uinput.reportState pyro.currentGamepadState).1).foldl dev.write dev.created =
      (s.uinput.reportState pyro.currentGamepadState).1.foldl dev.write (s.device dev) := List.foldl_append
  constructor
  · exact h.mode
  · exact hold
  · rfl
  · exact List.getLast_append_singleton ({} :: s.reported)
  · rw [device, hdevice]
    exact hvalue
  · rw [device, hdevice]
    exact hpending
  · exact h.changing.append hchanging
  · intro hnarrow
    dsimp only [Narrow] at hnarrow
    rw [← List.cons_append, List.isChain_append] at hnarrow
    obtain ⟨hbefore, -, hlast⟩ := hnarrow
    have hfits := hlast s.uinput.lastState
      (by rw [List.getLast?_eq_some_getLast (List.cons_ne_nil _ _), h.last]; rfl) pyro.currentGamepadState rfl
    have hframe := VirtualGamepad.observed_reportState hdev h.mode pyro.currentGamepadState h.value h.pending hfits
    have hlook : (GamepadState.look {} :: s.reported.map GamepadState.look).getLast (List.cons_ne_nil _ _) =
        s.uinput.lastState.look := by
      rw [← h.last]
      exact List.getLast_map (l := {} :: s.reported) (f := GamepadState.look) (by simp)
    dsimp only
    rw [Runs.observed_append, ← List.cons_append, h.frames hbefore, List.map_append, List.map_singleton,
      destutter'_concat, hlook]
    exact congrArg _ hframe

include hdev in
lemma Sound.handleUdpDatagram (h : Sound dev s) (pts : BitVec 64) (remote : RemoteAddress) (msg : List UInt8) :
    Sound dev (s.handleUdpDatagram pts remote msg) := by
  rw [GamepadHost.handleUdpDatagram, PyroStreamServer.getUpdatedGamepadState]
  dsimp only
  rcases s.pyro.gamepad_handleUdpDatagram pts remote msg with hnew | hsame
  · rw [if_pos hnew]
    have hold : ({ s.pyro.handleUdpDatagram pts remote msg with
        newGamepadState := false } : PyroStreamServer).newGamepadState = false := rfl
    exact h.report hdev hold
  · have hold : (s.pyro.handleUdpDatagram pts remote msg).newGamepadState = false :=
      (congrArg Prod.snd hsame).trans h.old
    rw [if_neg (Bool.eq_false_iff.1 hold)]
    apply h.pyro
    rw [← hsame, PyroStreamServer.padState, PyroStreamServer.padState, hold]

include hdev in
lemma Sound.step (h : Sound dev s) (a : Action) : Sound dev (s.step a) := by
  cases a with
  | handleUdpDatagram pts remote msg => exact h.handleUdpDatagram hdev pts remote msg
  | registerTcpHandler => exact h.pyro rfl
  | releaseConnection i => exact h.pyro rfl
  | handle i id received => exact h.pyro (s.pyro.gamepad_handle i id received)
  | setCodecParameters codec => exact h.pyro rfl
  | consumeBitrateChangeRequest => exact h.pyro rfl

/-- In every run the keys and axes of the device have the values of the state that the server took over last,
and every event but the ends of frames changes one of them. If no report changes more than a packet holds, the
packets that a reader gets are the states taken over, in order, without those that look like the one before. -/
theorem device_follows (hdev : dev.Documented) (pyro : PyroStreamServer) (actions : List Action) :
    let s := actions.foldl step (initial pyro .none)
    (∀ k ∈ controlKeys, dev.value (s.device dev) k = s.pyro.currentGamepadState.shown k) ∧
      s.reported.getLast?.getD {} = s.pyro.currentGamepadState ∧
      Runs.Along dev.write dev.Changes dev.created s.events ∧
      (Narrow dev s.reported →
        GamepadState.look {} :: Runs.observed dev.write dev.frame dev.created s.events =
          (s.reported.map GamepadState.look).destutter' (· ≠ ·) (GamepadState.look {})) := by
  intro s
  have hrun : Runs.Along step (fun _ _ => True) (initial pyro .none) actions :=
    Runs.Along.of_forall fun _ _ => trivial
  have hsound : Sound dev s :=
    hrun.invariant (Sound.initial hdev pyro) fun s a hs _ => hs.step hdev a
  have hlast := List.getLast?_eq_some_getLast (List.cons_ne_nil {} s.reported)
  rw [List.getLast?_cons, hsound.last, Option.some_inj] at hlast
  refine ⟨fun k hk => ?_, hlast.trans hsound.current.symm, hsound.changing, hsound.frames⟩
  rw [hsound.current]
  exact hsound.value k hk

/-- A client takes control with a button held, repeats its state, and lets go of the buttons. -/
def pressTwice : List Action :=
  [.registerTcpHandler, .handleUdpDatagram 0 ⟨[1]⟩ (cookieMessage 1001),
    .handle 0 0 (kickMessage kickStateGamepadBit),
    .handleUdpDatagram 0 ⟨[1]⟩ { seq := 0, buttons := padModeBit ||| 1 : GamepadState }.message,
    .handleUdpDatagram 0 ⟨[1]⟩ { seq := 1, buttons := padModeBit ||| 1 : GamepadState }.message,
    .handleUdpDatagram 0 ⟨[1]⟩ { seq := 2 : GamepadState }.message]

/-- Three reports are two packets. -/
theorem device_follows_pressTwice :
    (pressTwice.foldl step (initial {} .none)).reported.length = 3 ∧
      GamepadState.look {} :: Runs.observed Evdev.device.write Evdev.device.frame
          Evdev.device.created (pressTwice.foldl step (initial {} .none)).events =
        [GamepadState.look {}, GamepadState.look { buttons := 1 }, GamepadState.look {}] := by
  have hfollows := device_follows Evdev.documented {} pressTwice
  have hframes := hfollows.2.2.2 (by decide +kernel)
  refine ⟨by decide +kernel, hframes.trans ?_⟩
  decide +kernel

end GamepadHost

end PyroFling
