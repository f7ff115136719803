import PyroFling.Gamepad
import PyroFling.Proofs.HandshakeAgreement

/-!
# Gamepad updates in order

The number that a connection has forwarded last is the newest that it has received, so that the test
of its highest bit tells newer updates from older ones. It does not tell the newest from its copies: they
are forwarded again.
-/

namespace PyroFling
open SerialNumber

/-! ### Updates on the wire -/

namespace GamepadState

lemma length_toBytes (state : GamepadState) : state.toBytes.length = 16 := by simp [toBytes]

lemma ofBytes_toBytes (state : GamepadState) : ofBytes state.toBytes = state := by
  have hlast : toLittleEndian 1 state.hatY.toNat = toLittleEndian 1 state.hatY.toNat ++ [] :=
    (List.append_nil _).symm
  unfold ofBytes toBytes
  rw [hlast]
  simp (disch := simp) only [wordAt_skip, length_toLittleEndian, Nat.reduceSub, Nat.sub_self, wordAt_head,
    ofNat_toNat_mod]

/-- The datagram of an update. -/
def message (state : GamepadState) : List UInt8 := typeBytes messageGamepadState ++ state.toBytes

end GamepadState

namespace PyroStreamConnection

variable {c : PyroStreamConnection}

/-- The update is new to the connection, or a copy of the last one. -/
def Accepts (c : PyroStreamConnection) (seq : BitVec 16) : Prop :=
  (seq - c.lastGamepadSeq) &&& 0x8000#16 = 0 ∨ c.validGamepadSeq = false

instance (c : PyroStreamConnection) (seq : BitVec 16) : Decidable (c.Accepts seq) :=
  inferInstanceAs (Decidable (_ ∨ _))

lemma handleGamepadState_toBytes (c : PyroStreamConnection) (state : GamepadState) :
    c.handleGamepadState state.toBytes =
      if c.Accepts state.seq then
        ({ c with lastGamepadSeq := state.seq, validGamepadSeq := true },
          [.setGamepadState c.udpRemote state.toBytes])
      else ({ c with validGamepadSeq := true }, []) := by
  have hseq : BitVec.ofNat 16 (littleEndian (state.toBytes.take 2)) = state.seq :=
    congrArg GamepadState.seq state.ofBytes_toBytes
  rw [handleGamepadState, List.take_of_length_le state.length_toBytes.le, hseq]
  rfl

lemma handleUdpDatagram_message (c : PyroStreamConnection) (pts : BitVec 64) (remote : RemoteAddress)
    (state : GamepadState) :
    c.handleUdpDatagram pts remote state.message =
      if c.TakesGamepad remote then c.handleGamepadState state.toBytes else (c, []) := by
  have hlength : state.message.length = 24 := by
    rw [GamepadState.message, List.length_append, length_typeBytes, state.length_toBytes]
    rfl
  have htype : messageType state.message = messageGamepadState := messageType_typeBytes _ _
  have hpayload : state.message.drop messageTypeSize = state.toBytes :=
    List.drop_left' (length_typeBytes _)
  rw [handleUdpDatagram, htype, hlength, hpayload]
  rfl

/-- The newest update, and whether there has been one. -/
def newest (c : PyroStreamConnection) : BitVec 16 × Bool := (c.lastGamepadSeq, c.validGamepadSeq)

lemma newest_handleUdpDatagram (c : PyroStreamConnection) (pts : BitVec 64) (remote : RemoteAddress)
    {msg : List UInt8} (h : messageType msg ≠ messageGamepadState) :
    (c.handleUdpDatagram pts remote msg).1.newest = c.newest := by
  unfold handleUdpDatagram handleCookie
  dsimp only
  split_ifs <;> rfl

lemma newest_handle (c : PyroStreamConnection) (codec : CodecParameters) (id : Nat)
    (received : List UInt8) : (c.handle codec id received).2.1.newest = c.newest := by
  apply handle_keeps
  · exact fun c tcp => rfl
  · intro c codec type payload
    unfold handleMessage handleHello handleKick handleProgress
    dsimp only
    split_ifs <;> rfl

end PyroStreamConnection

/-! ### A connection and its client -/

/-- What a connection has received and forwarded of its client. -/
structure Tracks (received : List Nat) (forwarded : List (Nat × BitVec 16)) (c : PyroStreamConnection) :
    Prop where
  unused : c.validGamepadSeq = false → received = [] ∧ forwarded = []
  last : c.validGamepadSeq = true → ∃ last, forwarded.getLast? = some (last, c.lastGamepadSeq) ∧
    c.lastGamepadSeq = BitVec.ofNat 16 last ∧ last ∈ received ∧ ∀ m ∈ received, m ≤ last
  known : ∀ p ∈ forwarded, p.1 ∈ received
  ordered : forwarded.Pairwise fun p q => p.1 < q.1
  newer : (forwarded.map Prod.snd).IsChain (@Newer 15)

namespace Tracks

open PyroStreamConnection

variable {received : List Nat} {forwarded : List (Nat × BitVec 16)} {c c' : PyroStreamConnection} {n : Nat}

lemma new (cookie : BitVec 64) (fec : Bool) :
    Tracks [] [] ((PyroStreamConnection.new cookie).setForwardErrorCorrection fec) where
  unused _ := ⟨rfl, rfl⟩
  last h := Bool.noConfusion h
  known _ h := absurd h List.not_mem_nil
  ordered := List.Pairwise.nil
  newer := List.IsChain.nil

lemma congr (h : Tracks received forwarded c) (hnewest : c'.newest = c.newest) :
    Tracks received forwarded c' := by
  obtain ⟨hseq, hvalid⟩ := Prod.mk.inj hnewest
  constructor
  · rw [hvalid]
    exact h.unused
  · rw [hseq, hvalid]
    exact h.last
  · exact h.known
  · exact h.ordered
  · exact h.newer

/-- The highest bit tells whether an update is behind the last one. -/
lemma accepts_iff {last : Nat} (hvalid : c.validGamepadSeq = true)
    (hlast : c.lastGamepadSeq = BitVec.ofNat 16 last) (hlate : last < n + 2 ^ 15)
    (hearly : n < last + 2 ^ 15) : c.Accepts (BitVec.ofNat 16 n) ↔ last ≤ n := by
  have hbit : (0x8000#16) = BitVec.twoPow 16 15 := by decide
  rw [Accepts, hvalid, hlast, hbit, and_twoPow_eq_zero_iff, toNat_sub_lt_iff hlate hearly]
  simp

lemma receive (h : Tracks received forwarded c) (hwindow : InWindow 15 received n)
    (hfresh : c.validGamepadSeq = true → c.lastGamepadSeq ≠ BitVec.ofNat 16 n) :
    if c.Accepts (BitVec.ofNat 16 n) then
      Tracks (received ++ [n]) (forwarded ++ [(n, BitVec.ofNat 16 n)])
        { c with lastGamepadSeq := BitVec.ofNat 16 n, validGamepadSeq := true }
    else Tracks (received ++ [n]) forwarded { c with validGamepadSeq := true } := by
  cases hvalid : c.validGamepadSeq with
  | false =>
    obtain ⟨rfl, rfl⟩ := h.unused hvalid
    rw [if_pos (show c.Accepts (BitVec.ofNat 16 n) from Or.inr hvalid)]
    exact {
      unused := fun h => Bool.noConfusion h
      last := fun _ => ⟨n, rfl, rfl, List.mem_singleton_self n, fun m hm => (List.mem_singleton.1 hm).le⟩
      known := fun p hp => by
        obtain rfl := List.mem_singleton.1 hp
        exact List.mem_singleton_self n
      ordered := List.pairwise_singleton _ _
      newer := List.IsChain.singleton _ }
  | true =>
    obtain ⟨last, hgetLast, hlast, hmem, hnewest⟩ := h.last hvalid
    obtain ⟨hlate, hearly⟩ := hwindow.newest hmem hnewest
    have hne : last ≠ n := by
      rintro rfl
      exact hfresh hvalid hlast
    split
    · rename_i haccepts
      have hlt : last < n := lt_of_le_of_ne ((accepts_iff hvalid hlast hlate hearly).1 haccepts) hne
      refine ⟨fun h => Bool.noConfusion h, fun _ => ?_, ?_, ?_, ?_⟩
      · refine ⟨n, List.getLast?_concat, rfl, List.mem_append_right _ (List.mem_singleton_self n), ?_⟩
        intro m hm
        rcases List.mem_append.1 hm with hm | hm
        · exact (hnewest m hm).trans hlt.le
        · exact (List.mem_singleton.1 hm).le
      · intro p hp
        rcases List.mem_append.1 hp with hp | hp
        · exact List.mem_append_left _ (h.known p hp)
        · obtain rfl := List.mem_singleton.1 hp
          exact List.mem_append_right _ (List.mem_singleton_self n)
      · rw [List.pairwise_append]
        refine ⟨h.ordered, List.pairwise_singleton _ _, fun p hp q hq => ?_⟩
        obtain rfl := List.mem_singleton.1 hq
        exact (hnewest _ (h.known p hp)).trans_lt hlt
      · rw [List.map_append]
        refine h.newer.append (List.IsChain.singleton _) ?_
        intro a ha b hb
        rw [List.getLast?_map, hgetLast] at ha
        obtain rfl := Option.mem_some_iff.1 ha
        obtain rfl := Option.mem_some_iff.1 hb
        rw [hlast]
        exact newer_ofNat hlt hearly
    · rename_i haccepts
      have hlt : n < last := Nat.lt_of_not_le fun hle => haccepts ((accepts_iff hvalid hlast hlate hearly).2 hle)
      refine ⟨fun h => Bool.noConfusion h, fun _ => ?_, ?_, h.ordered, h.newer⟩
      · refine ⟨last, hgetLast, hlast, List.mem_append_left _ hmem, ?_⟩
        intro m hm
        rcases List.mem_append.1 hm with hm | hm
        · exact hnewest m hm
        · exact (List.mem_singleton.1 hm).trans_le hlt.le
      · exact fun p hp => List.mem_append_left _ (h.known p hp)

lemma not_accepts (h : Tracks received forwarded c) (hwindow : InWindow 15 received n)
    (hcopy : n ∈ received) (hfresh : c.validGamepadSeq = true → c.lastGamepadSeq ≠ BitVec.ofNat 16 n) :
    ¬c.Accepts (BitVec.ofNat 16 n) := by
  have hvalid : c.validGamepadSeq = true := by
    by_contra hvalid
    rw [(h.unused (by simpa using hvalid)).1] at hcopy
    exact List.not_mem_nil hcopy
  obtain ⟨last, -, hlast, hmem, hnewest⟩ := h.last hvalid
  obtain ⟨hlate, hearly⟩ := hwindow.newest hmem hnewest
  rw [accepts_iff hvalid hlast hlate hearly]
  intro hle
  obtain rfl := le_antisymm hle (hnewest n hcopy)
  exact hfresh hvalid hlast

/-- A copy of the last update is forwarded. -/
lemma accepts_copy (h : Tracks received forwarded c) (hwindow : InWindow 15 received n)
    (hvalid : c.validGamepadSeq = true) (hcopy : c.lastGamepadSeq = BitVec.ofNat 16 n) :
    c.Accepts (BitVec.ofNat 16 n) ∧ (n, BitVec.ofNat 16 n) ∈ forwarded := by
  obtain ⟨last, hgetLast, hlast, hmem, hnewest⟩ := h.last hvalid
  obtain ⟨hlate, hearly⟩ := hwindow.newest hmem hnewest
  obtain rfl : n = last := (ofNat_eq_iff hlate hearly).1 (hcopy.symm.trans hlast)
  refine ⟨(accepts_iff hvalid hlast hlate hearly).2 le_rfl, ?_⟩
  rw [← hlast]
  exact List.mem_of_getLast? hgetLast

end Tracks

/-! ### The server -/

namespace PyroStreamServer

/-- The server has the same connections, which are as they were. -/
structure SameConnections (s s' : PyroStreamServer) : Prop where
  connections : s'.connections = s.connections
  connection : s'.connection = s.connection
  accepted : s'.accepted = s.accepted

lemma SameConnections.refl (s : PyroStreamServer) : SameConnections s s := ⟨rfl, rfl, rfl⟩

lemma SameConnections.trans {s s' s'' : PyroStreamServer} (h : SameConnections s s')
    (h' : SameConnections s' s'') : SameConnections s s'' :=
  ⟨h'.connections.trans h.connections, h'.connection.trans h.connection, h'.accepted.trans h.accepted⟩

lemma sameConnections_setGamepadState (s : PyroStreamServer) (remote : RemoteAddress)
    (state : GamepadState) : SameConnections s (s.setGamepadState remote state) := by
  rw [setGamepadState]
  dsimp only
  split <;> exact ⟨rfl, rfl, rfl⟩

lemma sameConnections_onUdpEvents (events : List PyroStreamConnection.UdpEvent) (s : PyroStreamServer) :
    SameConnections s (events.foldl onUdpEvent s) := by
  refine List.foldlRecOn (motive := fun s' => SameConnections s s') events onUdpEvent
    (SameConnections.refl s) ?_
  intro s' h e _
  apply h.trans
  cases e with
  | setPhaseOffset phaseOffsetUs => exact ⟨rfl, rfl, rfl⟩
  | setGamepadState remote state => exact sameConnections_setGamepadState _ _ _
  | replyToPing header pts => exact SameConnections.refl _

lemma sameConnections_onEvents (events : List PyroStreamConnection.Event) (s : PyroStreamServer) :
    SameConnections s (events.foldl onEvent s) := by
  refine List.foldlRecOn (motive := fun s' => SameConnections s s') events onEvent
    (SameConnections.refl s) ?_
  intro s' h e _
  apply h.trans
  cases e <;> exact ⟨rfl, rfl, rfl⟩

lemma sameConnections_handle (s : PyroStreamServer) {i : Nat} (id : Nat) (received : List UInt8)
    (hi : i ∈ s.connections) :
    let c := ((s.connection i).handle s.codec id received).2.1
    SameConnections { s with connection := Function.update s.connection i c } (s.handle i id received) := by
  rw [handle, if_pos hi]
  exact sameConnections_onEvents _ _

/-- What the clients share. -/
def gamepad (s : PyroStreamServer) : RemoteAddress × GamepadState × Bool × Int :=
  (s.currentGamepadRemote, s.currentGamepadState, s.newGamepadState, s.bitrateChangeRequest)

end PyroStreamServer

/-! ### Runs -/

namespace GamepadSession

variable {s : GamepadSession}

/-- The updates of every connection are forwarded in order, each at most once. -/
def InOrder (s : GamepadSession) : Prop :=
  ∀ i, (s.forwarded i).Pairwise (fun p q => p.1 < q.1) ∧
    ((s.forwarded i).map Prod.snd).IsChain (@Newer 15)

/-- A copy of a datagram that has been received does not touch the gamepad. -/
def Harmless (s : GamepadSession) : Action → Prop
  | .deliver pts remote n => (∀ i ∈ s.receivers remote, n ∈ s.received i) →
    (s.step (.deliver pts remote n)).server.gamepad = s.server.gamepad
  | _ => True

/-- No update has the number of the one that its connection has forwarded last. -/
def Fresh (s : GamepadSession) : Action → Prop
  | .deliver _ remote n => ∀ i ∈ s.receivers remote,
    (s.server.connection i).validGamepadSeq = true →
      (s.server.connection i).lastGamepadSeq ≠ BitVec.ofNat 16 n
  | _ => True

structure Sound (s : GamepadSession) : Prop where
  sender : ∀ remote, (s.sender remote).gamepadSeq = BitVec.ofNat 16 (s.sent remote).length
  sent : ∀ remote n msg, (s.sent remote)[n]? = some msg →
    ∃ state : GamepadState, state.seq = BitVec.ofNat 16 n ∧ msg = state.message
  connections : ∀ i ∈ s.server.connections, i < s.server.accepted
  unused : ∀ i, s.server.accepted ≤ i → s.received i = [] ∧ s.forwarded i = []
  tracks : ∀ i, Tracks (s.received i) (s.forwarded i) (s.server.connection i)

lemma Sound.inOrder (h : Sound s) : s.InOrder := fun i => ⟨(h.tracks i).ordered, (h.tracks i).newer⟩

lemma mem_receivers {remote : RemoteAddress} {i : Nat} : i ∈ s.receivers remote ↔
    i ∈ s.server.connections ∧ (s.server.connection i).TakesGamepad remote := by
  rw [receivers, List.mem_filter, decide_eq_true_iff]

/-- The message is numbered even if it cannot be written. -/
lemma sendGamepadState_gamepad (c : GamepadSender) (state : GamepadState) (gamepadWritten pingWritten : Bool) :
    let r := c.sendGamepadState state gamepadWritten pingWritten
    r.gamepad = ({ state with seq := c.gamepadSeq } : GamepadState).message ∧
      r.sender.gamepadSeq = c.gamepadSeq + 1 := by
  rw [GamepadSender.sendGamepadState]
  dsimp only
  split_ifs <;> exact ⟨rfl, rfl⟩

lemma Sound.sendGamepadState (h : Sound s) (remote : RemoteAddress) (state : GamepadState)
    (gamepadWritten pingWritten : Bool) :
    Sound (s.sendGamepadState remote state gamepadWritten pingWritten) := by
  obtain ⟨hgamepad, hseq⟩ := sendGamepadState_gamepad (s.sender remote) state gamepadWritten pingWritten
  refine { h with sender := ?_, sent := ?_ }
  · intro remote'
    rw [GamepadSession.sendGamepadState]
    dsimp only
    rcases eq_or_ne remote' remote with rfl | hne
    · rw [Function.update_self, Function.update_self, hseq, h.sender, List.length_append,
        BitVec.ofNat_add]
      rfl
    · rw [Function.update_of_ne hne, Function.update_of_ne hne]
      exact h.sender remote'
  · intro remote' n msg hmsg
    rw [GamepadSession.sendGamepadState] at hmsg
    dsimp only at hmsg
    rcases eq_or_ne remote' remote with rfl | hne
    · rw [Function.update_self, hgamepad] at hmsg
      rw [List.getElem?_append] at hmsg
      split at hmsg
      · exact h.sent remote' n msg hmsg
      · rw [List.getElem?_singleton] at hmsg
        split at hmsg
        · have hn : n = (s.sent remote').length := by omega
          refine ⟨_, ?_, (Option.some.inj hmsg).symm⟩
          rw [h.sender, hn]
        · exact absurd hmsg nofun
    · rw [Function.update_of_ne hne] at hmsg
      exact h.sent remote' n msg hmsg

lemma Sound.tracks_deliver (h : Sound s) {pts : BitVec 64} {remote : RemoteAddress} {n : Nat}
    {state : GamepadState} (hseq : state.seq = BitVec.ofNat 16 n)
    (hwindow : ∀ i ∈ s.receivers remote, InWindow 15 (s.received i) n)
    (hfresh : s.Fresh (.deliver pts remote n)) (i : Nat) :
    Tracks ((s.deliver pts remote n state.message).received i)
      ((s.deliver pts remote n state.message).forwarded i)
      ((s.deliver pts remote n state.message).server.connection i) := by
  have hconnection : (s.deliver pts remote n state.message).server.connection i =
      if i ∈ s.server.connections then
        ((s.server.connection i).handleUdpDatagram pts remote state.message).1
      else s.server.connection i := by
    rw [deliver]
    dsimp only
    rw [PyroStreamServer.handleUdpDatagram, (PyroStreamServer.sameConnections_onUdpEvents _ _).connection]
  rw [hconnection, deliver]
  dsimp only
  rw [forwards]
  by_cases hi : i ∈ s.server.connections
  · rw [if_pos hi, if_pos hi, PyroStreamConnection.handleUdpDatagram_message]
    by_cases htakes : (s.server.connection i).TakesGamepad remote
    · have hreceiver : i ∈ s.receivers remote := mem_receivers.2 ⟨hi, htakes⟩
      have hstep := (h.tracks i).receive (hwindow i hreceiver) (hfresh i hreceiver)
      rw [if_pos htakes, if_pos hreceiver, PyroStreamConnection.handleGamepadState_toBytes, hseq]
      split
      · rename_i haccepts
        rw [if_pos haccepts] at hstep
        have hforwarded : (GamepadState.ofBytes state.toBytes).seq = BitVec.ofNat 16 n := by
          rw [state.ofBytes_toBytes, hseq]
        rw [← hforwarded] at hstep ⊢
        exact hstep
      · rename_i haccepts
        rw [if_neg haccepts] at hstep
        rw [List.filterMap_nil, List.map_nil, List.append_nil]
        exact hstep
    · have hreceiver : i ∉ s.receivers remote := fun hmem => htakes (mem_receivers.1 hmem).2
      rw [if_neg htakes, if_neg hreceiver, List.filterMap_nil, List.map_nil, List.append_nil]
      exact h.tracks i
  · have hreceiver : i ∉ s.receivers remote := fun hmem => hi (mem_receivers.1 hmem).1
    rw [if_neg hi, if_neg hi, if_neg hreceiver, List.map_nil, List.append_nil]
    exact h.tracks i

lemma step_deliver_eq (h : Sound s) (pts : BitVec 64) {remote : RemoteAddress} {n : Nat}
    (hsent : n < (s.sent remote).length) : ∃ state : GamepadState, state.seq = BitVec.ofNat 16 n ∧
      s.step (.deliver pts remote n) = s.deliver pts remote n state.message := by
  have hmsg : (s.sent remote)[n]? = some _ := List.getElem?_eq_getElem hsent
  obtain ⟨state, hseq, heq⟩ := h.sent remote n _ hmsg
  refine ⟨state, hseq, ?_⟩
  rw [step, hmsg, heq]

lemma Sound.deliver (h : Sound s) {pts : BitVec 64} {remote : RemoteAddress} {n : Nat}
    (henabled : s.Enabled (.deliver pts remote n)) (hfresh : s.Fresh (.deliver pts remote n)) :
    Sound (s.step (.deliver pts remote n)) := by
  obtain ⟨state, hseq, heq⟩ := step_deliver_eq h pts henabled.1
  have htracks := h.tracks_deliver hseq henabled.2 hfresh
  have hserver : PyroStreamServer.SameConnections _ (s.deliver pts remote n state.message).server :=
    PyroStreamServer.sameConnections_onUdpEvents _ _
  rw [heq]
  refine { h with connections := ?_, unused := ?_, tracks := htracks }
  · intro i hi
    rw [hserver.connections] at hi
    rw [hserver.accepted]
    exact h.connections i hi
  · intro i hi
    rw [hserver.accepted] at hi
    have hgone : i ∉ s.server.connections := fun hmem => absurd (h.connections i hmem) (Nat.not_lt.2 hi)
    have hreceiver : i ∉ s.receivers remote := fun hmem => hgone (mem_receivers.1 hmem).1
    rw [GamepadSession.deliver]
    dsimp only
    rw [forwards, if_neg hreceiver, if_neg hgone, List.map_nil, List.append_nil]
    exact h.unused i hi

lemma Sound.server (h : Sound s) {server : PyroStreamServer}
    (hconnections : ∀ i ∈ server.connections, i < server.accepted)
    (haccepted : s.server.accepted ≤ server.accepted)
    (hnewest : ∀ i < s.server.accepted, (server.connection i).newest = (s.server.connection i).newest)
    (hnew : ∀ i, s.server.accepted ≤ i → (server.connection i).validGamepadSeq = false) :
    Sound { s with server := server } where
  sender := h.sender
  sent := h.sent
  connections := hconnections
  unused i hi := h.unused i (haccepted.trans hi)
  tracks i := by
    rcases Nat.lt_or_ge i s.server.accepted with hi | hi
    · exact (h.tracks i).congr (hnewest i hi)
    · obtain ⟨hreceived, hforwarded⟩ := h.unused i hi
      change Tracks (s.received i) (s.forwarded i) _
      rw [hreceived, hforwarded]
      exact {
        unused := fun _ => ⟨rfl, rfl⟩
        last := fun hvalid => absurd hvalid (by simp [hnew i hi])
        known := fun p hp => absurd hp List.not_mem_nil
        ordered := List.Pairwise.nil
        newer := List.IsChain.nil }

lemma Sound.valid_of_accepted_le (h : Sound s) {i : Nat} (hi : s.server.accepted ≤ i) :
    (s.server.connection i).validGamepadSeq = false := by
  by_contra hvalid
  obtain ⟨last, -, -, hmem, -⟩ := (h.tracks i).last (by simpa using hvalid)
  rw [(h.unused i hi).1] at hmem
  exact List.not_mem_nil hmem

lemma Sound.same (h : Sound s) {server : PyroStreamServer}
    (hconnections : ∀ i ∈ server.connections, i ∈ s.server.connections)
    (haccepted : server.accepted = s.server.accepted)
    (hnewest : ∀ i, (server.connection i).newest = (s.server.connection i).newest) :
    Sound { s with server := server } := by
  refine h.server (fun i hi => ?_) haccepted.ge (fun i _ => hnewest i) fun i hi => ?_
  · rw [haccepted]
    exact h.connections i (hconnections i hi)
  · have hvalid : (server.connection i).validGamepadSeq = (s.server.connection i).validGamepadSeq :=
      congrArg Prod.snd (hnewest i)
    rw [hvalid, h.valid_of_accepted_le hi]

lemma Sound.registerTcpHandler (h : Sound s) : Sound (s.step .registerTcpHandler) := by
  refine h.server ?_ (Nat.le_succ _) ?_ ?_
  · intro i hi
    rcases List.mem_append.1 hi with hi | hi
    · exact (h.connections i hi).trans (Nat.lt_succ_self _)
    · exact (List.mem_singleton.1 hi).trans_lt (Nat.lt_succ_self _)
  · intro i hi
    rw [PyroStreamServer.registerTcpHandler]
    dsimp only
    rw [Function.update_of_ne hi.ne]
  · intro i hi
    rw [PyroStreamServer.registerTcpHandler]
    dsimp only
    rcases eq_or_ne i s.server.accepted with rfl | hne
    · rw [Function.update_self]
      rfl
    · rw [Function.update_of_ne hne, h.valid_of_accepted_le hi]

lemma Sound.handle (h : Sound s) (i id : Nat) (received : List UInt8) :
    Sound (s.step (.handle i id received)) := by
  by_cases hi : i ∈ s.server.connections
  · have hsame := s.server.sameConnections_handle id received hi
    refine h.same (fun j hj => ?_) hsame.accepted fun j => ?_
    · rwa [hsame.connections] at hj
    · rw [hsame.connection]
      dsimp only
      rcases eq_or_ne j i with rfl | hne
      · rw [Function.update_self, PyroStreamConnection.newest_handle]
      · rw [Function.update_of_ne hne]
  · rw [GamepadSession.step, PyroStreamServer.handle, if_neg hi]
    exact h

lemma Sound.handleUdpDatagram (h : Sound s) (pts : BitVec 64) (remote : RemoteAddress)
    {msg : List UInt8} (hother : PyroStreamConnection.messageType msg ≠ messageGamepadState) :
    Sound (s.step (.handleUdpDatagram pts remote msg)) := by
  have hsame : PyroStreamServer.SameConnections _ (s.server.handleUdpDatagram pts remote msg) :=
    PyroStreamServer.sameConnections_onUdpEvents _ _
  refine h.same (fun i hi => ?_) hsame.accepted fun i => ?_
  · rwa [hsame.connections] at hi
  · rw [hsame.connection]
    dsimp only
    split
    · exact (s.server.connection i).newest_handleUdpDatagram pts remote hother
    · rfl

lemma Sound.step (h : Sound s) {a : Action} (henabled : s.Enabled a) (hfresh : s.Fresh a) :
    Sound (s.step a) := by
  have hkeep : ∀ {server : PyroStreamServer}, server.connections = s.server.connections →
      server.accepted = s.server.accepted → server.connection = s.server.connection →
      Sound { s with server := server } := by
    intro server hconnections haccepted hconnection
    exact h.same (fun i hi => hconnections ▸ hi) haccepted fun i => by rw [hconnection]
  cases a with
  | sendGamepadState remote state gamepadWritten pingWritten =>
    exact h.sendGamepadState remote state gamepadWritten pingWritten
  | deliver pts remote n => exact h.deliver henabled hfresh
  | handleUdpDatagram pts remote msg => exact h.handleUdpDatagram pts remote henabled
  | registerTcpHandler => exact h.registerTcpHandler
  | releaseConnection i =>
    exact h.same (fun j hj => List.mem_of_mem_erase hj) rfl fun j => rfl
  | handle i id received => exact h.handle i id received
  | setCodecParameters codec => exact hkeep rfl rfl rfl
  | setForwardErrorCorrection enable => exact hkeep rfl rfl rfl
  | getUpdatedGamepadState => exact hkeep rfl rfl rfl
  | consumeBitrateChangeRequest => exact hkeep rfl rfl rfl

lemma sound_initial : Sound {} where
  sender _ := rfl
  sent _ _ _ hmsg := absurd hmsg nofun
  connections _ hi := absurd hi List.not_mem_nil
  unused _ _ := ⟨rfl, rfl⟩
  tracks _ := {
    unused := fun _ => ⟨rfl, rfl⟩
    last := fun hvalid => Bool.noConfusion hvalid
    known := fun _ hp => absurd hp List.not_mem_nil
    ordered := List.Pairwise.nil
    newer := List.IsChain.nil }

lemma Sound.harmless (h : Sound s) {a : Action} (henabled : s.Enabled a) (hfresh : s.Fresh a) :
    s.Harmless a := by
  cases a with
  | deliver pts remote n =>
    intro hcopies
    obtain ⟨state, hseq, heq⟩ := step_deliver_eq h pts henabled.1
    have hnone : (s.server.connections.flatMap fun i =>
        ((s.server.connection i).handleUdpDatagram pts remote state.message).2) = [] := by
      rw [List.flatMap_eq_nil_iff]
      intro i hi
      rw [PyroStreamConnection.handleUdpDatagram_message]
      split
      · rename_i htakes
        have hreceiver : i ∈ s.receivers remote := mem_receivers.2 ⟨hi, htakes⟩
        have hrefused := (h.tracks i).not_accepts (henabled.2 i hreceiver) (hcopies i hreceiver)
          (hfresh i hreceiver)
        rw [PyroStreamConnection.handleGamepadState_toBytes, hseq, if_neg hrefused]
      · rfl
    rw [heq, GamepadSession.deliver]
    dsimp only
    rw [PyroStreamServer.handleUdpDatagram, hnone]
    rfl
  | _ => trivial

/-- A copy of the last update is forwarded again. -/
lemma Sound.not_inOrder (h : Sound s) {a : Action} (henabled : s.Enabled a) (hcopy : ¬s.Fresh a) :
    ¬(s.step a).InOrder := by
  cases a with
  | deliver pts remote n =>
    simp only [Fresh, not_forall, not_not] at hcopy
    obtain ⟨i, hreceiver, hvalid, hlast⟩ := hcopy
    obtain ⟨hi, htakes⟩ := mem_receivers.1 hreceiver
    obtain ⟨state, hseq, heq⟩ := step_deliver_eq h pts henabled.1
    obtain ⟨haccepts, hmem⟩ := (h.tracks i).accepts_copy (henabled.2 i hreceiver) hvalid hlast
    intro hinOrder
    have hordered := (hinOrder i).1
    rw [heq, GamepadSession.deliver] at hordered
    dsimp only at hordered
    rw [forwards, if_pos hi, PyroStreamConnection.handleUdpDatagram_message, if_pos htakes,
      PyroStreamConnection.handleGamepadState_toBytes, hseq, if_pos haccepts, List.pairwise_append] at hordered
    exact lt_irrefl n (hordered.2.2 _ hmem (n, _) (List.mem_singleton_self _))
  | _ => exact absurd trivial hcopy

/-- Updates are forwarded in order and copies do nothing as long as no copy of the last update of a
connection arrives, and not beyond. -/
theorem updates_once_iff {actions : List Action} (h : Runs.Along step Enabled {} actions) :
    ((∀ actions', actions' <+: actions → (actions'.foldl step {}).InOrder) ∧
      Runs.Along step Harmless {} actions) ↔ Runs.Along step Fresh {} actions := by
  have hsafe := h.iff_safe (B := fun s => ¬s.InOrder) (I := Sound) sound_initial
    (fun s hs => not_not.2 hs.inOrder) (fun s a hs henabled hfresh => hs.step henabled hfresh)
    (fun s a hs henabled hcopy => hs.not_inOrder henabled hcopy)
  simp only [not_not] at hsafe
  constructor
  · exact fun hall => hsafe.1 hall.1
  · intro hfresh
    refine ⟨hsafe.2 hfresh, (h.and hfresh).imp (I := Sound) sound_initial ?_ ?_⟩
    · exact fun s a hs ha => hs.step ha.1 ha.2
    · exact fun s a hs ha => hs.harmless ha.1 ha.2

instance (s : GamepadSession) (a : Action) : Decidable (s.Fresh a) :=
  match a with
  | .deliver _ _ _ => inferInstanceAs (Decidable (∀ i ∈ _, _ → _))
  | .sendGamepadState _ _ _ _ => .isTrue trivial
  | .handleUdpDatagram _ _ _ => .isTrue trivial
  | .registerTcpHandler => .isTrue trivial
  | .releaseConnection _ => .isTrue trivial
  | .handle _ _ _ => .isTrue trivial
  | .setCodecParameters _ => .isTrue trivial
  | .setForwardErrorCorrection _ => .isTrue trivial
  | .getUpdatedGamepadState => .isTrue trivial
  | .consumeBitrateChangeRequest => .isTrue trivial

/-- Two clients have connected, and each has taken control with the mode button. -/
def contest : List Action :=
  [.registerTcpHandler, .registerTcpHandler,
    .handleUdpDatagram 0 ⟨[1]⟩ (cookieMessage 1001), .handleUdpDatagram 0 ⟨[2]⟩ (cookieMessage 1002),
    .handle 0 0 (kickMessage kickStateGamepadBit), .handle 1 0 (kickMessage kickStateGamepadBit),
    .sendGamepadState ⟨[1]⟩ { buttons := padModeBit } true true, .deliver 0 ⟨[1]⟩ 0,
    .sendGamepadState ⟨[2]⟩ { buttons := padModeBit } true true, .deliver 0 ⟨[2]⟩ 0]

theorem contest_updates_once :
    (∀ actions', actions' <+: contest → (actions'.foldl step {}).InOrder) ∧
      Runs.Along step Harmless {} contest :=
  (updates_once_iff (by decide +kernel)).2 (by decide +kernel)

/-- A copy of the first update arrives afterwards. -/
def contestWithCopy : List Action := contest ++ [.deliver 0 ⟨[1]⟩ 0]

theorem copy_takes_control :
    Runs.Along step Enabled {} contestWithCopy ∧ ¬(contestWithCopy.foldl step {}).InOrder ∧
      (contest.foldl step {}).server.currentGamepadRemote = ⟨[2]⟩ ∧
      (contestWithCopy.foldl step {}).server.currentGamepadRemote = ⟨[1]⟩ := by
  refine ⟨by decide +kernel, fun h => ?_, by decide +kernel, by decide +kernel⟩
  have hforwarded : (contestWithCopy.foldl step {}).forwarded 0 = [(0, 0), (0, 0)] := by decide +kernel
  have hordered := (h 0).1
  rw [hforwarded] at hordered
  exact absurd hordered (by decide)

end GamepadSession

end PyroFling
