import PyroFling.IdrRequests
import PyroFling.Proofs.GamepadOrder

/-!
# Key frames on request

A loss flag is only cleared by a call that then returns true, so that no report is lost: the first call
that is not rate-limited answers it. The counter never runs ahead of the calls since the last forced key
frame.
-/

namespace PyroFling

open PyroStreamConnection (Event)

/-! ### What messages leave behind -/

/-- The flags of a connection follow the reports of its client. -/
structure LossReport.Tells (r : LossReport) (c : PyroStreamConnection) (r' : LossReport)
    (c' : PyroStreamConnection) : Prop where
  dropped : r'.dropped = c'.totalDroppedVideoPackets
  noKeyFrame : r'.noKeyFrame = true → c'.needsKeyFrame = true
  changed : r'.changed = true → r.changed = true ∨ c'.hasPendingVideoPacketLoss = true
  pending : c.hasPendingVideoPacketLoss = true → c'.hasPendingVideoPacketLoss = true

namespace LossReport

variable {r r' r'' : LossReport} {c c' c'' : PyroStreamConnection}

/-- The report says what the connection remembers. -/
structure Matches (r : LossReport) (c : PyroStreamConnection) : Prop where
  dropped : r.dropped = c.totalDroppedVideoPackets
  noKeyFrame : r.noKeyFrame = true → c.needsKeyFrame = true

lemma Matches.tells (h : r.Matches c) : r.Tells c r c := ⟨h.dropped, h.noKeyFrame, .inl, id⟩

lemma Tells.matches (h : r.Tells c r' c') : r'.Matches c' := ⟨h.dropped, h.noKeyFrame⟩

lemma Tells.trans (h : r.Tells c r' c') (h' : r'.Tells c' r'' c'') : r.Tells c r'' c'' where
  dropped := h'.dropped
  noKeyFrame := h'.noKeyFrame
  changed hchanged := (h'.changed hchanged).elim (fun hold => (h.changed hold).imp_right h'.pending) .inr
  pending := h'.pending ∘ h.pending

lemma tells_handleMessage (codec : CodecParameters) (type : BitVec 64) (payload : List UInt8)
    (h : r.Matches c) : r.Tells c
      ((Event.message type payload :: (c.handleMessage codec type payload).events).foldl LossReport.next r)
      (c.handleMessage codec type payload).connection := by
  have hd := h.dropped
  have hk := h.noKeyFrame
  by_cases hprogress : type = messageProgress
  · subst hprogress
    rw [PyroStreamConnection.handleMessage, if_neg (by decide), if_neg (by decide), if_pos rfl,
      PyroStreamConnection.handleProgress]
    constructor <;> simp_all [LossReport.next]
    tauto
  · unfold PyroStreamConnection.handleMessage PyroStreamConnection.handleHello
      PyroStreamConnection.handleKick
    dsimp only
    split_ifs <;> constructor <;> simp_all [LossReport.next]

/-- The buffer of a connection does not matter. -/
lemma Tells.buffer (h : r.Tells c r' c') (tcp : List UInt8) : r.Tells c r' { c' with tcp := tcp } :=
  ⟨h.dropped, h.noKeyFrame, h.changed, h.pending⟩

lemma tells_handleLoopSending (codec : CodecParameters) (fuel sends : Nat) (h : r.Matches c) :
    r.Tells c ((PyroStreamConnection.handleLoopSending codec fuel sends c).2.2.foldl LossReport.next r)
      (PyroStreamConnection.handleLoopSending codec fuel sends c).2.1 := by
  induction fuel generalizing sends c r with
  | zero => exact h.tells
  | succ fuel ih =>
    rw [PyroStreamConnection.handleLoopSending]
    dsimp only
    split_ifs
    · exact h.tells
    · have hmessage := tells_handleMessage codec (PyroStreamConnection.messageType c.tcp)
        ((c.tcp.drop messageTypeSize).take
          (messageGetLength (PyroStreamConnection.messageType c.tcp))) h
      rw [List.cons_append, List.foldl_cons, List.foldl_append]
      have hbuffer := hmessage.buffer ((c.handleMessage codec (PyroStreamConnection.messageType c.tcp)
        ((c.tcp.drop messageTypeSize).take
          (messageGetLength (PyroStreamConnection.messageType c.tcp)))).connection.tcp.drop
        (messageGetLength (PyroStreamConnection.messageType c.tcp) + messageTypeSize))
      exact hbuffer.trans (ih _ hbuffer.matches)
    · exact tells_handleMessage codec _ _ h
    · exact h.tells
    · exact h.tells

lemma tells_handleSending (codec : CodecParameters) (received : List UInt8) (sends : Nat) (h : r.Matches c) :
    r.Tells c ((c.handleSending codec 0 received sends).2.2.foldl LossReport.next r)
      (c.handleSending codec 0 received sends).2.1 := by
  rw [PyroStreamConnection.handleSending, if_neg (not_not.2 rfl)]
  split_ifs
  · exact h.tells
  · exact h.tells
  · have hbuffer := h.tells.buffer (c.tcp ++ received)
    exact hbuffer.trans (tells_handleLoopSending codec _ sends hbuffer.matches)

end LossReport

lemma flags_handleUdpDatagram (c : PyroStreamConnection) (pts : BitVec 64) (remote : RemoteAddress)
    (msg : List UInt8) :
    (c.handleUdpDatagram pts remote msg).1.totalDroppedVideoPackets = c.totalDroppedVideoPackets ∧
      (c.handleUdpDatagram pts remote msg).1.needsKeyFrame = c.needsKeyFrame ∧
      (c.handleUdpDatagram pts remote msg).1.hasPendingVideoPacketLoss = c.hasPendingVideoPacketLoss ∧
      (c.handleUdpDatagram pts remote msg).1.kickFlags = c.kickFlags := by
  unfold PyroStreamConnection.handleUdpDatagram PyroStreamConnection.handleCookie
    PyroStreamConnection.handleGamepadState
  dsimp only
  split_ifs <;> exact ⟨rfl, rfl, rfl, rfl⟩

/-! ### Returned values -/

@[simp]
lemma sinceForced_concat_true (results : List Bool) : sinceForced (results ++ [true]) = 0 := by
  rw [sinceForced, List.foldl_append]
  rfl

@[simp]
lemma sinceForced_concat_false (results : List Bool) :
    sinceForced (results ++ [false]) = sinceForced results + 1 := by
  rw [sinceForced, List.foldl_append]
  rfl

/-- Behind a forced key frame only the calls since then count. -/
lemma sinceForced_le (a m : List Bool) : sinceForced (a ++ true :: m) ≤ m.count false := by
  induction m using List.reverseRecOn with
  | nil => exact (sinceForced_concat_true a).le
  | append_singleton m result ih =>
    rw [← List.cons_append, ← List.append_assoc]
    cases result with
    | true =>
      rw [sinceForced_concat_true]
      exact Nat.zero_le _
    | false =>
      rw [sinceForced_concat_false, List.count_append, List.count_singleton_self]
      exact Nat.add_le_add_right ih 1

/-- A return is rate-limited if and only if the counter is below 60 before it, and then no frame is forced.
The counter has 64 bits. -/
structure IdrReturn.Fits (before : List IdrReturn) (r : IdrReturn) : Prop where
  limited : r.limited = true ↔ sinceForced (before.map IdrReturn.result) % 2 ^ 64 < 60
  result : r.limited = true → r.result = false

/-- Every return fits what has been returned before it. -/
def IdrReturn.AllFit (returns : List IdrReturn) : Prop :=
  ∀ a r b, returns = a ++ r :: b → r.Fits a

namespace IdrReturn

lemma AllFit.nil : AllFit [] := fun _ _ _ heq => absurd heq (by simp)

lemma AllFit.concat {returns : List IdrReturn} {r : IdrReturn} (h : AllFit returns) (hr : r.Fits returns) :
    AllFit (returns ++ [r]) := by
  intro a r' b heq
  induction b using List.reverseRecOn with
  | nil =>
    obtain ⟨rfl, hlast⟩ := List.append_inj' heq rfl
    rwa [← (List.cons.inj hlast).1]
  | append_singleton b last _ =>
    rw [← List.cons_append, ← List.append_assoc] at heq
    exact h a r' b (List.append_inj' heq rfl).1

/-- Between two forced key frames at least 60 calls return false. -/
lemma AllFit.spaced {returns : List IdrReturn} (h : AllFit returns) (a m b : List Bool)
    (heq : returns.map IdrReturn.result = a ++ true :: (m ++ true :: b)) : 60 ≤ m.count false := by
  rw [← List.cons_append, ← List.append_assoc] at heq
  obtain ⟨before, rest, hreturns, hbefore, hrest⟩ := List.map_eq_append_iff.1 heq
  obtain ⟨r, after, rfl, hresult, -⟩ := List.map_eq_cons_iff.1 hrest
  have hfits := h before r after hreturns
  have hnot : ¬r.limited = true := fun hlimited =>
    Bool.false_ne_true ((hfits.result hlimited).symm.trans hresult)
  have hcount : 60 ≤ sinceForced (a ++ true :: m) % 2 ^ 64 := by
    rw [← hbefore]
    exact Nat.not_lt.1 fun hlt => hnot (hfits.limited.2 hlt)
  exact hcount.trans ((Nat.mod_le _ _).trans (sinceForced_le a m))

end IdrReturn

/-! ### Runs -/

namespace IdrSession

variable {s : IdrSession} {c : IdrCall}

/-- What is known of a call in its loop. -/
structure CallSound (s : IdrSession) (c : IdrCall) : Prop where
  /-- A loss reported before has been sampled or will be. -/
  loss : c.lossReported = true → s.idrOnPacketLoss = true ∧ (c.requiresIdr = true ∨
    ∃ i ∈ c.remaining, (s.server.connection i).hasPendingVideoPacketLoss = true)
  lacking : ∀ i ∈ c.withoutKeyFrame, s.LacksKeyFrame i ∧ (c.requiresIdr = true ∨ i ∈ c.remaining)
  unlimited : 60 ≤ sinceForced (s.returns.map IdrReturn.result) % 2 ^ 64

structure Sound (s : IdrSession) : Prop where
  reports : ∀ i, (s.report i).Matches (s.server.connection i)
  /-- A report of loss is pending unless the current call is going to answer it. -/
  pending : s.idrOnPacketLoss = true → ∀ i, (s.report i).changed = true →
    (s.server.connection i).hasPendingVideoPacketLoss = true ∨ ∃ c, s.call = some c ∧ c.requiresIdr = true
  fits : IdrReturn.AllFit s.returns
  due : ∀ r ∈ s.returns, r.limited = false → r.due = true → r.result = true
  /-- A call in its loop has counted itself. -/
  counter : s.idrCounter = BitVec.ofNat 64
    (sinceForced (s.returns.map IdrReturn.result) + if s.call.isSome then 1 else 0)
  call : ∀ c, s.call = some c → CallSound s c

lemma sound_initial (idrOnPacketLoss : Bool) : Sound { idrOnPacketLoss := idrOnPacketLoss } where
  reports _ := ⟨rfl, fun h => absurd h Bool.false_ne_true⟩
  pending _ _ h := absurd h Bool.false_ne_true
  fits := IdrReturn.AllFit.nil
  due _ h := absurd h List.not_mem_nil
  counter := rfl
  call _ h := absurd h nofun

lemma Sound.handle (h : Sound s) (i : Nat) (received : List UInt8) (sends : Nat) :
    Sound (s.handle i received sends) := by
  rw [IdrSession.handle]
  split
  swap
  · exact h
  dsimp only
  have htells := LossReport.tells_handleSending s.server.codec received sends (h.reports i)
  have hsame := PyroStreamServer.sameConnections_onEvents
    ((s.server.connection i).handleSending s.server.codec 0 received sends).2.2
    (let server := s.server
     let c := ((s.server.connection i).handleSending s.server.codec 0 received sends).2.1
     { server with connection := Function.update server.connection i c })
  generalize ((s.server.connection i).handleSending s.server.codec 0 received sends).2.1 = c' at htells hsame ⊢
  generalize ((s.server.connection i).handleSending s.server.codec 0 received sends).2.2.foldl
    LossReport.next (s.report i) = r' at htells ⊢
  generalize ((s.server.connection i).handleSending s.server.codec 0 received sends).2.2.foldl
    PyroStreamServer.onEvent _ = server at hsame ⊢
  have hconnection : server.connection = Function.update s.server.connection i c' := hsame.connection
  have hpending : ∀ j, (s.server.connection j).hasPendingVideoPacketLoss = true →
      (server.connection j).hasPendingVideoPacketLoss = true := by
    intro j hj
    rw [hconnection]
    rcases eq_or_ne j i with rfl | hne
    · rw [Function.update_self]
      exact htells.pending hj
    · rwa [Function.update_of_ne hne]
  refine ⟨fun j => ?_, fun honLoss j hchanged => ?_, h.fits, h.due, ?_, fun d hd => ?_⟩
  · rw [hconnection]
    dsimp only
    rcases eq_or_ne j i with rfl | hne
    · rw [Function.update_self, Function.update_self]
      exact htells.matches
    · rw [Function.update_of_ne hne, Function.update_of_ne hne]
      exact h.reports j
  · have hold : ∀ f : IdrCall → IdrCall, (∀ c, (f c).requiresIdr = c.requiresIdr) →
        (s.report j).changed = true → (server.connection j).hasPendingVideoPacketLoss = true ∨
          ∃ c, s.call.map f = some c ∧ c.requiresIdr = true := by
      intro f hf hold
      rcases h.pending honLoss j hold with hj | ⟨c, hc, hrequires⟩
      · exact .inl (hpending j hj)
      · rw [hc]
        exact .inr ⟨f c, rfl, (hf c).trans hrequires⟩
    rcases eq_or_ne j i with rfl | hne
    · dsimp only at hchanged
      rw [Function.update_self] at hchanged
      rcases htells.changed hchanged with hchanged | hraised
      · exact hold _ (fun _ => rfl) hchanged
      · left
        rw [hconnection, Function.update_self]
        exact hraised
    · dsimp only at hchanged
      rw [Function.update_of_ne hne] at hchanged
      exact hold _ (fun _ => rfl) hchanged
  · dsimp only
    rw [Option.isSome_map]
    exact h.counter
  · obtain ⟨c, hc, rfl⟩ := Option.map_eq_some_iff.1 hd
    have hcall := h.call c hc
    refine ⟨fun hloss => ?_, fun j hj => ?_, hcall.unlimited⟩
    · obtain ⟨honLoss, hsampled⟩ := hcall.loss hloss
      refine ⟨honLoss, hsampled.imp_right ?_⟩
      rintro ⟨j, hj, hjpending⟩
      exact ⟨j, hj, hpending j hjpending⟩
    · obtain ⟨hj, hlacks⟩ := List.mem_filter.1 hj
      exact ⟨of_decide_eq_true hlacks, (hcall.lacking j hj).2⟩

lemma Sound.same (h : Sound s) {server : PyroStreamServer}
    (hflags : ∀ i, (server.connection i).totalDroppedVideoPackets =
        (s.server.connection i).totalDroppedVideoPackets ∧
      (server.connection i).needsKeyFrame = (s.server.connection i).needsKeyFrame ∧
      (server.connection i).hasPendingVideoPacketLoss = (s.server.connection i).hasPendingVideoPacketLoss ∧
      (server.connection i).kickFlags = (s.server.connection i).kickFlags) :
    Sound { s with server := server } := by
  refine ⟨fun i => ?_, fun honLoss i hchanged => ?_, h.fits, h.due, h.counter, fun c hc => ?_⟩
  · obtain ⟨hdropped, hneeds, -, -⟩ := hflags i
    exact ⟨(h.reports i).dropped.trans hdropped.symm, hneeds ▸ (h.reports i).noKeyFrame⟩
  · obtain ⟨-, -, hpending, -⟩ := hflags i
    rw [hpending]
    exact h.pending honLoss i hchanged
  · have hcall := h.call c hc
    refine ⟨fun hloss => ?_, fun i hi => ?_, hcall.unlimited⟩
    · obtain ⟨honLoss, hsampled⟩ := hcall.loss hloss
      refine ⟨honLoss, hsampled.imp_right ?_⟩
      rintro ⟨i, hi, hipending⟩
      exact ⟨i, hi, (hflags i).2.2.1.trans hipending⟩
    · obtain ⟨⟨hno, hvideo⟩, hsampled⟩ := hcall.lacking i hi
      refine ⟨⟨hno, ?_⟩, hsampled⟩
      change (server.connection i).kickFlags &&& _ ≠ 0
      rw [(hflags i).2.2.2]
      exact hvideo

lemma Sound.registerTcpHandler (h : Sound s) (hnone : s.call = none) : Sound { s with
    server := s.server.registerTcpHandler
    report := Function.update s.report s.server.accepted {} } := by
  refine ⟨fun i => ?_, fun honLoss i hchanged => ?_, h.fits, h.due, h.counter, fun c hc => ?_⟩
  · rw [PyroStreamServer.registerTcpHandler]
    dsimp only
    rcases eq_or_ne i s.server.accepted with rfl | hne
    · rw [Function.update_self, Function.update_self]
      exact ⟨rfl, fun hno => absurd hno Bool.false_ne_true⟩
    · rw [Function.update_of_ne hne, Function.update_of_ne hne]
      exact h.reports i
  · rw [PyroStreamServer.registerTcpHandler]
    dsimp only at hchanged ⊢
    rcases eq_or_ne i s.server.accepted with rfl | hne
    · rw [Function.update_self] at hchanged
      exact absurd hchanged Bool.false_ne_true
    · rw [Function.update_of_ne hne] at hchanged ⊢
      exact h.pending honLoss i hchanged
  · rw [hnone] at hc
    cases hc

/-- The counter between two calls. -/
lemma Sound.counter_eq (h : Sound s) (hnone : s.call = none) :
    s.idrCounter = BitVec.ofNat 64 (sinceForced (s.returns.map IdrReturn.result)) := by
  rw [h.counter, hnone]
  rfl

lemma Sound.shouldForceIdr (h : Sound s) (hnone : s.call = none) : Sound s.shouldForceIdr := by
  have hcounter := h.counter_eq hnone
  have hmod : s.idrCounter.toNat = sinceForced (s.returns.map IdrReturn.result) % 2 ^ 64 := by
    rw [hcounter, BitVec.toNat_ofNat]
  have hsucc : s.idrCounter + 1 = BitVec.ofNat 64 (sinceForced (s.returns.map IdrReturn.result) + 1) := by
    rw [hcounter, BitVec.ofNat_add]
    rfl
  rw [IdrSession.shouldForceIdr]
  dsimp only
  split
  · rename_i hlimited
    rw [hmod] at hlimited
    refine ⟨h.reports, h.pending, h.fits.concat ⟨⟨fun _ => hlimited, fun _ => rfl⟩, fun _ => rfl⟩,
      fun r hr => ?_, ?_, fun c hc => ?_⟩
    · rcases List.mem_append.1 hr with hr | hr
      · exact h.due r hr
      · obtain rfl := List.mem_singleton.1 hr
        exact fun hlimited => absurd hlimited (by decide)
    · dsimp only
      rw [hnone, List.map_append, List.map_singleton, sinceForced_concat_false]
      exact hsucc
    · rw [hnone] at hc
      cases hc
  · rename_i hlimited
    rw [hmod] at hlimited
    refine ⟨h.reports, fun honLoss i hchanged => ?_, h.fits, h.due, hsucc, fun c hc => ?_⟩
    · rcases h.pending honLoss i hchanged with hpending | ⟨c, hc, -⟩
      · exact .inl hpending
      · rw [hnone] at hc
        cases hc
    · obtain rfl := Option.some.inj hc
      refine ⟨fun hloss => ?_, fun i hi => ?_, Nat.not_lt.1 hlimited⟩
      · obtain ⟨honLoss, hany⟩ := Bool.and_eq_true_iff.1 hloss
        obtain ⟨i, hi, hchanged⟩ := List.any_eq_true.1 hany
        refine ⟨honLoss, .inr ⟨i, hi, ?_⟩⟩
        rcases h.pending honLoss i hchanged with hpending | ⟨c, hc, -⟩
        · exact hpending
        · rw [hnone] at hc
          cases hc
      · obtain ⟨hi, hlacks⟩ := List.mem_filter.1 hi
        exact ⟨of_decide_eq_true hlacks, .inr hi⟩

lemma Sound.sample_cons (h : Sound s) (hc : s.call = some c) {i : Nat} {remaining : List Nat}
    (hremaining : c.remaining = i :: remaining) : Sound (s.sample c) := by
  have hcall := h.call c hc
  rw [IdrSession.sample, hremaining]
  dsimp only [PyroStreamConnection.getAndClearPendingVideoPacketLoss]
  set cleared := { s.server.connection i with hasPendingVideoPacketLoss := false } with hcleared
  set requires := c.requiresIdr || ((s.server.connection i).hasPendingVideoPacketLoss && s.idrOnPacketLoss) ||
    cleared.requiresIdr with hrequires
  have hkept : c.requiresIdr = true → requires = true := by
    intro hold
    rw [hrequires, hold]
    rfl
  have hcounter : s.idrCounter = BitVec.ofNat 64 (sinceForced (s.returns.map IdrReturn.result) + 1) := by
    rw [h.counter, hc]
    rfl
  refine ⟨fun j => ?_, fun honLoss j hchanged => ?_, h.fits, h.due, hcounter, fun d hd => ?_⟩
  · dsimp only
    rcases eq_or_ne j i with rfl | hne
    · rw [Function.update_self]
      exact ⟨(h.reports j).dropped, (h.reports j).noKeyFrame⟩
    · rw [Function.update_of_ne hne]
      exact h.reports j
  · dsimp only
    rcases h.pending honLoss j hchanged with hpending | ⟨d, hd, hold⟩
    · rcases eq_or_ne j i with rfl | hne
      · right
        refine ⟨_, rfl, ?_⟩
        rw [hrequires, hpending, honLoss, Bool.and_self, Bool.or_true, Bool.true_or]
      · left
        rwa [Function.update_of_ne hne]
    · obtain rfl := Option.some.inj (hc.symm.trans hd)
      exact .inr ⟨_, rfl, hkept hold⟩
  · obtain rfl := Option.some.inj hd
    refine ⟨fun hloss => ?_, fun j hj => ?_, hcall.unlimited⟩
    · obtain ⟨honLoss, hsampled⟩ := hcall.loss hloss
      refine ⟨honLoss, ?_⟩
      rcases hsampled with hold | ⟨j, hj, hpending⟩
      · exact .inl (hkept hold)
      · rw [hremaining] at hj
        rcases eq_or_ne j i with rfl | hne
        · left
          rw [hrequires, hpending, honLoss, Bool.and_self, Bool.or_true, Bool.true_or]
        · right
          refine ⟨j, (List.mem_cons.1 hj).resolve_left hne, ?_⟩
          dsimp only
          rwa [Function.update_of_ne hne]
    · obtain ⟨hlacks, hsampled⟩ := hcall.lacking j hj
      have hstill : (Function.update s.server.connection i cleared j).kickFlags =
          (s.server.connection j).kickFlags := by
        rcases eq_or_ne j i with rfl | hne
        · rw [Function.update_self]
        · rw [Function.update_of_ne hne]
      refine ⟨⟨hlacks.1, ?_⟩, ?_⟩
      · dsimp only
        rw [hstill]
        exact hlacks.2
      · rcases hsampled with hold | hmem
        · exact .inl (hkept hold)
        · rw [hremaining] at hmem
          rcases List.mem_cons.1 hmem with rfl | hmem
          · left
            have hneeds : cleared.requiresIdr = true := by
              rw [PyroStreamConnection.requiresIdr, Bool.and_eq_true, decide_eq_true_iff]
              exact ⟨hlacks.2, (h.reports j).noKeyFrame hlacks.1⟩
            rw [hrequires, hneeds, Bool.or_true]
          · exact .inr hmem

lemma Sound.sample_nil (h : Sound s) (hc : s.call = some c) (hremaining : c.remaining = []) :
    Sound (s.sample c) := by
  have hcall := h.call c hc
  rw [IdrSession.sample, hremaining]
  dsimp only
  have hreport : ∀ i, (if c.requiresIdr then fun i => { s.report i with changed := false } else s.report) i =
      if c.requiresIdr then { s.report i with changed := false } else s.report i := by
    intro i
    split <;> rfl
  refine ⟨fun i => ?_, fun honLoss i hchanged => ?_, ?_, fun r hr => ?_, ?_,
    fun d hd => (by cases hd)⟩
  · dsimp only
    rw [hreport]
    split
    · exact ⟨(h.reports i).dropped, (h.reports i).noKeyFrame⟩
    · exact h.reports i
  · left
    dsimp only at hchanged ⊢
    rw [hreport] at hchanged
    split at hchanged
    · exact absurd hchanged Bool.false_ne_true
    · rename_i hnot
      rcases h.pending honLoss i hchanged with hpending | ⟨d, hd, hrequires⟩
      · exact hpending
      · obtain rfl := Option.some.inj (hc.symm.trans hd)
        exact absurd hrequires hnot
  · have hunlimited := hcall.unlimited
    exact h.fits.concat ⟨⟨fun hfalse => absurd hfalse Bool.false_ne_true,
      fun hlt => absurd hlt (Nat.not_lt.2 hunlimited)⟩, fun hfalse => absurd hfalse Bool.false_ne_true⟩
  · rcases List.mem_append.1 hr with hr | hr
    · exact h.due r hr
    · obtain rfl := List.mem_singleton.1 hr
      intro _ hdue
      rcases Bool.or_eq_true_iff.1 hdue with hloss | hlacking
      · rcases (hcall.loss hloss).2 with hrequires | ⟨i, hi, -⟩
        · exact hrequires
        · rw [hremaining] at hi
          exact absurd hi List.not_mem_nil
      · obtain ⟨i, hi⟩ := List.exists_mem_of_ne_nil _ (of_decide_eq_true hlacking)
        rcases (hcall.lacking i hi).2 with hrequires | hmem
        · exact hrequires
        · rw [hremaining] at hmem
          exact absurd hmem List.not_mem_nil
  · dsimp only
    rw [List.map_append, List.map_singleton]
    cases hrequires : c.requiresIdr with
    | true =>
      rw [sinceForced_concat_true]
      rfl
    | false =>
      rw [sinceForced_concat_false, if_neg Bool.false_ne_true, h.counter, hc]
      rfl

lemma Sound.step (h : Sound s) (e : IdrEvent) : Sound (s.step e) := by
  cases e with
  | registerTcpHandler =>
    simp only [IdrSession.step]
    split
    · rename_i hnone
      exact h.registerTcpHandler (Option.isNone_iff_eq_none.1 hnone)
    · exact h
  | releaseConnection i =>
    simp only [IdrSession.step]
    split
    · exact h.same fun _ => ⟨rfl, rfl, rfl, rfl⟩
    · exact h
  | handle i received sends => exact h.handle i received sends
  | handleUdpDatagram pts remote msg =>
    have hsame : PyroStreamServer.SameConnections _ (s.server.handleUdpDatagram pts remote msg) :=
      PyroStreamServer.sameConnections_onUdpEvents _ _
    refine h.same fun i => ?_
    rw [hsame.connection]
    dsimp only
    split
    · exact flags_handleUdpDatagram _ pts remote msg
    · exact ⟨rfl, rfl, rfl, rfl⟩
  | setCodecParameters codec => exact h.same fun _ => ⟨rfl, rfl, rfl, rfl⟩
  | shouldForceIdr =>
    cases hc : s.call with
    | none =>
      simp only [IdrSession.step, hc]
      exact h.shouldForceIdr hc
    | some c =>
      simp only [IdrSession.step, hc]
      cases hremaining : c.remaining with
      | nil => exact h.sample_nil hc hremaining
      | cons i remaining => exact h.sample_cons hc hremaining

/-! ### A call without messages in between -/

/-- What a connection asks for when it is sampled. -/
def Requests (s : IdrSession) (i : Nat) : Prop :=
  ((s.server.connection i).hasPendingVideoPacketLoss = true ∧ s.idrOnPacketLoss = true) ∨
    (s.server.connection i).requiresIdr = true

/-- The sample of one connection takes nothing away from the requests of the others. -/
lemma requests_sample {i : Nat} {remaining : List Nat} (hremaining : c.remaining = i :: remaining) :
    ∃ c', (s.sample c).call = some c' ∧ c'.remaining = remaining ∧ (s.sample c).returns = s.returns ∧
      (c'.requiresIdr = true ↔ c.requiresIdr = true ∨ s.Requests i) ∧
      ∀ j, (s.Requests i ∨ (s.sample c).Requests j) ↔ (s.Requests i ∨ s.Requests j) := by
  rw [IdrSession.sample, hremaining]
  refine ⟨_, rfl, rfl, rfl, ?_, fun j => ?_⟩
  · simp only [PyroStreamConnection.getAndClearPendingVideoPacketLoss, Bool.or_eq_true, Bool.and_eq_true,
      or_assoc]
    rfl
  · rcases eq_or_ne j i with rfl | hne
    · simp only [Requests, PyroStreamConnection.getAndClearPendingVideoPacketLoss, Function.update_self,
        PyroStreamConnection.requiresIdr]
      tauto
    · simp only [Requests, Function.update_of_ne hne]

lemma returns_of_call {remaining : List Nat} (hc : s.call = some c) (hremaining : c.remaining = remaining) :
    ∃ r : IdrReturn, ((fun s => s.step .shouldForceIdr)^[remaining.length + 1] s).returns = s.returns ++ [r] ∧
      r.limited = false ∧ (r.result = true ↔ c.requiresIdr = true ∨ ∃ i ∈ remaining, s.Requests i) := by
  have hstep : s.step .shouldForceIdr = s.sample c := by
    simp only [IdrSession.step, hc]
  induction remaining generalizing s c with
  | nil =>
    refine ⟨{ limited := false, due := c.lossReported || c.withoutKeyFrame ≠ [], result := c.requiresIdr },
      ?_, rfl, ?_⟩
    · rw [List.length_nil, Nat.zero_add, Function.iterate_one, hstep, IdrSession.sample, hremaining]
    · simp
  | cons i remaining ih =>
    obtain ⟨c', hc', hremaining', hreturns, hrequires, hrequests⟩ := requests_sample (s := s) hremaining
    have hstep' : (s.sample c).step .shouldForceIdr = (s.sample c).sample c' := by
      simp only [IdrSession.step, hc']
    obtain ⟨r, hr, hlimited, hresult⟩ := ih hc' hremaining' hstep'
    refine ⟨r, ?_, hlimited, ?_⟩
    · rw [List.length_cons, Function.iterate_succ_apply, hstep, hr, hreturns]
    · rw [hresult, hrequires, List.exists_mem_cons_iff]
      constructor
      · rintro ((hold | hi) | ⟨j, hj, hrequest⟩)
        · exact .inl hold
        · exact .inr (.inl hi)
        · rcases (hrequests j).1 (.inr hrequest) with hi | hj'
          · exact .inr (.inl hi)
          · exact .inr (.inr ⟨j, hj, hj'⟩)
      · rintro (hold | hi | ⟨j, hj, hrequest⟩)
        · exact .inl (.inl hold)
        · exact .inl (.inr hi)
        · rcases (hrequests j).2 (.inr hrequest) with hi | hj'
          · exact .inl (.inr hi)
          · exact .inr ⟨j, hj, hj'⟩

/-! ### Main result -/

/-- In every run there are at least 60 calls that return `false` between two that return `true`; a call
that is not rate-limited returns `true` if a connection that the server has had reported a loss since the
last time, or if a video connection is without a key frame as long as the call takes. A call is rate-limited
if and only if fewer than 60 calls have returned `false` since the last `true`, as the counter of 64 bits
has it: then it returns `false` and leaves the flags of all connections alone, and otherwise it looks at
all connections and returns `true` if one of them asks for it. -/
theorem idr_requests_kept (idrOnPacketLoss : Bool) (events : List IdrEvent) :
    let s := events.foldl step { idrOnPacketLoss := idrOnPacketLoss }
    (∀ a m b, s.returns.map IdrReturn.result = a ++ true :: (m ++ true :: b) → 60 ≤ m.count false) ∧
      (∀ r ∈ s.returns, r.limited = false → r.due = true → r.result = true) ∧
      (∀ a r b, s.returns = a ++ r :: b →
        (r.limited = true ↔ sinceForced (a.map IdrReturn.result) % 2 ^ 64 < 60) ∧
          (r.limited = true → r.result = false)) ∧
      (s.call = none →
        s.idrCounter.toNat = sinceForced (s.returns.map IdrReturn.result) % 2 ^ 64 ∧
          (s.idrCounter.toNat < 60 →
            (s.step .shouldForceIdr).returns = s.returns ++ [{ limited := true, result := false }] ∧
              (s.step .shouldForceIdr).server = s.server) ∧
          (60 ≤ s.idrCounter.toNat → ∃ r : IdrReturn,
            ((fun s => s.step .shouldForceIdr)^[s.server.connections.length + 2] s).returns =
                s.returns ++ [r] ∧
              r.limited = false ∧ (r.result = true ↔ ∃ i ∈ s.server.connections, s.Requests i))) := by
  intro s
  have h : Sound s := List.foldlRecOn events step (sound_initial idrOnPacketLoss) fun _ h e _ => h.step e
  refine ⟨h.fits.spaced, h.due, fun a r b heq => ?_, fun hnone => ⟨?_, fun hlimited => ?_, fun hcounter => ?_⟩⟩
  · exact ⟨(h.fits a r b heq).limited, (h.fits a r b heq).result⟩
  · rw [h.counter_eq hnone, BitVec.toNat_ofNat]
  · simp only [IdrSession.step, hnone]
    rw [IdrSession.shouldForceIdr]
    dsimp only
    rw [if_pos hlimited]
    exact ⟨rfl, rfl⟩
  · have hbegin : s.step .shouldForceIdr = s.shouldForceIdr := by
      simp only [IdrSession.step, hnone]
    have hunlimited : ¬s.idrCounter.toNat < 60 := Nat.not_lt.2 hcounter
    have hcall : s.shouldForceIdr = { s with
        idrCounter := s.idrCounter + 1
        call := some {
          remaining := s.server.connections
          lossReported := s.idrOnPacketLoss && s.server.connections.any fun i => (s.report i).changed
          withoutKeyFrame := s.server.connections.filter fun i => s.LacksKeyFrame i } } := by
      rw [IdrSession.shouldForceIdr]
      dsimp only
      rw [if_neg hunlimited]
      rfl
    rw [Function.iterate_succ_apply, hbegin, hcall]
    obtain ⟨r, hr, hlimited, hresult⟩ := returns_of_call (s := { s with
      idrCounter := s.idrCounter + 1
      call := some {
        remaining := s.server.connections
        lossReported := s.idrOnPacketLoss && s.server.connections.any fun i => (s.report i).changed
        withoutKeyFrame := s.server.connections.filter fun i => s.LacksKeyFrame i } }) rfl rfl
    exact ⟨r, hr, hlimited, hresult.trans ⟨fun h => h.resolve_left Bool.false_ne_true, .inr⟩⟩

/-- A progress report of a number of dropped video packets and of key frames. -/
def progressReport (dropped keyFrames : UInt8) : List UInt8 :=
  typeBytes messageProgress ++ (List.replicate 16 0 ++ dropped :: List.replicate 15 0 ++
    keyFrames :: List.replicate 7 0)

/-- Two clients, one with video and without a key frame, the other with three packets lost. 60 calls are
rate-limited and the next forces a frame; after 60 more calls the new report of the second client is
answered. -/
def twoClients : List IdrEvent :=
  [.registerTcpHandler, .registerTcpHandler, .handle 0 (typeBytes messageKick ++ [1, 0, 0, 0]) 1,
      .handle 0 (progressReport 0 0) 0, .handle 1 (progressReport 3 1) 0] ++
    List.replicate 64 IdrEvent.shouldForceIdr ++ [.handle 0 (progressReport 0 1) 0] ++
    List.replicate 60 IdrEvent.shouldForceIdr ++ [.handle 1 (progressReport 4 1) 0] ++
    List.replicate 4 IdrEvent.shouldForceIdr

theorem twoClients_forced : let s := twoClients.foldl step { idrOnPacketLoss := true }
    s.returns.map (fun r => (r.limited, r.due)) = List.replicate 60 (true, false) ++ (false, true) ::
        (List.replicate 60 (true, false) ++ [(false, true)]) ∧
      ∀ r ∈ s.returns, r.limited = false → r.result = true := by
  have hruns : ((twoClients.foldl step { idrOnPacketLoss := true }).returns.map
      fun r => (r.limited, r.due)) = List.replicate 60 (true, false) ++ (false, true) ::
        (List.replicate 60 (true, false) ++ [(false, true)]) := by
    decide +kernel
  have hall : ∀ r ∈ (twoClients.foldl step { idrOnPacketLoss := true }).returns,
      r.limited = false → r.due = true := by
    decide +kernel
  refine ⟨hruns, fun r hr hlimited => ?_⟩
  exact (idr_requests_kept true twoClients).2.1 r hr hlimited (hall r hr hlimited)

end IdrSession

end PyroFling
