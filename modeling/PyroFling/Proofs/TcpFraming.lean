import PyroFling.Server
import PyroFling.Library.Framing

/-!
# Control messages over TCP

The bytes of a client reach `handle` in pieces of any size. As long as no KICK comes when the
connection is kicked already, all that counts is the stream itself: after every call the buffer
holds the beginning of a single message, everything before it has been handled message by
message, and there is room for more. A redundant KICK stays in the buffer.
-/

namespace PyroFling

namespace PyroStreamConnection

lemma messageGetLength_le (v : BitVec 64) : messageGetLength v ≤ 255 := by
  rw [messageGetLength, BitVec.toNat_and]
  exact Nat.and_le_right

lemma holdsMessage_iff {tcp : List UInt8} : holdsMessage tcp = true ↔
    messageTypeSize ≤ tcp.length ∧
      messageGetLength (messageType tcp) + messageTypeSize ≤ tcp.length := by
  simp [holdsMessage]

/-- The type of a message only depends on its first bytes. -/
lemma messageType_take {tcp : List UInt8} {n : Nat} (hn : messageTypeSize ≤ n) :
    messageType (tcp.take n) = messageType tcp := by
  rw [messageType, List.take_take, Nat.min_eq_left hn]
  rfl

lemma messageType_append {tcp : List UInt8} (h : messageTypeSize ≤ tcp.length) (r : List UInt8) :
    messageType (tcp ++ r) = messageType tcp := by
  rw [messageType, List.take_append_of_le_length h]
  rfl

/-- How the stream of a client is cut into messages. -/
def messageFraming : Framing UInt8 where
  frame tcp := if holdsMessage tcp then some (messageGetLength (messageType tcp) + messageTypeSize)
    else none
  pos := by
    intro tcp n h
    split at h
    · rw [← Option.some.inj h]
      exact Nat.lt_add_left _ (by decide)
    · exact absurd h (by simp)
  le := by
    intro tcp n h
    split at h
    · rename_i hholds
      rw [← Option.some.inj h]
      exact (holdsMessage_iff.mp hholds).2
    · exact absurd h (by simp)
  append := by
    intro tcp n r h
    split at h
    · rename_i hholds
      obtain ⟨htype, hlength⟩ := holdsMessage_iff.mp hholds
      have hholds' : holdsMessage (tcp ++ r) = true := by
        rw [holdsMessage_iff, messageType_append htype, List.length_append]
        omega
      rw [if_pos hholds', messageType_append htype]
      exact h
    · exact absurd h (by simp)

lemma frame_eq_none {tcp : List UInt8} : messageFraming.frame tcp = none ↔ holdsMessage tcp = false := by
  simp [messageFraming]

lemma frame_of_holds {tcp : List UInt8} (h : holdsMessage tcp = true) :
    messageFraming.frame tcp = some (messageGetLength (messageType tcp) + messageTypeSize) :=
  if_pos h

/-! ### One message -/

/-- Whether a KICK is answered with the codec parameters. -/
def ready (codec : CodecParameters) (c : PyroStreamConnection) : Bool :=
  c.udpRemote.isSet && codec.videoCodec ≠ videoCodecNone

/-- What handling a message does not change, and what it does to the flag. -/
lemma handleMessage_spec (codec : CodecParameters) (c : PyroStreamConnection) (type : BitVec 64)
    (payload : List UInt8) :
    let h := c.handleMessage codec type payload
    h.connection.tcp = c.tcp ∧ h.connection.udpRemote = c.udpRemote ∧
      (h.consumed = true ↔ (type = messageKick → c.kicked = false)) ∧
      h.connection.kicked = if type = messageKick then c.kicked || ready codec c else c.kicked := by
  have hkick : messageHello ≠ messageKick := by decide
  have hprogress : messageProgress ≠ messageKick := by decide
  unfold handleMessage
  by_cases h₁ : type = messageHello
  · subst h₁
    simp [handleHello, hkick]
  · by_cases h₂ : type = messageKick
    · subst h₂
      rw [if_neg h₁, if_pos rfl]
      cases hkicked : c.kicked with
      | true => simp [handleKick, hkicked]
      | false =>
        cases hremote : c.udpRemote.isSet with
        | true =>
          by_cases hcodec : codec.videoCodec = videoCodecNone
          · simp [handleKick, hkicked, hremote, hcodec, ready]
          · simp [handleKick, hkicked, hremote, hcodec, ready]
        | false => simp [handleKick, hkicked, hremote, ready]
    · by_cases h₃ : type = messageProgress
      · subst h₃
        simp [handleProgress, h₁, hprogress]
      · simp [h₁, h₂, h₃]

lemma handleMessage_tcp (codec : CodecParameters) (c : PyroStreamConnection) (tcp : List UInt8)
    (type : BitVec 64) (payload : List UInt8) :
    { c with tcp := tcp }.handleMessage codec type payload =
      let h := c.handleMessage codec type payload
      { h with connection := { h.connection with tcp := tcp } } := by
  unfold handleMessage handleHello handleKick handleProgress
  simp only
  split_ifs <;> rfl

/-! ### All messages of a buffer -/

/-- Handles messages one after the other. -/
def handleAll (codec : CodecParameters) :
    PyroStreamConnection → List (List UInt8) → PyroStreamConnection × List Event
  | c, [] => (c, [])
  | c, m :: ms =>
    let handled := c.handleMessage codec (messageType m) (m.drop messageTypeSize)
    let r := handleAll codec handled.connection ms
    (r.1, .message (messageType m) (m.drop messageTypeSize) :: handled.events ++ r.2)

/-- No KICK comes after one that was answered with the codec parameters. -/
def KicksOnce (ready : Bool) : Bool → List (List UInt8) → Prop
  | _, [] => True
  | kicked, m :: ms =>
    if messageType m = messageKick then kicked = false ∧ KicksOnce ready ready ms
    else KicksOnce ready kicked ms

lemma kicksOnce_append {ready kicked : Bool} {codec : CodecParameters} {c : PyroStreamConnection}
    (ms : List (List UInt8)) (ms' : List (List UInt8)) (hready : c.ready codec = ready)
    (hkicked : c.kicked = kicked) :
    KicksOnce ready kicked (ms ++ ms') ↔ KicksOnce ready kicked ms ∧
      KicksOnce ready (handleAll codec c ms).1.kicked ms' := by
  induction ms generalizing c kicked with
  | nil => simp [KicksOnce, handleAll, hkicked]
  | cons m ms ih =>
    obtain ⟨-, hremote, -, hflag⟩ :=
      handleMessage_spec codec c (messageType m) (m.drop messageTypeSize)
    have hready' : (c.handleMessage codec (messageType m) (m.drop messageTypeSize)).connection.ready
        codec = ready := by
      rw [PyroStreamConnection.ready, hremote]
      exact hready
    rw [List.cons_append, KicksOnce, KicksOnce, handleAll]
    by_cases hkick : messageType m = messageKick
    · rw [if_pos hkick, hkicked, hready] at hflag
      rw [if_pos hkick, if_pos hkick, and_assoc]
      refine and_congr_right fun hfalse => ?_
      rw [hfalse, Bool.false_or] at hflag
      exact ih hready' hflag
    · rw [if_neg hkick] at hflag
      rw [if_neg hkick, if_neg hkick]
      exact ih hready' (hflag.trans hkicked)

lemma handleAll_append (codec : CodecParameters) (c : PyroStreamConnection) (ms ms' : List (List UInt8)) :
    handleAll codec c (ms ++ ms') =
      ((handleAll codec (handleAll codec c ms).1 ms').1,
        (handleAll codec c ms).2 ++ (handleAll codec (handleAll codec c ms).1 ms').2) := by
  induction ms generalizing c with
  | nil => rfl
  | cons m ms ih =>
    simp only [List.cons_append, handleAll, ih, List.append_assoc]

lemma handleAll_tcp (codec : CodecParameters) (c : PyroStreamConnection) (tcp : List UInt8)
    (ms : List (List UInt8)) : handleAll codec { c with tcp := tcp } ms =
      ({ (handleAll codec c ms).1 with tcp := tcp }, (handleAll codec c ms).2) := by
  induction ms generalizing c with
  | nil => rfl
  | cons m ms ih =>
    simp only [handleAll, handleMessage_tcp, ih]

lemma handleAll_udpRemote (codec : CodecParameters) (c : PyroStreamConnection) (ms : List (List UInt8)) :
    (handleAll codec c ms).1.udpRemote = c.udpRemote := by
  induction ms generalizing c with
  | nil => rfl
  | cons m ms ih =>
    exact (ih _).trans (handleMessage_spec codec c (messageType m) (m.drop messageTypeSize)).2.1

/-- The loop handles the complete messages and keeps the rest. -/
lemma handleLoop_eq (codec : CodecParameters) (tcp : List UInt8) :
    ∀ (c : PyroStreamConnection) (fuel : Nat), c.tcp = tcp → tcp.length ≤ fuel →
      KicksOnce (c.ready codec) c.kicked (messageFraming.frames tcp) →
      (handleLoop codec fuel c).1 = true →
      (handleLoop codec fuel c).2 =
        ({ (handleAll codec c (messageFraming.frames tcp)).1 with tcp := messageFraming.rest tcp },
          (handleAll codec c (messageFraming.frames tcp)).2) := by
  induction tcp using Framing.frame_induction (F := messageFraming) with
  | hnone tcp hframe =>
    intro c fuel htcp _ _ _
    obtain ⟨hframes, hrest⟩ := Framing.frames_of_none hframe
    have hholds : holdsMessage c.tcp = false := htcp ▸ frame_eq_none.mp hframe
    have hloop : handleLoop codec fuel c = (true, c, []) := by
      cases fuel with
      | zero => rfl
      | succ fuel => simp [handleLoop, hholds]
    rw [hloop, hframes, hrest, ← htcp]
    rfl
  | hsome tcp n hframe ih =>
    intro c fuel htcp hfuel hkicks htrue
    obtain ⟨hframes, hrest⟩ := Framing.frames_of_some hframe
    have hholds : holdsMessage tcp = true := by
      by_contra hnot
      rw [frame_eq_none.mpr (by simpa using hnot)] at hframe
      exact absurd hframe (by simp)
    obtain rfl : messageGetLength (messageType tcp) + messageTypeSize = n :=
      Option.some.inj ((frame_of_holds hholds).symm.trans hframe)
    obtain ⟨fuel, rfl⟩ := Nat.exists_eq_succ_of_ne_zero (n := fuel) (by
      have hle := (holdsMessage_iff.mp hholds).1
      have : messageTypeSize = 8 := rfl
      omega)
    subst htcp
    -- The first frame as the loop sees it.
    let n := messageGetLength (messageType c.tcp) + messageTypeSize
    have htype : messageType (c.tcp.take n) = messageType c.tcp := messageType_take (Nat.le_add_left _ _)
    have hpayload : (c.tcp.take n).drop messageTypeSize =
        (c.tcp.drop messageTypeSize).take (messageGetLength (messageType c.tcp)) := by
      rw [List.drop_take, Nat.add_sub_cancel]
    let handled := c.handleMessage codec (messageType c.tcp)
      ((c.tcp.drop messageTypeSize).take (messageGetLength (messageType c.tcp)))
    obtain ⟨hsame, hremote, hconsumed, hflag⟩ := handleMessage_spec codec c (messageType c.tcp)
      ((c.tcp.drop messageTypeSize).take (messageGetLength (messageType c.tcp)))
    rw [hframes, KicksOnce, htype] at hkicks
    have hready : handled.connection.ready codec = c.ready codec := by
      rw [ready, hremote]
      rfl
    have hnext : handled.consumed = true ∧
        KicksOnce (handled.connection.ready codec) handled.connection.kicked
          (messageFraming.frames (c.tcp.drop n)) := by
      rw [hready]
      by_cases hkick : messageType c.tcp = messageKick
      · rw [if_pos hkick] at hkicks hflag
        refine ⟨hconsumed.mpr fun _ => hkicks.1, ?_⟩
        rw [hflag, hkicks.1, Bool.false_or]
        exact hkicks.2
      · rw [if_neg hkick] at hkicks hflag
        refine ⟨hconsumed.mpr fun h => absurd h hkick, ?_⟩
        rw [hflag]
        exact hkicks
    have hvalid : messageValidateMagic (messageType c.tcp) = true := by
      by_contra hnot
      simp [handleLoop, hholds, hnot] at htrue
    let c' : PyroStreamConnection := { handled.connection with tcp := c.tcp.drop n }
    have hloop : handleLoop codec (fuel + 1) c = ((handleLoop codec fuel c').1, (handleLoop codec fuel c').2.1,
        .message (messageType c.tcp)
          ((c.tcp.drop messageTypeSize).take (messageGetLength (messageType c.tcp))) ::
          handled.events ++ (handleLoop codec fuel c').2.2) := by
      rw [handleLoop, if_pos hholds]
      simp only
      rw [if_pos hvalid, if_pos hnext.1, hsame]
    rw [hloop] at htrue ⊢
    have hshort : (c.tcp.drop n).length ≤ fuel := by
      have hle := (holdsMessage_iff.mp hholds).1
      have : messageTypeSize = 8 := rfl
      rw [List.length_drop]
      omega
    have hrec := ih c' fuel rfl hshort hnext.2 htrue
    rw [hrec, hframes, hrest, handleAll, htype, hpayload]
    simp only [c', handleAll_tcp]
    rfl

end PyroStreamConnection

/-! ### Runs -/

open PyroStreamConnection

/-- A connection with what it reads from the server. -/
structure Session where
  codec : CodecParameters := {}
  connection : PyroStreamConnection

/-- What happens to a connection: its client's bytes come in, its UDP address becomes known, or the
codec parameters are set. -/
inductive Input
  | received (bytes : List UInt8)
  | udpCookie (remote : RemoteAddress)
  | setCodecParameters (codec : CodecParameters)

namespace Session

def step (s : Session) : Input → Bool × Session × List Event
  | .received bytes =>
    let r := s.connection.handle s.codec 0 bytes
    (r.1, { s with connection := r.2.1 }, r.2.2)
  | .udpCookie remote =>
    (true, if s.connection.udpRemote.isSet then s
      else { s with connection := { s.connection with udpRemote := remote } }, [])
  | .setCodecParameters codec => (true, { s with codec := codec }, [])

/-- `recv` delivers at least one byte and no more than there is room for. -/
def Offered (s : Session) : Input → Prop
  | .received bytes =>
    bytes ≠ [] ∧ bytes.length ≤ maxMessageBufferLength - s.connection.tcp.length
  | _ => True

/-- A run in which `handle` has always returned true. -/
inductive Run : Session → List Input → Session → List Event → Prop
  | nil (s : Session) : Run s [] s []
  | cons {s s' s'' : Session} {input : Input} {inputs : List Input} {events events' : List Event} :
    s.Offered input → s.step input = (true, s', events) → Run s' inputs s'' events' →
    Run s (input :: inputs) s'' (events ++ events')

/-- No KICK among the messages that are complete now comes when the connection is kicked. -/
def NoRedundantKick (s : Session) : Input → Prop
  | .received bytes => KicksOnce (s.connection.ready s.codec) s.connection.kicked
      (messageFraming.frames (s.connection.tcp ++ bytes))
  | _ => True

/-- What `step` should do: handle what has become complete and keep the rest. -/
def absorb (s : Session) : Input → Session × List Event
  | .received bytes =>
    let stream := s.connection.tcp ++ bytes
    let r := handleAll s.codec s.connection (messageFraming.frames stream)
    ({ s with connection := { r.1 with tcp := messageFraming.rest stream } }, r.2)
  | input => (s.step input).2

lemma step_eq_absorb {s : Session} {input : Input} (hkicks : s.NoRedundantKick input)
    (htrue : (s.step input).1 = true) : (s.step input).2 = s.absorb input := by
  cases input with
  | udpCookie remote => rfl
  | setCodecParameters codec => rfl
  | received bytes =>
    simp only [step, handle, ne_eq, not_true_eq_false, if_false] at htrue ⊢
    split at htrue
    · exact Bool.noConfusion htrue
    · rename_i hroom
      split at htrue
      · exact Bool.noConfusion htrue
      · rename_i hsome
        rw [if_neg hroom, if_neg hsome]
        have hloop := handleLoop_eq s.codec (s.connection.tcp ++ bytes)
          { s.connection with tcp := s.connection.tcp ++ bytes } _ rfl le_rfl hkicks htrue
        rw [hloop, handleAll_tcp]
        rfl

/-- The buffer does not hold a complete message. -/
def Settled (s : Session) : Prop := messageFraming.frame s.connection.tcp = none

lemma absorb_settled {s : Session} (h : s.Settled) (input : Input) : (s.absorb input).1.Settled := by
  cases input with
  | received bytes => exact Framing.frame_rest _
  | udpCookie remote =>
    unfold absorb step
    simp only
    split
    · exact h
    · exact h
  | setCodecParameters codec => exact h

/-- Bytes in two pieces are as good as in one. -/
lemma absorb_append (s : Session) (a b : List UInt8) : s.absorb (.received (a ++ b)) =
    (((s.absorb (.received a)).1.absorb (.received b)).1,
      (s.absorb (.received a)).2 ++ ((s.absorb (.received a)).1.absorb (.received b)).2) := by
  obtain ⟨hframes, hrest⟩ := Framing.split_append (F := messageFraming) (s.connection.tcp ++ a) b
  simp only [absorb, ← List.append_assoc, hframes, hrest, handleAll_append, handleAll_tcp]

lemma noRedundantKick_append (s : Session) (a b : List UInt8) :
    s.NoRedundantKick (.received (a ++ b)) ↔ s.NoRedundantKick (.received a) ∧
      (s.absorb (.received a)).1.NoRedundantKick (.received b) := by
  have hready : (s.absorb (.received a)).1.connection.ready s.codec = s.connection.ready s.codec := by
    simp only [absorb, ready, handleAll_udpRemote]
  have hframes := (Framing.split_append (F := messageFraming) (s.connection.tcp ++ a) b).1
  simp only [NoRedundantKick, ← List.append_assoc, hframes]
  rw [kicksOnce_append _ _ rfl rfl]
  refine and_congr_right fun _ => ?_
  rw [show (s.absorb (.received a)).1.codec = s.codec from rfl, hready]
  rfl

lemma absorb_nil {s : Session} (h : s.Settled) : s.absorb (.received []) = (s, []) := by
  obtain ⟨hframes, hrest⟩ := Framing.frames_of_none h
  simp only [absorb, List.append_nil, hframes, hrest, handleAll]

def absorbAll : Session → List Input → Session × List Event
  | s, [] => (s, [])
  | s, input :: inputs =>
    let r := s.absorb input
    let r' := absorbAll r.1 inputs
    (r'.1, r.2 ++ r'.2)

/-- In the whole run no KICK comes when the connection is kicked. -/
def Smooth : Session → List Input → Prop
  | _, [] => True
  | s, input :: inputs => s.NoRedundantKick input ∧ Smooth (s.absorb input).1 inputs

/-- The same inputs with every byte on its own. -/
def bytewise (inputs : List Input) : List Input :=
  inputs.flatMap fun input =>
    match input with
    | .received bytes => bytes.map fun b => .received [b]
    | input => [input]

lemma absorbAll_bytes {s : Session} (h : s.Settled) (bytes : List UInt8) (inputs : List Input) :
    absorbAll s ((bytes.map fun b => .received [b]) ++ inputs) = absorbAll s (.received bytes :: inputs) ∧
      (Smooth s ((bytes.map fun b => .received [b]) ++ inputs) ↔ Smooth s (.received bytes :: inputs)) := by
  induction bytes generalizing s with
  | nil =>
    obtain ⟨hframes, -⟩ := Framing.frames_of_none h
    have hnone : s.NoRedundantKick (.received []) := by
      simp only [NoRedundantKick, List.append_nil, hframes, KicksOnce]
    simp only [List.map_nil, List.nil_append, absorbAll, Smooth, absorb_nil h, hnone, true_and,
      and_self]
  | cons b bytes ih =>
    obtain ⟨hall, hsmooth⟩ := ih (absorb_settled h (.received [b]))
    have hsplit := absorb_append s [b] bytes
    rw [List.singleton_append] at hsplit
    constructor
    · simp only [List.map_cons, List.cons_append, absorbAll, hall, hsplit, List.append_assoc]
    · rw [List.map_cons, List.cons_append, Smooth, hsmooth, Smooth, Smooth, ← and_assoc,
        ← noRedundantKick_append, List.singleton_append, hsplit]

/-- Cutting the stream differently leads to the same state with the same events. -/
lemma absorbAll_bytewise {s : Session} (h : s.Settled) (inputs : List Input) :
    absorbAll s (bytewise inputs) = absorbAll s inputs ∧
      (Smooth s (bytewise inputs) ↔ Smooth s inputs) := by
  induction inputs generalizing s with
  | nil => exact ⟨rfl, Iff.rfl⟩
  | cons input inputs ih =>
    obtain ⟨hall, hsmooth⟩ := ih (absorb_settled h input)
    cases input with
    | received bytes =>
      obtain ⟨hall', hsmooth'⟩ := absorbAll_bytes h bytes (bytewise inputs)
      change absorbAll s ((bytes.map fun b => .received [b]) ++ bytewise inputs) = _ ∧
        (Smooth s ((bytes.map fun b => .received [b]) ++ bytewise inputs) ↔ _)
      rw [hall', hsmooth', absorbAll, Smooth, hall, hsmooth]
      exact ⟨rfl, Iff.rfl⟩
    | udpCookie remote =>
      change absorbAll s (.udpCookie remote :: bytewise inputs) = _ ∧
        (Smooth s (.udpCookie remote :: bytewise inputs) ↔ _)
      rw [absorbAll, Smooth, hall, hsmooth]
      exact ⟨rfl, Iff.rfl⟩
    | setCodecParameters codec =>
      change absorbAll s (.setCodecParameters codec :: bytewise inputs) = _ ∧
        (Smooth s (.setCodecParameters codec :: bytewise inputs) ↔ _)
      rw [absorbAll, Smooth, hall, hsmooth]
      exact ⟨rfl, Iff.rfl⟩

lemma Run.eq_absorbAll {s s' : Session} {inputs : List Input} {events : List Event}
    (hrun : Run s inputs s' events) (hsmooth : Smooth s inputs) : (s', events) = absorbAll s inputs := by
  induction hrun with
  | nil s => rfl
  | @cons s s' s'' input inputs events events' _ hstep _ ih =>
    have habsorb := step_eq_absorb hsmooth.1 (congrArg Prod.fst hstep)
    rw [hstep] at habsorb
    have hfirst : s' = (s.absorb input).1 := congrArg Prod.fst habsorb
    have hevents : events = (s.absorb input).2 := congrArg Prod.snd habsorb
    subst hfirst hevents
    rw [absorbAll, ← ih hsmooth.2]

/-! ### What a run amounts to -/

/-- The messages that have been handled, in order. -/
def messages (events : List Event) : List (BitVec 64 × List UInt8) :=
  events.filterMap fun event =>
    match event with
    | .message type payload => some (type, payload)
    | _ => none

/-- All bytes of the client. -/
def stream (inputs : List Input) : List UInt8 :=
  inputs.flatMap fun input =>
    match input with
    | .received bytes => bytes
    | _ => []

/-- The complete messages of a stream, as types and payloads. -/
def completeMessages (bytes : List UInt8) : List (BitVec 64 × List UInt8) :=
  (messageFraming.frames bytes).map fun m => (messageType m, m.drop messageTypeSize)

lemma messages_append (events events' : List Event) :
    messages (events ++ events') = messages events ++ messages events' := List.filterMap_append

lemma messages_handleMessage (codec : CodecParameters) (c : PyroStreamConnection) (type : BitVec 64)
    (payload : List UInt8) : messages (c.handleMessage codec type payload).events = [] := by
  unfold handleMessage handleHello handleKick handleProgress
  simp only
  split_ifs <;> rfl

lemma messages_handleAll (codec : CodecParameters) (c : PyroStreamConnection) (ms : List (List UInt8)) :
    messages (handleAll codec c ms).2 = ms.map fun m => (messageType m, m.drop messageTypeSize) := by
  induction ms generalizing c with
  | nil => rfl
  | cons m ms ih =>
    rw [handleAll, List.cons_append, ← List.singleton_append, messages_append, messages_append, ih,
      messages_handleMessage]
    rfl

lemma absorbAll_stream {s : Session} (h : s.Settled) (inputs : List Input) :
    messages (absorbAll s inputs).2 = completeMessages (s.connection.tcp ++ stream inputs) ∧
      (absorbAll s inputs).1.connection.tcp =
        messageFraming.rest (s.connection.tcp ++ stream inputs) := by
  induction inputs generalizing s with
  | nil =>
    obtain ⟨hframes, hrest⟩ := Framing.frames_of_none h
    simp only [absorbAll, stream, List.flatMap_nil, List.append_nil, completeMessages, hframes, hrest,
      and_true]
    rfl
  | cons input inputs ih =>
    obtain ⟨hmessages, hrest⟩ := ih (absorb_settled h input)
    rw [absorbAll, messages_append, hmessages, hrest]
    cases input with
    | received bytes =>
      obtain ⟨hframes, hleft⟩ := Framing.split_append (F := messageFraming)
        (s.connection.tcp ++ bytes) (stream inputs)
      change messages (handleAll _ _ _).2 ++ completeMessages (messageFraming.rest _ ++ stream inputs) =
        completeMessages (s.connection.tcp ++ (bytes ++ stream inputs)) ∧
        messageFraming.rest (messageFraming.rest _ ++ stream inputs) =
          messageFraming.rest (s.connection.tcp ++ (bytes ++ stream inputs))
      rw [messages_handleAll, ← List.append_assoc, completeMessages, completeMessages, hframes, hleft,
        List.map_append]
      exact ⟨rfl, rfl⟩
    | udpCookie remote =>
      have htcp : (s.absorb (.udpCookie remote)).1.connection.tcp = s.connection.tcp := by
        unfold absorb step
        simp only
        split <;> rfl
      rw [htcp]
      exact ⟨rfl, rfl⟩
    | setCodecParameters codec => exact ⟨rfl, rfl⟩

/-- The control messages of a run are framed as they should be. -/
structure Framed (s₀ : Session) (inputs : List Input) (s : Session) (events : List Event) : Prop where
  /-- The buffer holds the beginning of one message. -/
  partialMessage : s.connection.tcp.length < messageTypeSize ∨
    s.connection.tcp.length < messageTypeSize + messageGetLength (messageType s.connection.tcp)
  /-- Every complete message has been handled once, in order. -/
  handled : messages events = completeMessages (stream inputs)
  buffered : s.connection.tcp = messageFraming.rest (stream inputs)
  /-- The next call does not find the buffer full. -/
  room : s.connection.tcp.length < maxMessageBufferLength
  /-- Another way to cut the same stream makes no difference. -/
  chunking : ∀ inputs' s' events', bytewise inputs' = bytewise inputs → Run s₀ inputs' s' events' →
    s' = s ∧ events' = events

lemma partial_of_settled {s : Session} (h : s.Settled) : s.connection.tcp.length < messageTypeSize ∨
    s.connection.tcp.length < messageTypeSize + messageGetLength (messageType s.connection.tcp) := by
  have hholds := frame_eq_none.mp h
  by_contra hnot
  rw [not_or, Nat.not_lt, Nat.not_lt] at hnot
  rw [holdsMessage_iff.mpr ⟨hnot.1, by omega⟩] at hholds
  exact Bool.noConfusion hholds

/-- Whatever a client sends, and however its bytes are cut into pieces, its messages are handled once
and in order as long as it does not send a redundant KICK. -/
theorem tcp_framing (s₀ : Session) (hempty : s₀.connection.tcp = []) {inputs : List Input} {s : Session}
    {events : List Event} (hrun : Run s₀ inputs s events) (hsmooth : Smooth s₀ inputs) :
    Framed s₀ inputs s events := by
  have hsettled : s₀.Settled := by
    rw [Settled, hempty]
    decide
  have hend := hrun.eq_absorbAll hsmooth
  have hs : s = (absorbAll s₀ inputs).1 := congrArg Prod.fst hend
  have hevents : events = (absorbAll s₀ inputs).2 := congrArg Prod.snd hend
  obtain ⟨hmessages, htcp⟩ := absorbAll_stream hsettled inputs
  rw [hempty, List.nil_append, ← hs] at htcp
  rw [hempty, List.nil_append, ← hevents] at hmessages
  have hpartial : s.Settled := by
    rw [Settled, htcp]
    exact Framing.frame_rest _
  refine ⟨partial_of_settled hpartial, hmessages, htcp, ?_, ?_⟩
  · have hlength := messageGetLength_le (messageType s.connection.tcp)
    have hmax : maxMessageBufferLength = 255 + messageTypeSize := rfl
    rcases partial_of_settled hpartial with h | h <;> omega
  · intro inputs' s' events' hsame hrun'
    obtain ⟨hall, hsmooth₁⟩ := absorbAll_bytewise hsettled inputs
    obtain ⟨hall', hsmooth₂⟩ := absorbAll_bytewise hsettled inputs'
    have hend' := hrun'.eq_absorbAll (hsmooth₂.mp (hsame ▸ hsmooth₁.mpr hsmooth))
    rw [← hall', hsame, hall, ← hend] at hend'
    exact ⟨congrArg Prod.fst hend', congrArg Prod.snd hend'⟩

/-- A message on the wire. -/
def encodeMessage (type : BitVec 64) (payload : List UInt8) : List UInt8 :=
  typeBytes type ++ payload

/-- A client whose UDP address is known to a server that is ready to stream. -/
def kickable : Session :=
  { codec := { videoCodec := 1 }, connection := { udpRemote := ⟨[1]⟩ } }

/-- A HELLO in two pieces. -/
theorem tcp_framing_hello : Framed kickable
    [.received ((encodeMessage messageHello []).take 3), .received ((encodeMessage messageHello []).drop 3)]
    kickable [.message messageHello [], .sendCookie 0] := by
  have hlast : Run { kickable with connection := { kickable.connection with
        tcp := (encodeMessage messageHello []).take 3 } }
      [.received ((encodeMessage messageHello []).drop 3)] kickable
      ([.message messageHello [], .sendCookie 0] ++ []) :=
    .cons (show _ ∧ _ by decide) rfl (.nil kickable)
  have hrun : Run kickable [.received ((encodeMessage messageHello []).take 3),
      .received ((encodeMessage messageHello []).drop 3)] kickable
      ([] ++ ([.message messageHello [], .sendCookie 0] ++ [])) :=
    .cons (show _ ∧ _ by decide) rfl hlast
  exact tcp_framing kickable rfl hrun ⟨trivial, trivial, trivial⟩

/-- Every run of a session is framed as it should be. -/
def AlwaysFramed (s₀ : Session) : Prop :=
  ∀ inputs s events, Run s₀ inputs s events → Framed s₀ inputs s events

/-- A KICK that asks for video. -/
def kickMessage : List UInt8 := encodeMessage messageKick [1, 0, 0, 0]

/-- The client of `kickable` after its KICK. -/
def kickedSession : Session := { kickable with connection :=
  { kickable.connection with kickFlags := 1, kicked := true, needsKeyFrame := true } }

/-- The second of two KICKs is handled but stays in the buffer. -/
theorem redundant_kick_stays : ¬AlwaysFramed kickable := by
  intro h
  let stuck : Session :=
    { kickedSession with connection := { kickedSession.connection with tcp := kickMessage } }
  have hsecond : Run kickedSession [.received kickMessage] stuck
      ([.message messageKick [1, 0, 0, 0]] ++ []) :=
    .cons (show _ ∧ _ by decide) rfl (.nil stuck)
  have hrun : Run kickable [.received kickMessage, .received kickMessage] stuck
      ([.message messageKick [1, 0, 0, 0], .sendCodecParameters { videoCodec := 1 }, .startTimeout] ++
        ([.message messageKick [1, 0, 0, 0]] ++ [])) :=
    .cons (show _ ∧ _ by decide) rfl hsecond
  have hpartial := (h _ _ _ hrun).partialMessage
  revert hpartial
  decide

end Session

end PyroFling
