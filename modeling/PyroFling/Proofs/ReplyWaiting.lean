import PyroFling.Proofs.SocketMaster

/-!
# What a client may believe about replies

`process` counts a reply before it looks at its serial and before it calls the handler. As long as
every reply has the serial that is due and is accepted, the count stands for the replies that have
come; after one that does not, the count claims a reply that never came or was refused. A handler is
called once at most in any case: it is dropped when it accepts, and nothing is processed after it has
refused.
-/

namespace PyroFling

open Monitor

namespace IpcClient

variable {c : IpcClient} {result : PollResult} {m : Message}

/-! ### Handlers -/

lemma process_handlers {msg : Option Message} {accepted : Bool} {serial : BitVec 64} {h : SerialHandler}
    (hh : (c.process msg accepted).1.handlers serial = some h) : c.handlers serial = some h := by
  cases msg with
  | none => exact hh
  | some m =>
    simp only [process, dispatchReply] at hh
    split at hh
    · split at hh <;> exact hh
    · split at hh
      · exact hh
      · split at hh
        · exact hh
        · split at hh
          · split at hh
            · exact hh
            · by_cases hserial : serial = m.serial
              · subst hserial
                simp at hh
              · simpa [Function.update_of_ne hserial] using hh
          · exact hh

lemma polled_handlers {serial : BitVec 64} {h : SerialHandler}
    (hh : (c.polled result).handlers serial = some h) : c.handlers serial = some h := by
  cases result with
  | failed => exact hh
  | quiet => exact hh
  | readable packet accepted =>
    simp only [polled] at hh
    split at hh <;> exact process_handlers hh

lemma invocation_eq_some {i : Nat} (h : c.invocation m = some i) :
    m.IsReply ∧ m.serial = c.receivedReplies + 1 ∧
      ∃ handler, c.handlers m.serial = some handler ∧ handler.registration = i := by
  unfold invocation at h
  split at h
  · rename_i hreply
    obtain ⟨handler, hhandler, hcall⟩ := Option.bind_eq_some_iff.1 h
    split at hcall
    · exact ⟨hreply.1, hreply.2, handler, hhandler, Option.some.inj hcall⟩
    · cases hcall
  · cases h

lemma process_of_due (hreply : m.IsReply) (hdue : m.serial = c.receivedReplies + 1) (accepted : Bool) :
    c.process (some m) accepted =
      { c with receivedReplies := c.receivedReplies + 1 }.dispatchReply m.serial accepted := by
  have hne : c.receivedReplies + 1 ≠ 0 := hdue ▸ hreply.1
  simp only [process, hdue, if_neg hne, hreply.2, ne_eq, not_true_eq_false, if_false]

/-- A handler that was called is gone, or the client has failed. -/
lemma polled_of_invocation {i : Nat} (hm : result.message = some m) (h : c.invocation m = some i) :
    (c.polled result).socketMasterError = true ∨ (c.polled result).handlers m.serial = none := by
  obtain ⟨hreply, hdue, handler, hhandler, -⟩ := invocation_eq_some h
  cases result with
  | failed => cases hm
  | quiet => cases hm
  | readable packet accepted =>
    have hparse : parseMessage packet = some m := hm
    simp only [polled, hparse, process_of_due hreply hdue, dispatchReply, hhandler]
    split
    · exact .inl rfl
    · exact .inr (Function.update_self ..)

/-! ### The count of replies -/

lemma polled_of_not_reply (h : ∀ m, result.message = some m → ¬m.IsReply) :
    (c.polled result).receivedReplies = c.receivedReplies := by
  cases result with
  | failed => rfl
  | quiet => rfl
  | readable packet accepted =>
    have hprocess : (c.process (parseMessage packet) accepted).1.receivedReplies = c.receivedReplies := by
      cases hm : parseMessage packet with
      | none => rfl
      | some m =>
        have hno := h m hm
        simp only [process]
        split
        · split <;> rfl
        · split
          · rfl
          · rename_i hserial hflag
            exact absurd ⟨hserial, not_not.1 hflag⟩ hno
    simp only [polled]
    split <;> exact hprocess

lemma dispatchReply_of_accepted {serial : BitVec 64} {accepted : Bool}
    (h : c.consults serial = true → accepted = true) :
    (c.dispatchReply serial accepted).2 = true ∧
      (c.dispatchReply serial accepted).1.receivedReplies = c.receivedReplies := by
  unfold consults at h
  unfold dispatchReply
  cases hh : c.handlers serial with
  | none =>
    rw [hh] at h
    cases hd : c.defaultHandler <;> simp_all
  | some handler =>
    rw [hh] at h
    cases hd : handler.callable <;> simp_all

/-- An accepted reply that was due is counted. -/
lemma polled_of_accepted {packet : SocketPacket} {accepted : Bool} (hm : parseMessage packet = some m)
    (hreply : m.IsReply) (hdue : m.serial = c.receivedReplies + 1)
    (haccepted : c.consults m.serial = true → accepted = true) :
    c.succeeded (.readable packet accepted) = true ∧
      (c.polled (.readable packet accepted)).receivedReplies = c.receivedReplies + 1 := by
  have haccepted' : ({ c with receivedReplies := c.receivedReplies + 1 } : IpcClient).consults m.serial = true →
      accepted = true := haccepted
  have hdispatch := dispatchReply_of_accepted haccepted'
  have hprocess := process_of_due hreply hdue accepted
  refine ⟨?_, ?_⟩
  · rw [succeeded_readable, hm, hprocess]
    exact hdispatch.1
  · simp only [polled, hm, hprocess, hdispatch.1, if_true]
    exact hdispatch.2

end IpcClient

namespace IpcSession

variable {s s' : IpcSession} {t : Nat} {w : ReplyWait}

/-! ### Every handler is called once at most -/

/-- A registration is known by its serial, and once its handler has been called it is in the table no
more, unless the client has failed. -/
structure Registered (s : IpcSession) : Prop where
  table : ∀ serial h, s.client.handlers serial = some h → s.registered[h.registration]? = some serial
  invoked : ∀ i ∈ s.invoked, s.registered[i.1]? = some i.2
  nodup : (s.invoked.map Prod.fst).Nodup
  fresh : s.client.socketMasterError = true ∨
    ∀ serial h, s.client.handlers serial = some h → h.registration ∉ s.invoked.map Prod.fst

lemma registered_init : Registered {} where
  table := fun _ _ h => by cases h
  invoked := fun _ h => by cases h
  nodup := List.nodup_nil
  fresh := .inr fun _ _ h => by cases h

lemma Registered.parked (h : Registered s) (hp : Parked s t s') : Registered s' := by
  obtain ⟨thread, master, -, hclient, -⟩ := hp.thread
  refine ⟨?_, ?_, ?_, ?_⟩
  · rw [hclient, hp.registered]
    exact h.table
  · rw [hp.invoked, hp.registered]
    exact h.invoked
  · rw [hp.invoked]
    exact h.nodup
  · rw [hclient, hp.invoked]
    exact h.fresh

lemma Registered.setSerialHandler (h : Registered s) (serial : BitVec 64) (callable : Bool) :
    Registered (s.setSerialHandler serial callable) := by
  have hold : ∀ {i : Nat} {n : BitVec 64}, s.registered[i]? = some n →
      i < s.registered.length ∧ (s.registered ++ [serial])[i]? = some n := by
    intro i n hi
    have hlt := (List.getElem?_eq_some_iff.1 hi).1
    exact ⟨hlt, by rwa [List.getElem?_append_left hlt]⟩
  refine ⟨?_, fun i hi => (hold (h.invoked i hi)).2, h.nodup, ?_⟩
  · intro n handler hn
    by_cases heq : n = serial
    · subst heq
      simp only [IpcSession.setSerialHandler, Function.update_self, Option.some.injEq] at hn
      subst hn
      simp [IpcSession.setSerialHandler]
    · simp only [IpcSession.setSerialHandler, Function.update_of_ne heq] at hn
      exact (hold (h.table n handler hn)).2
  · refine h.fresh.imp id fun hfresh n handler hn => ?_
    by_cases heq : n = serial
    · subst heq
      simp only [IpcSession.setSerialHandler, Function.update_self, Option.some.injEq] at hn
      subst hn
      intro hmem
      obtain ⟨i, hi, hnum⟩ := List.mem_map.1 hmem
      have hlt := (hold (h.invoked i hi)).1
      rw [hnum] at hlt
      exact absurd hlt (lt_irrefl _)
    · simp only [IpcSession.setSerialHandler, Function.update_of_ne heq] at hn
      exact hfresh n handler hn

/-- The handler that a poll leads to, with the serial of the message. -/
def invocationOf (s : IpcSession) (result : PollResult) : Option (Nat × BitVec 64) :=
  result.message.bind fun m => (s.client.invocation m).map fun i => (i, m.serial)

lemma invocationOf_eq_some {result : PollResult} {i : Nat × BitVec 64} (h : s.invocationOf result = some i) :
    ∃ m handler, result.message = some m ∧ s.client.invocation m = some i.1 ∧ m.serial = i.2 ∧
      s.client.handlers i.2 = some handler ∧ handler.registration = i.1 := by
  obtain ⟨m, hm, hi⟩ := Option.bind_eq_some_iff.1 h
  obtain ⟨j, hj, rfl⟩ := Option.map_eq_some_iff.1 hi
  obtain ⟨-, -, handler, hhandler, hnum⟩ := IpcClient.invocation_eq_some hj
  exact ⟨m, handler, hm, hj, rfl, hhandler, hnum⟩

lemma Registered.released (h : Registered s) (herror : s.client.socketMasterError = false)
    (w : ReplyWait) (result : PollResult) (next : Nat) : Registered (s.released t w result next) := by
  have hfresh := h.fresh.resolve_left (by simp [herror])
  have hinvoked : (s.released t w result next).invoked = s.invoked ++ (s.invocationOf result).toList := rfl
  have htable : ∀ serial handler, (s.released t w result next).client.handlers serial = some handler →
      s.client.handlers serial = some handler := fun _ _ hh => IpcClient.polled_handlers hh
  refine ⟨fun serial handler hh => h.table serial handler (htable serial handler hh), ?_, ?_, ?_⟩
  · intro i hi
    rw [hinvoked] at hi
    rcases List.mem_append.1 hi with hi | hi
    · exact h.invoked i hi
    · obtain ⟨m, handler, -, -, -, hhandler, hnum⟩ := invocationOf_eq_some (Option.mem_toList.1 hi)
      rw [← hnum]
      exact h.table i.2 handler hhandler
  · rw [hinvoked, List.map_append]
    cases hcall : s.invocationOf result with
    | none => simpa using h.nodup
    | some i =>
      obtain ⟨m, handler, -, -, -, hhandler, hnum⟩ := invocationOf_eq_some hcall
      have hnew := hfresh i.2 handler hhandler
      rw [hnum] at hnew
      apply List.Nodup.append h.nodup (by simp)
      simpa using hnew
  · cases hcall : s.invocationOf result with
    | none =>
      rw [hinvoked, hcall, Option.toList_none, List.append_nil]
      exact .inr fun serial handler hh => hfresh serial handler (htable serial handler hh)
    | some i =>
      obtain ⟨m, handler, hm, hi, hserial, hhandler, hnum⟩ := invocationOf_eq_some hcall
      refine (IpcClient.polled_of_invocation hm hi).imp id fun hgone serial other hh hmem => ?_
      rw [hinvoked, hcall, Option.toList_some, List.map_append] at hmem
      rcases List.mem_append.1 hmem with hmem | hmem
      · exact hfresh serial other (htable serial other hh) hmem
      -- the registration that was called belongs to the serial of the message alone
      · have hother := h.table serial other (htable serial other hh)
        have hsame := h.table i.2 handler hhandler
        rw [List.mem_singleton.1 hmem, ← hnum, hsame] at hother
        cases hother
        change (s.client.polled result).handlers i.2 = some other at hh
        rw [← hserial, hgone] at hh
        cases hh

lemma Registered.step (hs : Orderly s) (h : Registered s) {e : IpcEvent} (he : Legal s e) :
    Registered (s.step e) := by
  cases e with
  | sendMessageRaw delivered =>
    cases delivered with
    | true => exact ⟨h.table, h.invoked, h.nodup, h.fresh⟩
    | false => exact h
  | setSerialHandler serial callable => exact h.setSerialHandler serial callable
  | setDefaultSerialHandler callable => exact ⟨h.table, h.invoked, h.nodup, h.fresh⟩
  | setEventHandler callable => exact ⟨h.table, h.invoked, h.nodup, h.fresh⟩
  | call t call => exact h.parked (parked_callerLoop s t call)
  | polled t result next =>
    obtain ⟨⟨w, hw⟩, -⟩ := he
    have hreleased := h.released (t := t) (hs.master t w hw).2.1 w result next
    simpa only [IpcSession.step, hw] using hreleased.parked (hs.parked_polled hw result next)
  | wake t => exact ⟨h.table, h.invoked, h.nodup, h.fresh⟩
  | resume t timedOut =>
    obtain ⟨w, hw, -⟩ := he
    exact h.parked (hs.parked_resume hw timedOut)

/-! ### The count stands for the replies -/

/-- Replies with the serials from 1 to `n` in this order, all accepted. -/
def acceptedReplies (n : Nat) : List (BitVec 64 × Bool) :=
  (List.range n).map fun i => (BitVec.ofNat 64 (i + 1), true)

lemma take_acceptedReplies {m n : Nat} (h : m ≤ n) : (acceptedReplies n).take m = acceptedReplies m := by
  rw [acceptedReplies, ← List.map_take, List.take_range, Nat.min_eq_left h, acceptedReplies]

lemma acceptedReplies_succ (n : Nat) :
    acceptedReplies (n + 1) = acceptedReplies n ++ [(BitVec.ofNat 64 (n + 1), true)] := by
  simp [acceptedReplies, List.range_succ]

/-- A reply that is processed is the one that is due, and the handler called with it accepts it. No
more requests are sent than there are serials. -/
def Sound (s : IpcSession) : IpcEvent → Prop
  | .sendMessageRaw true => s.client.sendSerial + 1 ≠ 0
  | .polled _ (.readable packet accepted) _ => ∀ m, parseMessage packet = some m → m.IsReply →
    m.serial = s.client.receivedReplies + 1 ∧ (s.client.consults m.serial = true → accepted = true)
  | _ => True

structure Truthful (s : IpcSession) : Prop where
  replies : s.replies = acceptedReplies s.client.receivedReplies.toNat
  sent : s.client.sendSerial.toNat = s.sent
  outcomes : ∀ o ∈ s.outcomes, o.2 = true → s.replies.take o.1 = acceptedReplies o.1

lemma truthful_init : Truthful {} where
  replies := rfl
  sent := rfl
  outcomes := fun _ h => by cases h

lemma toNat_add_one {n : BitVec 64} (h : n + 1 ≠ 0) : (n + 1).toNat = n.toNat + 1 := by
  have hlt := n.isLt
  have hne : n.toNat + 1 ≠ 2 ^ 64 := by
    intro heq
    apply h
    apply BitVec.eq_of_toNat_eq
    simp [heq]
  change (n.toNat + 1) % 2 ^ 64 = n.toNat + 1
  omega

lemma Truthful.parked (h : Truthful s) (hp : Parked s t s') : Truthful s' := by
  obtain ⟨thread, master, -, hclient, -⟩ := hp.thread
  refine ⟨by rw [hp.replies, hclient]; exact h.replies, by rw [hp.sent, hclient]; exact h.sent, ?_⟩
  intro o ho hok
  rw [hp.replies]
  rcases hp.outcomes o ho with ho | ho
  · exact h.outcomes o ho hok
  · obtain ⟨call, serial, hexpects, htarget, hreached⟩ := ho hok
    have hupto : o.1 = serial.toNat := by
      cases call with
      | waitReply timed => cases htarget
      | waitReplyForSerial n =>
        cases htarget
        exact (Option.some.inj hexpects).symm
      | roundtrip =>
        cases htarget
        rw [h.sent]
        exact (Option.some.inj hexpects).symm
    rw [h.replies, hupto]
    exact take_acceptedReplies (BitVec.not_lt.1 hreached)

/-- More replies of the right kind do not touch what was believed before. -/
lemma Truthful.extend (h : Truthful s) {n : Nat} (hn : s.client.receivedReplies.toNat ≤ n)
    {o : Nat × Bool} (ho : o ∈ s.outcomes) (hok : o.2 = true) :
    (acceptedReplies n).take o.1 = acceptedReplies o.1 := by
  have hold := h.outcomes o ho hok
  rw [h.replies] at hold
  have hlength := congrArg List.length hold
  simp only [List.length_take, acceptedReplies, List.length_map, List.length_range] at hlength
  exact take_acceptedReplies (by omega)

lemma Truthful.released (h : Truthful s) (w : ReplyWait) {result : PollResult} {next : Nat}
    (hsound : Sound s (.polled t result next)) : Truthful (s.released t w result next) := by
  have hreplies : (s.released t w result next).replies = s.replies ++
      ((result.message.filter fun m => m.IsReply).map fun m => (m.serial, s.client.succeeded result)).toList :=
    rfl
  have hreceived : (s.released t w result next).client.receivedReplies =
      (s.client.polled result).receivedReplies := rfl
  have hsent : (s.client.polled result).sendSerial = s.client.sendSerial := by
    cases result with
    | failed => rfl
    | quiet => rfl
    | readable packet accepted =>
      obtain ⟨received, handlers, hprocess⟩ := s.client.process_eq (parseMessage packet) accepted
      simp only [IpcClient.polled]
      split <;> simp [hprocess]
  suffices hcount : (s.released t w result next).replies =
      acceptedReplies (s.released t w result next).client.receivedReplies.toNat ∧
      s.client.receivedReplies.toNat ≤ (s.released t w result next).client.receivedReplies.toNat by
    refine ⟨hcount.1, ?_, fun o ho hok => ?_⟩
    · exact (congrArg BitVec.toNat hsent).trans h.sent
    · rw [hcount.1]
      exact h.extend hcount.2 ho hok
  by_cases hany : ∃ m, result.message = some m ∧ m.IsReply
  · obtain ⟨m, hm, hreply⟩ := hany
    cases result with
    | failed => cases hm
    | quiet => cases hm
    | readable packet accepted =>
      obtain ⟨hdue, haccepted⟩ := hsound m hm hreply
      obtain ⟨hok, hpolled⟩ := IpcClient.polled_of_accepted hm hreply hdue haccepted
      have hnext := toNat_add_one (hdue ▸ hreply.1)
      rw [hreplies, hreceived, hpolled, hnext, hm, hok, acceptedReplies_succ, h.replies]
      refine ⟨?_, Nat.le_succ _⟩
      have hserial : m.serial = BitVec.ofNat 64 (s.client.receivedReplies.toNat + 1) := by
        rw [hdue, ← hnext, BitVec.ofNat_toNat, BitVec.setWidth_eq]
      simp [Option.filter, hreply, hserial]
  · have hno : ∀ m, result.message = some m → ¬m.IsReply := fun m hm hreply => hany ⟨m, hm, hreply⟩
    have hnone : result.message.filter (fun m => m.IsReply) = none := by
      rw [Option.filter_eq_none_iff]
      exact fun m hm => by simpa using hno m hm
    rw [hreplies, hreceived, IpcClient.polled_of_not_reply hno, hnone]
    exact ⟨by simpa using h.replies, le_rfl⟩

lemma Truthful.step (hs : Orderly s) (h : Truthful s) {e : IpcEvent} (he : Legal s e) (hsound : Sound s e) :
    Truthful (s.step e) := by
  cases e with
  | sendMessageRaw delivered =>
    cases delivered with
    | true =>
      refine ⟨h.replies, ?_, h.outcomes⟩
      exact (toNat_add_one hsound).trans (congrArg (· + 1) h.sent)
    | false => exact h
  | setSerialHandler serial callable => exact ⟨h.replies, h.sent, h.outcomes⟩
  | setDefaultSerialHandler callable => exact ⟨h.replies, h.sent, h.outcomes⟩
  | setEventHandler callable => exact ⟨h.replies, h.sent, h.outcomes⟩
  | call t call => exact h.parked (parked_callerLoop s t call)
  | polled t result next =>
    obtain ⟨⟨w, hw⟩, -⟩ := he
    have hreleased := h.released w hsound
    simpa only [IpcSession.step, hw] using hreleased.parked (hs.parked_polled hw result next)
  | wake t => exact ⟨h.replies, h.sent, h.outcomes⟩
  | resume t timedOut =>
    obtain ⟨w, hw, -⟩ := he
    exact h.parked (hs.parked_resume hw timedOut)

/-! ### Main result -/

/-- In every run a serial handler is called once at most, with the message of its serial; and if every
reply that is processed is due and accepted, then whoever is told that the replies up to a serial have
come can rely on it, also after an earlier failure. -/
theorem reply_waiting_truthful (es : List IpcEvent) (h : Runs.Along IpcSession.step Legal {} es) :
    ((run es).invoked.map Prod.fst).Nodup ∧
      (∀ i ∈ (run es).invoked, (run es).registered[i.1]? = some i.2) ∧
      (Runs.Along IpcSession.step Sound {} es →
        ∀ o ∈ (run es).outcomes, o.2 = true → (run es).replies.take o.1 = acceptedReplies o.1) := by
  have hregistered : Orderly (run es) ∧ Registered (run es) := by
    apply Runs.Along.invariant (I := fun s => Orderly s ∧ Registered s) h
    · exact ⟨orderly_init, registered_init⟩
    · rintro s e ⟨hs, hr⟩ he
      exact ⟨hs.step he, hr.step hs he⟩
  refine ⟨hregistered.2.nodup, hregistered.2.invoked, fun hsound => ?_⟩
  have htruthful : Orderly (run es) ∧ Truthful (run es) := by
    apply Runs.Along.invariant (I := fun s => Orderly s ∧ Truthful s) (h.and hsound)
    · exact ⟨orderly_init, truthful_init⟩
    · rintro s e ⟨hs, ht⟩ ⟨he, hsound⟩
      exact ⟨hs.step he, ht.step hs he hsound⟩
  exact htruthful.2.outcomes

/-- A plain reply as it comes from the socket. -/
def okPacket (serial : BitVec 64) : SocketPacket where
  bytes := RawMessageHeader.toBytes
    { magic := messageMagic, serial := serial, type := MessageType.ok.value, payloadLen := 0 }
  fds := []

/-- Serial 2 comes where serial 1 is due. The first call fails, the second is told that 1 has come. -/
def misled : List IpcEvent :=
  [.sendMessageRaw true, .call 0 (.waitReplyForSerial 1), .polled 0 (.readable (okPacket 2) true) 0,
    .call 0 (.waitReplyForSerial 1)]

theorem wrong_serial_misleads :
    Runs.Along IpcSession.step Legal {} misled ∧ (run misled).outcomes = [(1, false), (1, true)] ∧
      (run misled).replies = [(2, false)] ∧ (run misled).replies.take 1 ≠ acceptedReplies 1 := by
  refine ⟨⟨trivial, rfl, ⟨⟨_, rfl⟩, ?_⟩, ?_, trivial⟩, ?_, ?_, ?_⟩
  · rintro (_ | j) ⟨w, hj⟩ <;> cases hj
  · change (run (misled.take 3)).threads 0 = .running none
    decide +kernel
  · decide +kernel
  · decide +kernel
  · decide +kernel

/-- A request and its reply, which the handler of the serial accepts. -/
def answered : List IpcEvent :=
  [.sendMessageRaw true, .setSerialHandler 1 true, .call 0 .roundtrip,
    .polled 0 (.readable (okPacket 1) true) 0]

theorem reply_waiting_truthful_answered :
    (run answered).outcomes = [(1, true)] ∧ (run answered).replies.take 1 = acceptedReplies 1 := by
  have hlegal : Runs.Along IpcSession.step Legal {} answered := by
    have hserial : (1 : BitVec 64) ≠ 0 := by decide
    refine ⟨trivial, hserial, rfl, ⟨⟨_, rfl⟩, ?_⟩, trivial⟩
    rintro (_ | j) ⟨w, hj⟩ <;> cases hj
  have hsound : Runs.Along IpcSession.step Sound {} answered := by
    have hserial : (0 : BitVec 64) + 1 ≠ 0 := by decide
    refine ⟨hserial, trivial, trivial, ?_, trivial⟩
    intro m hm hreply
    have hparse : parseMessage (okPacket 1) = some { type := .ok, serial := 1 } := by decide +kernel
    rw [hparse] at hm
    cases hm
    exact ⟨rfl, fun _ => rfl⟩
  have houtcome : (run answered).outcomes = [(1, true)] := by decide +kernel
  refine ⟨houtcome, ?_⟩
  exact (reply_waiting_truthful answered hlegal).2.2 hsound (1, true) (by rw [houtcome]; simp) rfl

end IpcSession

end PyroFling
