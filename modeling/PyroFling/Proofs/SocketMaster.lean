import PyroFling.IpcClient

/-!
# Handing the socket from thread to thread

A section of `wait_reply` that holds the mutex leaves its thread outside the client, as the socket
master, or waiting for the master there is. From this follows that there is one master at most, that
a call reports progress only if there was some, and when a thread that was woken to take the socket
over can be relied on to do so.
-/

namespace PyroFling

open Monitor

/-- The call of `wait_reply` that a thread is in. -/
def waitOf : Thread (Option ReplyWait) ReplyWait → Option ReplyWait
  | .running w => w
  | .blocked w | .woken w => some w

lemma waitOf_wake (t : Thread (Option ReplyWait) ReplyWait) : waitOf t.wake = waitOf t := by
  cases t <;> rfl

lemma waitOf_notifyOne (ts : Nat → Thread (Option ReplyWait) ReplyWait) (i j : Nat) :
    waitOf (notifyOne ts i j) = waitOf (ts j) := by
  by_cases h : j = i
  · subst h
    rw [notifyOne_self, waitOf_wake]
  · rw [notifyOne_ne ts h]

namespace IpcClient

/-! ### Processing -/

lemma succeeded_readable (c : IpcClient) (packet : SocketPacket) (accepted : Bool) :
    c.succeeded (.readable packet accepted) = (c.process (parseMessage packet) accepted).2 := rfl

lemma process_eq (c : IpcClient) (msg : Option Message) (accepted : Bool) :
    ∃ received handlers, (c.process msg accepted).1 =
      { c with receivedReplies := received, handlers := handlers } := by
  cases msg with
  | none => exact ⟨_, _, rfl⟩
  | some m =>
    simp only [process, dispatchReply]
    split
    · split <;> exact ⟨_, _, rfl⟩
    · split
      · exact ⟨_, _, rfl⟩
      · split
        · exact ⟨_, _, rfl⟩
        · split
          · split <;> exact ⟨_, _, rfl⟩
          · exact ⟨_, _, rfl⟩

/-- A successful `process` is counted, a failure or an error of `::poll` is remembered, and nothing
else happens to the two fields. -/
lemma polled_cases (c : IpcClient) (result : PollResult) :
    (c.succeeded result = true ∧ (c.polled result).processCount = c.processCount + 1 ∧
      (c.polled result).socketMasterError = c.socketMasterError) ∨
    (c.succeeded result = false ∧ (c.polled result).processCount = c.processCount ∧
      (c.polled result).socketMasterError = true) ∨
    (result = .quiet ∧ c.polled result = c) := by
  cases result with
  | failed => exact .inr (.inl ⟨rfl, rfl, rfl⟩)
  | quiet => exact .inr (.inr ⟨rfl, rfl⟩)
  | readable packet accepted =>
    obtain ⟨received, handlers, hprocess⟩ := c.process_eq (parseMessage packet) accepted
    rw [succeeded_readable]
    cases hok : (c.process (parseMessage packet) accepted).2 with
    | true => exact .inl (by simp [polled, hok, hprocess])
    | false => exact .inr (.inl (by simp [polled, hok, hprocess]))

lemma add_one_ne (n : BitVec 64) : n ≠ n + 1 := by
  bv_omega

lemma waitResult_self (c : IpcClient) :
    c.waitResult c.processCount = if c.socketMasterError then -1 else 0 := by
  simp [waitResult]

lemma waitResult_eq_one {c : IpcClient} {count : BitVec 64} (h : c.waitResult count = 1) :
    count ≠ c.processCount := by
  unfold waitResult at h
  split at h
  · assumption
  · split at h <;> cases h

end IpcClient

namespace IpcSession

variable {s s' : IpcSession} {t : Nat} {w : ReplyWait}

/-! ### Where a section leaves its thread -/

/-- The thread at the end of a section: outside, as the socket master, or waiting for it. -/
inductive Place (client : IpcClient) (successes : Nat) :
    Thread (Option ReplyWait) ReplyWait → Bool → Prop
  | outside : Place client successes (.running none) client.hasSocketMaster
  | master (w : ReplyWait) (free : client.hasSocketMaster = false)
    (error : client.socketMasterError = false) (count : w.currentCount = client.processCount)
    (since : w.since ≤ successes) : Place client successes (.running (some w)) true
  | waits (w : ReplyWait) (taken : client.hasSocketMaster = true)
    (error : client.socketMasterError = false) (count : w.currentCount = client.processCount)
    (since : w.since ≤ successes) : Place client successes (.blocked w) true

lemma Place.current {client : IpcClient} {successes : Nat} {thread : Thread (Option ReplyWait) ReplyWait}
    {master : Bool} (h : Place client successes thread master) (hw : waitOf thread = some w) :
    w.currentCount = client.processCount ∧ w.since ≤ successes := by
  cases h with
  | outside => cases hw
  | master v free error count since =>
    cases hw
    exact ⟨count, since⟩
  | waits v taken error count since =>
    cases hw
    exact ⟨count, since⟩

lemma Place.of_master {client : IpcClient} {successes : Nat} {thread : Thread (Option ReplyWait) ReplyWait}
    {master : Bool} (h : Place client successes thread master) (hw : thread = .running (some w)) :
    client.hasSocketMaster = false ∧ master = true ∧ client.socketMasterError = false := by
  cases h with
  | outside => cases hw
  | master v free error count since => exact ⟨free, rfl, error⟩
  | waits => cases hw

lemma Place.taken {client : IpcClient} {successes : Nat} {thread : Thread (Option ReplyWait) ReplyWait}
    {master : Bool} (h : Place client successes thread master) (ht : client.hasSocketMaster = true) :
    master = true := by
  cases h with
  | outside => exact ht
  | master => rfl
  | waits => rfl

/-- A section of thread `t` that does not process messages ends in `s'`. -/
structure Parked (s : IpcSession) (t : Nat) (s' : IpcSession) : Prop where
  thread : ∃ thread master, Place s.client s.successes thread master ∧
    s'.client = { s.client with hasSocketMaster := master } ∧
    s'.threads = Function.update s.threads t thread
  sent : s'.sent = s.sent
  registered : s'.registered = s.registered
  invoked : s'.invoked = s.invoked
  replies : s'.replies = s.replies
  successes : s'.successes = s.successes
  returns : ∀ r ∈ s'.returns, r ∈ s.returns ∨ (r.ret = 1 → r.since < r.now)
  outcomes : ∀ o ∈ s'.outcomes, o ∈ s.outcomes ∨ (o.2 = true → ∃ call serial,
    s.expects call = some o.1 ∧ s.target call = some serial ∧ ¬s.client.receivedReplies < serial)

lemma parked_finish (s : IpcSession) (t : Nat) (call : WaitCall) (ok : Bool)
    (hok : ok = true → ∀ serial, s.target call = some serial → ¬s.client.receivedReplies < serial) :
    Parked s t (s.finish t call ok) := by
  refine ⟨⟨_, _, .outside, rfl, rfl⟩, rfl, rfl, rfl, rfl, rfl, fun r hr => .inl hr, ?_⟩
  intro o ho
  rcases List.mem_append.1 ho with ho | ho
  · exact .inl ho
  · refine .inr fun hgood => ?_
    obtain ⟨n, hn, rfl⟩ := List.mem_map.1 ho
    have hexpects : s.expects call = some n := Option.mem_toList.1 hn
    cases call with
    | waitReply timed => cases hexpects
    | waitReplyForSerial serial => exact ⟨_, serial, hexpects, rfl, hok hgood _ rfl⟩
    | roundtrip => exact ⟨_, _, hexpects, rfl, hok hgood _ rfl⟩

lemma parked_claim (hcount : w.currentCount = s.client.processCount)
    (herror : s.client.socketMasterError = false) (hsince : w.since ≤ s.successes) :
    Parked s t (s.claim t w) := by
  unfold claim
  cases hmaster : s.client.hasSocketMaster with
  | true =>
    have hclient : s.client = { s.client with hasSocketMaster := true } := by rw [← hmaster]
    exact ⟨⟨_, _, .waits w hmaster herror hcount hsince, hclient, rfl⟩, rfl, rfl, rfl, rfl, rfl,
      fun r hr => .inl hr, fun o ho => .inl ho⟩
  | false =>
    exact ⟨⟨_, _, .master w hmaster herror hcount hsince, rfl, rfl⟩, rfl, rfl, rfl, rfl, rfl,
      fun r hr => .inl hr, fun o ho => .inl ho⟩

/-- Logging what `wait_reply` returns, if it is honest, changes nothing else. -/
lemma Parked.of_logReturn {ret : Int} (h : Parked (s.logReturn w ret) t s')
    (hret : ret = 1 → w.since < s.successes) : Parked s t s' := by
  refine ⟨h.thread, h.sent, h.registered, h.invoked, h.replies, h.successes, ?_, h.outcomes⟩
  intro r hr
  rcases h.returns r hr with hr | hr
  · rcases List.mem_append.1 hr with hr | hr
    · exact .inl hr
    · rw [List.mem_singleton.1 hr]
      exact .inr hret
  · exact .inr hr

lemma parked_waitReply (s : IpcSession) (t : Nat) (call : WaitCall) : Parked s t (s.waitReply t call) := by
  unfold waitReply
  cases herror : s.client.socketMasterError with
  | true =>
    apply (parked_finish _ t call false nofun).of_logReturn
    intro hret
    exact absurd rfl (IpcClient.waitResult_eq_one hret)
  | false => exact parked_claim rfl herror le_rfl

lemma parked_callerLoop (s : IpcSession) (t : Nat) (call : WaitCall) :
    Parked s t (s.callerLoop t call) := by
  unfold callerLoop
  split
  · exact parked_waitReply s t call
  · rename_i serial htarget
    split
    · exact parked_waitReply s t call
    · rename_i hreached
      apply parked_finish
      rintro - serial' htarget'
      rw [htarget] at htarget'
      cases htarget'
      exact hreached

lemma parked_returned {ret : Int} (hret : ret = 1 → w.since < s.successes) :
    Parked s t (s.returned t w ret) := by
  suffices h : Parked (s.logReturn w ret) t (s.returned t w ret) from h.of_logReturn hret
  unfold returned
  split
  · exact parked_finish _ t w.call false nofun
  · split
    · rename_i timed hcall
      apply parked_finish
      rintro - serial htarget
      rw [hcall] at htarget
      cases htarget
    · exact parked_callerLoop _ t w.call

/-- A section overwrites the place of its own thread. -/
lemma Parked.of_setThread {thread : Thread (Option ReplyWait) ReplyWait} (h : Parked s t s') :
    Parked (s.setThread t thread) t s' := by
  obtain ⟨thread', master, hplace, hclient, hthreads⟩ := h.thread
  refine ⟨⟨thread', master, hplace, hclient, ?_⟩, h.sent, h.registered, h.invoked, h.replies,
    h.successes, h.returns, h.outcomes⟩
  simp only [setThread, Function.update_idem, hthreads]

/-! ### One master -/

/-- What holds of every run: a polling thread has the socket for itself and no error has happened, a
blocked thread has missed nothing, and a wait whose count is behind has seen a success. -/
structure Orderly (s : IpcSession) : Prop where
  master : ∀ t w, s.threads t = .running (some w) →
    s.client.hasSocketMaster = true ∧ s.client.socketMasterError = false ∧
      w.currentCount = s.client.processCount
  unique : ∀ t u w v, s.threads t = .running (some w) → s.threads u = .running (some v) → t = u
  blocked : ∀ t w, s.threads t = .blocked w → w.currentCount = s.client.processCount
  since : ∀ t w, waitOf (s.threads t) = some w → w.since ≤ s.successes ∧
    (w.since = s.successes → w.currentCount = s.client.processCount)
  returns : ∀ r ∈ s.returns, r.ret = 1 → r.since < r.now

lemma orderly_init : Orderly {} where
  master := fun _ _ h => by cases h
  unique := fun _ _ _ _ h => by cases h
  blocked := fun _ _ h => by cases h
  since := fun _ _ h => by cases h
  returns := fun _ h => by cases h

lemma Orderly.parked (h : Orderly s) (hp : Parked s t s') : Orderly s' := by
  obtain ⟨thread, master, hplace, hclient, hthreads⟩ := hp.thread
  have hself : s'.threads t = thread := by rw [hthreads, Function.update_self]
  have hother : ∀ u, u ≠ t → s'.threads u = s.threads u := fun u hu => by
    rw [hthreads, Function.update_of_ne hu]
  -- a thread other than `t` that polls keeps `t` from becoming the master
  have halone : ∀ u w v, u ≠ t → s'.threads u = .running (some w) → s'.threads t ≠ .running (some v) := by
    intro u w v hu hpoll hpoll'
    rw [hother u hu] at hpoll
    rw [hself] at hpoll'
    have hfree := (hplace.of_master hpoll').1
    have htaken := (h.master u w hpoll).1
    exact absurd hfree (by simp [htaken])
  constructor
  · intro u w hu
    by_cases hut : u = t
    · subst hut
      rw [hself] at hu
      obtain ⟨-, rfl, herror⟩ := hplace.of_master hu
      rw [hclient]
      exact ⟨rfl, herror, (hplace.current (by rw [hu]; rfl)).1⟩
    · rw [hother u hut] at hu
      obtain ⟨hmaster, herror, hcount⟩ := h.master u w hu
      rw [hclient]
      exact ⟨hplace.taken hmaster, herror, hcount⟩
  · intro u v w x hu hv
    by_cases hut : u = t
    · by_cases hvt : v = t
      · rw [hut, hvt]
      · exact absurd (hut ▸ hu) (halone v x w hvt hv)
    · by_cases hvt : v = t
      · exact absurd (hvt ▸ hv) (halone u w x hut hu)
      · rw [hother u hut] at hu
        rw [hother v hvt] at hv
        exact h.unique u v w x hu hv
  · intro u w hu
    rw [hclient]
    by_cases hut : u = t
    · subst hut
      rw [hself] at hu
      exact (hplace.current (by rw [hu]; rfl)).1
    · rw [hother u hut] at hu
      exact h.blocked u w hu
  · intro u w hu
    rw [hclient, hp.successes]
    by_cases hut : u = t
    · subst hut
      rw [hself] at hu
      exact ⟨(hplace.current hu).2, fun _ => (hplace.current hu).1⟩
    · rw [hother u hut] at hu
      exact h.since u w hu
  · intro r hr
    rcases hp.returns r hr with hr | hr
    · exact h.returns r hr
    · exact hr

/-- The socket is free and its last master outside. -/
def released (s : IpcSession) (t : Nat) (w : ReplyWait) (result : PollResult) (next : Nat) : IpcSession :=
  (s.releaseSocket w result next).setThread t (.running none)

lemma waitOf_released {result : PollResult} {next u : Nat} {v : ReplyWait}
    (h : waitOf ((s.released t w result next).threads u) = some v) : waitOf (s.threads u) = some v := by
  by_cases hu : u = t
  · subst hu
    simp [released, setThread, waitOf] at h
  · simp only [released, setThread, Function.update_of_ne hu, releaseSocket] at h
    split at h
    · rwa [notifyAll_apply, waitOf_wake] at h
    · rwa [waitOf_notifyOne] at h

lemma not_blocked_released {result : PollResult} {next : Nat}
    (h : (s.client.polled result).waitResult w.currentCount ≠ 0) (u : Nat) (v : ReplyWait) :
    (s.released t w result next).threads u ≠ .blocked v := by
  by_cases hu : u = t
  · subst hu
    simp [released, setThread]
  · simp [released, setThread, Function.update_of_ne hu, releaseSocket, h, notifyAll_apply]

/-- How the socket master gives up the socket: after a success or an error nobody is left in the wait,
and otherwise one thread has been woken. -/
lemma Orderly.released_cases (h : Orderly s) (hw : s.threads t = .running (some w)) (result : PollResult)
    (next : Nat) :
    (s.client.succeeded result = true ∧
      (s.released t w result next).client.processCount = s.client.processCount + 1 ∧
      (s.released t w result next).successes = s.successes + 1 ∧
      ∀ u v, (s.released t w result next).threads u ≠ .blocked v) ∨
    ((s.released t w result next).client.socketMasterError = true ∧
      (s.released t w result next).client.processCount = s.client.processCount ∧
      (s.released t w result next).successes = s.successes ∧
      ∀ u v, (s.released t w result next).threads u ≠ .blocked v) ∨
    (result = .quiet ∧ (s.released t w result next).client = { s.client with hasSocketMaster := false } ∧
      (s.released t w result next).successes = s.successes ∧
      (s.released t w result next).threads = Function.update (notifyOne s.threads next) t (.running none)) := by
  obtain ⟨-, herror, hcount⟩ := h.master t w hw
  rcases s.client.polled_cases result with ⟨hok, hprocess, -⟩ | ⟨hok, hprocess, hfail⟩ | ⟨rfl, hclient⟩
  · have hret : (s.client.polled result).waitResult w.currentCount ≠ 0 := by
      rw [IpcClient.waitResult, hprocess, hcount, if_pos (IpcClient.add_one_ne _)]
      decide
    refine .inl ⟨hok, hprocess, ?_, not_blocked_released hret⟩
    simp [released, setThread, releaseSocket, hok]
  · have hret : (s.client.polled result).waitResult w.currentCount ≠ 0 := by
      rw [hcount, ← hprocess, IpcClient.waitResult_self, hfail]
      decide
    refine .inr (.inl ⟨hfail, hprocess, ?_, not_blocked_released hret⟩)
    simp [released, setThread, releaseSocket, hok]
  · have hret : (s.client.polled .quiet).waitResult w.currentCount = 0 := by
      rw [hclient, hcount, IpcClient.waitResult_self, herror]
      rfl
    refine .inr (.inr ⟨rfl, rfl, rfl, ?_⟩)
    simp [released, setThread, releaseSocket, hret]

lemma Orderly.released (h : Orderly s) (hw : s.threads t = .running (some w)) (result : PollResult)
    (next : Nat) : Orderly (s.released t w result next) := by
  have hfree : ∀ u v, (s.released t w result next).threads u ≠ .running (some v) := by
    intro u v hu
    by_cases hut : u = t
    · subst hut
      simp [IpcSession.released, setThread] at hu
    · have hpoll : s.threads u = .running (some v) := by
        simp only [IpcSession.released, setThread, Function.update_of_ne hut, releaseSocket] at hu
        split at hu
        · simpa [notifyAll_apply] using hu
        · exact notifyOne_eq_running.1 hu
      exact hut (h.unique u t v w hpoll hw)
  have hcases := h.released_cases hw result next
  constructor
  · exact fun u v hu => absurd hu (hfree u v)
  · exact fun u _ v _ hu => absurd hu (hfree u v)
  · intro u v hu
    rcases hcases with ⟨-, -, -, hnone⟩ | ⟨-, -, -, hnone⟩ | ⟨-, hclient, -, hthreads⟩
    · exact absurd hu (hnone u v)
    · exact absurd hu (hnone u v)
    · rw [hclient]
      by_cases hut : u = t
      · subst hut
        simp [hthreads] at hu
      · rw [hthreads, Function.update_of_ne hut] at hu
        exact h.blocked u v (notifyOne_eq_blocked.1 hu).2
  · intro u v hu
    obtain ⟨hle, heq⟩ := h.since u v (waitOf_released hu)
    rcases hcases with ⟨-, -, hn, -⟩ | ⟨-, hcount, hn, -⟩ | ⟨-, hclient, hn, -⟩
    · rw [hn]
      exact ⟨by omega, fun hs => by omega⟩
    · rw [hn, hcount]
      exact ⟨hle, heq⟩
    · rw [hn, hclient]
      exact ⟨hle, heq⟩
  · exact h.returns

/-! ### Steps -/

/-- Leaving is honest: a count that is behind has seen a success. -/
lemma Orderly.parked_leave (h : Orderly s) (hw : waitOf (s.threads t) = some w) :
    Parked s t (s.leave t w) := by
  apply parked_returned
  intro hret
  obtain ⟨hle, heq⟩ := h.since t w hw
  exact lt_of_le_of_ne hle fun hs => IpcClient.waitResult_eq_one hret (heq hs)

/-- The same after the thread was the socket master. -/
lemma Orderly.parked_polled (h : Orderly s) (hw : s.threads t = .running (some w)) (result : PollResult)
    (next : Nat) :
    Parked (s.released t w result next) t ((s.releaseSocket w result next).leave t w) := by
  apply Parked.of_setThread
  apply parked_returned
  intro hret
  obtain ⟨-, herror, hcount⟩ := h.master t w hw
  have hle := (h.since t w (by rw [hw]; rfl)).1
  change (s.client.polled result).waitResult w.currentCount = 1 at hret
  change w.since < if s.client.succeeded result then s.successes + 1 else s.successes
  rcases s.client.polled_cases result with ⟨hok, -, -⟩ | ⟨hok, hprocess, -⟩ | ⟨rfl, hclient⟩
  · rw [if_pos hok]
    omega
  · exact absurd (hcount.trans hprocess.symm) (IpcClient.waitResult_eq_one hret)
  · exact absurd hcount (hclient ▸ IpcClient.waitResult_eq_one hret)

lemma Orderly.parked_resume (h : Orderly s) (hw : s.threads t = .woken w) (timedOut : Bool) :
    Parked s t (s.step (.resume t timedOut)) := by
  have hwait : waitOf (s.threads t) = some w := by rw [hw]; rfl
  simp only [step, hw]
  split
  · rename_i hloop
    exact parked_claim hloop.2.1 (by simpa using hloop.2.2) (h.since t w hwait).1
  · exact h.parked_leave hwait

lemma Orderly.step (h : Orderly s) {e : IpcEvent} (he : Legal s e) : Orderly (s.step e) := by
  cases e with
  | sendMessageRaw delivered =>
    cases delivered with
    | true => exact ⟨h.master, h.unique, h.blocked, h.since, h.returns⟩
    | false => exact h
  | setSerialHandler serial callable => exact ⟨h.master, h.unique, h.blocked, h.since, h.returns⟩
  | setDefaultSerialHandler callable => exact ⟨h.master, h.unique, h.blocked, h.since, h.returns⟩
  | setEventHandler callable => exact ⟨h.master, h.unique, h.blocked, h.since, h.returns⟩
  | call t call => exact h.parked (parked_callerLoop s t call)
  | polled t result next =>
    obtain ⟨⟨w, hw⟩, -⟩ := he
    have hparked := (h.released hw result next).parked (h.parked_polled hw result next)
    simpa only [IpcSession.step, hw] using hparked
  | wake t =>
    obtain ⟨w, hw⟩ := he
    have hthreads : ∀ u, u ≠ t → (s.step (.wake t)).threads u = s.threads u := fun u hu => by
      simp [IpcSession.step, setThread, hu]
    have hself : (s.step (.wake t)).threads t = .woken w := by
      simp [IpcSession.step, setThread, hw, Thread.wake]
    have hrunning : ∀ u v, (s.step (.wake t)).threads u = .running v → s.threads u = .running v := by
      intro u v hu
      by_cases hut : u = t
      · subst hut
        rw [hself] at hu
        cases hu
      · rwa [hthreads u hut] at hu
    refine ⟨fun u v hu => h.master u v (hrunning u _ hu), ?_, ?_, ?_, h.returns⟩
    · exact fun u u' v v' hu hu' => h.unique u u' v v' (hrunning u _ hu) (hrunning u' _ hu')
    · intro u v hu
      by_cases hut : u = t
      · subst hut
        rw [hself] at hu
        cases hu
      · exact h.blocked u v (by rwa [hthreads u hut] at hu)
    · intro u v hu
      by_cases hut : u = t
      · subst hut
        rw [hself] at hu
        exact h.since u v (by rw [hw]; exact hu)
      · exact h.since u v (by rwa [hthreads u hut] at hu)
  | resume t timedOut =>
    obtain ⟨w, hw, -⟩ := he
    exact h.parked (h.parked_resume hw timedOut)

/-! ### The hand-over -/

/-- Somebody attends to the socket, or will: there is an error or a master, nobody waits, or a thread
has been taken out of the wait that will find the socket free and its own count unchanged. -/
def Watched (s : IpcSession) : Prop :=
  s.client.socketMasterError = true ∨ s.client.hasSocketMaster = true ∨ (∀ t, ¬(s.threads t).IsBlocked) ∨
    ∃ t w, s.threads t = .woken w ∧ w.currentCount = s.client.processCount

/-- Nobody will wake the threads in the wait: no error, no socket master, and no thread has been taken
out of the wait or polls. -/
def Stranded (s : IpcSession) : Prop :=
  s.client.socketMasterError = false ∧ s.client.hasSocketMaster = false ∧ (∃ t, (s.threads t).IsBlocked) ∧
    ∀ t, s.threads t = .running none ∨ (s.threads t).IsBlocked

/-- A thread leaves on its own timeout only if the threads in the wait do not depend on it. -/
def Relayed (s : IpcSession) : IpcEvent → Prop
  | .resume t true =>
    s.client.socketMasterError = true ∨ s.client.hasSocketMaster = true ∨ (∀ u, ¬(s.threads u).IsBlocked) ∨
      ∃ u w, u ≠ t ∧ s.threads u = .woken w ∧ w.currentCount = s.client.processCount
  | _ => True

lemma Watched.not_stranded (h : Watched s) : ¬Stranded s := by
  rintro ⟨herror, hmaster, ⟨t, ht⟩, hidle⟩
  rcases h with h | h | h | ⟨u, w, hu, -⟩
  · simp [herror] at h
  · simp [hmaster] at h
  · exact h t ht
  · rcases hidle u with hu' | hu'
    · rw [hu] at hu'
      cases hu'
    · rw [hu] at hu'
      exact Thread.not_isBlocked_woken w hu'

/-- A section keeps the socket watched if it would be without its thread. -/
lemma Watched.parked (h : Watched (s.setThread t (.running none))) (hp : Parked s t s') : Watched s' := by
  obtain ⟨thread, master, hplace, hclient, hthreads⟩ := hp.thread
  cases hplace with
  | outside =>
    have hs' : s'.threads = (s.setThread t (.running none)).threads := hthreads
    unfold Watched
    rw [hs', hclient]
    exact h
  | master => exact .inr (.inl (by rw [hclient]))
  | waits => exact .inr (.inl (by rw [hclient]))

lemma Watched.released (hs : Orderly s) (hw : s.threads t = .running (some w)) (result : PollResult)
    {next : Nat} (hnext : Choice s.threads next) : Watched (s.released t w result next) := by
  rcases hs.released_cases hw result next with ⟨-, -, -, hnone⟩ | ⟨herror, -⟩ | ⟨-, hclient, -, hthreads⟩
  · exact .inr (.inr (.inl fun u ⟨v, hv⟩ => hnone u v hv))
  · exact .inl herror
  · by_cases hblocked : ∃ u, (s.threads u).IsBlocked
    · obtain ⟨u, hu⟩ := hblocked
      obtain ⟨v, hv⟩ := hnext u hu
      have hne : next ≠ t := by
        rintro rfl
        rw [hw] at hv
        cases hv
      refine .inr (.inr (.inr ⟨next, v, ?_, ?_⟩))
      · rw [hthreads, Function.update_of_ne hne, notifyOne_self, hv, Thread.wake]
      · rw [hclient]
        exact hs.blocked next v hv
    · refine .inr (.inr (.inl ?_))
      rintro u ⟨v, hv⟩
      rw [hthreads] at hv
      by_cases hut : u = t
      · subst hut
        simp at hv
      · rw [Function.update_of_ne hut] at hv
        exact hblocked ⟨u, v, (notifyOne_eq_blocked.1 hv).2⟩

lemma hasSocketMaster_claim (s : IpcSession) (t : Nat) (w : ReplyWait) :
    (s.claim t w).client.hasSocketMaster = true := by
  unfold claim
  split <;> simp_all [setThread]

/-- The socket is watched without a thread that leaves on its own timeout. -/
lemma Relayed.watched (h : Relayed s (.resume t true)) : Watched (s.setThread t (.running none)) := by
  rcases h with h | h | h | ⟨u, v, hne, hu, hcount⟩
  · exact .inl h
  · exact .inr (.inl h)
  · refine .inr (.inr (.inl fun u hu => ?_))
    by_cases hut : u = t
    · subst hut
      simp [setThread] at hu
    · exact h u (by simpa only [setThread, Function.update_of_ne hut] using hu)
  · refine .inr (.inr (.inr ⟨u, v, ?_, hcount⟩))
    simpa only [setThread, Function.update_of_ne hne] using hu

lemma Watched.resume (hs : Orderly s) (h : Watched s) {timedOut : Bool} (hw : s.threads t = .woken w)
    (hr : Relayed s (.resume t timedOut)) : Watched (s.step (.resume t timedOut)) := by
  cases timedOut with
  | true => exact hr.watched.parked (hs.parked_resume hw true)
  | false =>
    by_cases hloop : w.currentCount = s.client.processCount ∧ ¬s.client.socketMasterError
    · have hclaim : s.step (.resume t false) = s.claim t w := by simp [step, hw, hloop]
      rw [hclaim]
      exact .inr (.inl (hasSocketMaster_claim s t w))
    -- the thread leaves because of the error, or because its count is behind and others are current
    · apply Watched.parked _ (hs.parked_resume hw false)
      apply Relayed.watched
      rcases h with h | h | h | ⟨u, v, hu, hcount⟩
      · exact .inl h
      · exact .inr (.inl h)
      · exact .inr (.inr (.inl h))
      · by_cases hut : u = t
        · subst hut
          rw [hw] at hu
          cases hu
          exact .inl (by simpa [hcount] using hloop)
        · exact .inr (.inr (.inr ⟨u, v, hut, hu, hcount⟩))

lemma Watched.step (hs : Orderly s) (h : Watched s) {e : IpcEvent} (he : Legal s e) (hr : Relayed s e) :
    Watched (s.step e) := by
  cases e with
  | sendMessageRaw delivered => cases delivered <;> exact h
  | setSerialHandler serial callable => exact h
  | setDefaultSerialHandler callable => exact h
  | setEventHandler callable => exact h
  | call t call =>
    have hself : s.setThread t (.running none) = s := by
      rw [setThread, ← show s.threads t = .running none from he, Function.update_eq_self]
    exact Watched.parked (hself.symm ▸ h) (parked_callerLoop s t call)
  | polled t result next =>
    obtain ⟨⟨w, hw⟩, hnext⟩ := he
    simp only [IpcSession.step, hw]
    have hreleased := Watched.released hs hw result hnext
    have hself : (s.released t w result next).setThread t (.running none) = s.released t w result next := by
      simp [IpcSession.released, setThread]
    exact Watched.parked (hself.symm ▸ hreleased) (hs.parked_polled hw result next)
  | wake t =>
    obtain ⟨w, hw⟩ := he
    refine .inr (.inr (.inr ⟨t, w, ?_, hs.blocked t w hw⟩))
    simp [IpcSession.step, setThread, hw, Thread.wake]
  | resume t timedOut =>
    obtain ⟨w, hw, -⟩ := he
    exact h.resume hs hw hr

/-! ### Main result -/

lemma orderly_run {es : List IpcEvent} (h : Runs.Along IpcSession.step Legal {} es) : Orderly (run es) :=
  h.invariant orderly_init fun _ _ hs he => hs.step he

/-- In every run at most one thread is the socket master, `wait_reply` returns 1 only if `process`
succeeded during the call, and nobody is stranded if no thread that the others depend on leaves on
its own timeout. -/
theorem socket_master_handover (es : List IpcEvent) (h : Runs.Along IpcSession.step Legal {} es) :
    (∀ t u w v, (run es).threads t = .running (some w) → (run es).threads u = .running (some v) → t = u) ∧
      (∀ r ∈ (run es).returns, r.ret = 1 → r.since < r.now) ∧
      (Runs.Along IpcSession.step Relayed {} es → ¬Stranded (run es)) := by
  have horderly := orderly_run h
  refine ⟨horderly.unique, horderly.returns, fun hrelayed => ?_⟩
  have hwatched : Orderly (run es) ∧ Watched (run es) := by
    apply Runs.Along.invariant (I := fun s => Orderly s ∧ Watched s) (h.and hrelayed)
    · exact ⟨orderly_init, .inr (.inr (.inl fun t => Thread.not_isBlocked_running none))⟩
    · rintro s e ⟨hs, hwatched⟩ ⟨he, hr⟩
      exact ⟨hs.step he, hwatched.step hs he hr⟩
  exact hwatched.2.not_stranded

/-- Thread 0 gives up the socket and wakes thread 1, which leaves on its own timeout. -/
def lostHandover : List IpcEvent :=
  [.call 0 (.waitReply true), .call 1 (.waitReply true), .call 2 (.waitReply false), .polled 0 .quiet 1,
    .resume 1 true]

lemma lostHandover_legal : Runs.Along IpcSession.step Legal {} lostHandover :=
  ⟨rfl, rfl, rfl, ⟨⟨_, rfl⟩, fun _ _ => ⟨_, rfl⟩⟩, ⟨_, rfl, fun _ => rfl⟩, trivial⟩

/-- Thread 2 then waits without a deadline for a master that does not come. -/
theorem lost_handover_strands :
    Runs.Along IpcSession.step Legal {} lostHandover ∧ Stranded (run lostHandover) := by
  refine ⟨lostHandover_legal, rfl, rfl, ⟨2, _, rfl⟩, fun t => ?_⟩
  match t with
  | 0 => exact .inl rfl
  | 1 => exact .inl rfl
  | 2 => exact .inr ⟨_, rfl⟩
  | t + 3 => exact .inl rfl

/-- Thread 1 leaves on its own timeout while thread 0 is the socket master. Thread 2 then takes the socket
over. -/
def keptHandover : List IpcEvent :=
  [.call 0 (.waitReply true), .call 1 (.waitReply true), .call 2 (.waitReply false), .wake 1, .resume 1 true,
    .polled 0 .quiet 2, .resume 2 false]

theorem socket_master_handover_kept : ¬Stranded (run keptHandover) := by
  have hlegal : Runs.Along IpcSession.step Legal {} keptHandover :=
    ⟨rfl, rfl, rfl, ⟨_, rfl⟩, ⟨_, rfl, fun _ => rfl⟩, ⟨⟨_, rfl⟩, fun _ _ => ⟨_, rfl⟩⟩, ⟨_, rfl, nofun⟩, trivial⟩
  have hrelayed : Runs.Along IpcSession.step Relayed {} keptHandover := by
    refine ⟨trivial, trivial, trivial, trivial, ?_, trivial, trivial, trivial⟩
    exact .inr (.inl rfl)
  exact (socket_master_handover keptHandover hlegal).2.2 hrelayed

end IpcSession

end PyroFling
