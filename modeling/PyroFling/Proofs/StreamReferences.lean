import PyroFling.Library.Runs
import PyroFling.Proofs.DispatcherRuns
import PyroFling.Proofs.GamepadOrder
import PyroFling.StreamServer

/-!
# The references of stream connections

The references of a stream connection are those of its connections in the dispatcher and of the list of
the server, which has the connections with a TCP connection. So it is deleted, once, with the last of
its connections in the dispatcher.
-/

namespace PyroFling
open RefCount

/-! ### What starts the timer -/

namespace PyroStreamConnection

/-- The message is one that starts the timer. -/
def Announces (type : BitVec 64) : Prop := type = messageKick ∨ type = messageProgress

instance (type : BitVec 64) : Decidable (Announces type) := inferInstanceAs (Decidable (_ ∨ _))

/-- Of the messages that a call handles, those that start the timer do so unless the client has been
kicked before. -/
structure Timed (c c' : PyroStreamConnection) (events : List Event) : Prop where
  announced : .startTimeout ∈ events → ∃ type ∈ events.filterMap StreamServer.messageType?, Announces type
  started : (∃ type ∈ events.filterMap StreamServer.messageType?, Announces type) →
    .startTimeout ∈ events ∨ c.kicked = true
  kicked : c'.kicked = true → c.kicked = true ∨ .startTimeout ∈ events

lemma Timed.nil (c : PyroStreamConnection) : Timed c c [] where
  announced h := absurd h List.not_mem_nil
  started h := absurd h.choose_spec.1 List.not_mem_nil
  kicked h := .inl h

lemma Timed.append {c c' c'' : PyroStreamConnection} {events events' : List Event}
    (h : Timed c c' events) (h' : Timed c' c'' events') : Timed c c'' (events ++ events') := by
  constructor
  · intro hmem
    rw [List.filterMap_append]
    rcases List.mem_append.1 hmem with hmem | hmem
    · obtain ⟨type, htype, hann⟩ := h.announced hmem
      exact ⟨type, List.mem_append_left _ htype, hann⟩
    · obtain ⟨type, htype, hann⟩ := h'.announced hmem
      exact ⟨type, List.mem_append_right _ htype, hann⟩
  · rintro ⟨type, htype, hann⟩
    rw [List.filterMap_append] at htype
    rcases List.mem_append.1 htype with htype | htype
    · exact (h.started ⟨type, htype, hann⟩).imp_left (List.mem_append_left _)
    · rcases h'.started ⟨type, htype, hann⟩ with hmem | hkicked
      · exact .inl (List.mem_append_right _ hmem)
      · exact (h.kicked hkicked).symm.imp_left (List.mem_append_left _)
  · intro hkicked
    rcases h'.kicked hkicked with hkicked | hmem
    · exact (h.kicked hkicked).imp_right (List.mem_append_left _)
    · exact .inr (List.mem_append_right _ hmem)

lemma Timed.congr {c c' c₀ c₀' : PyroStreamConnection} {events : List Event} (h : Timed c c' events)
    (hbefore : c₀.kicked = c.kicked) (hafter : c₀'.kicked = c'.kicked) : Timed c₀ c₀' events where
  announced := h.announced
  started := by
    rw [hbefore]
    exact h.started
  kicked := by
    rw [hbefore, hafter]
    exact h.kicked

lemma timed_handleMessage (codec : CodecParameters) (c : PyroStreamConnection) (type : BitVec 64)
    (payload : List UInt8) : Timed c (c.handleMessage codec type payload).connection
      (.message type payload :: (c.handleMessage codec type payload).events) := by
  by_cases hkick : type = messageKick
  · subst hkick
    rw [handleMessage, if_neg (by decide), if_pos rfl, handleKick]
    dsimp only
    split_ifs with hkicked <;> constructor <;> simp [StreamServer.messageType?, Announces, hkicked]
  by_cases hprogress : type = messageProgress
  · subst hprogress
    rw [handleMessage, if_neg (by decide), if_neg (by decide), if_pos rfl, handleProgress]
    constructor <;> simp [StreamServer.messageType?, Announces]
  · rw [handleMessage, if_neg hkick, if_neg hprogress, handleHello]
    split_ifs <;> constructor <;> simp [StreamServer.messageType?, Announces, hkick, hprogress]

lemma timed_handleLoopSending (codec : CodecParameters) (fuel sends : Nat) (c : PyroStreamConnection) :
    Timed c (handleLoopSending codec fuel sends c).2.1 (handleLoopSending codec fuel sends c).2.2 := by
  induction fuel generalizing sends c with
  | zero => exact Timed.nil c
  | succ fuel ih =>
    rw [handleLoopSending]
    dsimp only
    split_ifs
    · exact Timed.nil c
    · have hmessage := timed_handleMessage codec c (messageType c.tcp)
        ((c.tcp.drop messageTypeSize).take (messageGetLength (messageType c.tcp)))
      exact hmessage.append ((ih _ _).congr rfl rfl)
    · exact timed_handleMessage codec c _ _
    · exact Timed.nil c
    · exact Timed.nil c

end PyroStreamConnection

/-! ### References -/

namespace StreamServer

variable {R : Counting} {count : R.Counter → Nat} {s : StreamServer R}

/-- How many references there are to an object whose connections in the dispatcher are `T`. -/
def holders (T : List (Nat × Nat)) (s : StreamServer R) (i : Nat) : Nat :=
  T.countP (fun t => t.1 = i) + s.server.connections.count i

/-- The references are those of the connections `T` of the dispatcher and of the server, whose list
has the objects with a TCP connection. -/
structure Held (count : R.Counter → Nat) (T : List (Nat × Nat)) (s : StreamServer R) : Prop where
  made : s.pool.made = s.server.accepted
  listed : ∀ i, s.server.connections.count i = T.count (i, 0)
  pool : s.pool.Sound count (holders T s)

lemma Held.perm {T T' : List (Nat × Nat)} (h : Held count T s) (hperm : T.Perm T') : Held count T' s where
  made := h.made
  listed i := by rw [h.listed, hperm.count_eq]
  pool := h.pool.congr fun i => by rw [holders, holders, hperm.countP_eq]

lemma Held.lt_accepted {T : List (Nat × Nat)} (h : Held count T s) {i id : Nat} (hmem : (i, id) ∈ T) :
    i < s.server.accepted := by
  have hpos : 0 < T.countP (fun t => t.1 = i) := List.countP_pos_iff.2 ⟨_, hmem, decide_eq_true rfl⟩
  by_contra hge
  have hzero := h.pool.unmade i (h.made ▸ Nat.not_lt.1 hge)
  rw [holders] at hzero
  omega

lemma Held.releaseId (hR : R.Lawful count) {T : List (Nat × Nat)} {i id : Nat}
    (h : Held count ((i, id) :: T) s) : Held count T (s.releaseId i id) := by
  have hmine : holders ((i, id) :: T) s i = holders T s i + 1 := by
    have hcons : ((i, id) :: T).countP (fun t => t.1 = i) = T.countP (fun t => t.1 = i) + 1 :=
      List.countP_cons_of_pos (decide_eq_true rfl)
    rw [holders, holders, hcons]
    omega
  have hother : ∀ j ≠ i, holders ((i, id) :: T) s j = holders T s j := by
    intro j hne
    rw [holders, holders, List.countP_cons_of_neg (by simpa using hne.symm)]
  have hreleased := h.pool.releaseReference hR (i := i) (by omega)
  rw [StreamServer.releaseId]
  by_cases hid : id = 0
  · subst hid
    have hlisted := h.listed i
    rw [List.count_cons_self] at hlisted
    have hmem : i ∈ s.server.connections := List.count_pos_iff.1 (by omega)
    rw [if_pos rfl, releaseConnection, if_pos hmem]
    refine ⟨h.made, fun j => ?_, ?_⟩
    · change (s.server.connections.erase i).count j = _
      rcases eq_or_ne j i with rfl | hne
      · rw [List.count_erase_self, hlisted, Nat.add_sub_cancel]
      · rw [List.count_erase_of_ne hne, h.listed j, List.count_cons_of_ne (by simpa using hne.symm)]
    · refine (hreleased.releaseReference hR (i := i) ?_).congr fun j => ?_
      · rw [Function.update_self, hmine, holders]
        omega
      · change T.countP _ + (s.server.connections.erase i).count j = _
        rcases eq_or_ne j i with rfl | hne
        · rw [Function.update_self, Function.update_self, hmine, List.count_erase_self, holders]
          omega
        · rw [Function.update_of_ne hne, Function.update_of_ne hne, hother j hne,
            List.count_erase_of_ne hne]
          rfl
  · rw [if_neg hid]
    refine ⟨h.made, fun j => ?_, hreleased.congr fun j => ?_⟩
    · rw [h.listed j, List.count_cons_of_ne (by simpa using fun _ => hid)]
    · rcases eq_or_ne j i with rfl | hne
      · rw [Function.update_self, hmine, Nat.add_sub_cancel]
        rfl
      · rw [Function.update_of_ne hne, hother j hne]
        rfl

/-- The objects that connections belong to, with their roles. -/
def tags (l : List Connection) : List (Nat × Nat) := l.filterMap Connection.stream?

lemma tags_cons_none {c : Connection} (h : c.stream? = none) (l : List Connection) :
    tags (c :: l) = tags l := List.filterMap_cons_none h

lemma tags_cons_some {c : Connection} {t : Nat × Nat} (h : c.stream? = some t) (l : List Connection) :
    tags (c :: l) = t :: tags l := List.filterMap_cons_some h

lemma Held.destroy (hR : R.Lawful count) {T : List (Nat × Nat)} {c : Connection}
    (h : Held count (tags [c] ++ T) s) : Held count T (s.destroy c) := by
  rw [StreamServer.destroy]
  cases htag : c.stream? with
  | none =>
    rw [tags_cons_none htag] at h
    exact h
  | some t =>
    rw [tags_cons_some htag] at h
    exact h.releaseId hR

lemma Held.destroyAll (hR : R.Lawful count) {T : List (Nat × Nat)} {gone : List Connection}
    (h : Held count (tags gone ++ T) s) : Held count T (gone.foldl StreamServer.destroy s) := by
  induction gone generalizing s with
  | nil => exact h
  | cons c gone ih =>
    have hsplit : tags (c :: gone) = tags [c] ++ tags gone := List.filterMap_append (l := [c])
    rw [hsplit, List.append_assoc] at h
    exact ih (h.destroy hR)

/-- What releasing references does not touch. -/
structure SameClients (s s' : StreamServer R) : Prop where
  dispatcher : s'.dispatcher = s.dispatcher
  accepted : s'.server.accepted = s.server.accepted
  connection : s'.server.connection = s.server.connection
  armed : s'.armed = s.armed
  handled : s'.handled = s.handled

lemma sameClients_destroy (s : StreamServer R) (c : Connection) : SameClients s (s.destroy c) := by
  rw [StreamServer.destroy]
  split
  · rw [StreamServer.releaseId]
    split
    · rw [releaseConnection]
      split <;> exact ⟨rfl, rfl, rfl, rfl, rfl⟩
    · exact ⟨rfl, rfl, rfl, rfl, rfl⟩
  · exact ⟨rfl, rfl, rfl, rfl, rfl⟩

lemma sameClients_destroyAll (gone : List Connection) (s : StreamServer R) :
    SameClients s (gone.foldl StreamServer.destroy s) := by
  induction gone generalizing s with
  | nil => exact ⟨rfl, rfl, rfl, rfl, rfl⟩
  | cons c gone ih =>
    have hfirst := sameClients_destroy s c
    have hrest := ih (s.destroy c)
    exact ⟨hrest.dispatcher.trans hfirst.dispatcher, hrest.accepted.trans hfirst.accepted,
      hrest.connection.trans hfirst.connection, hrest.armed.trans hfirst.armed,
      hrest.handled.trans hfirst.handled⟩

end StreamServer

/-! ### The dispatcher -/

lemma stream?_eq_some {c : Connection} {i id : Nat} : c.stream? = some (i, id) ↔
    ∃ h, c.handler = some h ∧ h.ref = i + 2 ∧ c.id = id := by
  have hstream : ∀ h : Handler, h.stream? = some i ↔ h.ref = i + 2 := by
    intro h
    rw [Handler.stream?]
    split
    · exact ⟨nofun, fun href => by omega⟩
    · rw [Option.some_inj]
      omega
  simp only [Connection.stream?, Option.bind_eq_some_iff, Option.map_eq_some_iff, Prod.mk.injEq]
  constructor
  · rintro ⟨h, hhandler, j, hj, rfl, hid⟩
    exact ⟨h, hhandler, (hstream h).1 hj, hid⟩
  · rintro ⟨h, hhandler, href, hid⟩
    exact ⟨h, hhandler, i, (hstream h).2 href, rfl, hid⟩

namespace Dispatcher

open StreamServer (tags tags_cons_none tags_cons_some)

variable {d d' : Dispatcher} {c : Connection}

/-- What can be relied on in the dispatcher at any moment, even if a connection has hung up after it
was cancelled. -/
structure Tidy (d : Dispatcher) : Prop where
  keys : (d.live.map Connection.key).Nodup
  fresh : ∀ c ∈ d.live, c.key < d.nextKey
  unique : (tags d.live).Nodup
  roles : ∀ t ∈ tags d.live, t.2 = 0 ∨ t.2 = 1
  anonymous : ∀ c ∈ d.live, c.handler = none → c.id = 0
  sentinels : ∀ c ∈ d.live, c.stream?.isSome = true → c.isSentinel = false
  /-- Only TCP connections are cancelled, by their timers. -/
  cancelled : ∀ c ∈ d.cancellations, ∃ i, c.stream? = some (i, 0) ∧ (i, 1) ∉ tags d.live
  closed : d.isOpen = false → d.live = []

lemma tidy_shutDown (d : Dispatcher) : d.shutDown.Tidy where
  keys := List.nodup_nil
  fresh _ h := absurd h List.not_mem_nil
  unique := List.nodup_nil
  roles _ h := absurd h List.not_mem_nil
  anonymous _ h := absurd h List.not_mem_nil
  sentinels _ h := absurd h List.not_mem_nil
  cancelled _ h := absurd h List.not_mem_nil
  closed _ := rfl

lemma tags_perm {l l' : List Connection} (gone : List Connection) (h : l.Perm (gone ++ l')) :
    (tags l).Perm (tags gone ++ tags l') := by
  have hperm := h.filterMap Connection.stream?
  rwa [List.filterMap_append] at hperm

lemma mem_tags {l : List Connection} {t : Nat × Nat} (hc : c ∈ l) (htag : c.stream? = some t) :
    t ∈ tags l := List.mem_filterMap.2 ⟨c, hc, htag⟩

lemma Tidy.loses (h : d.Tidy) {gone : List Connection} (hlive : d.live.Perm (gone ++ d'.live))
    (hnext : d'.nextKey = d.nextKey) (hisOpen : d'.isOpen = d.isOpen)
    (hcancelled : ∀ c ∈ d'.cancellations, c ∈ d.cancellations ∨
      ∃ i, c.stream? = some (i, 0) ∧ (i, 1) ∉ tags d'.live) : d'.Tidy := by
  have hsub : ∀ c ∈ d'.live, c ∈ d.live := fun c hc => hlive.mem_iff.2 (List.mem_append_right _ hc)
  have htags := tags_perm _ hlive
  refine ⟨?_, ?_, ?_, ?_, ?_, ?_, ?_, ?_⟩
  · have hkeys := (hlive.map Connection.key).nodup_iff.1 h.keys
    rw [List.map_append] at hkeys
    exact (List.nodup_append.1 hkeys).2.1
  · intro c hc
    rw [hnext]
    exact h.fresh c (hsub c hc)
  · exact (List.nodup_append.1 (htags.nodup_iff.1 h.unique)).2.1
  · exact fun t ht => h.roles t (htags.mem_iff.2 (List.mem_append_right _ ht))
  · exact fun c hc => h.anonymous c (hsub c hc)
  · exact fun c hc => h.sentinels c (hsub c hc)
  · intro c hc
    rcases hcancelled c hc with hc | hc
    · obtain ⟨i, htag, htimer⟩ := h.cancelled c hc
      exact ⟨i, htag, fun hmem => htimer (htags.mem_iff.2 (List.mem_append_right _ hmem))⟩
    · exact hc
  · intro hclosed
    have hnil := h.closed (hisOpen ▸ hclosed)
    rw [hnil] at hlive
    exact (List.append_eq_nil_iff.1 (List.Perm.nil_eq hlive).symm).2

lemma Tidy.eq_of_key (h : d.Tidy) {c c' : Connection} (hc : c ∈ d.live) (hc' : c' ∈ d.live)
    (hkey : c.key = c'.key) : c = c' := List.inj_on_of_nodup_map h.keys hc hc' hkey

/-- A connection that hangs up is gone unless it was cancelled before. -/
lemma hangUp_goesOn (hkeys : (d.live.map Connection.key).Nodup) (hc : c ∈ d.live)
    (hexit : (d.hangUp c).1 = .goesOn) : c.fd ∈ d.registered ∧
      (d.hangUp c).2.nextKey = d.nextKey ∧ (d.hangUp c).2.isOpen = d.isOpen ∧
      (d.hangUp c).2.cancellations = d.cancellations ∧
      ∃ gone, d.live.Perm (gone ++ (d.hangUp c).2.live) ∧
        ((c ∈ d.connections ∧ gone = [c]) ∨ (c ∈ d.cancellations ∧ gone = [])) := by
  have hsame : ∀ x ∈ d.live, x.key = c.key → x = c := fun x hx hkey => List.inj_on_of_nodup_map hkeys hx hc hkey
  by_cases hfd : c.fd ∈ d.registered
  swap
  · rw [hangUp, deregister, if_neg hfd] at hexit
    exact absurd hexit (show Exit.epollFailed ≠ .goesOn by decide)
  refine ⟨hfd, ?_⟩
  by_cases hmem : c ∈ d.connections
  · have hany : d.connections.any (fun x => x.key = c.key) = true :=
      List.any_eq_true.2 ⟨c, hmem, decide_eq_true rfl⟩
    obtain ⟨a, l₁, l₂, -, ha, hsplit, herase⟩ :=
      List.exists_of_eraseP hmem (p := fun x : Connection => decide (x.key = c.key)) (decide_eq_true rfl)
    obtain rfl : a = c := hsame a (List.mem_append_left _ (by rw [hsplit]; simp)) (of_decide_eq_true ha)
    have hhang : (d.hangUp a).2 = { d with
        registered := d.registered.erase a.fd, connections := l₁ ++ l₂, removed := a.key :: d.removed } := by
      simp only [hangUp, deregister, if_pos hfd, hany, if_true, herase]
    rw [hhang]
    refine ⟨rfl, rfl, rfl, [a], ?_, .inl ⟨hmem, rfl⟩⟩
    simp only [live, hsplit]
    exact List.perm_middle.append_right _
  · have hcancelled : c ∈ d.cancellations := (List.mem_append.1 hc).resolve_left hmem
    have hany : d.connections.any (fun x => x.key = c.key) = false := by
      rw [List.any_eq_false]
      intro x hx hkey
      exact hmem (hsame x (List.mem_append_left _ hx) (of_decide_eq_true hkey) ▸ hx)
    have hhang : (d.hangUp c).2 = { d with registered := d.registered.erase c.fd } := by
      simp only [hangUp, deregister, if_pos hfd, hany]
      rfl
    rw [hhang]
    exact ⟨rfl, rfl, rfl, [], List.Perm.refl _, .inr ⟨hcancelled, rfl⟩⟩

lemma Tidy.hangUp (h : d.Tidy) (hc : c ∈ d.live) (hexit : (d.hangUp c).1 = .goesOn) :
    c.fd ∈ d.registered ∧ (d.hangUp c).2.Tidy ∧ ∃ gone, d.live.Perm (gone ++ (d.hangUp c).2.live) ∧
      ((c ∈ d.connections ∧ gone = [c]) ∨ (c ∈ d.cancellations ∧ gone = [])) := by
  obtain ⟨hfd, hnext, hisOpen, hcancellations, gone, hlive, hgone⟩ := hangUp_goesOn h.keys hc hexit
  refine ⟨hfd, h.loses hlive hnext hisOpen ?_, gone, hlive, hgone⟩
  rw [hcancellations]
  exact fun c hc => .inl hc

lemma cancelConnection_stream (d : Dispatcher) (i : Nat) :
    (d.cancelConnection (streamHandler i).ref 0).nextKey = d.nextKey ∧
      (d.cancelConnection (streamHandler i).ref 0).isOpen = d.isOpen ∧
      ∀ c ∈ (d.cancelConnection (streamHandler i).ref 0).cancellations,
        c ∈ d.cancellations ∨ c.stream? = some (i, 0) := by
  simp only [cancelConnection]
  split
  · rename_i c last hfound hlast
    refine ⟨rfl, rfl, fun c' hc' => ?_⟩
    rcases List.mem_append.1 hc' with hc' | hc'
    · exact .inl hc'
    · obtain rfl := List.mem_singleton.1 hc'
      obtain ⟨hi, hget⟩ := List.getElem?_eq_some_iff.1 hfound
      have hmatch := List.findIdx_getElem (w := hi)
      rw [hget, Bool.and_eq_true, decide_eq_true_iff, decide_eq_true_iff, Option.map_eq_some_iff] at hmatch
      obtain ⟨⟨handler, hhandler, href⟩, hid⟩ := hmatch
      exact .inr (stream?_eq_some.2 ⟨handler, hhandler, href, hid⟩)
  · exact ⟨rfl, rfl, fun c hc => .inl hc⟩

/-- A timer that runs out is gone, and the TCP connection of its client is cancelled. -/
lemma Tidy.timeOut (h : d.Tidy) (hc : c ∈ d.live) {i : Nat} (hstream : c.stream? = some (i, 1))
    (hexit : ((d.cancelConnection (streamHandler i).ref 0).hangUp c).1 = .goesOn) :
    ((d.cancelConnection (streamHandler i).ref 0).hangUp c).2.Tidy ∧
      d.live.Perm ([c] ++ ((d.cancelConnection (streamHandler i).ref 0).hangUp c).2.live) := by
  have hcancel : (d.cancelConnection (streamHandler i).ref 0).live.Perm d.live := live_cancelConnection d _ 0
  obtain ⟨hnext, hisOpen, hcancelled⟩ := cancelConnection_stream d i
  obtain ⟨-, hnext', hisOpen', hcancellations, gone, hlive, hgone⟩ :=
    hangUp_goesOn ((hcancel.map Connection.key).nodup_iff.2 h.keys) (hcancel.mem_iff.2 hc) hexit
  have hkept : c ∉ (d.cancelConnection (streamHandler i).ref 0).cancellations := by
    intro hmem
    rcases hcancelled c hmem with hmem | htcp
    · obtain ⟨j, hj, -⟩ := h.cancelled c hmem
      rw [hstream] at hj
      exact Nat.one_ne_zero (congrArg Prod.snd (Option.some.inj hj))
    · rw [hstream] at htcp
      exact Nat.one_ne_zero (congrArg Prod.snd (Option.some.inj htcp))
  obtain ⟨-, rfl⟩ := hgone.resolve_right fun hmem => hkept hmem.1
  have hperm := hcancel.symm.trans hlive
  refine ⟨h.loses hperm (hnext'.trans hnext) (hisOpen'.trans hisOpen) ?_, hperm⟩
  intro c' hc'
  rw [hcancellations] at hc'
  refine (hcancelled c' hc').imp_right fun htcp => ⟨i, htcp, fun hmem => ?_⟩
  have hunique := (tags_perm _ hperm).nodup_iff.1 h.unique
  rw [tags_cons_some hstream] at hunique
  exact (List.nodup_cons.1 hunique).1 hmem

lemma cleanUp_goesOn {cs : List Connection} {isSentinel : Bool} (hcs : d.cancellations = cs)
    (hexit : (cleanUp cs isSentinel d).1 = .goesOn) :
    (cleanUp cs isSentinel d).2.connections = d.connections ∧
      (cleanUp cs isSentinel d).2.cancellations = [] ∧
      (cleanUp cs isSentinel d).2.nextKey = d.nextKey ∧ (cleanUp cs isSentinel d).2.isOpen = d.isOpen := by
  induction cs generalizing d isSentinel with
  | nil => exact ⟨rfl, hcs, rfl, rfl⟩
  | cons c cs ih =>
    rw [cleanUp] at hexit ⊢
    cases hfd : d.deregister c.fd with
    | none =>
      rw [hfd] at hexit
      exact absurd hexit (show Exit.epollFailed ≠ .goesOn by decide)
    | some d₁ =>
      rw [hfd] at hexit
      have hsame : d₁ = { d with registered := d.registered.erase c.fd } := by
        rw [deregister] at hfd
        split at hfd
        · exact (Option.some.inj hfd).symm
        · cases hfd
      have hrest := ih (d := { d₁ with cancellations := cs, removed := c.key :: d₁.removed }) rfl hexit
      subst hsame
      exact hrest

lemma Tidy.cleanUp (h : d.Tidy) (hexit : (cleanUp d.cancellations false d).1 = .goesOn) :
    (Dispatcher.cleanUp d.cancellations false d).2.Tidy ∧
      d.live.Perm (d.cancellations ++ (Dispatcher.cleanUp d.cancellations false d).2.live) := by
  obtain ⟨hconnections, hcancellations, hnext, hisOpen⟩ := cleanUp_goesOn rfl hexit
  have hlive : d.live.Perm (d.cancellations ++ (Dispatcher.cleanUp d.cancellations false d).2.live) := by
    rw [live, live, hconnections, hcancellations, List.append_nil]
    exact List.perm_append_comm
  refine ⟨h.loses hlive hnext hisOpen ?_, hlive⟩
  rw [hcancellations]
  exact fun c hc => absurd hc List.not_mem_nil

lemma Tidy.joins (h : d.Tidy) (hopen : d.isOpen = true) (hlive : d'.live.Perm (c :: d.live))
    (hkey : c.key = d.nextKey) (hnext : d'.nextKey = d.nextKey + 1) (hisOpen : d'.isOpen = d.isOpen)
    (hcancellations : d'.cancellations = d.cancellations) (hanonymous : c.handler = none → c.id = 0)
    (hsentinel : c.stream?.isSome = true → c.isSentinel = false)
    (htag : ∀ t, c.stream? = some t → (t.2 = 0 ∨ t.2 = 1) ∧ ∀ u ∈ tags d.live, u.1 ≠ t.1) : d'.Tidy := by
  have htags : (tags d'.live).Perm (tags [c] ++ tags d.live) := tags_perm [c] hlive
  have hmem : ∀ c' ∈ d'.live, c' = c ∨ c' ∈ d.live := fun c' hc' => List.mem_cons.1 (hlive.mem_iff.1 hc')
  refine ⟨?_, ?_, ?_, ?_, ?_, ?_, ?_, ?_⟩
  · refine (hlive.map Connection.key).nodup_iff.2 (List.nodup_cons.2 ⟨?_, h.keys⟩)
    intro hold
    obtain ⟨c', hc', heq⟩ := List.mem_map.1 hold
    have := h.fresh c' hc'
    omega
  · intro c' hc'
    rw [hnext]
    rcases hmem c' hc' with rfl | hc'
    · omega
    · exact (h.fresh c' hc').trans (Nat.lt_succ_self _)
  · refine htags.nodup_iff.2 (List.nodup_append.2 ⟨?_, h.unique, ?_⟩)
    · cases hstream : c.stream? with
      | none => simp [tags, hstream]
      | some t => simp [tags, hstream]
    · intro t ht u hu
      obtain ⟨c', hc', hstream⟩ := List.mem_filterMap.1 ht
      obtain rfl := List.mem_singleton.1 hc'
      rintro rfl
      exact (htag t hstream).2 t hu rfl
  · intro t ht
    rcases List.mem_append.1 (htags.mem_iff.1 ht) with ht | ht
    · obtain ⟨c', hc', hstream⟩ := List.mem_filterMap.1 ht
      obtain rfl := List.mem_singleton.1 hc'
      exact (htag t hstream).1
    · exact h.roles t ht
  · intro c' hc' hnone
    rcases hmem c' hc' with rfl | hc'
    · exact hanonymous hnone
    · exact h.anonymous c' hc' hnone
  · intro c' hc' hsome
    rcases hmem c' hc' with rfl | hc'
    · exact hsentinel hsome
    · exact h.sentinels c' hc' hsome
  · intro c' hc'
    rw [hcancellations] at hc'
    obtain ⟨i, hstream, htimer⟩ := h.cancelled c' hc'
    refine ⟨i, hstream, fun hmem => ?_⟩
    rcases List.mem_append.1 (htags.mem_iff.1 hmem) with ht | ht
    · obtain ⟨c₁, hc₁, hstream₁⟩ := List.mem_filterMap.1 ht
      obtain rfl := List.mem_singleton.1 hc₁
      exact (htag _ hstream₁).2 _ (mem_tags (List.mem_append_right _ hc') hstream) rfl
    · exact htimer ht
  · intro hclosed
    rw [hisOpen, hopen] at hclosed
    exact absurd hclosed (by decide)

lemma register_cases (d : Dispatcher) (fd : Nat) (handler : Option Handler) (id : Nat) (accepted : Bool) :
    (¬(accepted = true ∧ fd ∉ d.registered) ∧ d.register fd handler id accepted = d) ∨
      ((accepted = true ∧ fd ∉ d.registered) ∧
        (d.register fd handler id accepted).live.Perm
          ({ key := d.nextKey, fd := fd, id := id, handler := handler } :: d.live) ∧
        (d.register fd handler id accepted).nextKey = d.nextKey + 1 ∧
        (d.register fd handler id accepted).isOpen = d.isOpen ∧
        (d.register fd handler id accepted).cancellations = d.cancellations) := by
  by_cases h : accepted = true ∧ fd ∉ d.registered
  · rw [register, if_pos h]
    exact .inr ⟨h, live_register d fd handler id, rfl, rfl, rfl⟩
  · rw [register, if_neg h]
    exact .inl ⟨h, rfl⟩

lemma Tidy.assigned (h : d.Tidy) (hc : c ∈ d.live) (hnone : c.handler = none) {i : Nat}
    (hfresh : (i, 0) ∉ tags d.live) :
    (d.setHandler c.key (some (streamHandler i))).Tidy ∧
      (tags (d.setHandler c.key (some (streamHandler i))).live).Perm ((i, 0) :: tags d.live) := by
  let update := fun x : Connection => if x.key = c.key then { x with handler := some (streamHandler i) } else x
  have hid : c.id = 0 := h.anonymous c hc hnone
  have hmine : update c = { c with handler := some (streamHandler i) } := if_pos rfl
  have hother : ∀ x ∈ d.live, x ≠ c → update x = x := by
    intro x hx hne
    exact if_neg fun hkey => hne (h.eq_of_key hx hc hkey)
  have hlive : (d.setHandler c.key (some (streamHandler i))).live = d.live.map update :=
    (List.map_append ..).symm
  have hstream : (update c).stream? = some (i, 0) := by
    rw [hmine]
    exact stream?_eq_some.2 ⟨_, rfl, rfl, hid⟩
  have hstreamNone : c.stream? = none := by
    rw [Connection.stream?, hnone]
    rfl
  have hcases : ∀ x ∈ (d.setHandler c.key (some (streamHandler i))).live,
      x = update c ∨ x ∈ d.live ∧ x ≠ c := by
    intro x hx
    rw [hlive] at hx
    obtain ⟨y, hy, rfl⟩ := List.mem_map.1 hx
    rcases eq_or_ne y c with rfl | hne
    · exact .inl rfl
    · rw [hother y hy hne]
      exact .inr ⟨hy, hne⟩
  have htags : (tags (d.setHandler c.key (some (streamHandler i))).live).Perm ((i, 0) :: tags d.live) := by
    have hperm : d.live.Perm (c :: d.live.erase c) := List.perm_cons_erase hc
    have hrest : (d.live.erase c).map update = d.live.erase c := by
      have hnodup : d.live.Nodup := List.Nodup.of_map _ h.keys
      refine (List.map_congr_left fun x hx => ?_).trans (List.map_id _)
      obtain ⟨hne, hx⟩ := (List.Nodup.mem_erase_iff hnodup).1 hx
      exact hother x hx hne
    have hmap : (d.live.map update).Perm ([update c] ++ d.live.erase c) := by
      have hmap := hperm.map update
      rwa [List.map_cons, hrest] at hmap
    rw [hlive]
    refine (tags_perm [update c] hmap).trans ?_
    · rw [tags_cons_some hstream]
      refine List.Perm.cons _ ?_
      have hold := tags_perm [c] hperm
      rw [tags_cons_none hstreamNone] at hold
      exact hold.symm
  refine ⟨⟨?_, ?_, ?_, ?_, ?_, ?_, ?_, ?_⟩, htags⟩
  · rw [map_setHandler _ (fun _ _ => rfl)]
    exact h.keys
  · intro x hx
    rcases hcases x hx with rfl | ⟨hx, -⟩
    · rw [hmine]
      exact h.fresh c hc
    · exact h.fresh x hx
  · exact htags.nodup_iff.2 (List.nodup_cons.2 ⟨hfresh, h.unique⟩)
  · intro t ht
    rcases List.mem_cons.1 (htags.mem_iff.1 ht) with rfl | ht
    · exact .inl rfl
    · exact h.roles t ht
  · intro x hx hanonymous
    rcases hcases x hx with rfl | ⟨hx, -⟩
    · rw [hmine] at hanonymous
      cases hanonymous
    · exact h.anonymous x hx hanonymous
  · intro x hx hsome
    rcases hcases x hx with rfl | ⟨hx, -⟩
    · rw [hmine]
      rfl
    · exact h.sentinels x hx hsome
  · intro x hx
    obtain ⟨y, hy, rfl⟩ := List.mem_map.1 hx
    obtain ⟨j, hj, htimer⟩ := h.cancelled y hy
    have hne : y ≠ c := by
      rintro rfl
      rw [hstreamNone] at hj
      cases hj
    have hsame : update y = y := hother y (List.mem_append_right _ hy) hne
    refine ⟨j, ?_, fun hmem => ?_⟩
    · change (update y).stream? = _
      rw [hsame, hj]
    · rcases List.mem_cons.1 (htags.mem_iff.1 hmem) with heq | hmem
      · exact absurd (congrArg Prod.snd heq) Nat.one_ne_zero
      · exact htimer hmem
  · intro hclosed
    rw [h.closed hclosed] at hc
    exact absurd hc List.not_mem_nil

end Dispatcher

/-! ### Calls to handlers -/

namespace PyroStreamConnection

lemma cancelConnection_not_mem_loop (codec : CodecParameters) (fuel sends : Nat)
    (c : PyroStreamConnection) : .cancelConnection ∉ (handleLoopSending codec fuel sends c).2.2 := by
  have hmessage : ∀ (c : PyroStreamConnection) type payload,
      .cancelConnection ∉ (c.handleMessage codec type payload).events := by
    intro c type payload
    unfold handleMessage handleHello handleKick handleProgress
    dsimp only
    split_ifs <;> simp
  induction fuel generalizing sends c with
  | zero => exact List.not_mem_nil
  | succ fuel ih =>
    rw [handleLoopSending]
    dsimp only
    split_ifs
    · exact List.not_mem_nil
    · simp [hmessage, ih]
    · simp [hmessage]
    · exact List.not_mem_nil
    · exact List.not_mem_nil

lemma timed_handleSending (c : PyroStreamConnection) (codec : CodecParameters) (received : List UInt8)
    (sends : Nat) : Timed c (c.handleSending codec 0 received sends).2.1
      (c.handleSending codec 0 received sends).2.2 ∧
    .cancelConnection ∉ (c.handleSending codec 0 received sends).2.2 := by
  rw [handleSending, if_neg (not_not.2 rfl)]
  split_ifs
  · exact ⟨Timed.nil c, List.not_mem_nil⟩
  · exact ⟨Timed.nil c, List.not_mem_nil⟩
  · exact ⟨(timed_handleLoopSending codec _ sends _).congr rfl rfl, cancelConnection_not_mem_loop codec _ _ _⟩

end PyroStreamConnection

namespace StreamServer

variable {R : Counting} {count : R.Counter → Nat} {s : StreamServer R} {c : Connection} {x : Surroundings}

open PyroStreamConnection (Event)

/-- What holds in every state. -/
structure Sound (count : R.Counter → Nat) (s : StreamServer R) : Prop where
  tidy : s.dispatcher.Tidy
  held : Held count (tags s.dispatcher.live) s
  armed : ∀ i, s.armed i = true ↔ ∃ type ∈ s.handled i, PyroStreamConnection.Announces type
  kicked : ∀ i, (s.server.connection i).kicked = true → s.armed i = true

lemma Sound.handle (h : Sound count s) (i : Nat) (x : Surroundings) :
    Sound count (s.handle i 0 x).after := by
  obtain ⟨htimed, -⟩ := (s.server.connection i).timed_handleSending s.server.codec x.received x.sends
  have hsame := PyroStreamServer.sameConnections_onEvents
    ((s.server.connection i).handleSending s.server.codec 0 x.received x.sends).2.2
    (let server := s.server
     let c := ((s.server.connection i).handleSending s.server.codec 0 x.received x.sends).2.1
     { server with connection := Function.update server.connection i c })
  have hlist : (s.handle i 0 x).after.server.connections = s.server.connections := hsame.connections
  have hmade : (s.handle i 0 x).after.server.accepted = s.server.accepted := hsame.accepted
  have hconnection : (s.handle i 0 x).after.server.connection = Function.update s.server.connection i
      ((s.server.connection i).handleSending s.server.codec 0 x.received x.sends).2.1 := hsame.connection
  have harmed : ∀ j, (s.handle i 0 x).after.armed j = true ↔ s.armed j = true ∨
      (j = i ∧ .startTimeout ∈
        ((s.server.connection i).handleSending s.server.codec 0 x.received x.sends).2.2) := by
    intro j
    rw [StreamServer.handle]
    dsimp only
    split
    · rename_i hstart
      rcases eq_or_ne j i with rfl | hne
      · simp [hstart]
      · simp [hne]
    · rename_i hstart
      simp [hstart]
  refine ⟨h.tidy, ⟨?_, ?_, ?_⟩, ?_, ?_⟩
  · rw [hmade]
    exact h.held.made
  · rw [hlist]
    exact h.held.listed
  · refine h.held.pool.congr fun j => ?_
    rw [holders, hlist]
    rfl
  · intro j
    rw [harmed, h.armed, StreamServer.handle]
    dsimp only
    rcases eq_or_ne j i with rfl | hne
    · rw [Function.update_self]
      constructor
      · rintro (⟨type, htype, hann⟩ | ⟨-, hstart⟩)
        · exact ⟨type, List.mem_append_left _ htype, hann⟩
        · obtain ⟨type, htype, hann⟩ := htimed.announced hstart
          exact ⟨type, List.mem_append_right _ htype, hann⟩
      · rintro ⟨type, htype, hann⟩
        rcases List.mem_append.1 htype with htype | htype
        · exact .inl ⟨type, htype, hann⟩
        · rcases htimed.started ⟨type, htype, hann⟩ with hstart | hkicked
          · exact .inr ⟨rfl, hstart⟩
          · exact .inl ((h.armed j).1 (h.kicked j hkicked))
    · rw [Function.update_of_ne hne]
      simp [hne]
  · intro j
    rw [harmed, hconnection]
    rcases eq_or_ne j i with rfl | hne
    · rw [Function.update_self]
      intro hkicked
      rcases htimed.kicked hkicked with hkicked | hstart
      · exact .inl (h.kicked j hkicked)
      · exact .inr ⟨rfl, hstart⟩
    · rw [Function.update_of_ne hne]
      exact fun hkicked => .inl (h.kicked j hkicked)

/-- A timer that runs out cancels the TCP connection. -/
lemma handle_timer (s : StreamServer R) (i : Nat) (x : Surroundings) :
    s.handle i 1 x = { actions := [.cancel (streamHandler i).ref 0], result := false, after := s } := by
  have htypes : [Event.cancelConnection].filterMap messageType? = [] := rfl
  have hactions : [Event.cancelConnection].filterMap (onEvent i) =
      [.cancel (streamHandler i).ref 0] := rfl
  have hstart : Event.startTimeout ∉ [Event.cancelConnection] := by decide
  rw [StreamServer.handle, PyroStreamConnection.handleSending, if_pos Nat.one_ne_zero]
  dsimp only
  rw [htypes, hactions, if_neg hstart, List.append_nil, Function.update_eq_self, Function.update_eq_self]
  rfl

lemma handle_tcp_actions (s : StreamServer R) (i : Nat) (x : Surroundings) : (s.handle i 0 x).actions = [] := by
  obtain ⟨-, hcancel⟩ := (s.server.connection i).timed_handleSending s.server.codec x.received x.sends
  rw [StreamServer.handle]
  dsimp only
  rw [List.filterMap_eq_nil_iff]
  intro e he
  cases e with
  | cancelConnection => exact absurd he hcancel
  | _ => rfl

/-- A new object is referred to by the server, its TCP connection and the timer if it is accepted. -/
lemma Held.registerTcpHandler (hR : R.Lawful count) {T : List (Nat × Nat)} (h : Held count T s) :
    Held count ((s.server.accepted, 0) ::
      ((if s.AcceptsTimer x then [(s.server.accepted, 1)] else []) ++ T)) (s.registerTcpHandler x) := by
  have hfresh : holders T s s.server.accepted = 0 := h.pool.unmade _ h.made.le
  have hzero : T.countP (fun t => t.1 = s.server.accepted) = 0 ∧
      s.server.connections.count s.server.accepted = 0 := by
    rw [holders] at hfresh
    omega
  have hmade := h.pool.make hR
  rw [h.made] at hmade
  have htimer := hmade.addReference hR (i := s.server.accepted) (by simp)
  rw [Function.update_self, Function.update_idem] at htimer
  have hlisted : ∀ j, (s.server.connections ++ [s.server.accepted]).count j =
      ((s.server.accepted, 0) :: T).count (j, 0) := by
    intro j
    rw [List.count_append, h.listed]
    rcases eq_or_ne j s.server.accepted with rfl | hne
    · simp
    · simp [hne.symm]
  have hholders : ∀ (L : List (Nat × Nat)) k j, L.countP (fun t => t.1 = j) =
      (if j = s.server.accepted then k else 0) →
      ((s.server.accepted, 0) :: (L ++ T)).countP (fun t => t.1 = j) +
        (s.server.connections ++ [s.server.accepted]).count j =
      Function.update (holders T s) s.server.accepted (2 + k) j := by
    intro L k j hL
    rw [List.countP_cons, List.countP_append, List.count_append, hL]
    rcases eq_or_ne j s.server.accepted with rfl | hne
    · rw [Function.update_self]
      simp only [hzero, List.count_singleton_self, decide_true, if_true]
      omega
    · rw [Function.update_of_ne hne, holders]
      simp [hne, hne.symm]
  rw [StreamServer.registerTcpHandler]
  by_cases haccepts : s.AcceptsTimer x
  · rw [if_pos haccepts, if_pos haccepts]
    have hfinal := htimer.addReference hR (i := s.server.accepted) (by simp)
    rw [Function.update_self, Function.update_idem] at hfinal
    refine ⟨congrArg (· + 1) h.made, fun j => ?_, hfinal.congr fun j => ?_⟩
    · exact (hlisted j).trans (by simp [List.count_cons])
    · refine hholders [(s.server.accepted, 1)] 1 j ?_
      rw [List.countP_singleton]
      simp [eq_comm]
  · rw [if_neg haccepts, if_neg haccepts, StreamServer.releaseId, if_neg Nat.one_ne_zero]
    have hreleased := htimer.releaseReference hR (i := s.server.accepted) (by simp)
    rw [Function.update_self, Function.update_idem] at hreleased
    have hfinal := hreleased.addReference hR (i := s.server.accepted) (by simp)
    rw [Function.update_self, Function.update_idem] at hfinal
    refine ⟨congrArg (· + 1) h.made, fun j => ?_, hfinal.congr fun j => ?_⟩
    · exact hlisted j
    · exact hholders [] 0 j (by simp)

/-! ### Steps -/

lemma proceed_frame (s : StreamServer R) (d : Dispatcher) :
    SameClients { s with dispatcher := d } (s.proceed d) := sameClients_destroyAll _ _

lemma filter_gone {l gone l' : List Connection} (hkeys : (l.map Connection.key).Nodup)
    (hperm : l.Perm (gone ++ l')) :
    (l.filter fun c => c.key ∉ l'.map Connection.key).Perm gone := by
  have hnodup := (hperm.map Connection.key).nodup_iff.1 hkeys
  rw [List.map_append] at hnodup
  have hdisjoint := (List.nodup_append.1 hnodup).2.2
  have hgone : gone.filter (fun c => c.key ∉ l'.map Connection.key) = gone := by
    rw [List.filter_eq_self]
    intro c hc
    exact decide_eq_true fun hmem => hdisjoint _ (List.mem_map_of_mem hc) _ hmem rfl
  have hkept : l'.filter (fun c => c.key ∉ l'.map Connection.key) = [] := by
    rw [List.filter_eq_nil_iff]
    intro c hc hnot
    exact of_decide_eq_true hnot (List.mem_map_of_mem hc)
  have hfilter := hperm.filter fun c => c.key ∉ l'.map Connection.key
  rwa [List.filter_append, hgone, hkept, List.append_nil] at hfilter

/-- Connections are gone and their references are released. -/
lemma Sound.proceed (hR : R.Lawful count) (h : Sound count s) {d : Dispatcher} {gone : List Connection}
    (htidy : d.Tidy) (hlive : s.dispatcher.live.Perm (gone ++ d.live)) : Sound count (s.proceed d) := by
  have hframe := proceed_frame s d
  have htags := (Dispatcher.tags_perm _ hlive).trans
    (((filter_gone h.tidy.keys hlive).symm.filterMap Connection.stream?).append_right _)
  have hheld : Held count (tags d.live) (s.proceed d) := by
    refine Held.destroyAll hR (s := { s with dispatcher := d }) ?_
    have hperm := h.held.perm htags
    exact ⟨hperm.made, hperm.listed, hperm.pool⟩
  refine ⟨?_, ?_, fun i => ?_, fun i => ?_⟩
  · rw [hframe.dispatcher]
    exact htidy
  · rw [hframe.dispatcher]
    exact hheld
  · rw [hframe.armed, hframe.handled]
    exact h.armed i
  · rw [hframe.armed, hframe.connection]
    exact h.kicked i

lemma proceed_of_subset {d : Dispatcher}
    (h : s.dispatcher.live.map Connection.key ⊆ d.live.map Connection.key) :
    s.proceed d = { s with dispatcher := d } := by
  have hnone : s.dispatcher.live.filter (fun c => c.key ∉ d.live.map Connection.key) = [] := by
    rw [List.filter_eq_nil_iff]
    intro c hc hnot
    exact of_decide_eq_true hnot (h (List.mem_map_of_mem hc))
  rw [StreamServer.proceed, hnone]
  rfl

lemma leave_of_goesOn {r : Exit × Dispatcher} (h : r.1 = .goesOn) : s.leave r = s.proceed r.2 := by
  rw [leave, if_pos h]

/-- When the loop is left nothing remains. -/
lemma Sound.leave_shutDown (hR : R.Lawful count) (h : Sound count s) {r : Exit × Dispatcher}
    (hexit : r.1 ≠ .goesOn) : Sound count (s.leave r) ∧ (s.leave r).dispatcher.live = [] := by
  have hlive : s.dispatcher.live.Perm (s.dispatcher.live ++ r.2.shutDown.live) := by
    have hnone : r.2.shutDown.live = [] := rfl
    rw [hnone, List.append_nil]
  rw [leave, if_neg hexit]
  refine ⟨h.proceed hR (Dispatcher.tidy_shutDown r.2) hlive, ?_⟩
  rw [(proceed_frame s _).dispatcher]
  rfl

/-- An object has been deleted, once, if none of its connections is left, and not before. -/
def Reclaimed (s : StreamServer R) : Prop :=
  ∀ i < s.server.accepted,
    s.pool.deleted.count i = if ∃ t ∈ tags s.dispatcher.live, t.1 = i then 0 else 1

lemma Sound.reclaimed (h : Sound count s) : s.Reclaimed := by
  intro i hi
  rw [h.held.pool.deleted, h.held.made, holders, h.held.listed]
  by_cases hsome : ∃ t ∈ tags s.dispatcher.live, t.1 = i
  · obtain ⟨t, ht, rfl⟩ := hsome
    have hpos : 0 < (tags s.dispatcher.live).countP (fun u => u.1 = t.1) :=
      List.countP_pos_iff.2 ⟨t, ht, decide_eq_true rfl⟩
    rw [if_neg (by omega), if_pos ⟨t, ht, rfl⟩]
  · have hnone : (tags s.dispatcher.live).countP (fun u => u.1 = i) = 0 := by
      rw [List.countP_eq_zero]
      exact fun t ht heq => hsome ⟨t, ht, of_decide_eq_true heq⟩
    have hlist : (tags s.dispatcher.live).count (i, 0) = 0 :=
      List.count_eq_zero.2 fun hmem => hsome ⟨_, hmem, rfl⟩
    rw [hnone, hlist, if_pos ⟨hi, rfl⟩, if_neg hsome]

end StreamServer

end PyroFling
