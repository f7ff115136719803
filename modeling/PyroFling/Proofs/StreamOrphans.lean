import PyroFling.Library.Runs
import PyroFling.Proofs.StreamReferences
import PyroFling.Proofs.TcpFraming

/-!
# Stream connections without a client

A timer whose TCP connection has ended is the last connection of its object. It only ends if it has been
started, which takes a KICK or a progress report.
-/

namespace PyroFling
open RefCount

namespace PyroStreamConnection

/-! ### Calls that end a connection -/

/-- Of messages with these types one ends the connection before one has started the timer, if only
`sends` answers get through: any but a progress report gets one. -/
def breaksOff : Nat → List (BitVec 64) → Bool
  | _, [] => false
  | sends, type :: types =>
    if !messageValidateMagic type then true
    else if type = messageProgress then false
    else if sends = 0 then true
    else if type = messageKick then false
    else breaksOff (sends - 1) types

/-- The buffer is full, the client is gone, or its messages end the connection before one has started
the timer. -/
def EndsQuietly (c : PyroStreamConnection) (received : List UInt8) (sends : Nat) : Prop :=
  maxMessageBufferLength ≤ c.tcp.length ∨ received = [] ∨
    breaksOff sends ((messageFraming.frames (c.tcp ++ received)).map messageType) = true

instance (c : PyroStreamConnection) (received : List UInt8) (sends : Nat) :
    Decidable (c.EndsQuietly received sends) := inferInstanceAs (Decidable (_ ∨ _ ∨ _))

/-- A connection that has not been kicked answers everything but progress reports. -/
lemma answers_handleMessage (codec : CodecParameters) {c : PyroStreamConnection} (hkicked : c.kicked = false)
    (type : BitVec 64) (payload : List UInt8) :
    (c.handleMessage codec type payload).events.countP Event.isAnswer =
      if type = messageProgress then 0 else 1 := by
  have hkick : messageKick ≠ messageProgress := by decide
  by_cases hhello : type = messageHello
  · subst hhello
    rfl
  by_cases htype : type = messageKick
  · subst htype
    rw [handleMessage, if_neg hhello, if_pos rfl, handleKick, if_neg hkick]
    dsimp only
    rw [hkicked, if_neg Bool.false_ne_true]
    split_ifs <;> rfl
  · rw [handleMessage, if_neg hhello, if_neg htype]
    split_ifs <;> rfl

lemma silent_message (type : BitVec 64) (payload : List UInt8) (events : List Event) :
    (∀ t ∈ (Event.message type payload :: events).filterMap StreamServer.messageType?, ¬Announces t) ↔
      ¬Announces type ∧ ∀ t ∈ events.filterMap StreamServer.messageType?, ¬Announces t := by
  have hcons : (Event.message type payload :: events).filterMap StreamServer.messageType? =
      type :: events.filterMap StreamServer.messageType? := rfl
  rw [hcons, List.forall_mem_cons]

/-- No message is among the answers. -/
lemma messageType_answers (codec : CodecParameters) (c : PyroStreamConnection) (type : BitVec 64)
    (payload : List UInt8) :
    (c.handleMessage codec type payload).events.filterMap StreamServer.messageType? = [] := by
  unfold handleMessage handleHello handleKick handleProgress
  dsimp only
  split_ifs <;> rfl

/-- Which calls of the loop end the connection without a message that starts the timer. -/
lemma breaksOff_iff (codec : CodecParameters) (fuel : Nat) : ∀ (sends : Nat) (c : PyroStreamConnection),
    c.kicked = false → c.tcp.length ≤ fuel →
    ((handleLoopSending codec fuel sends c).1 = false ∧
      (∀ type ∈ (handleLoopSending codec fuel sends c).2.2.filterMap StreamServer.messageType?,
        ¬Announces type) ↔
      breaksOff sends ((messageFraming.frames c.tcp).map messageType) = true) := by
  induction fuel with
  | zero =>
    intro sends c _ hfuel
    have hframes : messageFraming.frames c.tcp = [] := by
      rw [List.eq_nil_of_length_eq_zero (Nat.le_zero.1 hfuel)]
      rfl
    rw [hframes]
    simp [handleLoopSending, breaksOff]
  | succ fuel ih =>
    intro sends c hkicked hfuel
    rw [handleLoopSending]
    dsimp only
    cases hholds : holdsMessage c.tcp with
    | false =>
      rw [if_neg Bool.false_ne_true, (Framing.frames_of_none (frame_eq_none.2 hholds)).1]
      simp [breaksOff]
    | true =>
      set type := messageType c.tcp with htype
      set payload := (c.tcp.drop messageTypeSize).take (messageGetLength type)
      set handled := c.handleMessage codec type payload with hhandled
      have hframes := (Framing.frames_of_some (frame_of_holds hholds)).1
      rw [if_pos rfl, hframes, List.map_cons, messageType_take (Nat.le_add_left _ _), ← htype, breaksOff,
        answers_handleMessage codec hkicked]
      obtain ⟨htcp, -, hconsumed, hflag⟩ := handleMessage_spec codec c type payload
      rw [← hhandled] at htcp hconsumed hflag
      cases hvalid : messageValidateMagic type with
      | false => simp
      | true =>
        have htrue : handled.consumed = true := hconsumed.2 fun _ => hkicked
        rw [if_pos rfl, if_neg (by simp : ¬(!true) = true), htrue, if_pos rfl]
        by_cases hprogress : type = messageProgress
        · have hann : Announces type := .inr hprogress
          rw [if_pos hprogress, if_neg (Nat.not_lt_zero _), if_pos hprogress]
          simp [StreamServer.messageType?, hann]
        rw [if_neg hprogress, if_neg hprogress]
        cases sends with
        | zero => simp
        | succ sends =>
          rw [if_neg (by omega), if_neg (Nat.succ_ne_zero sends)]
          by_cases hkick : type = messageKick
          · have hann : Announces type := .inl hkick
            rw [if_pos hkick]
            simp [StreamServer.messageType?, hann]
          · have hquiet : ¬Announces type := fun hann => hann.elim hkick hprogress
            rw [if_neg hkick] at hflag ⊢
            have hlength := (holdsMessage_iff.1 hholds).1
            have hsize : messageTypeSize = 8 := rfl
            have hrest := ih sends { handled.connection with
              tcp := handled.connection.tcp.drop (messageGetLength type + messageTypeSize) }
              (hflag.trans hkicked) (by
                dsimp only
                rw [htcp, List.length_drop]
                omega)
            rw [htcp] at hrest
            rw [List.cons_append, silent_message, List.filterMap_append, messageType_answers, List.nil_append,
              Nat.add_sub_cancel, htcp, ← hrest]
            simp [hquiet]

lemma endsQuietly_iff (codec : CodecParameters) {c : PyroStreamConnection} (hkicked : c.kicked = false)
    (received : List UInt8) (sends : Nat) :
    c.EndsQuietly received sends ↔ (c.handleSending codec 0 received sends).1 = false ∧
      ∀ type ∈ (c.handleSending codec 0 received sends).2.2.filterMap StreamServer.messageType?,
        ¬Announces type := by
  rw [handleSending, if_neg (not_not.2 rfl), EndsQuietly]
  by_cases hfull : c.tcp.length ≥ maxMessageBufferLength
  · simp [hfull]
  by_cases hgone : received = []
  · simp [hfull, hgone]
  · have hnot : received.isEmpty = false := by simpa using hgone
    rw [if_neg hfull, hnot, if_neg Bool.false_ne_true]
    exact ((or_iff_right hfull).trans (or_iff_right hgone)).trans
      (breaksOff_iff codec _ sends { c with tcp := c.tcp ++ received } hkicked le_rfl).symm

end PyroStreamConnection

namespace StreamServer

variable {R : Counting} {count : R.Counter → Nat} {s : StreamServer R} {c : Connection} {x : Surroundings}

open PyroStreamConnection (Event)

/-! ### Orphans -/

/-- Everything that has a connection has its TCP connection, or its timer is running. -/
def Watched (armed : Nat → Bool) (T : List (Nat × Nat)) : Prop :=
  ∀ t ∈ T, (t.1, 0) ∈ T ∨ ((t.1, 1) ∈ T ∧ armed t.1 = true)

instance (armed : Nat → Bool) (T : List (Nat × Nat)) : Decidable (Watched armed T) :=
  inferInstanceAs (Decidable (∀ t ∈ T, (t.1, 0) ∈ T ∨ ((t.1, 1) ∈ T ∧ armed t.1 = true)))

namespace Watched

variable {armed armed' : Nat → Bool} {T T' : List (Nat × Nat)} {i : Nat}

lemma nil : Watched armed [] := fun _ ht => absurd ht List.not_mem_nil

lemma perm (h : Watched armed T) (hperm : T.Perm T') : Watched armed T' := by
  intro t ht
  exact (h t (hperm.mem_iff.2 ht)).imp hperm.mem_iff.1 fun htimer => ⟨hperm.mem_iff.1 htimer.1, htimer.2⟩

lemma mono (h : Watched armed T) (harmed : ∀ j, armed j = true → armed' j = true) : Watched armed' T :=
  fun t ht => (h t ht).imp_right fun htimer => ⟨htimer.1, harmed _ htimer.2⟩

lemma joins (h : Watched armed T) {L : List (Nat × Nat)} (hL : ∀ t ∈ L, t.1 = i) :
    Watched armed ((i, 0) :: (L ++ T)) := by
  intro t ht
  rcases List.mem_cons.1 ht with rfl | ht
  · exact .inl List.mem_cons_self
  rcases List.mem_append.1 ht with ht | ht
  · rw [hL t ht]
    exact .inl List.mem_cons_self
  · have hsub : ∀ u ∈ T, u ∈ (i, 0) :: (L ++ T) := fun u hu =>
      List.mem_cons_of_mem _ (List.mem_append_right _ hu)
    exact (h t ht).imp (hsub _) fun htimer => ⟨hsub _ htimer.1, htimer.2⟩

lemma timeOut (h : Watched armed ((i, 1) :: T)) (hunique : ((i, 1) :: T).Nodup)
    (hroles : ∀ t ∈ T, t.2 = 0 ∨ t.2 = 1) : Watched armed T := by
  obtain ⟨hgone, -⟩ := List.nodup_cons.1 hunique
  intro t ht
  rcases h t (List.mem_cons_of_mem _ ht) with htcp | ⟨htimer, harmed⟩
  · exact .inl ((List.mem_cons.1 htcp).resolve_left fun heq => Nat.zero_ne_one (congrArg Prod.snd heq))
  · rcases List.mem_cons.1 htimer with heq | htimer
    · obtain rfl : t.1 = i := congrArg Prod.fst heq
      rcases hroles t ht with hrole | hrole
      · exact .inl (hrole ▸ ht)
      · exact absurd (hrole ▸ ht) hgone
    · exact .inr ⟨htimer, harmed⟩

lemma disconnects (h : Watched armed ((i, 0) :: T)) (hunique : ((i, 0) :: T).Nodup)
    (hroles : ∀ t ∈ T, t.2 = 0 ∨ t.2 = 1) (harmed : (i, 1) ∈ T → armed i = true) : Watched armed T := by
  obtain ⟨hgone, -⟩ := List.nodup_cons.1 hunique
  intro t ht
  by_cases hmine : t.1 = i
  · subst hmine
    rcases hroles t ht with hrole | hrole
    · exact absurd (hrole ▸ ht) hgone
    · have htimer : (t.1, 1) ∈ T := hrole ▸ ht
      exact .inr ⟨htimer, harmed htimer⟩
  · rcases h t (List.mem_cons_of_mem _ ht) with htcp | ⟨htimer, hrunning⟩
    · exact .inl ((List.mem_cons.1 htcp).resolve_left fun heq => hmine (congrArg Prod.fst heq))
    · exact .inr ⟨(List.mem_cons.1 htimer).resolve_left fun heq => hmine (congrArg Prod.fst heq), hrunning⟩

lemma disconnectAll {G : List (Nat × Nat)} (h : Watched armed (G ++ T)) (hunique : (G ++ T).Nodup)
    (hroles : ∀ t ∈ G ++ T, t.2 = 0 ∨ t.2 = 1)
    (hG : ∀ t ∈ G, t.2 = 0 ∧ (t.1, 1) ∉ G ++ T) : Watched armed T := by
  induction G with
  | nil => exact h
  | cons t G ih =>
    obtain ⟨i, id⟩ := t
    obtain ⟨rfl, htimer⟩ := hG _ List.mem_cons_self
    have hrest : Watched armed (G ++ T) := by
      refine h.disconnects hunique (fun t ht => hroles t (List.mem_cons_of_mem _ ht)) fun hmem => ?_
      exact absurd (List.mem_cons_of_mem _ hmem) htimer
    refine ih hrest (List.nodup_cons.1 hunique).2 (fun t ht => hroles t (List.mem_cons_of_mem _ ht)) ?_
    intro t ht
    obtain ⟨hrole, hnone⟩ := hG t (List.mem_cons_of_mem _ ht)
    exact ⟨hrole, fun hmem => hnone (List.mem_cons_of_mem _ hmem)⟩

end Watched

/-- No object is left with a connection that nothing will release. -/
def NotOrphaned (s : StreamServer R) : Prop := Watched s.armed (tags s.dispatcher.live)

instance (s : StreamServer R) : Decidable s.NotOrphaned := inferInstanceAs (Decidable (Watched _ _))

/-- A KICK or a progress report of the client has been handled. -/
def Announced (s : StreamServer R) (i : Nat) : Prop :=
  ∃ type ∈ s.handled i, PyroStreamConnection.Announces type

/-- No TCP connection with a timer ends before a KICK or a progress report has come through it. -/
def Timely (s : StreamServer R) : StreamEvent → Prop
  | .ready key hup x => ∀ c ∈ s.dispatcher.connections, c.key = key → c.fd ∈ s.dispatcher.registered →
    ∀ t ∈ c.stream?, t.2 = 0 → (t.1, 1) ∈ tags s.dispatcher.live → s.Announced t.1 ∨
      (hup = false ∧ ¬(s.server.connection t.1).EndsQuietly x.received x.sends)
  | _ => True

instance (s : StreamServer R) (i : Nat) : Decidable (s.Announced i) :=
  List.decidableBEx (PyroStreamConnection.Announces ·) (s.handled i)

instance (s : StreamServer R) (e : StreamEvent) : Decidable (s.Timely e) :=
  match e with
  | .ready _ _ _ => inferInstanceAs (Decidable (∀ c ∈ s.dispatcher.connections, _ → _ → ∀ t ∈ c.stream?, _))
  | .datagram _ _ _ | .client _ _ | .cleanUp | .setCodecParameters _ => .isTrue trivial

lemma announced_handle {i : Nat} : (s.handle i 0 x).after.Announced i ↔ s.Announced i ∨
    ∃ type ∈ ((s.server.connection i).handleSending s.server.codec 0 x.received x.sends).2.2.filterMap
      messageType?, PyroStreamConnection.Announces type := by
  rw [Announced, StreamServer.handle]
  dsimp only
  rw [Function.update_self]
  simp only [List.mem_append, or_and_right, exists_or, Announced]

/-- Which calls end a TCP connection that nothing has started the timer of. -/
lemma Sound.endsQuietly_iff (h : Sound count s) {i : Nat} (hsilent : ¬s.Announced i) :
    (s.server.connection i).EndsQuietly x.received x.sends ↔
      (s.handle i 0 x).result = false ∧ ¬(s.handle i 0 x).after.Announced i := by
  have hkicked : (s.server.connection i).kicked = false := by
    by_contra hkicked
    exact hsilent ((h.armed i).1 (h.kicked i (by simpa using hkicked)))
  rw [announced_handle, PyroStreamConnection.endsQuietly_iff s.server.codec hkicked, or_iff_right hsilent]
  simp only [not_exists, not_and]
  rfl

/-- What a step has to keep. -/
def Keeps (count : R.Counter → Nat) (s s' : StreamServer R) : Prop :=
  Sound count s' ∧ (s.NotOrphaned → s'.NotOrphaned)

lemma Keeps.shutDown (hR : R.Lawful count) (h : Sound count s) {r : Exit × Dispatcher}
    (hexit : r.1 ≠ .goesOn) : Keeps count s (s.leave r) := by
  obtain ⟨hsound, hnone⟩ := h.leave_shutDown hR hexit
  refine ⟨hsound, fun _ => ?_⟩
  rw [NotOrphaned, hnone]
  exact Watched.nil

/-- Nothing changes but connections without a stream connection. -/
lemma Keeps.same {d : Dispatcher} (h : Sound count s) (htidy : d.Tidy)
    (hkeys : s.dispatcher.live.map Connection.key ⊆ d.live.map Connection.key)
    (htags : (tags s.dispatcher.live).Perm (tags d.live)) : Keeps count s (s.proceed d) := by
  rw [proceed_of_subset hkeys]
  have hheld := h.held.perm htags
  exact ⟨⟨htidy, ⟨hheld.made, hheld.listed, hheld.pool⟩, h.armed, h.kicked⟩, fun hwatched => hwatched.perm htags⟩

lemma Keeps.client (h : Sound count s) (hopen : s.dispatcher.isOpen = true)
    (fd : Option Nat) (accepted : Bool) :
    Keeps count s (s.leave (s.dispatcher.handleEvent (.client fd accepted))) := by
  cases fd with
  | none =>
    rw [leave_of_goesOn rfl]
    exact Keeps.same h h.tidy (List.Subset.refl _) (List.Perm.refl _)
  | some fd =>
    rw [leave_of_goesOn rfl]
    rcases s.dispatcher.register_cases fd none 0 accepted with
      ⟨-, hsame⟩ | ⟨-, hlive, hnext, hisOpen, hcancellations⟩
    · change Keeps count s (s.proceed (s.dispatcher.register fd none 0 accepted))
      rw [hsame]
      exact Keeps.same h h.tidy (List.Subset.refl _) (List.Perm.refl _)
    · refine Keeps.same h (h.tidy.joins hopen hlive rfl hnext hisOpen hcancellations (fun _ => rfl)
        (fun hsome => Bool.noConfusion hsome) fun t ht => by cases ht) ?_ ?_
      · intro key hkey
        exact (hlive.map Connection.key).mem_iff.2 (List.mem_cons_of_mem _ hkey)
      · exact (Dispatcher.tags_perm [_] hlive).symm

lemma Keeps.hangUp (hR : R.Lawful count) (h : Sound count s) (hc : c ∈ s.dispatcher.live)
    (htimely : c ∈ s.dispatcher.connections → c.fd ∈ s.dispatcher.registered →
      ∀ i, c.stream? = some (i, 0) → (i, 1) ∈ tags s.dispatcher.live → s.armed i = true) :
    Keeps count s (s.leave (s.dispatcher.hangUp c)) := by
  by_cases hexit : (s.dispatcher.hangUp c).1 = .goesOn
  swap
  · exact Keeps.shutDown hR h hexit
  obtain ⟨hfd, htidy, gone, hlive, hgone⟩ := h.tidy.hangUp hc hexit
  have hframe := proceed_frame s (s.dispatcher.hangUp c).2
  have htags := Dispatcher.tags_perm _ hlive
  rw [leave_of_goesOn hexit]
  refine ⟨h.proceed hR htidy hlive, fun hwatched => ?_⟩
  rw [NotOrphaned, hframe.armed, hframe.dispatcher]
  have hwatched := hwatched.perm htags
  have hunique := htags.nodup_iff.1 h.tidy.unique
  rcases hgone with ⟨hmem, rfl⟩ | ⟨-, rfl⟩
  swap
  · exact hwatched
  cases hstream : c.stream? with
  | none =>
    rw [tags_cons_none hstream] at hwatched
    exact hwatched
  | some t =>
    obtain ⟨i, id⟩ := t
    have hrole := h.tidy.roles _ (Dispatcher.mem_tags hc hstream)
    rw [tags_cons_some hstream] at hwatched hunique
    rcases hrole with hid | hid
    · obtain rfl : id = 0 := hid
      refine hwatched.disconnects hunique htidy.roles fun htimer => ?_
      exact htimely hmem hfd i hstream (htags.mem_iff.2 (List.mem_append_right _ htimer))
    · obtain rfl : id = 1 := hid
      exact hwatched.timeOut hunique htidy.roles

lemma Keeps.register (hR : R.Lawful count) (h : Sound count s) (hopen : s.dispatcher.isOpen = true)
    (hc : c ∈ s.dispatcher.live) (hnone : c.handler = none) (x : Surroundings) :
    let d := s.dispatcher.register x.timerFd (some (streamHandler s.server.accepted)) 1 x.timerAccepted
    Keeps count s ((s.registerTcpHandler x).proceed
      (d.setHandler c.key (some (streamHandler s.server.accepted)))) := by
  intro d
  have hfresh : ∀ u ∈ tags s.dispatcher.live, u.1 ≠ s.server.accepted := by
    rintro ⟨i, id⟩ hu
    exact (h.held.lt_accepted hu).ne
  have hregistered : d.Tidy ∧ c ∈ d.live ∧
      s.dispatcher.live.map Connection.key ⊆ d.live.map Connection.key ∧
      (tags d.live).Perm ((if s.AcceptsTimer x then [(s.server.accepted, 1)] else []) ++
        tags s.dispatcher.live) := by
    have htimer : ∀ key fd, Connection.stream? ⟨key, fd, 1, some (streamHandler s.server.accepted)⟩ =
        some (s.server.accepted, 1) := fun key fd => stream?_eq_some.2 ⟨_, rfl, rfl, rfl⟩
    rcases s.dispatcher.register_cases x.timerFd (some (streamHandler s.server.accepted)) 1 x.timerAccepted with
      ⟨hrefused, hsame⟩ | ⟨haccepted, hlive, hnext, hisOpen, hcancellations⟩
    · rw [if_neg (show ¬s.AcceptsTimer x from hrefused), show d = s.dispatcher from hsame]
      exact ⟨h.tidy, hc, List.Subset.refl _, List.Perm.refl _⟩
    · rw [if_pos (show s.AcceptsTimer x from haccepted)]
      refine ⟨h.tidy.joins hopen hlive rfl hnext hisOpen hcancellations (fun hnone => by cases hnone)
        (fun _ => rfl) fun t ht => ?_, hlive.mem_iff.2 (List.mem_cons_of_mem _ hc), fun key hkey => ?_, ?_⟩
      · rw [htimer] at ht
        obtain rfl := Option.some.inj ht
        exact ⟨.inr rfl, hfresh⟩
      · exact (hlive.map Connection.key).mem_iff.2 (List.mem_cons_of_mem _ hkey)
      · have htags := Dispatcher.tags_perm [_] hlive
        rw [tags_cons_some (htimer _ _)] at htags
        exact htags
  obtain ⟨htidy, hmem, hkeys, htags⟩ := hregistered
  have hnew : (s.server.accepted, 0) ∉ tags d.live := by
    intro hold
    rcases List.mem_append.1 (htags.mem_iff.1 hold) with hold | hold
    · split at hold
      · exact Nat.zero_ne_one (congrArg Prod.snd (List.mem_singleton.1 hold))
      · exact List.not_mem_nil hold
    · exact hfresh _ hold rfl
  obtain ⟨htidy', htags'⟩ := htidy.assigned hmem hnone hnew
  have hall := htags'.trans (htags.cons _)
  have hdispatcher : (s.registerTcpHandler x).dispatcher = s.dispatcher := by
    rw [StreamServer.registerTcpHandler]
    dsimp only
    split <;> rfl
  have harmed : (s.registerTcpHandler x).armed = s.armed ∧ (s.registerTcpHandler x).handled = s.handled ∧
      (s.registerTcpHandler x).server.connection = Function.update s.server.connection s.server.accepted
        ((PyroStreamConnection.new (s.server.cookie + 1)).setForwardErrorCorrection s.server.fec) := by
    rw [StreamServer.registerTcpHandler]
    dsimp only
    split <;> exact ⟨rfl, rfl, rfl⟩
  have hsubset : (s.registerTcpHandler x).dispatcher.live.map Connection.key ⊆
      (d.setHandler c.key (some (streamHandler s.server.accepted))).live.map Connection.key := by
    rw [hdispatcher, Dispatcher.map_setHandler _ (fun _ _ => rfl)]
    exact hkeys
  rw [proceed_of_subset hsubset]
  have hheld := (h.held.registerTcpHandler hR (x := x)).perm hall.symm
  refine ⟨⟨htidy', ⟨hheld.made, hheld.listed, hheld.pool⟩, fun i => ?_, fun i => ?_⟩, fun hwatched => ?_⟩
  · rw [harmed.1, harmed.2.1]
    exact h.armed i
  · rw [harmed.1, harmed.2.2]
    rcases eq_or_ne i s.server.accepted with rfl | hne
    · rw [Function.update_self]
      exact fun hkicked => Bool.noConfusion hkicked
    · rw [Function.update_of_ne hne]
      exact h.kicked i
  · rw [NotOrphaned, harmed.1]
    refine (hwatched.joins (L := if s.AcceptsTimer x then [(s.server.accepted, 1)] else []) ?_).perm hall.symm
    intro t ht
    split at ht
    · rw [List.mem_singleton.1 ht]
    · exact absurd ht List.not_mem_nil

lemma Keeps.timeOut (hR : R.Lawful count) (h : Sound count s) (hc : c ∈ s.dispatcher.live) {i : Nat}
    (hstream : c.stream? = some (i, 1)) :
    Keeps count s (s.leave ((s.dispatcher.cancelConnection (streamHandler i).ref 0).hangUp c)) := by
  by_cases hexit : ((s.dispatcher.cancelConnection (streamHandler i).ref 0).hangUp c).1 = .goesOn
  swap
  · exact Keeps.shutDown hR h hexit
  obtain ⟨htidy, hlive⟩ := h.tidy.timeOut hc hstream hexit
  have hframe := proceed_frame s ((s.dispatcher.cancelConnection (streamHandler i).ref 0).hangUp c).2
  have htags := Dispatcher.tags_perm _ hlive
  rw [tags_cons_some hstream] at htags
  rw [leave_of_goesOn hexit]
  refine ⟨h.proceed hR htidy hlive, fun hwatched => ?_⟩
  rw [NotOrphaned, hframe.armed, hframe.dispatcher]
  exact (hwatched.perm htags).timeOut (htags.nodup_iff.1 h.tidy.unique) htidy.roles

lemma Keeps.cleanUp (hR : R.Lawful count) (h : Sound count s) :
    Keeps count s (s.leave (Dispatcher.cleanUp s.dispatcher.cancellations false s.dispatcher)) := by
  by_cases hexit : (Dispatcher.cleanUp s.dispatcher.cancellations false s.dispatcher).1 = .goesOn
  swap
  · exact Keeps.shutDown hR h hexit
  obtain ⟨htidy, hlive⟩ := h.tidy.cleanUp hexit
  have hframe := proceed_frame s (Dispatcher.cleanUp s.dispatcher.cancellations false s.dispatcher).2
  have htags := Dispatcher.tags_perm _ hlive
  rw [leave_of_goesOn hexit]
  refine ⟨h.proceed hR htidy hlive, fun hwatched => ?_⟩
  rw [NotOrphaned, hframe.armed, hframe.dispatcher]
  refine (hwatched.perm htags).disconnectAll (htags.nodup_iff.1 h.tidy.unique)
    (fun t ht => h.tidy.roles t (htags.mem_iff.2 ht)) fun t ht => ?_
  obtain ⟨c, hc, hstream⟩ := List.mem_filterMap.1 ht
  obtain ⟨i, htcp, htimer⟩ := h.tidy.cancelled c hc
  rw [hstream] at htcp
  obtain rfl := Option.some.inj htcp
  exact ⟨rfl, fun hmem => htimer (htags.mem_iff.2 hmem)⟩

lemma found_live {key : Nat}
    (hfind : s.dispatcher.live.find? (fun c => c.key = key) = some c) :
    c ∈ s.dispatcher.live ∧ c.key = key :=
  ⟨List.mem_of_find?_eq_some hfind, of_decide_eq_true (List.find?_some hfind :)⟩

lemma Keeps.trans {s' s'' : StreamServer R} (h : Keeps count s s') (h' : Keeps count s' s'') :
    Keeps count s s'' := ⟨h'.1, h'.2 ∘ h.2⟩

lemma Keeps.handle (h : Sound count s) (i : Nat) (x : Surroundings) : Keeps count s (s.handle i 0 x).after := by
  refine ⟨h.handle i x, fun hwatched => hwatched.mono fun j harmed => ?_⟩
  obtain ⟨type, htype, hann⟩ := (h.armed j).1 harmed
  refine ((h.handle i x).armed j).2 ⟨type, ?_, hann⟩
  rw [StreamServer.handle]
  dsimp only
  rcases eq_or_ne j i with rfl | hne
  · rw [Function.update_self]
    exact List.mem_append_left _ htype
  · rwa [Function.update_of_ne hne]

lemma handleEvent_handler {d : Dispatcher} {key : Nat} {handler : Handler} (actions : List Action)
    (result : Bool) (hfind : d.live.find? (fun c => c.key = key) = some c) (hhandler : c.handler = some handler) :
    d.handleEvent (.ready key false [] none actions result) =
      if result then (.goesOn, d.actAll actions) else (d.actAll actions).hangUp c := by
  simp [Dispatcher.handleEvent, hfind, Dispatcher.callHandler, hhandler]

lemma Keeps.called (hR : R.Lawful count) (h : Sound count s) (hopen : s.dispatcher.isOpen = true)
    {key : Nat} (hfind : s.dispatcher.live.find? (fun c => c.key = key) = some c)
    (htimely : s.Timely (.ready key false x)) :
    Keeps count s ((s.call c x).after.leave (s.dispatcher.handleEvent
      (.ready key false (s.call c x).registering (s.call c x).assigned (s.call c x).actions
        (s.call c x).result))) := by
  obtain ⟨hc, rfl⟩ := found_live hfind
  cases hhandler : c.handler with
  | none =>
    have hcall : s.call c x = {
        registering := [.add x.timerFd (streamHandler s.server.accepted) 1 x.timerAccepted]
        assigned := some (streamHandler s.server.accepted)
        result := true
        after := s.registerTcpHandler x } := by rw [call, hhandler]
    rw [hcall]
    have hevent : s.dispatcher.handleEvent (.ready c.key false
        [.add x.timerFd (streamHandler s.server.accepted) 1 x.timerAccepted]
        (some (streamHandler s.server.accepted)) [] true) =
        (.goesOn, (s.dispatcher.register x.timerFd (some (streamHandler s.server.accepted)) 1
          x.timerAccepted).setHandler c.key (some (streamHandler s.server.accepted))) := by
      simp [Dispatcher.handleEvent, hfind, Dispatcher.callHandler, hhandler, Dispatcher.actAll,
        Dispatcher.act, Dispatcher.addConnection]
    rw [hevent, leave_of_goesOn rfl]
    exact Keeps.register hR h hopen hc hhandler x
  | some handler =>
    cases hstream : handler.stream? with
    | none =>
      have hcall : s.call c x = { result := false, after := s } := by
        rw [call, hhandler]
        dsimp only
        rw [hstream]
      have hnone : c.stream? = none := by
        rw [Connection.stream?, hhandler, Option.bind_some, hstream]
        rfl
      rw [hcall, handleEvent_handler _ _ hfind hhandler, if_neg Bool.false_ne_true]
      refine Keeps.hangUp hR h hc fun _ _ i htcp => ?_
      rw [hnone] at htcp
      cases htcp
    | some i =>
      have hcall : s.call c x = s.handle i c.id x := by
        rw [call, hhandler]
        dsimp only
        rw [hstream]
      have htag : c.stream? = some (i, c.id) := by
        rw [Connection.stream?, hhandler, Option.bind_some, hstream]
        rfl
      rw [hcall]
      rcases h.tidy.roles _ (Dispatcher.mem_tags hc htag) with hid | hid
      · have hid : c.id = 0 := hid
        rw [hid] at htag ⊢
        have hevent := handleEvent_handler [] (s.handle i 0 x).result hfind hhandler
        rw [handle_tcp_actions]
        change Keeps count s ((s.handle i 0 x).after.leave (s.dispatcher.handleEvent
          (.ready c.key false [] none [] (s.handle i 0 x).result)))
        rw [hevent]
        refine (Keeps.handle h i x).trans ?_
        have hafter := h.handle i x
        cases hresult : (s.handle i 0 x).result with
        | true =>
          rw [if_pos rfl, leave_of_goesOn rfl]
          exact Keeps.same hafter hafter.tidy (List.Subset.refl _) (List.Perm.refl _)
        | false =>
          rw [if_neg Bool.false_ne_true]
          refine Keeps.hangUp hR hafter hc fun hmem hfd j htcp htimer => ?_
          obtain rfl : i = j := congrArg Prod.fst (Option.some.inj (htag.symm.trans htcp))
          refine (hafter.armed i).2 ?_
          rcases htimely c hmem rfl hfd (i, 0) htcp rfl htimer with hann | ⟨-, hgoes⟩
          · exact announced_handle.2 (.inl hann)
          by_contra hsilent
          have hbefore : ¬s.Announced i := fun hann => hsilent (announced_handle.2 (.inl hann))
          exact hgoes ((h.endsQuietly_iff hbefore).2 ⟨hresult, hsilent⟩)
      · have hid : c.id = 1 := hid
        rw [hid] at htag ⊢
        rw [handle_timer, handleEvent_handler _ _ hfind hhandler, if_neg Bool.false_ne_true]
        exact Keeps.timeOut hR h hc htag

/-- Only the server and what the connections know of the clients change. -/
lemma Keeps.server (h : Sound count s) {server : PyroStreamServer}
    (hconnections : server.connections = s.server.connections)
    (haccepted : server.accepted = s.server.accepted)
    (hkicked : ∀ i, (server.connection i).kicked = (s.server.connection i).kicked) :
    Keeps count s { s with server := server } := by
  refine ⟨⟨h.tidy, ⟨?_, ?_, ?_⟩, h.armed, fun i hi => h.kicked i ((hkicked i).symm.trans hi)⟩, id⟩
  · exact h.held.made.trans haccepted.symm
  · rw [hconnections]
    exact h.held.listed
  · refine h.held.pool.congr fun i => ?_
    rw [holders, hconnections]
    rfl

lemma kicked_handleUdpDatagram (c : PyroStreamConnection) (pts : BitVec 64) (remote : RemoteAddress)
    (msg : List UInt8) : (c.handleUdpDatagram pts remote msg).1.kicked = c.kicked := by
  unfold PyroStreamConnection.handleUdpDatagram PyroStreamConnection.handleCookie
    PyroStreamConnection.handleGamepadState
  dsimp only
  split_ifs <;> rfl

lemma Keeps.refl (h : Sound count s) : Keeps count s s := ⟨h, id⟩

lemma Keeps.ready (hR : R.Lawful count) (h : Sound count s) (hopen : s.dispatcher.isOpen = true)
    {key : Nat} {hup : Bool} (htimely : s.Timely (.ready key hup x)) :
    Keeps count s (s.iterate (.ready key hup x)) := by
  rw [iterate]
  split
  · exact Keeps.shutDown hR h (show Exit.danglingPointer ≠ .goesOn by decide)
  · rename_i c hfind
    cases hup with
    | false =>
      rw [if_neg Bool.false_ne_true]
      exact Keeps.called hR h hopen hfind htimely
    | true =>
      obtain ⟨hc, rfl⟩ := found_live hfind
      have hevent : s.dispatcher.handleEvent (.ready c.key true [] none [] false) = s.dispatcher.hangUp c := by
        simp [Dispatcher.handleEvent, hfind]
      rw [if_pos rfl, hevent]
      refine Keeps.hangUp hR h hc fun hmem hfd i htcp htimer => ?_
      exact (h.armed i).2 ((htimely c hmem rfl hfd (i, 0) htcp rfl htimer).resolve_right fun hnot =>
        Bool.noConfusion hnot.1)

lemma Keeps.step (hR : R.Lawful count) (h : Sound count s) {e : StreamEvent} (htimely : s.Timely e) :
    Keeps count s (s.step e) := by
  rw [StreamServer.step]
  split
  swap
  · exact Keeps.refl h
  rename_i hopen
  cases e with
  | datagram pts remote msg =>
    have hsame : PyroStreamServer.SameConnections _ (s.server.handleUdpDatagram pts remote msg) :=
      PyroStreamServer.sameConnections_onUdpEvents _ _
    refine Keeps.server h hsame.connections hsame.accepted fun i => ?_
    rw [hsame.connection]
    dsimp only
    split
    · exact kicked_handleUdpDatagram _ pts remote msg
    · rfl
  | client fd accepted => exact Keeps.client h hopen fd accepted
  | ready key hup x => exact Keeps.ready hR h hopen htimely
  | cleanUp => exact Keeps.cleanUp hR h
  | setCodecParameters codec => exact Keeps.server h rfl rfl fun _ => rfl

/-! ### Disconnects that come too early -/

/-- A TCP connection that ends leaves its timer behind, and nothing has started it. -/
lemma Sound.orphans (h : Sound count s) (hmem : c ∈ s.dispatcher.connections)
    (hfd : c.fd ∈ s.dispatcher.registered) {i : Nat} (htcp : c.stream? = some (i, 0))
    (htimer : (i, 1) ∈ tags s.dispatcher.live) (hsilent : ¬s.Announced i) :
    ¬(s.leave (s.dispatcher.hangUp c)).NotOrphaned := by
  have hc : c ∈ s.dispatcher.live := List.mem_append_left _ hmem
  have hsentinel : c.isSentinel = false := h.tidy.sentinels c hc (by rw [htcp]; rfl)
  have hexit : (s.dispatcher.hangUp c).1 = .goesOn := by
    rw [Dispatcher.hangUp, Dispatcher.deregister, if_pos hfd]
    dsimp only
    rw [hsentinel]
    rfl
  obtain ⟨-, htidy, gone, hlive, hgone⟩ := h.tidy.hangUp hc hexit
  obtain ⟨-, rfl⟩ := hgone.resolve_right fun hcancelled => by
    have hnodup : s.dispatcher.live.Nodup := List.Nodup.of_map _ h.tidy.keys
    exact (List.nodup_append.1 hnodup).2.2 c hmem c hcancelled.1 rfl
  have htags := Dispatcher.tags_perm _ hlive
  rw [tags_cons_some htcp] at htags
  have hgone := (List.nodup_cons.1 (htags.nodup_iff.1 h.tidy.unique)).1
  have hleft : (i, 1) ∈ tags (s.dispatcher.hangUp c).2.live :=
    (List.mem_cons.1 (htags.mem_iff.1 htimer)).resolve_left fun heq =>
      Nat.one_ne_zero (congrArg Prod.snd heq)
  have hframe := proceed_frame s (s.dispatcher.hangUp c).2
  intro hwatched
  rw [leave_of_goesOn hexit, NotOrphaned, hframe.armed, hframe.dispatcher] at hwatched
  rcases hwatched _ hleft with hkept | ⟨-, harmed⟩
  · exact hgone hkept
  · exact hsilent ((h.armed i).1 harmed)

lemma Sound.find?_eq (h : Sound count s) (hc : c ∈ s.dispatcher.live) :
    s.dispatcher.live.find? (fun x => x.key = c.key) = some c := by
  obtain ⟨y, hfind⟩ : ∃ y, s.dispatcher.live.find? (fun x => x.key = c.key) = some y :=
    Option.isSome_iff_exists.1 (List.find?_isSome.2 ⟨c, hc, decide_eq_true rfl⟩)
  obtain ⟨hy, hkey⟩ := found_live hfind
  rw [hfind, h.tidy.eq_of_key hy hc hkey]

lemma Sound.not_notOrphaned (h : Sound count s) {e : StreamEvent}
    (hearly : ¬s.Timely e) : ¬(s.step e).NotOrphaned := by
  cases e with
  | ready key hup x =>
    simp only [Timely, not_forall, not_or] at hearly
    obtain ⟨c, hmem, rfl, hfd, ⟨i, id⟩, htcp, rfl, htimer, hsilent, hearly⟩ := hearly
    have hc : c ∈ s.dispatcher.live := List.mem_append_left _ hmem
    have hfind := h.find?_eq hc
    have hopen : s.dispatcher.isOpen = true := by
      by_contra hclosed
      rw [h.tidy.closed (by simpa using hclosed)] at hc
      exact List.not_mem_nil hc
    rw [StreamServer.step, if_pos hopen, iterate, hfind]
    dsimp only
    cases hup with
    | true =>
      have hevent : s.dispatcher.handleEvent (.ready c.key true [] none [] false) = s.dispatcher.hangUp c := by
        simp [Dispatcher.handleEvent, hfind]
      rw [if_pos rfl, hevent]
      exact h.orphans hmem hfd htcp htimer hsilent
    | false =>
      obtain ⟨hresult, hquiet⟩ := (h.endsQuietly_iff hsilent).1 (by simpa using hearly)
      obtain ⟨handler, hhandler, href, hid⟩ := stream?_eq_some.1 htcp
      have hcall : s.call c x = s.handle i 0 x := by
        have hstream : handler.stream? = some i := by
          rw [Handler.stream?, href]
          simp
        rw [call, hhandler]
        dsimp only
        rw [hstream, hid]
      have hevent := handleEvent_handler [] (s.handle i 0 x).result hfind hhandler
      rw [if_neg Bool.false_ne_true, hcall, handle_tcp_actions]
      change ¬((s.handle i 0 x).after.leave (s.dispatcher.handleEvent
        (.ready c.key false [] none [] (s.handle i 0 x).result))).NotOrphaned
      rw [hevent, hresult, if_neg Bool.false_ne_true]
      exact (h.handle i x).orphans hmem hfd htcp htimer hquiet
  | _ => exact absurd trivial hearly

/-! ### Runs -/

lemma tidy_sentinel {d : Dispatcher} (h : d.Tidy) (hopen : d.isOpen = true) (fd ref : Nat)
    (href : ref < 2) : (d.register fd (some { ref := ref, isSentinel := true }) 0 true).Tidy ∧
      (d.register fd (some { ref := ref, isSentinel := true }) 0 true).isOpen = true ∧
      (tags (d.register fd (some { ref := ref, isSentinel := true }) 0 true).live).Perm (tags d.live) := by
  have hnone : ∀ key, Connection.stream? ⟨key, fd, 0, some { ref := ref, isSentinel := true }⟩ = none := by
    intro key
    simp [Connection.stream?, Handler.stream?, Nat.le_of_lt_succ href]
  rcases d.register_cases fd (some { ref := ref, isSentinel := true }) 0 true with
    ⟨-, hsame⟩ | ⟨-, hlive, hnext, hisOpen, hcancellations⟩
  · rw [hsame]
    exact ⟨h, hopen, List.Perm.refl _⟩
  · refine ⟨h.joins hopen hlive rfl hnext hisOpen hcancellations (fun hanonymous => by cases hanonymous)
      (fun hsome => ?_) (fun t ht => ?_), hisOpen.trans hopen, ?_⟩
    · rw [hnone] at hsome
      exact absurd hsome Bool.false_ne_true
    · rw [hnone] at ht
      cases ht
    · have htags := Dispatcher.tags_perm [_] hlive
      rwa [tags_cons_none (hnone _)] at htags

lemma tidy_new (signalfd eventfd : Nat) :
    (Dispatcher.new signalfd eventfd).Tidy ∧ tags (Dispatcher.new signalfd eventfd).live = [] := by
  have hempty : Dispatcher.Tidy {} := {
    keys := List.nodup_nil
    fresh := fun _ hc => absurd hc List.not_mem_nil
    unique := List.nodup_nil
    roles := fun _ ht => absurd ht List.not_mem_nil
    anonymous := fun _ hc => absurd hc List.not_mem_nil
    sentinels := fun _ hc => absurd hc List.not_mem_nil
    cancelled := fun _ hc => absurd hc List.not_mem_nil
    closed := fun _ => rfl }
  obtain ⟨hfirst, hopen, htags⟩ := tidy_sentinel hempty rfl signalfd 0 (by decide)
  obtain ⟨hsecond, -, htags'⟩ := tidy_sentinel hfirst hopen eventfd 1 (by decide)
  exact ⟨hsecond, List.Perm.eq_nil (htags'.trans htags)⟩

lemma sound_initial (signalfd eventfd : Nat) : Sound count (initial R signalfd eventfd) := by
  obtain ⟨htidy, htags⟩ := tidy_new signalfd eventfd
  refine ⟨htidy, ?_, fun i => ⟨fun h => absurd h Bool.false_ne_true, ?_⟩, fun i h =>
    absurd h Bool.false_ne_true⟩
  · rw [initial, htags]
    exact ⟨rfl, fun _ => rfl, Pool.Sound.initial⟩
  · rintro ⟨type, htype, -⟩
    exact absurd htype List.not_mem_nil

lemma notOrphaned_initial (signalfd eventfd : Nat) : (initial R signalfd eventfd).NotOrphaned := by
  rw [NotOrphaned, initial, (tidy_new signalfd eventfd).2]
  exact Watched.nil

/-- Of the dispatcher's stream connections each has its TCP connection or a running timer, and each
is deleted, once, with the last of its connections, in every state of exactly those runs in which
no TCP connection ends before a KICK or a progress report has come through it. The second half needs
no condition. -/
theorem no_orphans_iff (hR : R.Lawful count) (signalfd eventfd : Nat) (events : List StreamEvent) :
    (∀ events', events' <+: events → (events'.foldl step (initial R signalfd eventfd)).NotOrphaned ∧
      (events'.foldl step (initial R signalfd eventfd)).Reclaimed) ↔
    Runs.Along step Timely (initial R signalfd eventfd) events := by
  have hall : Runs.Along step (fun _ _ => True) (initial R signalfd eventfd) events :=
    Runs.Along.of_forall fun _ _ => trivial
  have hsafe := hall.iff_safe (B := fun s => ¬(s.NotOrphaned ∧ s.Reclaimed)) (Q := Timely)
    (I := fun s => Sound count s ∧ s.NotOrphaned)
    ⟨sound_initial signalfd eventfd, notOrphaned_initial signalfd eventfd⟩
    (fun s hs hbad => hbad ⟨hs.2, hs.1.reclaimed⟩)
    (fun s e hs _ htimely => ?_)
    (fun s e hs _ hearly hgood => hs.1.not_notOrphaned hearly hgood.1)
  · simpa only [not_not] using hsafe
  · obtain ⟨hsound, hwatched⟩ := Keeps.step hR hs.1 htimely
    exact ⟨hsound, hwatched hs.2⟩

/-- What clients do here: one connects and says HELLO. -/
def hello : List StreamEvent :=
  [.client (some 5) true, .ready 2 false { timerFd := 6 },
    .ready 2 false { received := typeBytes messageHello, sends := 1 }]

/-- Then its KICK comes, it disconnects, and its timer runs out. -/
def kickedAndGone : List StreamEvent :=
  hello ++ [StreamEvent.ready 2 false { received := typeBytes messageKick ++ [1, 0, 0, 0], sends := 1 },
    .ready 2 true {}, .ready 3 false {}]

theorem no_orphans_kicked : (∀ events', events' <+: kickedAndGone →
    (events'.foldl step (initial natCounting 0 1)).NotOrphaned ∧
      (events'.foldl step (initial natCounting 0 1)).Reclaimed) ∧
    (kickedAndGone.foldl step (initial natCounting 0 1)).pool.deleted = [0] :=
  ⟨(no_orphans_iff natCounting_lawful 0 1 kickedAndGone).2 (by decide +kernel), by decide +kernel⟩

/-- A client that disconnects after its HELLO leaves a timer that never runs out. -/
theorem hello_leaves_timer :
    let s := (hello ++ [StreamEvent.ready 2 true {}]).foldl step (initial natCounting 0 1)
    tags s.dispatcher.live = [(0, 1)] ∧ s.armed 0 = false ∧ ¬s.NotOrphaned ∧ s.pool.deleted = [] := by
  decide +kernel

end StreamServer

end PyroFling
