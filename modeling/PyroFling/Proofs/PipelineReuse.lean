import PyroFling.EncodePipeline

/-!
# Pipelines are not reused too early

The tasks form a chain, so that they run in the order in which they were created. The task that `encode_surface`
left in a slot is the last one of its pipeline, and once it has run, so have all before it.
-/

namespace PyroFling

namespace EncodePipeline

open Runs

variable {v : VideoEncode} {m : BitVec 32} {s : EncodePipeline} {unguarded : Bool}

/-- The task that a task waits for. -/
def taskBefore (task : Nat) : Option Nat := if task = 0 then none else some (task - 1)

/-- How the tasks hang together. -/
structure Chained (v : VideoEncode) (s : EncodePipeline) : Prop where
  options : s.videoEncode = v
  slot : s.nextEncodeTaskSlot = s.created % numEncodeTasks
  slotOf : ∀ k < s.created, s.slotOf k = k % numEncodeTasks
  last : s.lastEncodeDependency = taskBefore s.created
  dependency : ∀ k < s.created, s.dependency k = taskBefore k
  finished : s.finished = List.range s.finished.length
  bound : s.finished.length ≤ s.created
  newest : ∀ slot k, s.encodeTasks slot = some k → ∀ j < s.created, j % numEncodeTasks = slot → j ≤ k
  done : ∀ slot, s.encodeTasks slot = none → ∀ j < s.created, j % numEncodeTasks = slot → j < s.finished.length
  uses : ∀ u ∈ s.uses, u.free = true ∨ u.unguarded = true ∧ (v.immediate = true ∨ v.pipewire = true)
  room : v.immediate = false → v.pipewire = false → s.created ≤ s.finished.length + numEncodeTasks

/-- How often a frame is composed. -/
structure Paced (m : BitVec 32) (s : EncodePipeline) : Prop where
  multiplier : s.clientRateMultiplier = m
  encoder : s.encoder = true
  rate : s.calls = s.created * max 1 m.toNat + s.clientHeartbeatCount.toNat
  count : s.clientHeartbeatCount.toNat < max 1 m.toNat

lemma chained_init (v : VideoEncode) (m : BitVec 32) : Chained v (init v m) := by
  constructor <;> simp [init, numEncodeTasks, taskBefore]

lemma paced_init (v : VideoEncode) (m : BitVec 32) : Paced m (init v m) := by
  constructor <;> simp [init]

/-! ### What the order of the tasks gives -/

lemma Chained.mem_finished (h : Chained v s) {k : Nat} : k ∈ s.finished ↔ k < s.finished.length := by
  rw [h.finished]
  simp

/-- Every frame of the next pipeline has been encoded. -/
def NextDone (s : EncodePipeline) : Prop :=
  ∀ j < s.created, j % numEncodeTasks = s.nextEncodeTaskSlot → j < s.finished.length

/-- A look at the last task of a pipeline tells about all of them. -/
lemma Chained.nextDone (h : Chained v s) (hpolled : s.polled = true) : NextDone s := by
  intro j hj hslot
  unfold polled at hpolled
  cases htask : s.encodeTasks s.nextEncodeTaskSlot with
  | none => exact h.done _ htask j hj hslot
  | some k =>
    rw [htask] at hpolled
    have hk : k < s.finished.length := h.mem_finished.1 (List.contains_iff_mem.1 hpolled)
    have hle := h.newest _ k htask j hj hslot
    omega

lemma Chained.isFree (h : Chained v s) (hdone : NextDone s) : s.isFree s.nextEncodeTaskSlot = true := by
  unfold EncodePipeline.isFree
  rw [List.all_eq_true]
  intro j hj
  have hlt : j < s.created := List.mem_range.1 hj
  by_cases hslot : s.slotOf j = s.nextEncodeTaskSlot
  · have hmem : j ∈ s.finished := by
      refine h.mem_finished.2 (hdone j hlt ?_)
      rw [← h.slotOf j hlt, hslot]
    simp [hmem]
  · simp [hslot]

/-- At most eight tasks are waiting once the next one has been created. -/
lemma Chained.room_of_nextDone (h : Chained v s) (hdone : NextDone s) :
    s.created + 1 ≤ s.finished.length + numEncodeTasks := by
  by_cases hfew : s.created < numEncodeTasks
  · omega
  · have hprevious := hdone (s.created - numEncodeTasks)
      (by unfold numEncodeTasks at *; omega)
      (by rw [h.slot]; unfold numEncodeTasks at *; omega)
    unfold numEncodeTasks at *
    omega

/-! ### Steps -/

lemma Chained.resetTask (h : Chained v s) (hdone : NextDone s) : Chained v s.resetTask := by
  refine { h with newest := ?_, done := ?_ }
  · intro slot k hk
    by_cases hslot : slot = s.nextEncodeTaskSlot
    · rw [hslot] at hk
      simp [EncodePipeline.resetTask] at hk
    · simp only [EncodePipeline.resetTask, Function.update_of_ne hslot] at hk
      exact h.newest slot k hk
  · intro slot hnone
    by_cases hslot : slot = s.nextEncodeTaskSlot
    · rw [hslot]
      exact hdone
    · simp only [EncodePipeline.resetTask, Function.update_of_ne hslot] at hnone
      exact h.done slot hnone

/-- A frame goes into the next pipeline. -/
lemma Chained.compose (h : Chained v s)
    (hguard : NextDone s ∨ unguarded = true ∧ (v.immediate = true ∨ v.pipewire = true)) :
    Chained v (s.compose unguarded) := by
  have hold : ∀ {P : Nat → Prop}, (∀ k < s.created, P k) → P s.created → ∀ k < s.created + 1, P k := by
    intro P hbefore hnew k hk
    by_cases hkn : k = s.created
    · rw [hkn]
      exact hnew
    · exact hbefore k (by omega)
  have hslots : ∀ slot ≠ s.nextEncodeTaskSlot, ∀ j < s.created + 1, j % numEncodeTasks = slot → j < s.created := by
    intro slot hslot j hj hmod
    by_cases hjn : j = s.created
    · rw [hjn, ← h.slot] at hmod
      exact absurd hmod.symm hslot
    · omega
  refine { h with
    slot := ?_, slotOf := ?_, last := ?_, dependency := ?_, bound := ?_, newest := ?_, done := ?_, uses := ?_
    room := ?_ }
  · show (s.nextEncodeTaskSlot + 1) % numEncodeTasks = (s.created + 1) % numEncodeTasks
    rw [h.slot, Nat.mod_add_mod]
  · refine hold (fun k hk => ?_) ?_
    · show Function.update s.slotOf s.created s.nextEncodeTaskSlot k = k % numEncodeTasks
      rw [Function.update_of_ne (by omega)]
      exact h.slotOf k hk
    · show Function.update s.slotOf s.created s.nextEncodeTaskSlot s.created = s.created % numEncodeTasks
      rw [Function.update_self, h.slot]
  · show some s.created = taskBefore (s.created + 1)
    simp [taskBefore]
  · refine hold (fun k hk => ?_) ?_
    · show Function.update s.dependency s.created s.lastEncodeDependency k = taskBefore k
      rw [Function.update_of_ne (by omega)]
      exact h.dependency k hk
    · show Function.update s.dependency s.created s.lastEncodeDependency s.created = taskBefore s.created
      rw [Function.update_self, h.last]
  · exact Nat.le_succ_of_le h.bound
  · intro slot k hk j hj hmod
    by_cases hslot : slot = s.nextEncodeTaskSlot
    · rw [hslot] at hk
      simp only [EncodePipeline.compose, Function.update_self, Option.some.injEq] at hk
      have hjlt : j < s.created + 1 := hj
      omega
    · simp only [EncodePipeline.compose, Function.update_of_ne hslot] at hk
      exact h.newest slot k hk j (hslots slot hslot j hj hmod) hmod
  · intro slot hnone j hj hmod
    by_cases hslot : slot = s.nextEncodeTaskSlot
    · rw [hslot] at hnone
      simp [EncodePipeline.compose] at hnone
    · simp only [EncodePipeline.compose, Function.update_of_ne hslot] at hnone
      exact h.done slot hnone j (hslots slot hslot j hj hmod) hmod
  · intro u hu
    rcases List.mem_append.1 hu with hu | hu
    · exact h.uses u hu
    · rw [List.mem_singleton.1 hu]
      rcases hguard with hdone | hunguarded
      · exact .inl (h.isFree hdone)
      · exact .inr hunguarded
  · intro himmediate hpipewire
    rcases hguard with hdone | ⟨-, hno | hno⟩
    · exact h.room_of_nextDone hdone
    · rw [himmediate] at hno
      cases hno
    · rw [hpipewire] at hno
      cases hno

lemma Chained.encodeSurface (h : Chained v s)
    (hguard : NextDone s ∨ unguarded = true ∧ (v.immediate = true ∨ v.pipewire = true)) :
    Chained v (s.encodeSurface unguarded) := by
  unfold EncodePipeline.encodeSurface
  dsimp only
  split
  · split
    · exact Chained.compose (s := { s with calls := s.calls + 1, clientHeartbeatCount := 0 }) { h with } hguard
    · exact { h with }
  · exact { h with }

/-- A call counts until it is the turn of a frame. -/
lemma Paced.encodeSurface (h : Paced m s) (unguarded : Bool) : Paced m (s.encodeSurface unguarded) := by
  have hcount := h.count
  have hm := m.isLt
  have hnext : (s.clientHeartbeatCount + 1).toNat = s.clientHeartbeatCount.toNat + 1 := by
    rw [BitVec.toNat_add, show (1 : BitVec 32).toNat = 1 from rfl]
    omega
  unfold EncodePipeline.encodeSurface
  dsimp only
  rw [if_pos h.encoder]
  split
  · rename_i hdue
    rw [h.multiplier, BitVec.le_def, hnext] at hdue
    refine { h with rate := ?_, count := ?_ }
    · show s.calls + 1 = (s.created + 1) * max 1 m.toNat + (0 : BitVec 32).toNat
      have hfull : s.clientHeartbeatCount.toNat + 1 = max 1 m.toNat := by omega
      rw [h.rate, Nat.add_mul, Nat.one_mul, Nat.add_assoc, hfull]
      rfl
    · show (0 : BitVec 32).toNat < max 1 m.toNat
      simp
  · rename_i hdue
    rw [h.multiplier, BitVec.le_def, hnext] at hdue
    refine { h with rate := ?_, count := ?_ }
    · show s.calls + 1 = s.created * max 1 m.toNat + (s.clientHeartbeatCount + 1).toNat
      rw [hnext, h.rate, Nat.add_assoc]
    · show (s.clientHeartbeatCount + 1).toNat < max 1 m.toNat
      omega

lemma Chained.notifyAsyncSurface (h : Chained v s) : Chained v s.notifyAsyncSurface := by
  unfold EncodePipeline.notifyAsyncSurface
  split
  · exact h
  · split
    · exact h
    · rename_i hpolled
      have hdone : NextDone s := h.nextDone (by simpa using hpolled)
      exact (h.resetTask hdone).encodeSurface (.inl hdone)

lemma Chained.heartbeat (h : Chained v s) (handled : Bool) : Chained v (s.heartbeat handled) := by
  unfold EncodePipeline.heartbeat
  split
  · exact h
  · rename_i hbusy
    have hgoes : (s.videoEncode.immediate = true ∧ v.immediate = true) ∨
        (s.videoEncode.immediate = false ∧ NextDone s) := by
      cases himmediate : s.videoEncode.immediate with
      | true => exact .inl ⟨rfl, by rw [← h.options, himmediate]⟩
      | false =>
        refine .inr ⟨rfl, h.nextDone ?_⟩
        simpa [himmediate] using hbusy
    rcases hgoes with ⟨himmediate, hv⟩ | ⟨himmediate, hdone⟩
    · simp only [himmediate, if_true]
      split
      · exact h
      · split
        · exact h.encodeSurface (.inr ⟨rfl, .inl hv⟩)
        · exact h
    · simp only [himmediate, Bool.false_eq_true, if_false]
      have hreset := h.resetTask hdone
      split
      · exact hreset
      · split
        · exact hreset.encodeSurface (.inl hdone)
        · exact hreset

/-- The tasks run in the order in which they were created. -/
lemma Chained.finish (h : Chained v s) {task : Nat} (hlt : task < s.created) (hnew : task ∉ s.finished)
    (hbefore : ∀ before ∈ s.dependency task, before ∈ s.finished) :
    Chained v { s with finished := s.finished ++ [task] } := by
  have hge : s.finished.length ≤ task := by
    by_contra hno
    exact hnew (h.mem_finished.2 (by omega))
  have htask : task = s.finished.length := by
    by_contra hne
    have hsome : s.dependency task = some (task - 1) := by
      rw [h.dependency task hlt, taskBefore, if_neg (by omega)]
    have hmem := h.mem_finished.1 (hbefore (task - 1) hsome)
    omega
  have hlength : (s.finished ++ [task]).length = s.finished.length + 1 := by simp
  refine { h with finished := ?_, bound := ?_, done := ?_, room := ?_ }
  · show s.finished ++ [task] = List.range (s.finished ++ [task]).length
    rw [hlength, List.range_succ, ← h.finished, htask]
  · show (s.finished ++ [task]).length ≤ s.created
    omega
  · intro slot hnone j hj hmod
    have hdone := h.done slot hnone j hj hmod
    show j < (s.finished ++ [task]).length
    omega
  · intro himmediate hpipewire
    have hroom := h.room himmediate hpipewire
    show s.created ≤ (s.finished ++ [task]).length + numEncodeTasks
    omega

lemma Chained.step (h : Chained v s) {e : EncodeEvent} (he : s.Legal e) : Chained v (s.step e) := by
  cases e with
  | register => exact { h with }
  | unregister => exact { h with }
  | notify => exact h.notifyAsyncSurface
  | heartbeat handled => exact h.heartbeat handled
  | image =>
    have hpipewire : v.pipewire = true := by
      rw [← h.options]
      exact he
    exact h.encodeSurface (.inr ⟨rfl, .inr hpipewire⟩)
  | finish task => exact h.finish he.1 he.2.1 he.2.2

lemma Paced.step (h : Paced m s) (e : EncodeEvent) : Paced m (s.step e) := by
  have hreset : Paced m s.resetTask := { h with }
  cases e with
  | register => exact { h with }
  | unregister => exact { h with }
  | notify =>
    simp only [EncodePipeline.step, EncodePipeline.notifyAsyncSurface]
    split
    · exact h
    · split
      · exact h
      · exact hreset.encodeSurface false
  | heartbeat handled =>
    have hgo : Paced m (if s.videoEncode.immediate then s else s.resetTask) := by
      split
      · exact h
      · exact hreset
    have hframe : ∀ {s' : EncodePipeline}, Paced m s' → Paced m
        (if !s'.videoEncode.pipewire && (!s'.videoEncode.immediate || s'.handlers = 0) then
          s'.encodeSurface s'.videoEncode.immediate else s') := by
      intro s' hs'
      split
      · exact hs'.encodeSurface _
      · exact hs'
    simp only [EncodePipeline.step, EncodePipeline.heartbeat]
    split
    · exact h
    · split
      · exact hgo
      · split
        · exact hframe h
        · exact hframe hreset
  | image => exact h.encodeSurface true
  | finish task => exact { h with }

/-- Frames are encoded in the order in which they are composed, one for every `clientRateMultiplier` calls,
and a pipeline only gets a frame when those before have been encoded, so that at most eight wait.
Heartbeats in immediate mode and images of PipeWire do not look, and alone may find a pipeline in use. -/
theorem pipelines_reused (v : VideoEncode) (m : BitVec 32) (es : List EncodeEvent)
    (hlegal : Along step Legal (init v m) es) :
    (∀ u ∈ (es.foldl step (init v m)).uses,
      u.free = true ∨ u.unguarded = true ∧ (v.immediate = true ∨ v.pipewire = true)) ∧
    (es.foldl step (init v m)).finished = List.range (es.foldl step (init v m)).finished.length ∧
    (es.foldl step (init v m)).created = (es.foldl step (init v m)).calls / max 1 m.toNat ∧
    (v.immediate = false → v.pipewire = false →
      (es.foldl step (init v m)).created ≤ (es.foldl step (init v m)).finished.length + numEncodeTasks) := by
  obtain ⟨hchained, hpaced⟩ :=
    hlegal.invariant (I := fun s => Chained v s ∧ Paced m s) ⟨chained_init v m, paced_init v m⟩
      fun _ e hs he => ⟨hs.1.step he, hs.2.step e⟩
  refine ⟨hchained.uses, hchained.finished, ?_, hchained.room⟩
  have hpos : 0 < max 1 m.toNat := by omega
  rw [hpaced.rate, Nat.mul_comm, Nat.mul_add_div hpos, Nat.div_eq_of_lt hpaced.count, Nat.add_zero]

/-- In immediate mode the heartbeat goes on without clients, while the encoder has stopped. -/
def abandoned : List EncodeEvent :=
  [.register, .unregister] ++ List.replicate 9 (.heartbeat true)

theorem pipelines_reused_abandoned :
    ∃ u ∈ (abandoned.foldl step (init { immediate := true } 1)).uses, u.free = false ∧ u.unguarded = true := by
  have hmem : { slot := 0, free := false, unguarded := true } ∈
      (abandoned.foldl step (init { immediate := true } 1)).uses := by decide
  have hlegal : Along step Legal (init { immediate := true } 1) abandoned := by decide
  rcases (pipelines_reused { immediate := true } 1 abandoned hlegal).1 _ hmem with hno | ⟨hunguarded, -⟩
  · cases hno
  · exact ⟨_, hmem, rfl, hunguarded⟩

end EncodePipeline

end PyroFling
