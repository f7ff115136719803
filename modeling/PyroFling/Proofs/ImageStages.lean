import PyroFling.CrossFences
import PyroFling.Proofs.ImageConservation

/-!
# How far the images of the cross-GPU swapchain have got

Images may be lost by calls that fail, but none is ever in two places, and what the application and the
worker do with an image follows from where it is. A snapshot of the swapchain keeps the places of the
images and how far the two threads have got.
-/

namespace PyroFling

namespace CrossSwapchain

open Monitor

variable {s s' : CrossSwapchain} {t next : CrossThread} {w : CrossWait} {p : CrossPlace}

/-! ### Waits -/

/-- No thread waits in `s'` for what it did not wait for in `s`. -/
def Calmer (s s' : CrossSwapchain) : Prop := Monitor.Calmer s.threads s'.threads

lemma Calmer.of_threads (h : s'.threads = s.threads) : Calmer s s' := by
  rw [Calmer, h]
  exact .refl _

lemma Calmer.trans {s'' : CrossSwapchain} (h : Calmer s s') (h' : Calmer s' s'') : Calmer s s'' :=
  Monitor.Calmer.trans h h'

lemma Calmer.update {ts : CrossThread → Thread CrossPlace CrossWait}
    (hthreads : s'.threads = Function.update ts t (.running p)) (hts : Monitor.Calmer s.threads ts) :
    Calmer s s' := by
  rw [Calmer, hthreads]
  exact hts.run t p

lemma calmer_goto (s : CrossSwapchain) (t : CrossThread) (p : CrossPlace) : Calmer s (s.goto t p) :=
  Calmer.update rfl (.refl _)

lemma calmer_markResult (s : CrossSwapchain) (err : VkResult) : Calmer s (s.markResult err) := by
  rcases s.markResult_cases err with h | h
  · rw [h]
    exact .of_threads rfl
  · rw [h]
    exact calmer_notifyAll s.threads

lemma Calmer.goto (h : Calmer s s') (t : CrossThread) (p : CrossPlace) : Calmer s (s'.goto t p) :=
  h.trans (calmer_goto s' t p)

lemma Calmer.markResult (h : Calmer s s') (err : VkResult) : Calmer s (s'.markResult err) :=
  h.trans (calmer_markResult s' err)

lemma Calmer.markPump (h : Calmer s s') (rest : Option Nat) (err : VkResult) :
    Calmer s (s'.markPump rest err) := by
  unfold CrossSwapchain.markPump CrossSwapchain.afterPump
  dsimp only
  split
  · exact (h.markResult err).goto _ _
  · exact (h.markResult err).goto _ _
  · exact (h.markResult err).goto _ _

lemma Calmer.markAndGo (h : Calmer s s') (err : VkResult) (p : CrossPlace) : Calmer s (s'.markAndGo err p) := by
  unfold CrossSwapchain.markAndGo
  dsimp only
  split
  · exact (h.markResult err).goto _ _
  · exact (h.markResult err).goto _ _

lemma calmer_finishAcquire (s : CrossSwapchain) (call : AcquireCall) (index : Nat) (results : AcquireResults) :
    Calmer s (s.finishAcquire call index results) := by
  unfold CrossSwapchain.finishAcquire
  split
  · exact Calmer.goto (.of_threads rfl) _ _
  · exact calmer_goto s _ _
  · exact Calmer.goto (.of_threads rfl) _ _
  · apply Calmer.goto
    split
    · exact .of_threads rfl
    · exact .of_threads rfl

lemma calmer_restore (s : CrossSwapchain) (index : Nat) (before : List Nat) (failed : Option VkResult)
    (raced : List Nat) : Calmer s (s.restore index before failed raced) := by
  have hpush : Calmer s (if s.acquireQueue = before then s.putBack index
      else { s with acquireQueue := raced, held := s.held.erase index }) := by
    split
    · exact .of_threads rfl
    · exact .of_threads rfl
  unfold CrossSwapchain.restore
  cases failed with
  | none => exact hpush.goto _ _
  | some res => exact Calmer.goto (Calmer.trans (hpush.markResult res) (.of_threads rfl)) _ _

lemma calmer_submitSource (s : CrossSwapchain) (index : Nat) (initCommands submit : VkResult)
    (fence : Option VkResult) : Calmer s (s.submitSource index initCommands submit fence) := by
  unfold CrossSwapchain.submitSource
  split
  · exact (calmer_markResult s _).goto _ _
  · split
    · exact (calmer_markResult s _).goto _ _
    · have hmarked : Calmer s ((s.signalSource index).markResult (fence.getD VkResult.success)) :=
        Calmer.markResult (.of_threads rfl) _
      unfold finishSubmit
      dsimp only
      split
      · exact (hmarked.markResult _).goto _ _
      · exact hmarked.goto _ _

lemma calmer_pump (s : CrossSwapchain) (rest : Option Nat) (results : PumpResults) (next : CrossThread) :
    Calmer s (s.pumpAcquireSinkImage rest results next) := by
  unfold CrossSwapchain.pumpAcquireSinkImage
  split
  · exact Calmer.markPump (.of_threads rfl) _ _
  · dsimp only
    split
    · exact Calmer.goto (.of_threads rfl) _ _
    · split
      · exact Calmer.markPump (.of_threads rfl) _ _
      · exact Calmer.update rfl (calmer_notifyOne s.threads next)

/-- Every thread waits for what suits it. -/
def Suited (s : CrossSwapchain) : Prop := Monitor.Suited Suits s.threads

lemma Suited.calmer (h : Suited s) (hcalmer : Calmer s s') : Suited s' := Monitor.Suited.calmer h hcalmer

lemma calmer_takeWork (s : CrossSwapchain) : Calmer s s.takeWork := by
  unfold CrossSwapchain.takeWork
  split
  · exact calmer_goto _ _ _
  · split
    · exact .of_threads rfl
    · exact Calmer.goto (.of_threads rfl) _ _

lemma calmer_takeImage (s : CrossSwapchain) (call : AcquireCall) : Calmer s (s.takeImage call) := by
  unfold CrossSwapchain.takeImage
  split
  · exact Calmer.goto (.of_threads rfl) _ _
  · split
    · exact .of_threads rfl
    · exact Calmer.goto (.of_threads rfl) _ _

lemma calmer_afterWait (s : CrossSwapchain) (t : CrossThread) (w : CrossWait) (hready : s.Ready w) :
    Calmer s (s.passWait t w) := by
  unfold passWait
  rw [if_pos hready]
  cases w with
  | work => exact calmer_takeWork s
  | image call => exact calmer_takeImage s call
  | sourceCommands family index => exact Calmer.goto (.of_threads rfl) _ _
  | present id timed =>
    dsimp only [afterPresentWait]
    split
    · exact calmer_goto _ _ _
    · exact calmer_goto _ _ _

lemma Suited.passWait (h : Suited s) (hsuits : Suits t w) : Suited (s.passWait t w) := by
  by_cases hready : s.Ready w
  · exact h.calmer (calmer_afterWait s t w hready)
  · unfold CrossSwapchain.passWait
    rw [if_neg hready]
    exact h.block hsuits

lemma Suited.step (h : Suited s) {e : CrossEvent} (he : Legal s e) : Suited (s.step e) := by
  cases e with
  | setPresentId id => exact h
  | acquire call => exact h.passWait trivial
  | acquired results =>
    obtain ⟨⟨call, index, happ⟩, -⟩ := he
    simp only [CrossSwapchain.step, happ]
    exact h.calmer (calmer_finishAcquire s call index results)
  | restored raced =>
    obtain ⟨index, before, failed, happ⟩ := he
    simp only [CrossSwapchain.step, happ]
    exact h.calmer (calmer_restore s index before failed raced)
  | queuePresent family index =>
    simp only [CrossSwapchain.step]
    split
    · exact h.passWait trivial
    · exact h.calmer (calmer_goto _ _ _)
  | submitted initCommands submit fence =>
    obtain ⟨⟨index, happ⟩, -⟩ := he
    simp only [CrossSwapchain.step, happ]
    exact h.calmer (calmer_submitSource s index initCommands submit fence)
  | pushWork next =>
    obtain ⟨⟨index, happ⟩, -⟩ := he
    simp only [CrossSwapchain.step, happ]
    exact h.calmer (Calmer.update rfl (calmer_notifyOne s.threads next))
  | releaseImage index created =>
    simp only [CrossSwapchain.step, CrossSwapchain.releaseImage]
    split
    · exact h.calmer (Calmer.goto (.of_threads rfl) _ _)
    · exact h
  | waitForPresent n id timed => exact h.passWait trivial
  | presentWaited n result =>
    simp only [CrossSwapchain.step, show s.threads (.waiter n) = _ from he]
    exact h.calmer ((calmer_markResult s result).goto _ _)
  | takeWork =>
    simp only [CrossSwapchain.step, show s.threads .worker = _ from he]
    exact h.passWait trivial
  | sourceDone fences next =>
    obtain ⟨⟨work, hworker⟩, -⟩ := he
    simp only [CrossSwapchain.step, hworker, CrossSwapchain.sourceDone]
    split
    · exact h.calmer (Calmer.update rfl (calmer_notifyOne s.threads next))
    · exact h.calmer ((calmer_markResult s _).goto _ _)
  | submitSink fences submit =>
    obtain ⟨work, hworker⟩ := he
    simp only [CrossSwapchain.step, hworker, CrossSwapchain.submitSink]
    split
    · exact h.calmer (Calmer.markAndGo (.of_threads rfl) _ _)
    · exact h.calmer ((calmer_markResult s _).goto _ _)
  | presentSink present =>
    obtain ⟨work, hworker⟩ := he
    simp only [CrossSwapchain.step, hworker, CrossSwapchain.presentSink]
    apply h.calmer
    apply Calmer.markAndGo
    split <;> exact .of_threads rfl
  | publish =>
    obtain ⟨work, hworker⟩ := he
    simp only [CrossSwapchain.step, hworker, CrossSwapchain.publish]
    split
    · refine h.calmer (Calmer.goto ?_ _ _)
      exact calmer_notifyAll s.threads
    · exact h.calmer (calmer_goto _ _ _)
  | pump results next =>
    obtain ⟨⟨rest, hworker⟩, -⟩ := he
    simp only [CrossSwapchain.step, hworker]
    exact h.calmer (calmer_pump s rest results next)
  | pumped =>
    obtain ⟨rest, res, hworker⟩ := he
    simp only [CrossSwapchain.step, hworker]
    exact h.calmer (Calmer.markPump (.of_threads rfl) _ _)
  | wake t =>
    apply h.calmer
    exact calmer_notifyOne s.threads t
  | resume t timedOut =>
    obtain ⟨w, hw, -⟩ := he
    simp only [CrossSwapchain.step, hw]
    split
    · unfold CrossSwapchain.timeOut
      split
      · exact h.calmer (Calmer.goto (.of_threads rfl) _ _)
      · exact h.calmer (calmer_goto _ _ _)
    · exact h.passWait (h t w (by rw [hw]; rfl))

/-! ### Snapshots -/

/-- How far the application has got with an image. -/
inductive AppStage
  | outside
  | passing (index : Nat)
  | queueing (index : Nat)
  deriving DecidableEq

/-- How far the worker has got with an image. It is never `lost`. -/
inductive WorkerStage
  | initial
  | resting
  | copying (index : Nat)
  | copied (index : Nat)
  | presenting (index : Nat)
  | stopped
  | lost
  deriving DecidableEq

def AppStage.image : AppStage → Option Nat
  | .outside => none
  | .passing i | .queueing i => some i

def WorkerStage.image : WorkerStage → Option Nat
  | .copying i | .copied i | .presenting i => some i
  | _ => none

/-- The copies that are submitted, out of the queue and not waited for. -/
def WorkerStage.unread : WorkerStage → Nat
  | .copying _ => 1
  | _ => 0

def appStage : Thread CrossPlace CrossWait → AppStage
  | .running (.acquiring _ i) | .running (.restoring i _ _) | .running (.submitting i) => .passing i
  | .blocked (.sourceCommands _ i) | .woken (.sourceCommands _ i) => .passing i
  | .running (.queueing i) => .queueing i
  | _ => .outside

def workerStage : Thread CrossPlace CrossWait → WorkerStage
  | .running (.pumping (some _)) | .running (.pumped (some _) _) => .initial
  | .running .looping | .running (.publishing _) | .running (.pumping none) | .running (.pumped none _) => .resting
  | .blocked .work | .woken .work => .resting
  | .running (.waitingForSource work) => .copying work.index
  | .running (.waitingForSink work) => .copied work.index
  | .running (.presenting work) => .presenting work.index
  | .running .stopped => .stopped
  | _ => .lost

@[simp] lemma appStage_wake (th : Thread CrossPlace CrossWait) : appStage th.wake = appStage th := by
  cases th with
  | running p => rfl
  | blocked w => cases w <;> rfl
  | woken w => rfl

@[simp] lemma workerStage_wake (th : Thread CrossPlace CrossWait) : workerStage th.wake = workerStage th := by
  cases th with
  | running p => rfl
  | blocked w => cases w <;> rfl
  | woken w => rfl

/-- What the fences depend on. `ahead` is how far `submitCount` is ahead of `processedSourceCount`, `pool`
and `fenced` are what the swapchain knows of the fences of the sink. -/
@[ext] structure Snapshot where
  held : List Nat
  acquireQueue : List Nat
  work : List Nat
  processing : List Nat
  sink : List Nat
  app : AppStage
  worker : WorkerStage
  failed : Bool
  ahead : BitVec 64
  pool : Nat
  fenced : Nat → Bool

def snapshot (s : CrossSwapchain) : Snapshot where
  held := s.held
  acquireQueue := s.acquireQueue
  work := s.workQueue.map Work.index
  processing := s.processing
  sink := s.sink
  app := appStage (s.threads .app)
  worker := workerStage (s.threads .worker)
  failed := s.failed
  ahead := s.submitCount - s.processedSourceCount
  pool := s.sinkFencePool
  fenced := s.sinkAcquireFence

namespace Snapshot

/-- The images that the sink does not have. -/
def outside (v : Snapshot) : List Nat := v.held ++ (v.acquireQueue ++ (v.work ++ v.processing))

def owned (v : Snapshot) : List Nat := v.outside ++ v.sink

/-- The copy of an image on the source GPU has been submitted and not been waited for. -/
def Pending (v : Snapshot) (i : Nat) : Prop := i ∈ v.work ∨ v.worker = .copying i ∨ v.app = .queueing i

def fails (v : Snapshot) (b : Bool) : Snapshot := { v with failed := v.failed || b }

@[simp] lemma fails_false (v : Snapshot) : v.fails false = v := by
  simp [fails]

end Snapshot

lemma snapshot_setThread_app (s : CrossSwapchain) (th : Thread CrossPlace CrossWait) :
    (s.setThread .app th).snapshot = { s.snapshot with app := appStage th } := by
  simp only [snapshot, setThread, Function.update_self, ne_eq, reduceCtorEq, not_false_eq_true,
    Function.update_of_ne]
  rfl

lemma snapshot_goto_app (s : CrossSwapchain) (p : CrossPlace) :
    (s.goto .app p).snapshot = { s.snapshot with app := appStage (.running p) } :=
  snapshot_setThread_app s _

lemma snapshot_setThread_worker (s : CrossSwapchain) (th : Thread CrossPlace CrossWait) :
    (s.setThread .worker th).snapshot = { s.snapshot with worker := workerStage th } := by
  simp only [snapshot, setThread, Function.update_self, ne_eq, reduceCtorEq, not_false_eq_true,
    Function.update_of_ne]
  rfl

lemma snapshot_goto_worker (s : CrossSwapchain) (p : CrossPlace) :
    (s.goto .worker p).snapshot = { s.snapshot with worker := workerStage (.running p) } :=
  snapshot_setThread_worker s _

lemma snapshot_setThread_waiter (s : CrossSwapchain) (n : Nat) (th : Thread CrossPlace CrossWait) :
    (s.setThread (.waiter n) th).snapshot = s.snapshot := by
  simp only [snapshot, setThread, ne_eq, reduceCtorEq, not_false_eq_true,
    Function.update_of_ne]
  rfl

lemma snapshot_goto_waiter (s : CrossSwapchain) (n : Nat) (p : CrossPlace) :
    (s.goto (.waiter n) p).snapshot = s.snapshot :=
  snapshot_setThread_waiter s n _

/-- A snapshot does not see who has been woken. -/
lemma snapshot_of_wake (hstages : ∀ t, appStage (s'.threads t) = appStage (s.threads t) ∧
      workerStage (s'.threads t) = workerStage (s.threads t))
    (h : { s' with threads := s.threads }.snapshot = s.snapshot) : s'.snapshot = s.snapshot := by
  rw [← h]
  simp only [snapshot, hstages]
  rfl

lemma mergeStatus_neg (status err : VkResult) : mergeStatus status err < 0 ↔ status < 0 ∨ err < 0 := by
  unfold mergeStatus
  split
  · rename_i h
    rcases h with h | ⟨hsuccess, hsuboptimal⟩
    · exact ⟨.inr, fun _ => h⟩
    · rw [hsuccess, hsuboptimal]
      decide
  · rename_i h
    have herr : ¬err < 0 := fun herr => h (.inl herr)
    simp [herr]

lemma failed_markResult (s : CrossSwapchain) (err : VkResult) :
    (s.markResult err).failed = (s.failed || decide (err < 0)) := by
  unfold markResult failed
  split
  · rename_i h
    rw [h]
    simp [VkResult.success]
  · split
    · simp [mergeStatus_neg]
    · simp [mergeStatus_neg]

lemma snapshot_markResult (s : CrossSwapchain) (err : VkResult) :
    (s.markResult err).snapshot = s.snapshot.fails (err < 0) := by
  have hfailed := failed_markResult s err
  rcases s.markResult_cases err with h | h
  · rw [h] at hfailed ⊢
    ext1 <;> first | rfl | exact hfailed
  · rw [h] at hfailed ⊢
    ext1
    case failed => exact hfailed
    case app => exact appStage_wake _
    case worker => exact workerStage_wake _
    all_goals rfl

/-- What `markResult` returns tells whether the swapchain has failed. -/
lemma markedResult_neg (s : CrossSwapchain) (err : VkResult) :
    (s.markResult err).markedResult err < 0 ↔ (s.markResult err).failed = true := by
  have hfailed := failed_markResult s err
  unfold markedResult
  split
  · rename_i h
    have hno : (s.markResult err).failed = false := by
      simp [failed, h, VkResult.success]
    rw [hno] at hfailed ⊢
    simpa using (Bool.or_eq_false_iff.1 hfailed.symm).2
  · simp [failed]

/-! ### Where the images are -/

/-- Every image is in one place at most, the threads work on images that they have, and until a failure
the counts tell how many copies are in flight. -/
structure InPlace (n : Nat) (v : Snapshot) : Prop where
  owned : v.owned.Subperm (List.range n)
  app : ∀ i, v.app.image = some i → i ∈ v.held
  worker : ∀ i, v.worker.image = some i → i ∈ v.processing
  count : v.failed = false → v.ahead = BitVec.ofNat 64 (v.work.length + v.worker.unread)
  stopped : v.worker = .stopped → v.failed = true
  working : v.worker ≠ .lost

section InPlace

variable {n i : Nat} {v : Snapshot}

lemma InPlace.nodup (h : InPlace n v) : v.owned.Nodup := by
  obtain ⟨l, hperm, hsub⟩ := h.owned
  exact hperm.nodup_iff.1 (hsub.nodup List.nodup_range)

lemma InPlace.lt (h : InPlace n v) (hi : i ∈ v.owned) : i < n :=
  List.mem_range.1 (h.owned.subset hi)

lemma InPlace.count_le (h : InPlace n v) (i : Nat) :
    v.held.count i + v.acquireQueue.count i + v.work.count i + v.processing.count i + v.sink.count i ≤ 1 := by
  have hcount := List.nodup_iff_count_le_one.1 h.nodup i
  simp only [Snapshot.owned, Snapshot.outside, List.count_append] at hcount
  omega

lemma InPlace.notMem_of_held (h : InPlace n v) (hi : i ∈ v.held) : i ∉ v.work ∧ i ∉ v.processing := by
  have hcount := h.count_le i
  have hpos := List.count_pos_iff.2 hi
  constructor
  · intro hwork
    have := List.count_pos_iff.2 hwork
    omega
  · intro hprocessing
    have := List.count_pos_iff.2 hprocessing
    omega

lemma InPlace.notMem_of_processing (h : InPlace n v) (hi : i ∈ v.processing) : i ∉ v.work := by
  intro hwork
  have hcount := h.count_le i
  have hpos := List.count_pos_iff.2 hi
  have := List.count_pos_iff.2 hwork
  omega

/-- While nothing has failed the count is zero only if no copy is in flight. -/
lemma InPlace.ahead_eq_zero (h : InPlace n v) (hn : n < 2 ^ 32) (hahead : v.ahead = 0) (hfailed : v.failed = false) :
    v.work = [] ∧ v.worker.unread = 0 := by
  have hlength : v.work.length ≤ n := by
    have hle := h.owned.length_le
    simp only [Snapshot.owned, Snapshot.outside, List.length_append, List.length_range] at hle
    omega
  have hunread : v.worker.unread ≤ 1 := by
    cases v.worker <;> simp [WorkerStage.unread]
  have hcount := h.count hfailed
  rw [hahead] at hcount
  have hzero := congrArg BitVec.toNat hcount
  rw [BitVec.toNat_ofNat, Nat.mod_eq_of_lt (by omega)] at hzero
  have hsum : v.work.length + v.worker.unread = 0 := hzero.symm
  exact ⟨List.length_eq_zero_iff.1 (by omega), by omega⟩

lemma InPlace.of_count (h : InPlace n v) {v' : Snapshot} (howned : ∀ a, v'.owned.count a ≤ v.owned.count a)
    (happ : ∀ i, v'.app.image = some i → i ∈ v'.held)
    (hworker : ∀ i, v'.worker.image = some i → i ∈ v'.processing)
    (hcount : v'.failed = false → v'.ahead = BitVec.ofNat 64 (v'.work.length + v'.worker.unread))
    (hstopped : v'.worker = .stopped → v'.failed = true) (hworking : v'.worker ≠ .lost) : InPlace n v' where
  owned := (List.subperm_ext_iff.2 fun a _ => howned a).trans h.owned
  app := happ
  worker := hworker
  count := hcount
  stopped := hstopped
  working := hworking

lemma count_singleton' (i a : Nat) : [i].count a = if i = a then 1 else 0 := by
  simp [List.count_singleton]

lemma InPlace.fails (h : InPlace n v) (b : Bool) : InPlace n (v.fails b) := by
  refine h.of_count (fun _ => le_rfl) h.app h.worker ?_ ?_ h.working
  · intro hfailed
    exact h.count (Bool.or_eq_false_iff.1 hfailed).1
  · intro hstopped
    simp [Snapshot.fails, h.stopped hstopped]

/-- The application leaves a call with the images it has. -/
lemma InPlace.leave (h : InPlace n v) : InPlace n { v with app := .outside } :=
  h.of_count (fun _ => le_rfl) (fun i hi => by cases hi) h.worker h.count h.stopped h.working

lemma InPlace.enter (h : InPlace n v) {stage : AppStage} (hi : stage.image = some i) (hheld : i ∈ v.held) :
    InPlace n { v with app := stage } := by
  refine h.of_count (fun _ => le_rfl) ?_ h.worker h.count h.stopped h.working
  intro j hj
  rw [show stage.image = some j from hj, Option.some.injEq] at hi
  rwa [hi]

lemma InPlace.take (h : InPlace n v) {rest : List Nat} (hqueue : v.acquireQueue = i :: rest) :
    InPlace n { v with acquireQueue := rest, held := v.held ++ [i], app := .passing i } := by
  refine h.of_count ?_ ?_ h.worker h.count h.stopped h.working
  · intro a
    simp only [Snapshot.owned, Snapshot.outside, hqueue, List.count_append, List.count_cons, List.count_nil]
    omega
  · intro j hj
    cases hj
    exact List.mem_append_right _ (List.mem_singleton_self _)

/-- Nobody gets an image of the application. -/
lemma InPlace.drop (h : InPlace n v) (i : Nat) : InPlace n { v with held := v.held.erase i, app := .outside } := by
  refine h.of_count ?_ (fun j hj => by cases hj) h.worker h.count h.stopped h.working
  intro a
  have hle := List.Sublist.count_le a (List.erase_sublist (a := i) (l := v.held))
  simp only [Snapshot.owned, Snapshot.outside, List.count_append]
  omega

lemma InPlace.putBack (h : InPlace n v) (hi : i ∈ v.held) :
    InPlace n { v with held := v.held.erase i, acquireQueue := v.acquireQueue ++ [i], app := .outside } := by
  refine h.of_count ?_ (fun j hj => by cases hj) h.worker h.count h.stopped h.working
  intro a
  have herase := count_erase_add hi a
  simp only [Snapshot.owned, Snapshot.outside, List.count_append, count_singleton']
  omega

lemma InPlace.push (h : InPlace n v) (hi : i ∈ v.held) :
    InPlace n { v with held := v.held.erase i, work := v.work ++ [i], ahead := v.ahead + 1, app := .outside } := by
  refine h.of_count ?_ (fun j hj => by cases hj) h.worker ?_ h.stopped h.working
  · intro a
    have herase := count_erase_add hi a
    simp only [Snapshot.owned, Snapshot.outside, List.count_append, count_singleton']
    omega
  · intro hfailed
    have hlength : (v.work ++ [i]).length + v.worker.unread = v.work.length + v.worker.unread + 1 := by
      simp only [List.length_append, List.length_singleton]
      omega
    simp only [hlength, BitVec.ofNat_add, h.count hfailed]
    rfl

/-- The worker changes its stage without changing the number of unread copies. -/
lemma InPlace.goto (h : InPlace n v) {stage : WorkerStage} (himage : ∀ i, stage.image = some i → i ∈ v.processing)
    (hunread : stage.unread = v.worker.unread) (hstage : stage ≠ .stopped) (hworking : stage ≠ .lost) :
    InPlace n { v with worker := stage } := by
  refine h.of_count (fun _ => le_rfl) h.app himage ?_ (fun hstopped => absurd hstopped hstage) hworking
  intro hfailed
  rw [show (v.work.length + stage.unread) = v.work.length + v.worker.unread by rw [hunread]]
  exact h.count hfailed

lemma InPlace.stop (h : InPlace n v) (hfailed : v.failed = true) : InPlace n { v with worker := .stopped } := by
  refine h.of_count (fun _ => le_rfl) h.app (fun i hi => by cases hi) ?_ (fun _ => hfailed) (fun hno => by cases hno)
  intro hno
  rw [show v.failed = false from hno] at hfailed
  cases hfailed

lemma InPlace.takeWork (h : InPlace n v) {rest : List Nat} (hwork : v.work = i :: rest)
    (hworker : v.worker.unread = 0) :
    InPlace n { v with work := rest, processing := v.processing ++ [i], worker := .copying i } := by
  refine h.of_count ?_ h.app ?_ ?_ (fun hstopped => by cases hstopped)
    (fun hno => by cases hno)
  · intro a
    simp only [Snapshot.owned, Snapshot.outside, hwork, List.count_append, List.count_cons, List.count_nil]
    omega
  · intro j hj
    cases hj
    exact List.mem_append_right _ (List.mem_singleton_self _)
  · intro hfailed
    rw [h.count hfailed, hwork, hworker]
    rfl

lemma InPlace.sourceDone (h : InPlace n v) (hworker : v.worker = .copying i) :
    InPlace n { v with ahead := v.ahead - 1, worker := .copied i } := by
  refine h.of_count (fun _ => le_rfl) h.app ?_ ?_ (fun hstopped => by cases hstopped)
    (fun hno => by cases hno)
  · intro j hj
    exact h.worker j (by rw [hworker]; exact hj)
  · intro hfailed
    simp only [h.count hfailed, hworker, WorkerStage.unread, Nat.add_zero, BitVec.ofNat_add]
    exact BitVec.add_sub_cancel _ _

/-- The sink gets an image that the worker has presented. -/
lemma InPlace.present (h : InPlace n v) (hworker : v.worker = .presenting i) :
    InPlace n { v with processing := v.processing.erase i, sink := v.sink ++ [i], worker := .resting } := by
  refine h.of_count ?_ h.app (fun j hj => by cases hj) ?_ (fun hstopped => by cases hstopped)
    (fun hno => by cases hno)
  · intro a
    have herase := count_erase_add (h.worker i (by rw [hworker]; rfl)) a
    simp only [Snapshot.owned, Snapshot.outside, List.count_append, count_singleton']
    omega
  · intro hfailed
    rw [h.count hfailed, hworker]
    rfl

lemma InPlace.releaseFront (h : InPlace n v) {rest : List Nat} (hqueue : v.acquireQueue = i :: rest) :
    InPlace n { v with acquireQueue := rest, sink := v.sink ++ [i] } := by
  refine h.of_count ?_ h.app h.worker h.count h.stopped h.working
  intro a
  simp only [Snapshot.owned, Snapshot.outside, hqueue, List.count_append, List.count_cons, List.count_nil]
  omega

/-- The sink returns an image, for the application or not. -/
lemma InPlace.pump (h : InPlace n v) (hi : i ∈ v.sink) :
    InPlace n { v with sink := v.sink.erase i, acquireQueue := v.acquireQueue ++ [i] } := by
  refine h.of_count ?_ h.app h.worker h.count h.stopped h.working
  intro a
  have herase := count_erase_add hi a
  simp only [Snapshot.owned, Snapshot.outside, List.count_append, count_singleton']
  omega

lemma InPlace.keep (h : InPlace n v) (hi : i ∈ v.sink) :
    InPlace n { v with sink := v.sink.erase i, processing := v.processing ++ [i] } := by
  refine h.of_count ?_ h.app ?_ h.count h.stopped h.working
  · intro a
    have herase := count_erase_add hi a
    simp only [Snapshot.owned, Snapshot.outside, List.count_append, count_singleton']
    omega
  · exact fun j hj => List.mem_append_left _ (h.worker j hj)

end InPlace

end CrossSwapchain

end PyroFling
