import PyroFling.LatencyMeasurement

/-!
# What the latency report says

Every line of the report is about a frame that was presented, with the time at which it was submitted and
the times that the presentation engine returned for it, and no frame and no stimulus is reported twice. The
threads only hand tasks on to the worker, which are kept in the order in which it comes to them.
-/

namespace PyroFling

namespace LatencySwapchain

open Monitor

/-- What the worker has to do, without what the report does not depend on. -/
inductive Task
  | frame (presentId : BitVec 64)
  | feedback (entry : FeedbackQueueEntry)

def taskOf : LatencyWork → Task
  | .waitGPUWork presentId _ => .frame presentId
  | .handleFeedback entry => .feedback entry

/-- A task that came later is about a later frame, except that feedback may be about an earlier frame than
the frames before it. -/
def Task.Before : Task → Task → Prop
  | .frame g, .frame g' => g < g'
  | .frame _, .feedback _ => True
  | .feedback e, .frame g => e.presentId < g
  | .feedback e, .feedback e' => e.presentId < e'.presentId

/-- How far the worker has got with feedback. -/
inductive ReportStage
  | elsewhere
  | reporting (entry : FeedbackQueueEntry)
  | counting (entry : FeedbackQueueEntry)
  deriving DecidableEq

def ReportStage.entry : ReportStage → Option FeedbackQueueEntry
  | .elsewhere => none
  | .reporting e | .counting e => some e

/-- The data that the threads share, and the logs. -/
structure Record where
  internalPresentId : BitVec 64
  presented : List (BitVec 64 × BitVec 64)
  timings : List PastPresentationTiming
  stimuli : List (BitVec 64)
  feedbackQueue : List FeedbackQueueEntry
  lines : List LatencyLine
  lastCandidateFrameId : BitVec 64
  lastStimulusTime : BitVec 64
  stimulusTime : BitVec 64
  lastFeedbackId : BitVec 64
  clock : BitVec 64

def record (s : LatencySwapchain) : Record where
  internalPresentId := s.internalPresentId
  presented := s.presented
  timings := s.timings
  stimuli := s.stimuli
  feedbackQueue := s.feedbackQueue
  lines := s.lines
  lastCandidateFrameId := s.lastCandidateFrameId
  lastStimulusTime := s.lastStimulusTime
  stimulusTime := s.stimulusTime
  lastFeedbackId := s.lastFeedbackId
  clock := s.clock

def currentTask : Thread LatencyPlace LatencyWait → Option Task
  | .running (.copying id _) | .running (.analyzing id) => some (.frame id)
  | .running (.feedback e) | .running (.reporting e) | .running (.counting e) => some (.feedback e)
  | _ => none

def reportStage : Thread LatencyPlace LatencyWait → ReportStage
  | .running (.reporting e) => .reporting e
  | .running (.counting e) => .counting e
  | _ => .elsewhere

/-- The id of the present that the application is in. -/
def presentIdOf : Thread LatencyPlace LatencyWait → Option (BitVec 64)
  | .running (.recording _ id) | .running (.submitting _ id) => some id
  | .blocked (.allIdle _ _ id) | .blocked (.image _ id) | .woken (.allIdle _ _ id) | .woken (.image _ id) => some id
  | _ => none

/-- The tasks in the order in which the worker comes to them. -/
def tasks (s : LatencySwapchain) : List Task :=
  (currentTask (s.threads .worker)).toList ++ s.workQueue.map taskOf

@[simp] lemma currentTask_wake (th : Thread LatencyPlace LatencyWait) : currentTask th.wake = currentTask th := by
  cases th <;> rfl

@[simp] lemma reportStage_wake (th : Thread LatencyPlace LatencyWait) : reportStage th.wake = reportStage th := by
  cases th <;> rfl

@[simp] lemma presentIdOf_wake (th : Thread LatencyPlace LatencyWait) : presentIdOf th.wake = presentIdOf th := by
  cases th with
  | running p => rfl
  | blocked w => cases w <;> rfl
  | woken w => rfl

namespace Record

/-- The entry tells when its frame was submitted, and what a timing says about it. -/
def Timed (r : Record) (e : FeedbackQueueEntry) : Prop :=
  (e.presentId, e.submitted) ∈ r.presented ∧ ∃ timing ∈ r.timings,
    timing.presentId = e.presentId ∧ timing.times.queueDone = e.queueDone ∧ timing.times.presentDone = e.presentDone

/-- The line tells so, and when a stimulus was given. -/
def Told (r : Record) (l : LatencyLine) : Prop :=
  l.stimulus ∈ r.stimuli ∧ (l.presentId, l.submitted) ∈ r.presented ∧ ∃ timing ∈ r.timings,
    timing.presentId = l.presentId ∧ timing.times.queueDone = l.queueDone ∧ timing.times.presentDone = l.presentDone

/-- Nothing has been reported about the candidate. -/
def Fresh (r : Record) : Prop :=
  ∀ l ∈ r.lines, l.presentId < r.lastCandidateFrameId ∧ (r.stimulusTime ≠ 0 → l.stimulus < r.stimulusTime)

end Record

structure Reliable (r : Record) (tasks : List Task) (stage : ReportStage) (app : Option (BitVec 64)) : Prop where
  presented : r.presented.Pairwise fun a b => a.1 < b.1
  ids : ∀ p ∈ r.presented, p.1 ≤ r.internalPresentId
  app : ∀ id, app = some id → id ≤ r.internalPresentId ∧ (∀ p ∈ r.presented, p.1 < id) ∧
    ∀ g, .frame g ∈ tasks → g < id
  frames : ∀ g, .frame g ∈ tasks → g ≤ r.internalPresentId
  queued : ∀ e ∈ r.feedbackQueue, e.presentId ≠ 0 ∧ (e.presentId, e.submitted) ∈ r.presented
  order : tasks.Pairwise Task.Before
  timed : ∀ e, .feedback e ∈ tasks → r.Timed e
  next : ∀ e, .feedback e ∈ tasks → r.lastFeedbackId < e.presentId
  last : r.lastFeedbackId = 0 ∨ ∃ timing ∈ r.timings, timing.presentId = r.lastFeedbackId
  lines : r.lines.Pairwise fun l l' => l.presentId < l'.presentId ∧ l.stimulus < l'.stimulus
  told : ∀ l ∈ r.lines, r.Told l
  behind : ∀ l ∈ r.lines, ∀ g, .frame g ∈ tasks → l.presentId < g
  clock : r.stimulusTime ≤ r.clock ∧ r.lastStimulusTime ≤ r.clock ∧ ∀ l ∈ r.lines, l.stimulus ≤ r.clock
  given : (r.stimulusTime ≠ 0 → r.stimulusTime ∈ r.stimuli) ∧
    (r.lastStimulusTime ≠ 0 → r.lastStimulusTime ∈ r.stimuli)
  rested : r.lastCandidateFrameId = 0 → r.lastStimulusTime = 0 ∨
    r.stimulusTime < r.lastStimulusTime ∧ ∀ l ∈ r.lines, l.stimulus < r.lastStimulusTime
  candidate : r.lastCandidateFrameId ≠ 0 → r.Fresh ∨ r.lastCandidateFrameId ≤ r.lastFeedbackId ∨
    ∃ e, stage.entry = some e ∧ r.lastCandidateFrameId ≤ e.presentId
  reporting : ∀ e, stage = .reporting e → r.stimulusTime ≠ 0 ∧
    (r.lastCandidateFrameId = 0 ∨ r.lastCandidateFrameId ≤ e.presentId) ∧
    ∀ l ∈ r.lines, l.presentId < e.presentId ∧ l.stimulus < r.stimulusTime
  stage : ∀ e, stage.entry = some e → ∃ rest, tasks = .feedback e :: rest

section Moves

variable {r : Record} {ts : List Task} {stage : ReportStage} {app : Option (BitVec 64)} {id : BitVec 64}
  {e : FeedbackQueueEntry}

/-! ### The application -/

/-- The application leaves a call. -/
lemma Reliable.leaveApp (h : Reliable r ts stage app) : Reliable r ts stage none :=
  { h with app := fun id hid => by cases hid }

/-- A present has an id greater than all before. -/
lemma Reliable.begin (h : Reliable r ts stage app) (hid : r.internalPresentId < id) :
    Reliable { r with internalPresentId := id } ts stage (some id) := by
  refine { h with ids := ?_, app := ?_, frames := ?_ }
  · intro p hp
    have := h.ids p hp
    dsimp only
    bv_omega
  · rintro _ ⟨rfl⟩
    refine ⟨BitVec.le_refl _, fun p hp => ?_, fun g hg => ?_⟩
    · have := h.ids p hp
      bv_omega
    · have := h.frames g hg
      bv_omega
  · intro g hg
    have := h.frames g hg
    dsimp only
    bv_omega

/-- Feedback for an earlier present comes to the end of the tasks. -/
lemma Reliable.poll (h : Reliable r ts stage app) {timing : PastPresentationTiming}
    (horder : ∀ earlier ∈ r.timings, earlier.presentId < timing.presentId) {queue : List FeedbackQueueEntry}
    (hqueue : queue ⊆ r.feedbackQueue) {extra : List Task}
    (hextra : extra = [] ∨ ∃ e ∈ r.feedbackQueue, e.presentId = timing.presentId ∧
      extra = [.feedback (timing.complete e)]) :
    Reliable { r with timings := r.timings ++ [timing], feedbackQueue := queue } (ts ++ extra) stage app := by
  have hframe : ∀ g, .frame g ∈ ts ++ extra → .frame g ∈ ts := by
    intro g hg
    rcases List.mem_append.1 hg with hg | hg
    · exact hg
    · rcases hextra with rfl | ⟨e, -, -, rfl⟩
      · cases hg
      · simp at hg
  have hfeedback : ∀ e, .feedback e ∈ ts ++ extra → .feedback e ∈ ts ∨
      ∃ e' ∈ r.feedbackQueue, e'.presentId = timing.presentId ∧ e = timing.complete e' := by
    intro e he
    rcases List.mem_append.1 he with he | he
    · exact .inl he
    · rcases hextra with rfl | ⟨e', he', hid, rfl⟩
      · cases he
      · simp only [List.mem_singleton, Task.feedback.injEq] at he
        exact .inr ⟨e', he', hid, he⟩
  have hsome : ∀ {P : PastPresentationTiming → Prop}, (∃ t ∈ r.timings, P t) → ∃ t ∈ r.timings ++ [timing], P t := by
    rintro P ⟨t, ht, hp⟩
    exact ⟨t, List.mem_append_left _ ht, hp⟩
  refine { h with
    app := ?_, frames := ?_, queued := ?_, order := ?_, timed := ?_, next := ?_, last := ?_, told := ?_, behind := ?_
    stage := ?_ }
  · intro id hid
    obtain ⟨hle, hall, hlt⟩ := h.app id hid
    exact ⟨hle, hall, fun g hg => hlt g (hframe g hg)⟩
  · exact fun g hg => h.frames g (hframe g hg)
  · exact fun e he => h.queued e (hqueue he)
  · rw [List.pairwise_append]
    refine ⟨h.order, ?_, ?_⟩
    · rcases hextra with rfl | ⟨e, -, -, rfl⟩
      · exact List.Pairwise.nil
      · exact List.pairwise_singleton _ _
    · intro x hx y hy
      rcases hextra with rfl | ⟨e, -, hid, rfl⟩
      · cases hy
      · rw [List.mem_singleton.1 hy]
        cases x with
        | frame g => trivial
        | feedback e' =>
          obtain ⟨-, t, ht, htid, -⟩ := h.timed e' hx
          show e'.presentId < e.presentId
          rw [hid, ← htid]
          exact horder t ht
  · intro e he
    rcases hfeedback e he with he | ⟨e', he', hid, rfl⟩
    · obtain ⟨hpresented, htiming⟩ := h.timed e he
      exact ⟨hpresented, hsome htiming⟩
    · exact ⟨(h.queued e' he').2, timing, List.mem_append_right _ (List.mem_singleton_self _), hid.symm, rfl, rfl⟩
  · intro e he
    rcases hfeedback e he with he | ⟨e', he', hid, rfl⟩
    · exact h.next e he
    · show r.lastFeedbackId < e'.presentId
      rcases h.last with hzero | ⟨t, ht, htid⟩
      · have := (h.queued e' he').1
        rw [hzero]
        bv_omega
      · rw [hid, ← htid]
        exact horder t ht
  · exact h.last.imp_right hsome
  · intro l hl
    obtain ⟨hstimulus, hpresented, htiming⟩ := h.told l hl
    exact ⟨hstimulus, hpresented, hsome htiming⟩
  · exact fun l hl g hg => h.behind l hl g (hframe g hg)
  · intro e he
    obtain ⟨rest, hrest⟩ := h.stage e he
    exact ⟨rest ++ extra, by rw [hrest]; rfl⟩

/-- The frame that the application presents comes to the end of the tasks. -/
lemma Reliable.submit (h : Reliable r ts stage (some id)) {now : BitVec 64} (hnow : r.clock ≤ now)
    {queue : List FeedbackQueueEntry} {presented : List (BitVec 64 × BitVec 64)}
    (hcase : queue = r.feedbackQueue ∧ presented = r.presented ∨
      id ≠ 0 ∧ queue = r.feedbackQueue ++ [{ presentId := id, submitted := now }] ∧
        presented = r.presented ++ [(id, now)]) :
    Reliable { r with clock := now, feedbackQueue := queue, presented := presented } (ts ++ [.frame id]) stage
      none := by
  obtain ⟨hle, hall, hlt⟩ := h.app id rfl
  have hpresented : r.presented ⊆ presented := by
    rcases hcase with ⟨-, rfl⟩ | ⟨-, -, rfl⟩
    · exact List.Subset.refl _
    · exact List.subset_append_left _ _
  have hframe : ∀ g, .frame g ∈ ts ++ [.frame id] → .frame g ∈ ts ∨ g = id := by
    intro g hg
    rcases List.mem_append.1 hg with hg | hg
    · exact .inl hg
    · simp only [List.mem_singleton, Task.frame.injEq] at hg
      exact .inr hg
  have hfeedback : ∀ e, .feedback e ∈ ts ++ [.frame id] → .feedback e ∈ ts := by
    intro e he
    simpa using he
  refine { h with
    presented := ?_, ids := ?_, frames := ?_, queued := ?_, order := ?_, timed := ?_, told := ?_, behind := ?_
    clock := ?_, stage := ?_
    app := fun _ hno => by cases hno
    next := fun e he => h.next e (hfeedback e he) }
  · rcases hcase with ⟨-, rfl⟩ | ⟨-, -, rfl⟩
    · exact h.presented
    · rw [List.pairwise_append]
      refine ⟨h.presented, List.pairwise_singleton _ _, ?_⟩
      rintro p hp _ hq
      rw [List.mem_singleton.1 hq]
      exact hall p hp
  · intro p hp
    rcases hcase with ⟨-, rfl⟩ | ⟨-, -, rfl⟩
    · exact h.ids p hp
    · rcases List.mem_append.1 hp with hp | hp
      · exact h.ids p hp
      · rw [List.mem_singleton.1 hp]
        exact hle
  · intro g hg
    rcases hframe g hg with hg | rfl
    · exact h.frames g hg
    · exact hle
  · intro e he
    rcases hcase with ⟨rfl, rfl⟩ | ⟨hid, rfl, rfl⟩
    · exact h.queued e he
    · rcases List.mem_append.1 he with he | he
      · exact ⟨(h.queued e he).1, List.mem_append_left _ (h.queued e he).2⟩
      · rw [List.mem_singleton.1 he]
        exact ⟨hid, List.mem_append_right _ (List.mem_singleton_self _)⟩
  · rw [List.pairwise_append]
    refine ⟨h.order, List.pairwise_singleton _ _, ?_⟩
    intro x hx y hy
    rw [List.mem_singleton.1 hy]
    cases x with
    | frame g => exact hlt g hx
    | feedback e => exact hall _ (h.timed e hx).1
  · intro e he
    obtain ⟨hmem, htiming⟩ := h.timed e (hfeedback e he)
    exact ⟨hpresented hmem, htiming⟩
  · intro l hl
    obtain ⟨hstimulus, hmem, htiming⟩ := h.told l hl
    exact ⟨hstimulus, hpresented hmem, htiming⟩
  · intro l hl g hg
    rcases hframe g hg with hg | rfl
    · exact h.behind l hl g hg
    · exact hall _ (h.told l hl).2.1
  · obtain ⟨hstimulus, hlast, hlines⟩ := h.clock
    dsimp only
    refine ⟨by bv_omega, by bv_omega, fun l hl => ?_⟩
    have := hlines l hl
    bv_omega
  · intro e he
    obtain ⟨rest, hrest⟩ := h.stage e he
    exact ⟨rest ++ [.frame id], by rw [hrest]; rfl⟩

/-! ### The worker -/

/-- The worker is done with a task. -/
lemma Reliable.drop (h : Reliable r ts stage app) {task : Task} {rest : List Task} (hts : ts = task :: rest)
    (hstage : stage.entry = none) : Reliable r rest .elsewhere app := by
  subst hts
  refine { h with
    app := ?_
    frames := fun g hg => h.frames g (List.mem_cons_of_mem _ hg)
    order := (List.pairwise_cons.1 h.order).2
    timed := fun e he => h.timed e (List.mem_cons_of_mem _ he)
    next := fun e he => h.next e (List.mem_cons_of_mem _ he)
    behind := fun l hl g hg => h.behind l hl g (List.mem_cons_of_mem _ hg)
    candidate := ?_
    reporting := fun _ he => by cases he
    stage := fun _ he => by cases he }
  · intro id hid
    obtain ⟨hle, hall, hlt⟩ := h.app id hid
    exact ⟨hle, hall, fun g hg => hlt g (List.mem_cons_of_mem _ hg)⟩
  · intro hne
    rcases h.candidate hne with hfresh | hpast | ⟨e, he, -⟩
    · exact .inl hfresh
    · exact .inr (.inl hpast)
    · rw [hstage] at he
      cases he

/-- A frame becomes the candidate. Whatever has been reported is about earlier frames and stimuli. -/
lemma Reliable.analyze (h : Reliable r ts stage app) {rest : List Task} (hts : ts = .frame id :: rest)
    (hstage : stage.entry = none) (hcandidate : r.lastCandidateFrameId = 0) (hid : id ≠ 0) :
    Reliable { r with lastCandidateFrameId := id, stimulusTime := r.lastStimulusTime } rest .elsewhere app := by
  have hframe : .frame id ∈ ts := by
    rw [hts]
    exact List.mem_cons_self
  refine { h.drop hts hstage with clock := ?_, given := ?_, rested := ?_, candidate := ?_, reporting := ?_ }
  · exact ⟨h.clock.2.1, h.clock.2.1, h.clock.2.2⟩
  · exact ⟨h.given.2, h.given.2⟩
  · exact fun hno => absurd hno hid
  · refine fun _ => .inl fun l hl => ⟨h.behind l hl id hframe, fun hne => ?_⟩
    rcases h.rested hcandidate with hzero | ⟨-, hlines⟩
    · exact absurd hzero hne
    · exact hlines l hl
  · exact fun _ hno => by cases hno

lemma Reliable.decide (h : Reliable r ts stage app) {rest : List Task} (hts : ts = .feedback e :: rest)
    (hstage : stage.entry = none) :
    Reliable r ts
      (if r.lastCandidateFrameId ≤ e.presentId ∧ r.lastFeedbackId < r.lastCandidateFrameId ∧ r.stimulusTime ≠ 0
        then .reporting e else .counting e) app := by
  have hcandidate : r.lastCandidateFrameId ≠ 0 → r.Fresh ∨ r.lastCandidateFrameId ≤ r.lastFeedbackId := by
    intro hne
    rcases h.candidate hne with hfresh | hpast | ⟨e, he, -⟩
    · exact .inl hfresh
    · exact .inr hpast
    · rw [hstage] at he
      cases he
  have hentry : ∀ e', (if r.lastCandidateFrameId ≤ e.presentId ∧ r.lastFeedbackId < r.lastCandidateFrameId ∧
      r.stimulusTime ≠ 0 then ReportStage.reporting e else .counting e).entry = some e' → e' = e := by
    intro e' he'
    split at he'
    · exact (Option.some.inj he').symm
    · exact (Option.some.inj he').symm
  refine { h with candidate := ?_, reporting := ?_, stage := ?_ }
  · intro hne
    rcases hcandidate hne with hfresh | hpast
    · exact .inl hfresh
    · exact .inr (.inl hpast)
  · intro e' he'
    split at he'
    · rename_i hcond
      obtain ⟨hle, hlt, hstimulus⟩ := hcond
      cases he'
      refine ⟨hstimulus, .inr hle, ?_⟩
      rcases hcandidate (by rintro hzero; rw [hzero] at hlt; bv_omega) with hfresh | hpast
      · intro l hl
        obtain ⟨hbefore, hearlier⟩ := hfresh l hl
        exact ⟨by bv_omega, hearlier hstimulus⟩
      · exfalso
        bv_omega
    · cases he'
  · intro e' he'
    exact ⟨rest, by rw [hts, hentry e' he']⟩

/-- The report gets a line about the frame, the first about the candidate. -/
lemma Reliable.report (h : Reliable r ts (.reporting e) app) :
    Reliable { r with lines := r.lines ++ [{
        presentId := e.presentId, stimulus := r.stimulusTime, submitted := e.submitted
        queueDone := e.queueDone, presentDone := e.presentDone }] } ts (.counting e) app := by
  obtain ⟨rest, hts⟩ := h.stage e rfl
  obtain ⟨hstimulus, hle, hearlier⟩ := h.reporting e rfl
  have hmem : .feedback e ∈ ts := by
    rw [hts]
    exact List.mem_cons_self
  have hall : ∀ {P : LatencyLine → Prop}, (∀ l ∈ r.lines, P l) → P {
      presentId := e.presentId, stimulus := r.stimulusTime, submitted := e.submitted
      queueDone := e.queueDone, presentDone := e.presentDone } → ∀ l ∈ r.lines ++ [{
        presentId := e.presentId, stimulus := r.stimulusTime, submitted := e.submitted
        queueDone := e.queueDone, presentDone := e.presentDone }], P l := by
    intro P hlines hnew l hl
    rcases List.mem_append.1 hl with hl | hl
    · exact hlines l hl
    · rwa [List.mem_singleton.1 hl]
  refine { h with
    lines := ?_, told := hall h.told ⟨h.given.1 hstimulus, h.timed e hmem⟩, behind := hall h.behind ?_
    clock := ⟨h.clock.1, h.clock.2.1, hall h.clock.2.2 h.clock.1⟩, rested := ?_, candidate := ?_
    reporting := fun _ hno => by cases hno
    stage := fun e' he' => by cases he'; exact ⟨rest, hts⟩ }
  · rw [List.pairwise_append]
    refine ⟨h.lines, List.pairwise_singleton _ _, ?_⟩
    intro l hl l' hl'
    rw [List.mem_singleton.1 hl']
    exact hearlier l hl
  · intro g hg
    rw [hts] at hg
    rcases List.mem_cons.1 hg with hno | hg
    · cases hno
    · have hbefore := (List.pairwise_cons.1 (hts ▸ h.order)).1 _ hg
      exact hbefore
  · intro hzero
    rcases h.rested hzero with hstim | ⟨hlt, hlines⟩
    · exact .inl hstim
    · exact .inr ⟨hlt, hall hlines hlt⟩
  · intro hne
    rcases hle with hzero | hle
    · exact absurd hzero hne
    · exact .inr (.inr ⟨e, rfl, hle⟩)

/-- The worker goes on without a line, because there is no report file. -/
lemma Reliable.skip (h : Reliable r ts (.reporting e) app) : Reliable r ts (.counting e) app := by
  obtain ⟨-, hle, -⟩ := h.reporting e rfl
  refine { h with
    candidate := ?_, stage := ?_
    reporting := fun _ hno => by cases hno }
  · intro hne
    rcases hle with hzero | hle
    · exact absurd hzero hne
    · exact .inr (.inr ⟨e, rfl, hle⟩)
  · intro e' he'
    cases he'
    exact h.stage e rfl

/-- The stimulus and the candidate are forgotten together. -/
lemma Reliable.rest (h : Reliable r ts stage app) :
    Reliable { r with lastCandidateFrameId := 0, lastStimulusTime := 0 } ts stage app := by
  refine { h with
    clock := ?_, given := ⟨h.given.1, fun hno => absurd rfl hno⟩, rested := fun _ => .inl rfl
    candidate := fun hno => absurd rfl hno, reporting := ?_ }
  · have := h.clock.1
    exact ⟨h.clock.1, by dsimp only; bv_omega, h.clock.2.2⟩
  · intro e he
    obtain ⟨hstimulus, -, hlines⟩ := h.reporting e he
    exact ⟨hstimulus, .inl rfl, hlines⟩

lemma Reliable.count (h : Reliable r ts (.counting e) app) :
    ∃ rest, ts = .feedback e :: rest ∧ Reliable { r with lastFeedbackId := e.presentId } rest .elsewhere app := by
  obtain ⟨rest, hts⟩ := h.stage e rfl
  have hmem : .feedback e ∈ ts := by
    rw [hts]
    exact List.mem_cons_self
  refine ⟨rest, hts, ?_⟩
  refine { h with
    app := ?_
    frames := fun g hg => h.frames g (hts ▸ List.mem_cons_of_mem _ hg)
    order := (List.pairwise_cons.1 (hts ▸ h.order)).2
    timed := fun e' he' => h.timed e' (hts ▸ List.mem_cons_of_mem _ he')
    next := ?_
    last := ?_
    behind := fun l hl g hg => h.behind l hl g (hts ▸ List.mem_cons_of_mem _ hg)
    candidate := ?_
    reporting := fun _ hno => by cases hno
    stage := fun _ hno => by cases hno }
  · intro id hid
    obtain ⟨hle, hall, hlt⟩ := h.app id hid
    exact ⟨hle, hall, fun g hg => hlt g (hts ▸ List.mem_cons_of_mem _ hg)⟩
  · intro e' he'
    have hbefore : Task.Before (.feedback e) (.feedback e') := (List.pairwise_cons.1 (hts ▸ h.order)).1 _ he'
    exact hbefore
  · obtain ⟨-, t, ht, htid, -⟩ := h.timed e hmem
    exact .inr ⟨t, ht, htid⟩
  · intro hne
    have hlt := h.next e hmem
    rcases h.candidate hne with hfresh | hpast | ⟨e', he', hle⟩
    · exact .inl hfresh
    · refine .inr (.inl ?_)
      dsimp only
      bv_omega
    · cases he'
      exact .inr (.inl hle)

/-! ### The input -/

lemma Reliable.tick (h : Reliable r ts stage app) {now : BitVec 64} (hnow : r.clock ≤ now) :
    Reliable { r with clock := now } ts stage app := by
  obtain ⟨hstimulus, hlast, hlines⟩ := h.clock
  refine { h with clock := ⟨?_, ?_, fun l hl => ?_⟩ }
  · dsimp only
    bv_omega
  · dsimp only
    bv_omega
  · have := hlines l hl
    dsimp only
    bv_omega

/-- A new stimulus is later than any that has been reported. -/
lemma Reliable.stimulate (h : Reliable r ts stage app) {now : BitVec 64} (hnow : r.clock < now) :
    Reliable { r with clock := now, lastStimulusTime := now, stimuli := r.stimuli ++ [now] } ts stage app := by
  obtain ⟨hstimulus, hlast, hlines⟩ := h.clock
  refine { h with
    told := fun l hl => ⟨List.mem_append_left _ (h.told l hl).1, (h.told l hl).2⟩
    given := ⟨fun hne => List.mem_append_left _ (h.given.1 hne),
      fun _ => List.mem_append_right _ (List.mem_singleton_self _)⟩
    clock := ⟨?_, BitVec.le_refl _, fun l hl => ?_⟩
    rested := fun _ => .inr ⟨?_, fun l hl => ?_⟩ }
  · dsimp only
    bv_omega
  · have := hlines l hl
    dsimp only
    bv_omega
  · dsimp only
    bv_omega
  · have := hlines l hl
    dsimp only
    bv_omega

end Moves

/-! ### Steps -/

section Steps

variable {s s' : LatencySwapchain} {next : LatencyThread}

/-- Which thread waits for what. -/
def Suits : LatencyThread → LatencyWait → Prop
  | .worker, .work => True
  | .app, .allIdle _ _ _ | .app, .image _ _ => True
  | _, _ => False

def Reported (s : LatencySwapchain) : Prop :=
  Reliable s.record s.tasks (reportStage (s.threads .worker)) (presentIdOf (s.threads .app))

lemma Reliable.reported {r : Record} {ts : List Task} {stage : ReportStage} {app : Option (BitVec 64)}
    (h : Reliable r ts stage app) (hrecord : s.record = r) (htasks : s.tasks = ts)
    (hstage : reportStage (s.threads .worker) = stage) (happ : presentIdOf (s.threads .app) = app) :
    Reported s := by
  subst hrecord htasks hstage happ
  exact h

/-- The tasks do not depend on who is woken. -/
lemma tasks_of_wake {extra : List LatencyWork}
    (hworker : currentTask (s'.threads .worker) = currentTask (s.threads .worker))
    (hqueue : s'.workQueue = s.workQueue ++ extra) : s'.tasks = s.tasks ++ extra.map taskOf := by
  simp only [tasks, hworker, hqueue, List.map_append, List.append_assoc]

/-- A step that the report does not depend on. -/
lemma Reported.frame (h : Reported s) (hrecord : s'.record = s.record) (hqueue : s'.workQueue = s.workQueue)
    (hworker : currentTask (s'.threads .worker) = currentTask (s.threads .worker))
    (hstage : reportStage (s'.threads .worker) = reportStage (s.threads .worker))
    (happ : presentIdOf (s'.threads .app) = presentIdOf (s.threads .app)) : Reported s' := by
  refine h.reported hrecord ?_ hstage happ
  rw [tasks, tasks, hworker, hqueue]

lemma updateFeedback_cases (s : LatencySwapchain) (timing : PastPresentationTiming) (next : LatencyThread) :
    ∃ queue extra, queue ⊆ s.feedbackQueue ∧
      (extra = [] ∨ ∃ e ∈ s.feedbackQueue, e.presentId = timing.presentId ∧
        extra = [.handleFeedback (timing.complete e)]) ∧
      (s.updateFeedback timing next).record =
        { s.record with timings := s.timings ++ [timing], feedbackQueue := queue } ∧
      (s.updateFeedback timing next).workQueue = s.workQueue ++ extra ∧
      ((s.updateFeedback timing next).threads = s.threads ∧ extra = [] ∨
        (s.updateFeedback timing next).threads = notifyOne s.threads next) := by
  unfold updateFeedback
  cases hfind : s.feedbackQueue.findIdx? (·.presentId = timing.presentId) with
  | none =>
    dsimp only
    rw [hfind]
    exact ⟨s.feedbackQueue, [], List.Subset.refl _, .inl rfl, rfl, (List.append_nil _).symm, .inl ⟨rfl, rfl⟩⟩
  | some i =>
    obtain ⟨hi, hid, -⟩ := List.findIdx?_eq_some_iff_getElem.1 hfind
    have hget : s.feedbackQueue.getD i {} = s.feedbackQueue[i] := List.getD_eq_getElem _ _ hi
    have hmem : s.feedbackQueue[i] ∈ s.feedbackQueue := List.getElem_mem hi
    have hsubset : (s.feedbackQueue.set i (s.feedbackQueue.getLastD {})).dropLast ⊆ s.feedbackQueue := by
      intro e he
      rcases List.mem_or_eq_of_mem_set (List.dropLast_subset _ he) with he | rfl
      · exact he
      · have hne : s.feedbackQueue ≠ [] := List.ne_nil_of_mem hmem
        rw [List.getLastD_eq_getLast?, List.getLast?_eq_some_getLast hne]
        exact List.getLast_mem hne
    simp only [hfind, hget]
    split
    · exact ⟨_, [.handleFeedback (timing.complete s.feedbackQueue[i])], hsubset,
        .inr ⟨_, hmem, by simpa using hid, rfl⟩, rfl, rfl, .inr rfl⟩
    · exact ⟨_, [], hsubset, .inl rfl, rfl, (List.append_nil _).symm, .inl ⟨rfl, rfl⟩⟩

lemma Reported.poll (h : Reported s) {timing : PastPresentationTiming}
    (horder : ∀ earlier ∈ s.timings, earlier.presentId < timing.presentId) :
    Reported (s.updateFeedback timing next) := by
  obtain ⟨queue, extra, hsubset, hextra, hrecord, hqueue, hthreads⟩ := s.updateFeedback_cases timing next
  have hwake : ∀ {α : Type} (f : Thread LatencyPlace LatencyWait → α), (∀ th, f th.wake = f th) →
      ∀ t, f ((s.updateFeedback timing next).threads t) = f (s.threads t) := by
    intro α f hf t
    rcases hthreads with ⟨hsame, -⟩ | hone
    · rw [hsame]
    · rw [hone, apply_notifyOne hf]
  have htasks : extra.map taskOf = [] ∨ ∃ e ∈ s.record.feedbackQueue, e.presentId = timing.presentId ∧
      extra.map taskOf = [.feedback (timing.complete e)] := by
    rcases hextra with rfl | ⟨e, he, hid, rfl⟩
    · exact .inl rfl
    · exact .inr ⟨e, he, hid, rfl⟩
  refine (Reliable.poll h horder hsubset htasks).reported hrecord ?_ ?_ ?_
  · exact tasks_of_wake (hwake _ currentTask_wake _) hqueue
  · exact hwake _ reportStage_wake _
  · exact hwake _ presentIdOf_wake _

/-- The application goes on with its present, or leaves it. -/
lemma Reported.setApp {id : BitVec 64} (h : Reliable s.record s.tasks (reportStage (s.threads .worker)) (some id))
    {th : Thread LatencyPlace LatencyWait} (hth : presentIdOf th = some id ∨ presentIdOf th = none) :
    Reported (s.setThread .app th) := by
  rcases hth with hth | hth
  · exact h.reported rfl rfl rfl hth
  · exact h.leaveApp.reported rfl rfl rfl hth

lemma Reported.passWaitApp {id : BitVec 64} {w : LatencyWait}
    (h : Reliable s.record s.tasks (reportStage (s.threads .worker)) (some id))
    (hw : presentIdOf (.blocked w) = some id) : Reported (s.passWait .app w) := by
  unfold passWait
  split
  · cases w with
    | work => cases hw
    | allIdle family index id' =>
      exact Reported.setApp (s := { s with cmdFamily := some family, cmdPool := false }) h (.inl hw)
    | image index id' =>
      dsimp only
      split
      · exact Reported.setApp h (.inr rfl)
      · exact Reported.setApp h (.inl hw)
  · exact Reported.setApp h (.inl hw)

lemma Reported.submitSourceWork (h : Reported s) {index : Nat} {id now : BitVec 64}
    (happ : s.threads .app = .running (.submitting index id)) (hnow : s.clock ≤ now) :
    Reported ({ s with clock := now }.submitSourceWork index id now next) := by
  have hin : Reliable s.record s.tasks (reportStage (s.threads .worker)) (some id) := by
    unfold Reported at h
    rwa [happ] at h
  have htasks : ∀ {s' : LatencySwapchain}, s'.threads .worker = notifyOne s.threads next .worker →
      s'.workQueue = s.workQueue ++ [.waitGPUWork id index] → s'.tasks = s.tasks ++ [.frame id] := by
    intro s' hthreads hqueue
    refine tasks_of_wake ?_ hqueue
    rw [hthreads, apply_notifyOne currentTask_wake]
  have hstage : reportStage (notifyOne s.threads next .worker) = reportStage (s.threads .worker) :=
    apply_notifyOne reportStage_wake
  unfold LatencySwapchain.submitSourceWork
  dsimp only
  split
  · rename_i hroom
    exact (hin.submit hnow (.inr ⟨hroom.2, rfl, rfl⟩)).reported rfl (htasks rfl rfl) hstage rfl
  · exact (hin.submit hnow (.inl ⟨rfl, rfl⟩)).reported rfl (htasks rfl rfl) hstage rfl

lemma threads_submitSourceWork (s : LatencySwapchain) (index : Nat) (id submitted : BitVec 64)
    (next : LatencyThread) : (s.submitSourceWork index id submitted next).threads =
      Function.update (notifyOne s.threads next) .app (.running .idle) := by
  unfold LatencySwapchain.submitSourceWork
  dsimp only
  split
  · rfl
  · rfl

/-- The worker takes a task over from the queue. -/
lemma Reported.passWaitWorker (h : Reported s) (htask : currentTask (s.threads .worker) = none)
    (hstage : reportStage (s.threads .worker) = .elsewhere) : Reported (s.passWait .worker .work) := by
  unfold Reported at h
  rw [hstage] at h
  have htasks : s.tasks = s.workQueue.map taskOf := by
    rw [tasks, htask]
    rfl
  unfold passWait
  split
  · dsimp only
    unfold LatencySwapchain.takeWork
    split
    · exact h.reported rfl htasks.symm rfl rfl
    · split
      · exact h.reported rfl rfl hstage rfl
      · rename_i hqueue
        exact h.reported rfl (by rw [htasks, hqueue]; rfl) rfl rfl
      · rename_i hqueue
        exact h.reported rfl (by rw [htasks, hqueue]; rfl) rfl rfl
  · exact h.reported rfl htasks.symm rfl rfl

/-! ### The worker -/

lemma tasks_of_worker {th : Thread LatencyPlace LatencyWait} (hworker : s.threads .worker = th) :
    s.tasks = (currentTask th).toList ++ s.workQueue.map taskOf := by
  rw [tasks, hworker]

lemma Reported.copied (h : Reported s) {id : BitVec 64} {index : Nat}
    (hworker : s.threads .worker = .running (.copying id index)) (fences : Bool) :
    Reported (s.copied id index fences next) := by
  have htasks := tasks_of_worker hworker
  unfold Reported at h
  rw [hworker] at h
  unfold LatencySwapchain.copied
  split
  · have happ : presentIdOf (notifyOne s.threads next .app) = presentIdOf (s.threads .app) :=
      apply_notifyOne presentIdOf_wake
    exact h.reported rfl htasks.symm rfl happ
  · exact (h.drop htasks rfl).reported rfl rfl rfl rfl

lemma Reported.analyze (h : Reported s) {id : BitVec 64} (hworker : s.threads .worker = .running (.analyzing id))
    (delta : Bool) : Reported (s.analyze id delta) := by
  have htasks := tasks_of_worker hworker
  unfold Reported at h
  rw [hworker] at h
  unfold LatencySwapchain.analyze
  split
  · rename_i hcond
    obtain ⟨-, hlater, hcandidate⟩ := hcond
    have hid : id ≠ 0 := by
      rintro rfl
      exact absurd hlater (by decide)
    exact (Reliable.analyze h htasks rfl hcandidate hid).reported rfl rfl rfl rfl
  · exact (h.drop htasks rfl).reported rfl rfl rfl rfl

lemma Reported.decideFeedback (h : Reported s) {e : FeedbackQueueEntry}
    (hworker : s.threads .worker = .running (.feedback e)) : Reported (s.decideFeedback e) := by
  have htasks := tasks_of_worker hworker
  unfold Reported at h
  rw [hworker] at h
  have hdecided : Reliable s.record s.tasks
      (if s.lastCandidateFrameId ≤ e.presentId ∧ s.lastFeedbackId < s.lastCandidateFrameId ∧ s.stimulusTime ≠ 0
        then .reporting e else .counting e) (presentIdOf (s.threads .app)) := h.decide htasks rfl
  unfold LatencySwapchain.decideFeedback
  split
  · rename_i hcond
    rw [if_pos hcond] at hdecided
    exact hdecided.reported rfl htasks.symm rfl rfl
  · rename_i hcond
    rw [if_neg hcond] at hdecided
    exact hdecided.reported rfl htasks.symm rfl rfl

lemma Reported.report (h : Reported s) {e : FeedbackQueueEntry}
    (hworker : s.threads .worker = .running (.reporting e)) : Reported (s.report e) := by
  have htasks := tasks_of_worker hworker
  unfold Reported at h
  rw [hworker] at h
  unfold LatencySwapchain.report
  dsimp only
  split
  · exact (Reliable.report h).reported rfl htasks.symm rfl rfl
  · exact h.skip.reported rfl htasks.symm rfl rfl

lemma Reported.countFeedback (h : Reported s) {e : FeedbackQueueEntry}
    (hworker : s.threads .worker = .running (.counting e)) : Reported (s.countFeedback e) := by
  have htasks := tasks_of_worker hworker
  unfold Reported at h
  rw [hworker] at h
  obtain ⟨rest, hrest, hcounted⟩ := h.count
  have htail : s.workQueue.map taskOf = rest := by
    rw [htasks] at hrest
    exact (List.cons.inj hrest).2
  unfold LatencySwapchain.countFeedback
  dsimp only
  split
  · exact hcounted.rest.reported rfl htail rfl rfl
  · exact hcounted.reported rfl htail rfl rfl

/-! ### All steps -/

/-- A round of the input lets time pass, ends the run or gives a new stimulus. -/
lemma input_cases (s : LatencySwapchain) (now later : BitVec 64) (doInput opened : Bool) :
    ((s.input now later doInput opened).threads = s.threads ∧
      (s.input now later doInput opened).workQueue = s.workQueue) ∧
    ((s.input now later doInput opened).record = { s.record with clock := later } ∨
      (s.input now later doInput opened).record =
        { s.record with clock := later, lastCandidateFrameId := 0, lastStimulusTime := 0 } ∨
      (s.input now later doInput opened).record =
        { s.record with clock := later, lastStimulusTime := later, stimuli := s.stimuli ++ [later] }) := by
  unfold LatencySwapchain.input
  dsimp only
  split_ifs <;>
    first
    | exact ⟨⟨rfl, rfl⟩, .inl rfl⟩
    | exact ⟨⟨rfl, rfl⟩, .inr (.inl rfl)⟩
    | exact ⟨⟨rfl, rfl⟩, .inr (.inr rfl)⟩

lemma Reported.input (h : Reported s) {now later : BitVec 64} (hnow : s.clock < now) (hlater : now ≤ later)
    (doInput opened : Bool) : Reported (s.input now later doInput opened) := by
  obtain ⟨⟨hthreads, hqueue⟩, hrecord⟩ := s.input_cases now later doInput opened
  have hclock : s.record.clock < later := by
    show s.clock < later
    bv_omega
  have hpast : s.record.clock ≤ later := by
    bv_omega
  have htick := Reliable.tick h hpast
  have htasks : (s.input now later doInput opened).tasks = s.tasks := by
    rw [tasks, tasks, hthreads, hqueue]
  rcases hrecord with hrecord | hrecord | hrecord
  · exact htick.reported hrecord htasks (by rw [hthreads]) (by rw [hthreads])
  · exact htick.rest.reported hrecord htasks (by rw [hthreads]) (by rw [hthreads])
  · exact (Reliable.stimulate h hclock).reported hrecord htasks (by rw [hthreads]) (by rw [hthreads])

lemma takePresentId_internalPresentId {id : BitVec 64} (hid : s.internalPresentId < s.presentIdFor id) :
    (s.takePresentId id).internalPresentId = s.presentIdFor id := by
  unfold presentIdFor at hid
  unfold takePresentId presentIdFor
  dsimp only
  split
  · rfl
  · rename_i hne
    rw [if_neg hne] at hid
    rw [if_pos hid]

lemma Reported.present (h : Reported s) {family index : Nat} {id : BitVec 64}
    (hid : s.internalPresentId < s.presentIdFor id) : Reported (s.step (.present family index id)) := by
  have htaken : Reliable (s.takePresentId id).record (s.takePresentId id).tasks
      (reportStage ((s.takePresentId id).threads .worker)) (some (s.presentIdFor id)) := by
    have hrecord : (s.takePresentId id).record = { s.record with internalPresentId := s.presentIdFor id } := by
      rw [← takePresentId_internalPresentId hid]
      rfl
    rw [hrecord]
    exact h.begin hid
  simp only [LatencySwapchain.step]
  split
  · exact Reported.passWaitApp htaken rfl
  · split
    · exact Reported.passWaitApp htaken rfl
    · exact Reported.setApp htaken (.inl rfl)

/-- Waits that a thread passes or begins suit it. -/
lemma suited_passWait {t : LatencyThread} {w : LatencyWait} (h : Suited Suits s.threads) (hw : Suits t w) :
    Suited Suits (s.passWait t w).threads := by
  unfold passWait
  split
  · cases w with
    | work =>
      dsimp only
      unfold LatencySwapchain.takeWork
      split
      · exact h.calmer ((Calmer.refl _).run _ _)
      · split
        · exact h
        · exact h.calmer ((Calmer.refl _).run _ _)
        · exact h.calmer ((Calmer.refl _).run _ _)
    | allIdle family index id => exact h.calmer ((Calmer.refl _).run _ _)
    | image index id =>
      dsimp only
      split
      · exact h.calmer ((Calmer.refl _).run _ _)
      · exact h.calmer ((Calmer.refl _).run _ _)
  · exact h.block hw

lemma suited_step (h : Suited Suits s.threads) {e : LatencyEvent} (he : Possible s e) :
    Suited Suits (s.step e).threads := by
  have hgoto : ∀ t p, Suited Suits (Function.update s.threads t (.running p)) :=
    fun t p => h.calmer ((Calmer.refl _).run t p)
  cases e with
  | poll timing next =>
    obtain ⟨queue, extra, -, -, -, -, hthreads⟩ := s.updateFeedback_cases timing next
    simp only [LatencySwapchain.step]
    rcases hthreads with ⟨hsame, -⟩ | hone
    · rwa [hsame]
    · rw [hone]
      exact h.calmer (calmer_notifyOne _ _)
  | present family index id =>
    simp only [LatencySwapchain.step]
    split
    · exact suited_passWait (s := s.takePresentId id) h trivial
    · split
      · exact suited_passWait (s := s.takePresentId id) h trivial
      · exact hgoto _ _
  | recorded pool result =>
    obtain ⟨index, id, happ⟩ := he
    simp only [LatencySwapchain.step, happ]
    split
    · exact suited_passWait (s := { s with cmdPool := pool }) h trivial
    · exact hgoto _ _
  | submitted submit now next =>
    obtain ⟨⟨index, id, happ⟩, -⟩ := he
    simp only [LatencySwapchain.step, happ]
    split
    · rw [threads_submitSourceWork]
      exact h.calmer ((calmer_notifyOne _ _).run _ _)
    · exact hgoto _ _
  | takeWork =>
    simp only [LatencySwapchain.step, show s.threads .worker = _ from he]
    exact suited_passWait h trivial
  | copied fences next =>
    obtain ⟨⟨id, index, hworker⟩, -⟩ := he
    simp only [LatencySwapchain.step, hworker, LatencySwapchain.copied]
    split
    · exact h.calmer ((calmer_notifyOne _ _).run _ _)
    · exact hgoto _ _
  | analyze delta =>
    obtain ⟨id, hworker⟩ := he
    simp only [LatencySwapchain.step, hworker, LatencySwapchain.analyze]
    split
    · exact hgoto _ _
    · exact hgoto _ _
  | decideFeedback =>
    obtain ⟨e, hworker⟩ := he
    simp only [LatencySwapchain.step, hworker, LatencySwapchain.decideFeedback]
    split
    · exact hgoto _ _
    · exact hgoto _ _
  | report =>
    obtain ⟨e, hworker⟩ := he
    simp only [LatencySwapchain.step, hworker, LatencySwapchain.report]
    split
    · exact hgoto _ _
    · exact hgoto _ _
  | countFeedback =>
    obtain ⟨e, hworker⟩ := he
    simp only [LatencySwapchain.step, hworker, LatencySwapchain.countFeedback]
    split
    · exact hgoto _ _
    · exact hgoto _ _
  | leave =>
    simp only [LatencySwapchain.step, show s.threads .worker = _ from he]
    exact h.calmer ((calmer_notifyAll _).run _ _)
  | input now later doInput opened =>
    obtain ⟨⟨hthreads, -⟩, -⟩ := s.input_cases now later doInput opened
    simp only [LatencySwapchain.step]
    rwa [hthreads]
  | destroy next => exact h.calmer (calmer_notifyOne _ _)
  | wake t => exact h.calmer (calmer_notifyOne s.threads t)
  | resume t =>
    obtain ⟨w, hw⟩ := he
    simp only [LatencySwapchain.step, hw]
    exact suited_passWait h (h t w (by rw [hw]; rfl))

lemma Reported.step (h : Reported s) (hsuited : Suited Suits s.threads) {e : LatencyEvent} (he : Legal s e) :
    Reported (s.step e) := by
  obtain ⟨he, htimely⟩ := he
  have hwake : ∀ {s' : LatencySwapchain} (next : LatencyThread), s'.record = s.record →
      s'.workQueue = s.workQueue → s'.threads = notifyOne s.threads next → Reported s' := by
    intro s' next hrecord hqueue hthreads
    refine h.frame hrecord hqueue ?_ ?_ ?_
    · rw [hthreads, apply_notifyOne currentTask_wake]
    · rw [hthreads, apply_notifyOne reportStage_wake]
    · rw [hthreads, apply_notifyOne presentIdOf_wake]
  cases e with
  | poll timing next => exact h.poll htimely
  | present family index id => exact h.present htimely
  | recorded pool result =>
    obtain ⟨index, id, happ⟩ := he
    have hin : Reliable s.record s.tasks (reportStage (s.threads .worker)) (some id) := by
      unfold Reported at h
      rwa [happ] at h
    simp only [LatencySwapchain.step, happ]
    split
    · exact Reported.passWaitApp (s := { s with cmdPool := pool }) hin rfl
    · exact Reported.setApp (s := { s with cmdPool := pool }) hin (.inr rfl)
  | submitted submit now next =>
    obtain ⟨⟨index, id, happ⟩, -⟩ := he
    have hnow : s.clock ≤ now := htimely
    simp only [LatencySwapchain.step, happ]
    split
    · exact h.submitSourceWork happ hnow
    · exact (Reliable.tick h hnow).leaveApp.reported rfl rfl rfl rfl
  | takeWork =>
    have hworker : s.threads .worker = .running .looping := he
    simp only [LatencySwapchain.step, hworker]
    exact h.passWaitWorker (by rw [hworker]; rfl) (by rw [hworker]; rfl)
  | copied fences next =>
    obtain ⟨⟨id, index, hworker⟩, -⟩ := he
    simp only [LatencySwapchain.step, hworker]
    exact h.copied hworker fences
  | analyze delta =>
    obtain ⟨id, hworker⟩ := he
    simp only [LatencySwapchain.step, hworker]
    exact h.analyze hworker delta
  | decideFeedback =>
    obtain ⟨e, hworker⟩ := he
    simp only [LatencySwapchain.step, hworker]
    exact h.decideFeedback hworker
  | report =>
    obtain ⟨e, hworker⟩ := he
    simp only [LatencySwapchain.step, hworker]
    exact h.report hworker
  | countFeedback =>
    obtain ⟨e, hworker⟩ := he
    simp only [LatencySwapchain.step, hworker]
    exact h.countFeedback hworker
  | leave =>
    have hworker : s.threads .worker = .running .leaving := he
    simp only [LatencySwapchain.step, hworker]
    exact h.frame rfl rfl (by rw [hworker]; rfl) (by rw [hworker]; rfl) (presentIdOf_wake _)
  | input now later doInput opened => exact h.input htimely.1 htimely.2 doInput opened
  | destroy next => exact hwake next rfl rfl rfl
  | wake t => exact hwake t rfl rfl rfl
  | resume t =>
    obtain ⟨w, hw⟩ := he
    have hsuits : Suits t w := hsuited t w (by rw [hw]; rfl)
    simp only [LatencySwapchain.step, hw]
    cases t with
    | worker =>
      cases w with
      | work => exact h.passWaitWorker (by rw [hw]; rfl) (by rw [hw]; rfl)
      | allIdle family index id => cases hsuits
      | image index id => cases hsuits
    | app =>
      unfold Reported at h
      rw [hw] at h
      cases w with
      | work => cases hsuits
      | allIdle family index id => exact Reported.passWaitApp h rfl
      | image index id => exact Reported.passWaitApp h rfl

lemma reported_init (images : Nat) : Reported (init images) := by
  constructor <;> simp [init, record, tasks, currentTask, reportStage, presentIdOf, ReportStage.entry]

end Steps

open Runs

/-- However the threads interleave, every line of the report is about a frame that was presented and a
stimulus that was given, with the time at which the frame was submitted and the times that the presentation
engine returned for it, and no line is about a frame or a stimulus that is not later than those of all lines
before. -/
theorem report_truthful (images : Nat) (es : List LatencyEvent) (hlegal : Along step Legal (init images) es) :
    (∀ l ∈ (es.foldl step (init images)).lines, (es.foldl step (init images)).record.Told l) ∧
    (es.foldl step (init images)).lines.Pairwise (fun l l' => l.presentId < l'.presentId ∧ l.stimulus < l'.stimulus) ∧
    (es.foldl step (init images)).presented.Pairwise fun p p' => p.1 < p'.1 := by
  have hinit : Suited Suits (init images).threads ∧ Reported (init images) := by
    refine ⟨?_, reported_init images⟩
    intro t w hw
    cases t <;> cases hw
  obtain ⟨-, hreported⟩ := hlegal.invariant (I := fun s => Suited Suits s.threads ∧ Reported s) hinit
    fun s e hs he => ⟨suited_step hs.1 he.1, hs.2.step hs.1 he⟩
  exact ⟨hreported.told, hreported.lines, hreported.presented⟩

/-- The first frame after a stimulus differs from those before it and is reported. -/
def oneStimulus : List LatencyEvent :=
  [.input 1 2 true true, .present 0 0 17, .recorded true VkResult.success, .submitted VkResult.success 3 .worker,
    .takeWork, .copied true .worker, .analyze true,
    .poll { presentId := 17, presentStages := [(1, 10), (8, 20)], timestamps := some (100, 50, 60) } .worker,
    .takeWork, .decideFeedback, .report, .countFeedback]

lemma oneStimulus_legal : Along step Legal (init 1) oneStimulus := by
  refine ⟨⟨trivial, by decide, by decide⟩, ⟨⟨rfl, by decide⟩, by simp only [Timely]; decide⟩, ⟨⟨_, _, rfl⟩, trivial⟩,
    ⟨⟨⟨_, _, rfl⟩, ?_⟩, by simp only [Timely]; decide⟩, ⟨rfl, trivial⟩, ⟨⟨⟨_, _, rfl⟩, ?_⟩, trivial⟩, ⟨⟨_, rfl⟩, trivial⟩,
    ⟨⟨rfl, ?_⟩, fun _ hno => by cases hno⟩, ⟨rfl, trivial⟩, ⟨⟨_, rfl⟩, trivial⟩, ⟨⟨_, rfl⟩, trivial⟩,
    ⟨⟨_, rfl⟩, trivial⟩, trivial⟩
  all_goals
    rintro (_ | _) ⟨w, hw⟩ <;> cases hw

theorem report_truthful_oneStimulus :
    ∃ l ∈ (oneStimulus.foldl step (init 1)).lines, l.presentId = 17 ∧ l.stimulus = 2 ∧
      (oneStimulus.foldl step (init 1)).record.Told l := by
  have hmem : { presentId := 17, stimulus := 2, submitted := 3, queueDone := 60, presentDone := 60 } ∈
      (oneStimulus.foldl step (init 1)).lines := List.mem_of_getLast? rfl
  exact ⟨_, hmem, rfl, rfl, (report_truthful 1 oneStimulus oneStimulus_legal).1 _ hmem⟩

end LatencySwapchain

end PyroFling
