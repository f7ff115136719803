import PyroFling.PresentWait
import PyroFling.Library.Runs

/-!
# Which waiters a completed present releases

A completed present only releases what is at most its own present id of the application. Without one it
releases nothing, also not the presents before it, which the server has skipped.
-/

namespace PyroFling

namespace SurfaceState

lemma le_completeKHR (waitPairs : List WaitPair) (presentedId completed : Nat) :
    completed ≤ completeKHR waitPairs presentedId completed := by
  induction waitPairs generalizing completed with
  | nil => exact le_rfl
  | cons wait rest ih =>
    rw [completeKHR, List.foldl_cons]
    split
    · rename_i hwait
      exact hwait.2.le.trans (ih _)
    · exact ih _

lemma khrPresentId_le_completeKHR {waitPairs : List WaitPair} {presentedId : Nat} {wait : WaitPair}
    (hwait : wait ∈ waitPairs) (hid : wait.pyroPresentId = presentedId) (completed : Nat) :
    wait.khrPresentId ≤ completeKHR waitPairs presentedId completed := by
  induction waitPairs generalizing completed with
  | nil => exact absurd hwait List.not_mem_nil
  | cons first rest ih =>
    rcases List.mem_cons.1 hwait with rfl | hrest
    · rw [completeKHR, List.foldl_cons]
      split
      · exact le_completeKHR _ _ _
      · rename_i hnot
        have hle : wait.khrPresentId ≤ completed := not_lt.1 fun hlt => hnot ⟨hid, hlt⟩
        exact hle.trans (le_completeKHR _ _ _)
    · exact ih hrest _

lemma completeKHR_cases (waitPairs : List WaitPair) (presentedId completed : Nat) :
    completeKHR waitPairs presentedId completed = completed ∨
      ∃ wait ∈ waitPairs, wait.pyroPresentId = presentedId ∧ completed < wait.khrPresentId ∧
        completeKHR waitPairs presentedId completed = wait.khrPresentId := by
  induction waitPairs generalizing completed with
  | nil => exact .inl rfl
  | cons first rest ih =>
    rw [completeKHR, List.foldl_cons]
    split
    · rename_i hfirst
      right
      rcases ih first.khrPresentId with heq | ⟨wait, hwait, hid, hlt, heq⟩
      · exact ⟨first, List.mem_cons_self, hfirst.1, hfirst.2, heq⟩
      · exact ⟨wait, List.mem_cons_of_mem first hwait, hid, hfirst.2.trans hlt, heq⟩
    · rcases ih completed with heq | ⟨wait, hwait, hid, hlt, heq⟩
      · exact .inl heq
      · exact .inr ⟨wait, List.mem_cons_of_mem first hwait, hid, hlt, heq⟩

/-- The members that have to do with waiting for presents. -/
structure SamePresents (s s' : SurfaceState) : Prop where
  imageGroupSerial : s'.imageGroupSerial = s.imageGroupSerial
  presentId : s'.presentId = s.presentId
  completedKHRPresentId : s'.completedKHRPresentId = s.completedKHRPresentId
  waitPairs : s'.waitPairs = s.waitPairs

/-- The message is a completion of a present to the image group. -/
def Completes (s : SurfaceState) (presentedId : Nat) : ServerMessage → Prop
  | .frameComplete serial _ id _ => serial = s.imageGroupSerial ∧ id = presentedId
  | _ => False

lemma process_completes {s : SurfaceState} {presentedId : Nat} {m : ServerMessage}
    (h : s.Completes presentedId m) : (s.process m).2 = { s with
      completePresentId := presentedId
      completedKHRPresentId := completeKHR s.waitPairs presentedId s.completedKHRPresentId
      waitPairs := s.waitPairs.filter fun p =>
        completeKHR s.waitPairs presentedId s.completedKHRPresentId < p.khrPresentId } := by
  match m, h with
  | .frameComplete serial _ id _, ⟨hserial, hid⟩ =>
    subst hid
    rw [process, handleEvent, if_neg (not_not.2 hserial)]
    all_goals exact nofun

lemma process_same {s : SurfaceState} {m : ServerMessage} (h : ∀ presentedId, ¬s.Completes presentedId m) :
    SamePresents s (s.process m).2 := by
  cases m with
  | frameComplete serial timeNs id timestamp =>
    have hserial : serial ≠ s.imageGroupSerial := fun heq => h id ⟨heq, rfl⟩
    rw [process, handleEvent, if_pos hserial]
    · exact ⟨rfl, rfl, rfl, rfl⟩
    all_goals exact nofun
  | acquireImage serial i semaphore =>
    simp only [process, handleEvent]
    split_ifs <;> exact ⟨rfl, rfl, rfl, rfl⟩
  | retireImage serial i =>
    simp only [process, handleEvent]
    split_ifs <;> exact ⟨rfl, rfl, rfl, rfl⟩
  | ok | error | errorProtocol | errorParameter => exact ⟨rfl, rfl, rfl, rfl⟩

end SurfaceState

namespace PresentWait

open SurfaceState

variable {s : PresentWait} {e : PresentWaitEvent} {presentedId : Nat}

/-- What a step has to do: the completed present id does not decrease, and is at least that of every
present up to the completed one, so nobody waits for these; and none of them stays in the list. -/
structure Releases (s : PresentWait) (e : PresentWaitEvent) : Prop where
  grows : (∀ numImages, e ≠ .setActiveSwapchain numImages) →
    s.surface.completedKHRPresentId ≤ (s.step e).surface.completedKHRPresentId
  completed : ∀ m presentedId, e = .receive m → s.surface.Completes presentedId m →
    ∀ p ∈ s.presents, p.pyroPresentId ≤ presentedId →
      p.khrPresentId ≤ (s.step e).surface.completedKHRPresentId ∧
        ¬(s.step e).surface.WaitsForPresent p.khrPresentId
  removed : ∀ m presentedId, e = .receive m → s.surface.Completes presentedId m →
    ∀ p ∈ (s.step e).surface.waitPairs, presentedId < p.pyroPresentId

/-- A completed present has a present id of the application itself and waits for its completion, or none
of the presents up to it that wait has one. -/
def Identified (s : PresentWait) : PresentWaitEvent → Prop
  | .receive m => ∀ presentedId, s.surface.Completes presentedId m →
    (∃ p ∈ s.surface.waitPairs, p.pyroPresentId = presentedId ∧ p.khrPresentId ≠ 0) ∨
      ∀ p ∈ s.surface.waitPairs, p.pyroPresentId ≤ presentedId → p.khrPresentId = 0
  | _ => True

/-- The pairs that wait are in the order of both of their ids. -/
structure Ordered (s : PresentWait) : Prop where
  presented : ∀ p ∈ s.surface.waitPairs, p.pyroPresentId ≤ s.surface.presentId
  pending : ∀ p ∈ s.surface.waitPairs, p.khrPresentId ≠ 0 → s.surface.completedKHRPresentId < p.khrPresentId
  last : ∀ p ∈ s.surface.waitPairs, p.khrPresentId ≤ s.lastKHRPresentId
  completed : s.surface.completedKHRPresentId ≤ s.lastKHRPresentId
  increasing : ∀ p ∈ s.surface.waitPairs, ∀ q ∈ s.surface.waitPairs, p.pyroPresentId ≤ q.pyroPresentId →
    q.khrPresentId ≠ 0 → p.khrPresentId ≤ q.khrPresentId
  removed : ∀ p ∈ s.presents,
    p ∈ s.surface.waitPairs ∨ p.khrPresentId ≤ s.surface.completedKHRPresentId

lemma ordered_initial : Ordered {} where
  presented := nofun
  pending := nofun
  last := nofun
  completed := le_rfl
  increasing := nofun
  removed := nofun

/-- A present without an id, or with one above all others. -/
lemma Ordered.present (h : s.Ordered) {i : Nat} {mode : SyncMode} {isFifo : Bool} {khrPresentId : Nat}
    (hlegal : khrPresentId ≠ 0 → s.lastKHRPresentId < khrPresentId) :
    (s.step (.present i mode isFifo khrPresentId)).Ordered := by
  have hpairs : ∀ {p}, p ∈ (s.step (.present i mode isFifo khrPresentId)).surface.waitPairs →
      p ∈ s.surface.waitPairs ∨ p = { pyroPresentId := s.surface.presentId + 1, khrPresentId := khrPresentId } := by
    intro p hp
    exact (List.mem_append.1 hp).imp id List.mem_singleton.1
  constructor
  · intro p hp
    change p.pyroPresentId ≤ s.surface.presentId + 1
    rcases hpairs hp with hold | rfl
    · exact (h.presented p hold).trans (Nat.le_succ _)
    · exact le_rfl
  · intro p hp hne
    change s.surface.completedKHRPresentId < p.khrPresentId
    rcases hpairs hp with hold | rfl
    · exact h.pending p hold hne
    · exact h.completed.trans_lt (hlegal hne)
  · intro p hp
    rcases hpairs hp with hold | rfl
    · exact (h.last p hold).trans (le_max_left _ _)
    · exact le_max_right _ _
  · exact h.completed.trans (le_max_left _ _)
  · intro p hp q hq hle hne
    rcases hpairs hq with holdq | rfl
    · rcases hpairs hp with hold | rfl
      · exact h.increasing p hold q holdq hle hne
      · have hpresented := h.presented q holdq
        dsimp only at hle
        omega
    · rcases hpairs hp with hold | rfl
      · exact (h.last p hold).trans (hlegal hne).le
      · exact le_rfl
  · intro p hp
    rcases List.mem_append.1 hp with hold | hnew
    · exact (h.removed p hold).imp (List.mem_append_left _) id
    · exact .inl (List.mem_append_right _ hnew)

lemma Ordered.receive_completes (h : s.Ordered) {m : ServerMessage} (hm : s.surface.Completes presentedId m) :
    (s.step (.receive m)).Ordered := by
  rw [step, process_completes hm]
  have hgrows := le_completeKHR s.surface.waitPairs presentedId s.surface.completedKHRPresentId
  constructor
  · intro p hp
    exact h.presented p (List.mem_of_mem_filter hp)
  · intro p hp _
    exact of_decide_eq_true (List.mem_filter.1 hp).2
  · intro p hp
    exact h.last p (List.mem_of_mem_filter hp)
  · dsimp only
    rcases completeKHR_cases s.surface.waitPairs presentedId s.surface.completedKHRPresentId with
      heq | ⟨p, hp, -, -, heq⟩
    · rw [heq]
      exact h.completed
    · rw [heq]
      exact h.last p hp
  · intro p hp q hq
    exact h.increasing p (List.mem_of_mem_filter hp) q (List.mem_of_mem_filter hq)
  · intro p hp
    dsimp only
    rw [List.mem_filter, decide_eq_true_eq]
    rcases h.removed p hp with hpending | hle
    · rcases lt_or_ge (completeKHR s.surface.waitPairs presentedId s.surface.completedKHRPresentId)
        p.khrPresentId with hlt | hge
      · exact .inl ⟨hpending, hlt⟩
      · exact .inr hge
    · exact .inr (hle.trans hgrows)

lemma Ordered.receive_same (h : s.Ordered) {m : ServerMessage}
    (hm : ∀ presentedId, ¬s.surface.Completes presentedId m) : (s.step (.receive m)).Ordered := by
  obtain ⟨-, hpresent, hcompleted, hpairs⟩ := process_same hm
  constructor
  all_goals simp only [step, hpresent, hcompleted, hpairs]
  · exact h.presented
  · exact h.pending
  · exact h.last
  · exact h.completed
  · exact h.increasing
  · exact h.removed

/-- Without pairs and presents there is nothing to order. -/
lemma ordered_of_empty {surface : SurfaceState} (hpairs : surface.waitPairs = []) {last : Nat}
    (hcompleted : surface.completedKHRPresentId ≤ last) :
    Ordered { surface := surface, presents := [], lastKHRPresentId := last } := by
  constructor
  case completed => exact hcompleted
  case removed => exact nofun
  all_goals
    dsimp only
    rw [hpairs]
    exact nofun

lemma Ordered.reconnect (h : s.Ordered) : (s.step .reconnect).Ordered := by
  rw [step, initClient]
  dsimp only
  split
  · exact ⟨h.presented, h.pending, h.last, h.completed, h.increasing, nofun⟩
  · exact ordered_of_empty rfl h.completed

lemma Ordered.setActiveSwapchain (h : s.Ordered) (numImages : Option Nat) :
    (s.step (.setActiveSwapchain numImages)).Ordered := by
  cases numImages with
  | none => exact ⟨h.presented, fun p _ hne => Nat.pos_of_ne_zero hne, h.last, Nat.zero_le _, h.increasing, nofun⟩
  | some n => exact ordered_of_empty rfl (Nat.zero_le _)

lemma Ordered.step (h : s.Ordered) (hlegal : s.Legal e) : (s.step e).Ordered := by
  cases e with
  | present i mode isFifo khrPresentId => exact h.present hlegal
  | receive m =>
    by_cases hm : ∃ presentedId, s.surface.Completes presentedId m
    · exact h.receive_completes hm.choose_spec
    · exact h.receive_same (not_exists.1 hm)
  | reconnect => exact h.reconnect
  | setActiveSwapchain numImages => exact h.setActiveSwapchain numImages

/-- No step but that to another swapchain takes back what is completed. -/
lemma completedKHRPresentId_le_step (hswapchain : ∀ numImages, e ≠ .setActiveSwapchain numImages) :
    s.surface.completedKHRPresentId ≤ (s.step e).surface.completedKHRPresentId := by
  cases e with
  | present => exact le_rfl
  | receive m =>
    by_cases hm : ∃ presentedId, s.surface.Completes presentedId m
    · obtain ⟨presentedId, hm⟩ := hm
      rw [PresentWait.step, process_completes hm]
      exact le_completeKHR _ _ _
    · exact (process_same (not_exists.1 hm)).completedKHRPresentId.ge
  | reconnect =>
    rw [PresentWait.step, initClient]
    dsimp only
    split <;> exact le_rfl
  | setActiveSwapchain numImages => exact absurd rfl (hswapchain numImages)

/-- The pairs up to the completed one are released if and only if it identifies them. -/
lemma Ordered.releases_iff (h : s.Ordered) : s.Releases e ↔ s.Identified e := by
  cases e with
  | present | reconnect | setActiveSwapchain =>
    exact iff_of_true ⟨completedKHRPresentId_le_step, nofun, nofun⟩ trivial
  | receive m =>
    constructor
    · intro hreleases presentedId hm
      have hremoved := hreleases.removed m presentedId rfl hm
      rw [PresentWait.step, process_completes hm] at hremoved
      by_contra hnot
      push Not at hnot
      obtain ⟨hnone, p, hp, hle, hne⟩ := hnot
      have hgone : p.khrPresentId ≤
          completeKHR s.surface.waitPairs presentedId s.surface.completedKHRPresentId := by
        by_contra hlt
        exact absurd hle (not_le.2 (hremoved p (List.mem_filter.2 ⟨hp, decide_eq_true (not_le.1 hlt)⟩)))
      have hpending := h.pending p hp hne
      rcases completeKHR_cases s.surface.waitPairs presentedId s.surface.completedKHRPresentId with
        heq | ⟨q, hq, hid, hlt, -⟩
      · rw [heq] at hgone
        exact absurd hpending (not_lt.2 hgone)
      · exact absurd (hnone q hq hid) (Nat.ne_zero_of_lt hlt)
    · intro hidentified
      have hpairs : ∀ presentedId, s.surface.Completes presentedId m → ∀ p ∈ s.surface.waitPairs,
          p.pyroPresentId ≤ presentedId → p.khrPresentId ≤
            completeKHR s.surface.waitPairs presentedId s.surface.completedKHRPresentId := by
        intro presentedId hm p hp hle
        rcases hidentified presentedId hm with ⟨q, hq, hid, hne⟩ | hnone
        · exact (h.increasing p hp q hq (hle.trans hid.ge) hne).trans (khrPresentId_le_completeKHR hq hid _)
        · rw [hnone p hp hle]
          exact Nat.zero_le _
      refine ⟨completedKHRPresentId_le_step, ?_, ?_⟩
      · rintro _ presentedId ⟨⟩ hm p hp hle
        have hdone : p.khrPresentId ≤
            completeKHR s.surface.waitPairs presentedId s.surface.completedKHRPresentId := by
          rcases h.removed p hp with hpending | hcompleted
          · exact hpairs presentedId hm p hpending hle
          · exact hcompleted.trans (le_completeKHR _ _ _)
        rw [PresentWait.step, process_completes hm]
        exact ⟨hdone, not_lt.2 hdone⟩
      · rintro _ presentedId ⟨⟩ hm p hp
        rw [PresentWait.step, process_completes hm] at hp
        obtain ⟨hpending, hlt⟩ := List.mem_filter.1 hp
        by_contra hle
        exact absurd (of_decide_eq_true hlt) (not_lt.2 (hpairs presentedId hm p hpending (not_lt.1 hle)))

/-- In every run all completions release the presents up to them if and only if each completes a present
with a present id of the application, or there is none to release. -/
theorem releases_iff_identified (events : List PresentWaitEvent) (hlegal : Runs.Along step Legal {} events) :
    Runs.Along step Releases {} events ↔ Runs.Along step Identified {} events :=
  hlegal.congr ordered_initial (fun _ _ h hlegal => h.step hlegal) fun _ _ h _ => h.releases_iff

/-- Two presents, the second with this id, and the completion of the second. -/
def completedSecond (khrPresentId : Nat) : List PresentWaitEvent :=
  [.setActiveSwapchain (some 3), .present 0 .default true 1, .present 1 .default true khrPresentId,
    .receive (.frameComplete 1 0 2 0)]

theorem releases_completedSecond : Runs.Along step Releases {} (completedSecond 2) := by
  refine (releases_iff_identified (completedSecond 2) ?_).2 ?_
  · exact ⟨trivial, fun _ => Nat.zero_lt_one, fun _ => Nat.one_lt_two, fun _ => by decide, trivial⟩
  · refine ⟨trivial, trivial, trivial, ?_, trivial⟩
    rintro presentedId ⟨-, rfl⟩
    exact .inl ⟨⟨2, 2⟩, List.mem_cons_of_mem _ List.mem_cons_self, rfl, by decide⟩

/-- If the second present has no id, the first one stays in the list. -/
theorem skipped_present_kept : Runs.Along step Legal {} (completedSecond 0) ∧
    ¬Runs.Along step Releases {} (completedSecond 0) := by
  refine ⟨⟨trivial, fun _ => Nat.zero_lt_one, fun h => absurd rfl h, fun _ => by decide, trivial⟩, ?_⟩
  rintro ⟨-, -, -, h, -⟩
  have hremoved := h.removed _ 2 rfl ⟨rfl, rfl⟩ ⟨1, 1⟩ List.mem_cons_self
  exact absurd hremoved (by decide)

end PresentWait

end PyroFling
