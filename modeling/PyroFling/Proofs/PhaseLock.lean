import PyroFling.PhaseLoop

/-!
# The phase loop stays locked

The interval is the base and as many fractions of it as the counter of ticks says, in exact numbers. The
counter never leaves a small range and runs down to zero when the client asks for nothing.
-/

namespace PyroFling.PhaseLoop

variable {h : PhaseLoop} {c : Call}

/-- The interval is where the counter says, within one branch of the range of the counter. -/
structure Locked (h₀ h : PhaseLoop) (bound : Int) : Prop where
  timebase : h.timebaseNs = h₀.timebaseNs
  fraction : h.timebaseNsFraction = h₀.timebaseNsFraction
  interval : (h.targetIntervalNs.toNat : Int) =
    h₀.timebaseNs.toNat + h.tickIntervalOffset * h₀.timebaseNsFraction.toNat
  lower : -bound ≤ h.tickIntervalOffset
  upper : h.tickIntervalOffset ≤ bound

/-- The base is short enough for the counter to move the interval without wrapping. -/
structure Based (h₀ : PhaseLoop) : Prop where
  fraction : h₀.timebaseNsFraction.toNat = h₀.timebaseNs.toNat / 10000
  small : h₀.timebaseNs.toNat ≤ 1000000000

lemma based_new (fps : BitVec 32) : Based (new fps) := by
  have hquotient : (1000000000#32 / fps).toNat ≤ 1000000000 := by
    rw [BitVec.toNat_udiv]
    exact (Nat.div_le_self _ _).trans (by decide)
  have hlt := (1000000000#32 / fps).isLt
  have hbase : (new fps).timebaseNs.toNat = (1000000000#32 / fps).toNat := by
    rw [new, BitVec.toNat_setWidth, Nat.mod_eq_of_lt (by omega)]
  constructor
  · rw [new, BitVec.toNat_udiv]
    rfl
  · rw [hbase]
    exact hquotient

lemma locked_new (fps : BitVec 32) : Locked (new fps) (new fps) 50 where
  timebase := rfl
  fraction := rfl
  interval := by simp [new]
  lower := by simp [new]
  upper := by simp [new]

lemma Locked.moves {h₀ h' : PhaseLoop} {bound bound' : Int} (hbase : Based h₀) (hl : Locked h₀ h bound)
    (k : Int) (hk : -2 ≤ k ∧ k ≤ 2) (htimebase : h'.timebaseNs = h.timebaseNs)
    (hfraction : h'.timebaseNsFraction = h.timebaseNsFraction)
    (htick : h'.tickIntervalOffset = h.tickIntervalOffset + k)
    (hinterval : (h'.targetIntervalNs.toNat : Int) =
      (h.targetIntervalNs.toNat + k * h.timebaseNsFraction.toNat) % 2 ^ 64)
    (hbound : bound ≤ 52) (hlower : -bound' ≤ h.tickIntervalOffset + k)
    (hupper : h.tickIntervalOffset + k ≤ bound') : Locked h₀ h' bound' := by
  have hsmall := hbase.small
  have hquotient := hbase.fraction
  have hmoved : (h.targetIntervalNs.toNat : Int) + k * h₀.timebaseNsFraction.toNat =
      h₀.timebaseNs.toNat + (h.tickIntervalOffset + k) * h₀.timebaseNsFraction.toNat := by
    rw [hl.interval]
    ring
  have hlow : -54 * (h₀.timebaseNsFraction.toNat : Int) ≤
      (h.tickIntervalOffset + k) * h₀.timebaseNsFraction.toNat := by
    apply mul_le_mul_of_nonneg_right _ (Int.natCast_nonneg _)
    have := hl.lower
    omega
  have hhigh : (h.tickIntervalOffset + k) * h₀.timebaseNsFraction.toNat ≤
      54 * (h₀.timebaseNsFraction.toNat : Int) := by
    apply mul_le_mul_of_nonneg_right _ (Int.natCast_nonneg _)
    have := hl.upper
    omega
  refine ⟨htimebase.trans hl.timebase, hfraction.trans hl.fraction, ?_, ?_, ?_⟩
  · rw [hinterval, hl.fraction, hmoved, htick]
    apply Int.emod_eq_of_lt
    · omega
    · omega
  · omega
  · omega

/-- Following the client takes the counter out of its range by one at most. -/
lemma Locked.respond {h₀ : PhaseLoop} (hbase : Based h₀) (hl : Locked h₀ h 50) (offset : BitVec 32)
    (time : BitVec 64) : Locked h₀ (h.respond offset time).2.2 51 := by
  have hlower := hl.lower
  have hupper := hl.upper
  have hstay : Locked h₀ h 51 := ⟨hl.timebase, hl.fraction, hl.interval, by omega, by omega⟩
  have htwo : (2 * h.timebaseNsFraction).toNat = 2 * h.timebaseNsFraction.toNat % 2 ^ 64 :=
    BitVec.toNat_mul 2 h.timebaseNsFraction
  rw [PhaseLoop.respond]
  split_ifs with hfar hlater hsooner
  · refine hl.moves hbase 2 (by decide) rfl rfl rfl ?_ (by decide) (by omega) (by omega)
    rw [BitVec.toNat_add, htwo]
    omega
  · refine hl.moves hbase (-2) (by decide) rfl rfl (Int.sub_eq_add_neg) ?_ (by decide) (by omega) (by omega)
    rw [BitVec.toNat_sub, htwo]
    omega
  · exact hstay
  · exact hstay

lemma Locked.center {h₀ : PhaseLoop} (hbase : Based h₀) (hl : Locked h₀ h 51) :
    Locked h₀ h.center.2 50 := by
  have hlower := hl.lower
  have hupper := hl.upper
  rw [PhaseLoop.center]
  split_ifs with hpos hneg
  · refine hl.moves hbase (-1) (by decide) rfl rfl (Int.sub_eq_add_neg) ?_ (by decide) (by omega) (by omega)
    rw [BitVec.toNat_sub]
    omega
  · refine hl.moves hbase 1 (by decide) rfl rfl rfl ?_ (by decide) (by omega) (by omega)
    rw [BitVec.toNat_add]
    omega
  · have hcentered : h.tickIntervalOffset = 0 := by omega
    refine ⟨hl.timebase, hl.fraction, hl.interval, ?_, ?_⟩
    · change -50 ≤ h.tickIntervalOffset
      omega
    · change h.tickIntervalOffset ≤ 50
      omega

lemma step_eq (h : PhaseLoop) (c : Call) :
    h.step c = (h.respond c.phaseOffsetUs (targetTimeNs c)).2.2.center.2 := rfl

lemma Locked.step {h₀ : PhaseLoop} (hbase : Based h₀) (hl : Locked h₀ h 50) (c : Call) :
    Locked h₀ (h.step c) 50 := by
  rw [step_eq]
  exact (hl.respond hbase _ _).center hbase

lemma Locked.run {h₀ : PhaseLoop} (hbase : Based h₀) (hl : Locked h₀ h 50) (calls : List Call) :
    Locked h₀ (calls.foldl PhaseLoop.step h) 50 := by
  induction calls generalizing h with
  | nil => exact hl
  | cons c calls ih => exact ih (hl.step hbase c)

/-! ### Silence -/

/-- An offset of which the loop takes no notice. -/
def Call.IsQuiet (c : Call) : Prop := -200 ≤ c.phaseOffsetUs.toInt ∧ c.phaseOffsetUs.toInt ≤ 200

lemma respond_quiet {c : Call} (hquiet : c.IsQuiet) (h : PhaseLoop) (time : BitVec 64) :
    (h.respond c.phaseOffsetUs time).2.2 = h := by
  obtain ⟨hlow, hhigh⟩ := hquiet
  have hnear : (200#32).slt c.phaseOffsetUs.abs = false := by
    have h200 : (200#32).toInt = 200 := by decide
    have hmin : c.phaseOffsetUs ≠ BitVec.intMin 32 := by
      intro heq
      rw [heq] at hlow
      revert hlow
      decide
    rw [BitVec.slt_eq_decide, BitVec.toInt_abs_eq_natAbs_of_ne_intMin hmin, h200, decide_eq_false_iff_not]
    omega
  rw [respond, hnear, if_neg Bool.false_ne_true]

lemma natAbs_step_quiet (hquiet : c.IsQuiet) :
    (h.step c).tickIntervalOffset.natAbs = h.tickIntervalOffset.natAbs - 1 := by
  rw [step_eq, respond_quiet hquiet, center]
  split_ifs with hpos hneg
  · change (h.tickIntervalOffset - 1).natAbs = _
    omega
  · change (h.tickIntervalOffset + 1).natAbs = _
    omega
  · change h.tickIntervalOffset.natAbs = _
    omega

lemma natAbs_run_quiet (quiet : List Call) (hquiet : ∀ c ∈ quiet, c.IsQuiet) :
    (quiet.foldl step h).tickIntervalOffset.natAbs = h.tickIntervalOffset.natAbs - quiet.length := by
  induction quiet generalizing h with
  | nil => rfl
  | cons c quiet ih =>
    have hrest := ih (h := h.step c) fun d hd => hquiet d (List.mem_cons_of_mem c hd)
    have hfirst := natAbs_step_quiet (h := h) (hquiet c List.mem_cons_self)
    rw [List.foldl_cons, hrest, hfirst, List.length_cons]
    omega

/-- After every run of calls the interval is the base and the counted fractions of it, exactly, and
within half a percent of the base. Fifty calls that ask for nothing, and any number of them, bring it
back to the base. -/
theorem phase_locked (fps : BitVec 32) (calls : List Call) :
    let h := calls.foldl step (new fps)
    h.timebaseNs = (new fps).timebaseNs ∧ h.timebaseNsFraction = (new fps).timebaseNsFraction ∧
      (h.targetIntervalNs.toNat : Int) =
        h.timebaseNs.toNat + h.tickIntervalOffset * h.timebaseNsFraction.toNat ∧
      |h.tickIntervalOffset| ≤ 50 ∧
      200 * |(h.targetIntervalNs.toNat : Int) - h.timebaseNs.toNat| ≤ h.timebaseNs.toNat ∧
      ∀ quiet : List Call, (∀ c ∈ quiet, c.IsQuiet) → 50 ≤ quiet.length →
        (quiet.foldl step h).targetIntervalNs = h.timebaseNs := by
  intro h
  have hbase := based_new fps
  have hl : Locked (new fps) h 50 := (locked_new fps).run hbase calls
  have hrange : |h.tickIntervalOffset| ≤ 50 := abs_le.2 ⟨hl.lower, hl.upper⟩
  refine ⟨hl.timebase, hl.fraction, ?_, hrange, ?_, ?_⟩
  · rw [hl.timebase, hl.fraction]
    exact hl.interval
  · have hdistance : (h.targetIntervalNs.toNat : Int) - h.timebaseNs.toNat =
        h.tickIntervalOffset * (new fps).timebaseNsFraction.toNat := by
      rw [hl.interval, hl.timebase]
      ring
    have hfraction := hbase.fraction
    have hproduct : |h.tickIntervalOffset| * ((new fps).timebaseNsFraction.toNat : Int) ≤
        50 * ((new fps).timebaseNsFraction.toNat : Int) :=
      mul_le_mul_of_nonneg_right hrange (Int.natCast_nonneg _)
    rw [hdistance, abs_mul, Int.abs_natCast, hl.timebase]
    omega
  · intro quiet hquiet hlong
    have hrun := hl.run hbase quiet
    have hzero : (quiet.foldl step h).tickIntervalOffset = 0 := by
      have hcount := natAbs_run_quiet (h := h) quiet hquiet
      have hlower := hl.lower
      have hupper := hl.upper
      omega
    have hinterval := hrun.interval
    rw [hzero, zero_mul, add_zero] at hinterval
    apply BitVec.eq_of_toNat_eq
    rw [hl.timebase]
    exact_mod_cast hinterval

/-- At 60 frames a second the interval is half a percent too long after 60 late frames, and back at its base
after 50 quiet calls. -/
theorem phase_locked_lateFrames :
    let late := (List.replicate 60 { phaseOffsetUs := 1000 }).foldl step (new 60)
    late.targetIntervalNs = late.timebaseNs + 50 * late.timebaseNsFraction ∧
      late.targetIntervalNs ≠ late.timebaseNs ∧
      ((List.replicate 50 { phaseOffsetUs := 200 }).foldl step late).targetIntervalNs = late.timebaseNs := by
  have hquiet : ∀ c ∈ List.replicate 50 ({ phaseOffsetUs := 200 } : Call), c.IsQuiet := by
    intro c hc
    rw [List.eq_of_mem_replicate hc]
    exact ⟨by decide, by decide⟩
  refine ⟨by decide +kernel, by decide +kernel, ?_⟩
  exact (phase_locked 60 _).2.2.2.2.2 _ hquiet (by decide)

end PyroFling.PhaseLoop
