import PyroFling.ViewFormats

/-!
# Reads of the view formats

The list of view formats is read as far as the message says, and the checks before it do not look at
that number.
-/

namespace PyroFling

namespace FormatList

variable {g : WireImageGroup} {behind : Nat → BitVec 32} {input : ImageGroupInput} {l : FormatList}

/-- The list is only read where it is, and Vulkan gets no longer one. -/
structure StaysInside (l : FormatList) : Prop where
  reads : ∀ i ∈ l.reads, i < maxViewFormats
  counts : ∀ n, some n ∈ l.counts → n ≤ maxViewFormats

lemma readLoop_reads (k i : Nat) :
    (readLoop g behind k i l).reads = l.reads ++ List.range' i k := by
  induction k generalizing i l with
  | zero => simp [readLoop]
  | succ k ih => rw [readLoop, ih, List.append_assoc, List.range'_succ, List.singleton_append]

lemma readLoop_counts (k i : Nat) : (readLoop g behind k i l).counts = l.counts := by
  induction k generalizing i l with
  | zero => rfl
  | succ k ih => rw [readLoop, ih]

lemma createLoop_reads (count : Option Nat) (is : List Nat) :
    (createLoop input count is l).reads = l.reads := by
  induction is generalizing l with
  | nil => rfl
  | cons i is ih =>
    rw [createLoop]
    split_ifs
    · exact ih
    · rfl

lemma mem_createLoop_counts {count : Option Nat} {is : List Nat} {n : Option Nat}
    (h : n ∈ (createLoop input count is l).counts) : n ∈ l.counts ∨ n = count := by
  induction is generalizing l with
  | nil => exact .inl h
  | cons i is ih =>
    have hsnoc : ∀ m ∈ l.counts ++ [count], m ∈ l.counts ∨ m = count := by simp
    rw [createLoop] at h
    split_ifs at h
    · exact (ih h).elim (hsnoc n) .inr
    · exact hsnoc n h

end FormatList

/-- What is refused is answered with an error. -/
lemma handleSwapchainCreate_of_isRefused (c : Swapchain) {input : ImageGroupInput} {g : ImageGroup}
    (h : g.IsRefused input) : c.handleSwapchainCreate input g =
      { c with imageGroupSerial := g.serial }.send (.errorParameter g.serial) := by
  unfold ImageGroup.IsRefused at h
  rw [Swapchain.handleSwapchainCreate]
  split_ifs <;> first | rfl | tauto

lemma staysInside_iff (input : ImageGroupInput) (behind : Nat → BitVec 32) (m : Message) :
    (handleViewFormats input behind m).StaysInside ↔
      (WireImageGroup.ofBytes m.wire).vkNumViewFormats.toNat ≤ maxViewFormats ∨
        ((WireImageGroup.ofBytes m.wire).toImageGroup m.serial m.fds.length).IsRefused input := by
  set g := WireImageGroup.ofBytes m.wire with hg
  have hnothing : FormatList.StaysInside {} :=
    ⟨fun _ h => absurd h List.not_mem_nil, fun _ h => absurd h List.not_mem_nil⟩
  rw [handleViewFormats]
  dsimp only
  rw [← hg]
  by_cases hrefused : (g.toImageGroup m.serial m.fds.length).IsRefused input
  · rw [if_pos hrefused]
    exact iff_of_true hnothing (.inr hrefused)
  rw [if_neg hrefused, or_iff_left hrefused]
  by_cases hsrgb : g.vkNumViewFormats.toNat = 0 ∧ input.formatIsSrgb = true
  · rw [if_pos hsrgb]
    exact iff_of_true hnothing (by omega)
  rw [if_neg hsrgb]
  set count := g.vkNumViewFormats.toNat
  set read := FormatList.readLoop g behind count 0 {}
  have hreads : read.reads = List.range count := by
    rw [FormatList.readLoop_reads, List.nil_append, List.range_eq_range']
  have hcounts : read.counts = [] := FormatList.readLoop_counts count 0
  have hinside : ∀ l : FormatList, l.reads = List.range count →
      (∀ n, some n ∈ l.counts → n = count) → (l.StaysInside ↔ count ≤ maxViewFormats) := by
    intro l hlr hlc
    constructor
    · intro h
      by_contra hlong
      have hlast := h.reads maxViewFormats (by
        rw [hlr, List.mem_range]
        omega)
      exact lt_irrefl _ hlast
    · intro hle
      refine ⟨fun i hi => ?_, fun n hn => (hlc n hn).trans_le hle⟩
      rw [hlr, List.mem_range] at hi
      exact hi.trans_le hle
  have hreadOnly : read.StaysInside ↔ count ≤ maxViewFormats := by
    apply hinside read hreads
    intro n hn
    rw [hcounts] at hn
    exact absurd hn List.not_mem_nil
  cases input.maxExtent with
  | none => exact hreadOnly
  | some extent =>
    obtain ⟨width, height⟩ := extent
    dsimp only
    split
    · exact hreadOnly
    · apply hinside
      · rw [FormatList.createLoop_reads, hreads]
      · intro n hn
        rcases FormatList.mem_createLoop_counts hn with hold | hnew
        · rw [hcounts] at hold
          exact absurd hold List.not_mem_nil
        · by_cases hzero : count = 0
          · rw [if_pos hzero] at hnew
            exact absurd hnew nofun
          · rw [if_neg hzero] at hnew
            exact Option.some.inj hnew

/-- The view formats are only read inside the message, and Vulkan gets no more of them, if and only if
the message says that there are at most as many, or is refused before: then the handler answers with an
error. -/
theorem viewFormats_inside_iff (input : ImageGroupInput) (behind : Nat → BitVec 32) (m : Message) :
    let group := (WireImageGroup.ofBytes m.wire).toImageGroup m.serial m.fds.length
    ((handleViewFormats input behind m).StaysInside ↔
      (WireImageGroup.ofBytes m.wire).vkNumViewFormats.toNat ≤ maxViewFormats ∨ group.IsRefused input) ∧
    (group.IsRefused input → ∀ c : Swapchain, c.handleSwapchainCreate input group =
      { c with imageGroupSerial := group.serial }.send (.errorParameter group.serial)) :=
  ⟨staysInside_iff input behind m, fun hrefused c => handleSwapchainCreate_of_isRefused c hrefused⟩

/-- A client's request for an image group without images that says that it has sixteen view formats. -/
def sixteenFormats : Option SocketPacket :=
  sendMessage .imageGroup 1
    (toLittleEndian 4 0 ++ toLittleEndian 4 1 ++ toLittleEndian 4 1 ++ toLittleEndian 4 37 ++
      toLittleEndian 4 0 ++ toLittleEndian 4 5 ++ toLittleEndian 4 0 ++ toLittleEndian 4 1 ++
      toLittleEndian 4 16 ++ List.replicate 68 0) []

/-- The server parses it and reads behind the list. -/
theorem sixteenFormats_read :
    ((sixteenFormats.bind parseMessage).map fun m =>
      (m.type, (handleViewFormats {} (fun _ => 0) m).reads)) = some (.imageGroup, List.range 16) ∧
    ∀ m, sixteenFormats.bind parseMessage = some m → ¬(handleViewFormats {} (fun _ => 0) m).StaysInside := by
  have hread : ((sixteenFormats.bind parseMessage).map fun m =>
      (m.type, (handleViewFormats {} (fun _ => 0) m).reads)) = some (.imageGroup, List.range 16) := by
    decide +kernel
  refine ⟨hread, fun m hm hinside => ?_⟩
  rw [hm, Option.map_some, Option.some.injEq, Prod.mk.injEq] at hread
  have hbehind : 15 ∈ (handleViewFormats {} (fun _ => 0) m).reads := by
    rw [hread.2]
    decide
  exact lt_irrefl _ (hinside.reads 15 hbehind)

end PyroFling
