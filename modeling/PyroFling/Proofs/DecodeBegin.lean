import PyroFling.Proofs.DecodePush

/-!
# Starting a decode

`begin_decode` lays out the index arena and draws the members of every FEC block from the
freshly seeded shuffler. Whatever the decoder did before, it ends with nothing decoded and with
all its views describing the same index sets that the encoder draws.
-/

namespace PyroFling
open ByteMemory

/-- `num_u32_masks_per_output`. -/
def maskWords (fecBlocks : Nat) : Nat := (fecBlocks + 31) % 2 ^ 32 / 32

/-- The index arena of a decode, mask table and slices, can be counted in 32 bits, and the mask
table has a bit for every FEC block that has members. -/
def ArenaFits (n fecBlocks even odd : Nat) : Prop :=
  n < 2 ^ 32 ∧ (maskWords fecBlocks + fecBlocks) * n < 2 ^ 32 ∧
    (fecBlocks + 31 < 2 ^ 32 ∨ even = 0 ∧ odd = 0)

instance (n fecBlocks even odd : Nat) : Decidable (ArenaFits n fecBlocks even odd) :=
  inferInstanceAs (Decidable (_ ∧ _))

lemma fecIndices_eq_nil {even odd : Nat} (heven : even = 0) (hodd : odd = 0) (seed n f : Nat) :
    fecIndices seed n even odd f = [] := by
  apply List.eq_nil_of_length_eq_zero
  rw [length_fecIndices, fecDegree, heven, hodd, ite_self]

lemma ArenaFits.blocks_le {n fecBlocks even odd : Nat} (h : ArenaFits n fecBlocks even odd)
    (hF : fecBlocks ≠ 0) : n ≤ 2 ^ 31 := by
  have htwo : 2 * n ≤ (maskWords fecBlocks + fecBlocks) * n := by
    refine Nat.mul_le_mul_right n ?_
    unfold maskWords
    omega
  have := h.2.1
  omega

/-- The code that a seed and the two degrees stand for. -/
def fecCode (seed : Nat) {n fecBlocks even odd : Nat} (hfits : ArenaFits n fecBlocks even odd)
    (hdegree : ∀ f < fecBlocks, fecDegree even odd f ≤ n) : FecCode where
  blocks := n
  fecBlocks := fecBlocks
  masks := maskWords fecBlocks
  members f := if f < fecBlocks then (fecIndices seed n even odd f).toFinset else ∅
  members_lt f x hx := by
    split at hx
    · have hn := hfits.blocks_le (by omega)
      have hdraws := fecIndices_spec (i := f) hn (fun j hj => hdegree j (by omega)) seed
      exact hdraws.2 x (List.mem_toFinset.mp hx)
    · exact absurd hx (Finset.notMem_empty x)
  members_out f hf := by simp [Nat.not_lt.mpr hf]
  members_word f hne := by
    split at hne
    · obtain ⟨-, -, hmasks | ⟨hzero, hzero'⟩⟩ := hfits
      · unfold maskWords
        omega
      · rw [fecIndices_eq_nil hzero hzero'] at hne
        exact absurd hne Finset.not_nonempty_empty
    · exact absurd hne Finset.not_nonempty_empty
  blocks_lt := hfits.1
  blocks_le := hfits.blocks_le
  fits := hfits.2.1

namespace Decoder

variable {c : FecCode} {d : Decoder}

/-! ### The picks of one FEC block -/

/-- The mask table after the bit of `fecIndex` has been set for the picks of a list. -/
def setBits (masks fecIndex : Nat) (picks : List Nat) (m : Nat → BitVec 32) : Nat → BitVec 32 :=
  picks.foldl (fun m o =>
    let address := o * masks % 2 ^ 32 + fecIndex / 32
    Function.update m address (m address ||| 1#32 <<< (fecIndex % 32))) m

/-- The loop of `seed_block`, in terms of the list of its picks. -/
lemma seedPick_iterate (f k : Nat) (d : Decoder) :
    (seedPick f)^[k] d = { d with
      shuffler := (d.shuffler.pickMany k).2
      encodedBlocks := Function.update d.encodedBlocks f { d.encodedBlocks f with
        outputIndex := (d.shuffler.pickMany k).1.foldl (fun a o => a ^^^ o)
          (d.encodedBlocks f).outputIndex }
      indexBuffer := setBits d.numU32MasksPerOutput f (d.shuffler.pickMany k).1 d.indexBuffer
      fault := (d.shuffler.pickMany k).1.foldl (fun e o =>
        Fault.note e (d.maskAddress o (f / 32) < d.indexBufferCapacity) .outOfBounds) d.fault } := by
  induction k generalizing d with
  | zero => simp [Shuffler.pickMany, setBits]
  | succ k ih =>
    rw [Function.iterate_succ_apply, ih]
    simp [seedPick, setLink, storeIndex, note, Shuffler.pickMany, setBits, maskAddress]
    rfl

lemma seedBlock_eq (d : Decoder) (f : Nat) :
    let degree := fecDegree d.numXorBlocksEven d.numXorBlocksOdd f
    let drawn := d.shuffler.select d.outputBlocks degree
    d.seedBlock f = { d with
      indexBufferOffset := d.indexBufferOffset + d.outputBlocks
      shuffler := drawn.2
      encodedBlocks := Function.update d.encodedBlocks f { d.encodedBlocks f with
        resolvedIndices := d.indexBufferOffset
        outputIndex := drawn.1.foldl (fun a o => a ^^^ o) 0
        numUnresolvedIndices := degree }
      indexBuffer := setBits d.numU32MasksPerOutput f drawn.1 d.indexBuffer
      fault := drawn.1.foldl (fun e o =>
        Fault.note e (d.maskAddress o (f / 32) < d.indexBufferCapacity) .outOfBounds)
        (Fault.note d.fault (d.indexBufferOffset ≤ d.indexBufferCapacity) .outOfBounds) } := by
  simp [seedBlock, note, seedPick_iterate, setLink, Shuffler.select, maskAddress]
  rfl

lemma foldl_note_of_forall {l : List Nat} {ok : Nat → Bool} {e : Option Fault} {f : Fault}
    (h : ∀ o ∈ l, ok o = true) : l.foldl (fun e o => Fault.note e (ok o) f) e = e := by
  induction l with
  | nil => rfl
  | cons o l ih =>
    rw [List.foldl_cons, h o List.mem_cons_self, Fault.note_true]
    exact ih fun x hx => h x (List.mem_cons_of_mem _ hx)

lemma maskAddress_of_lt {o i : Nat} (hmasks : d.numU32MasksPerOutput = c.masks) (ho : o < c.blocks)
    (hi : i < c.masks) : d.maskAddress o i = o * c.masks + i := by
  have := FecCode.maskWord_lt ho hi
  rw [maskAddress, hmasks, Nat.mod_eq_of_lt (by omega)]

/-- Setting bits adds the picks to the set of one FEC block and changes no other set. -/
lemma setBits_getLsbD {f : Nat} (picks : List Nat) (hword : picks ≠ [] → f / 32 < c.masks)
    (hlt : ∀ o ∈ picks, o < c.blocks) (m : Nat → BitVec 32) {o g : Nat} (hg : g < 32 * c.masks) :
    ((setBits c.masks f picks m) (o * c.masks + g / 32)).getLsbD (g % 32) =
      ((m (o * c.masks + g / 32)).getLsbD (g % 32) || decide (g = f ∧ o ∈ picks)) := by
  induction picks generalizing m with
  | nil => simp [setBits]
  | cons x picks ih =>
    have hx := hlt x List.mem_cons_self
    have hword := hword (List.cons_ne_nil x picks)
    have hxlt := FecCode.maskWord_lt hx hword
    have haddr : x * c.masks % 2 ^ 32 = x * c.masks := Nat.mod_eq_of_lt (by omega)
    have hstep : setBits c.masks f (x :: picks) m = setBits c.masks f picks
        (Function.update m (x * c.masks + f / 32)
          (m (x * c.masks + f / 32) ||| 1#32 <<< (f % 32))) := by
      simp only [setBits, List.foldl_cons, haddr]
    rw [hstep, ih (fun _ => hword) fun o ho => hlt o (List.mem_cons_of_mem _ ho)]
    by_cases hsame : o * c.masks + g / 32 = x * c.masks + f / 32
    · obtain ⟨rfl, hgf⟩ := FecCode.maskWord_inj (by omega) hword hsame
      rw [hsame, Function.update_self, getLsbD_set _ (Nat.mod_lt _ (by norm_num))]
      by_cases hrem : g % 32 = f % 32
      · have : g = f := by omega
        simp [this]
      · have : g ≠ f := fun h => hrem (by rw [h])
        simp [hrem, this]
    · rw [Function.update_of_ne hsame]
      by_cases hgf : g = f
      · have hne : o ≠ x := by rintro rfl; exact hsame (by rw [hgf])
        simp [hgf, hne]
      · simp [hgf]

/-! ### The seeding loop -/

/-- The decoder after the members of the first `i` FEC blocks have been drawn. -/
structure Seeded (c : FecCode) (even odd : Nat) (s : Shuffler) (output : Nat × Bytes) (i : Nat)
    (d : Decoder) : Prop where
  output : (d.blockSize, d.outputData) = output
  outputBlocks : d.outputBlocks = c.blocks
  degrees : d.numXorBlocksEven = even ∧ d.numXorBlocksOdd = odd
  masks : d.numU32MasksPerOutput = c.masks
  encoded : d.numEncodedBlocks = c.fecBlocks
  capacity : (c.masks + c.fecBlocks) * c.blocks ≤ d.indexBufferCapacity
  offset : d.indexBufferOffset = c.slice i
  fault : d.fault = none
  shuffler : d.shuffler = s.after c.blocks even odd i
  mask : ∀ o < c.blocks, ∀ f < 32 * c.masks,
    (d.indexBuffer (o * c.masks + f / 32)).getLsbD (f % 32) = decide (f < i ∧ o ∈ c.members f)
  drawn : ∀ f < i, d.encodedBlocks f =
    { resolvedIndices := c.slice f, outputIndex := indexXor (c.members f)
      numUnresolvedIndices := (c.members f).card }
  fresh : ∀ f, i ≤ f → d.encodedBlocks f = {}
  idle : d.readyEncodedLinks = []
  undecoded : d.decodedBlockMask = fun _ => false
  count : d.decodedBlocks = 0

variable {even odd : Nat} {s : Shuffler} {output : Nat × Bytes}

lemma Seeded.seedBlock {i : Nat} (h : Seeded c even odd s output i d) (hi : i < c.fecBlocks)
    (hvalid : s.Valid c.blocks) (hdegree : ∀ f < c.fecBlocks, fecDegree even odd f ≤ c.blocks)
    (hmembers : c.members i = (s.indices c.blocks even odd i).toFinset) :
    Seeded c even odd s output (i + 1) (d.seedBlock i) := by
  have hn := c.blocks_le (by omega)
  have hslice : c.slice i ≤ d.indexBufferCapacity :=
    (Nat.mul_le_mul_right c.blocks (by omega)).trans h.capacity
  let picks := s.indices c.blocks even odd i
  obtain ⟨hnodup, hlt, -⟩ : picks.Nodup ∧ (∀ x ∈ picks, x < c.blocks) ∧ _ :=
    Shuffler.select_spec (Shuffler.after_valid hvalid hn fun j hj => hdegree j (by omega)) hn
      (hdegree i hi)
  have hseed : d.seedBlock i = { d with
      indexBufferOffset := c.slice (i + 1)
      shuffler := s.after c.blocks even odd (i + 1)
      encodedBlocks := Function.update d.encodedBlocks i
        { resolvedIndices := c.slice i, outputIndex := picks.foldl (fun a o => a ^^^ o) 0
          numUnresolvedIndices := fecDegree even odd i }
      indexBuffer := setBits c.masks i picks d.indexBuffer
      fault := picks.foldl (fun e o =>
        Fault.note e (d.maskAddress o (i / 32) < d.indexBufferCapacity) .outOfBounds) d.fault } := by
    have hoffset : c.slice i + c.blocks = c.slice (i + 1) := by unfold FecCode.slice; ring
    rw [seedBlock_eq]
    simp only [h.degrees.1, h.degrees.2, h.shuffler, h.offset, h.outputBlocks, h.masks,
      h.fresh i le_rfl, hoffset, hslice, decide_true, Fault.note_true]
    rfl
  have hword : picks ≠ [] → i / 32 < c.masks := by
    intro hne
    apply c.members_word i
    rw [hmembers]
    exact List.toFinset_nonempty_iff _ |>.mpr hne
  have hcard : fecDegree even odd i = (c.members i).card := by
    rw [hmembers, List.toFinset_card_of_nodup hnodup]
    exact (Shuffler.length_pickMany _ _).symm
  have hxor : picks.foldl (fun a o => a ^^^ o) 0 = indexXor (c.members i) := by
    refine (XorSum.foldl_eq_fold (fun a b : Nat => a ^^^ b) Nat.zero_xor id hnodup 0).trans ?_
    rw [Nat.zero_xor, indexXor, hmembers]
  rw [hseed]
  refine { output := h.output, outputBlocks := h.outputBlocks, degrees := h.degrees, masks := h.masks
           encoded := h.encoded, capacity := h.capacity, offset := rfl, fault := ?_
           shuffler := rfl, mask := ?_, drawn := ?_, fresh := ?_, idle := h.idle
           undecoded := h.undecoded, count := h.count }
  · simp only
    rw [foldl_note_of_forall, h.fault]
    intro o ho
    have haddr := FecCode.maskTable_le_slice (hlt o ho) (hword (List.ne_nil_of_mem ho)) i
    rw [maskAddress_of_lt h.masks (hlt o ho) (hword (List.ne_nil_of_mem ho)), decide_eq_true_eq]
    exact haddr.trans_le hslice
  · intro o ho f hf
    simp only
    rw [setBits_getLsbD picks hword hlt _ hf, h.mask o ho f hf]
    by_cases hfi : f = i
    · subst hfi
      simp [hmembers, picks]
    · have : f < i + 1 ↔ f < i := by omega
      simp [hfi, this]
  · intro f hf
    by_cases hfi : f = i
    · subst hfi
      simp [hxor, hcard]
    · simpa [hfi] using h.drawn f (by omega)
  · intro f hf
    have hne : f ≠ i := by omega
    simpa [hne] using h.fresh f (by omega)

lemma Seeded.foldl (hvalid : s.Valid c.blocks)
    (hdegree : ∀ f < c.fecBlocks, fecDegree even odd f ≤ c.blocks)
    (hmembers : ∀ f < c.fecBlocks, c.members f = (s.indices c.blocks even odd f).toFinset)
    (h : Seeded c even odd s output 0 d) (i : Nat) (hi : i ≤ c.fecBlocks) :
    Seeded c even odd s output i ((List.range i).foldl Decoder.seedBlock d) := by
  induction i with
  | zero => exact h
  | succ i ih =>
    rw [List.range_succ, List.foldl_append, List.foldl_cons, List.foldl_nil]
    exact (ih (by omega)).seedBlock (by omega) hvalid hdegree (hmembers i (by omega))

/-- Once every FEC block is seeded the decoder is ready for pushes. -/
lemma Seeded.quiet (h : Seeded c even odd s output c.fecBlocks d) (hvalid : s.Valid c.blocks)
    (hdegree : ∀ f < c.fecBlocks, fecDegree even odd f ≤ c.blocks) : Quiet c ∅ d := by
  have hlinks : ∀ f < c.fecBlocks, (d.encodedBlocks f).data = none := by
    intro f hf; rw [h.drawn f hf]
  have hdrawn : d.shuffler.fault = none := by
    rw [h.shuffler]
    rcases Nat.eq_zero_or_pos c.fecBlocks with hzero | hpos
    · rw [hzero]; exact hvalid.fault
    · exact (Shuffler.after_valid hvalid (c.blocks_le hpos.ne') hdegree).fault
  refine ⟨⟨?_, by simp [h.undecoded], by simp [h.count], Finset.empty_subset _⟩, h.idle, ?_⟩
  · refine { outputBlocks := h.outputBlocks, masks := h.masks, encoded := h.encoded
             capacity := h.capacity, fault := h.fault, drawn := hdrawn
             sub := fun f => Finset.sdiff_subset, mask := ?_, slice := ?_, unresolved := ?_
             index := ?_, received := ?_, resolved := ?_, ready := ?_ }
    · intro o ho f hf
      rw [h.mask o ho f hf]
      by_cases hlt : f < c.fecBlocks
      · simp [hlt, Decoder.unresolved]
      · simp [hlt, Decoder.unresolved, c.members_out f (Nat.not_lt.mp hlt)]
    · intro f hf; rw [h.drawn f hf]
    · intro f hf; rw [h.drawn f hf]; simp [Decoder.unresolved]
    · intro f hf; rw [h.drawn f hf]; simp [Decoder.unresolved]
    · intro f hf; rw [h.drawn f hf]; simp
    · intro f hf _
      simp [resolvedList, h.drawn f hf, Decoder.unresolved]
    · simp [h.idle]
  · intro f hf hsome
    simp [hlinks f hf] at hsome

/-! ### The arena -/

/-- What `reserve_indices` makes of a capacity. -/
def reservedCapacity (capacity need : Nat) : Nat :=
  if capacity < need then
    (growCapacity 64 64 (if capacity = 0 then 1 else capacity) need).getD capacity
  else capacity

lemma le_reservedCapacity {need : Nat} (hneed : need < 2 ^ 32) (capacity : Nat) :
    need ≤ reservedCapacity capacity need := by
  unfold reservedCapacity
  split
  · have hpos : 0 < (if capacity = 0 then 1 else capacity) := by
      split <;> omega
    obtain ⟨c, hc, hle⟩ := growCapacity_spec 64 need (by norm_num; omega) (by norm_num) 64 _ hpos
      (by have := Nat.mul_le_mul_right (2 ^ 64) hpos; omega)
    rw [hc]
    exact hle
  · omega

lemma reserveIndices_eq (d : Decoder) {need : Nat} (hneed : need < 2 ^ 32) :
    ∃ buffer, d.reserveIndices need = { d with
      indexBufferCapacity := reservedCapacity d.indexBufferCapacity need
      indexBuffer := buffer
      indexBufferOffset := 0 } := by
  have hle := le_reservedCapacity hneed d.indexBufferCapacity
  unfold reserveIndices reservedCapacity at *
  by_cases hgrow : d.indexBufferCapacity < need
  · simp only [hgrow, if_true] at hle ⊢
    cases hcapacity : growCapacity 64 64 (if d.indexBufferCapacity = 0 then 1 else d.indexBufferCapacity) need with
    | none =>
      rw [hcapacity, Option.getD_none] at hle
      omega
    | some capacity => exact ⟨fun _ => 0, rfl⟩
  · exact ⟨d.indexBuffer, by simp only [hgrow, if_false]⟩

/-- The arena of any decoder, whether or not it is large enough. -/
lemma beginArena_eq {d : Decoder} (hB : 0 < d.blockSize) (seed : Nat) (data : Bytes)
    (n fecBlocks even odd : Nat) :
    let blocks := n % 2 ^ 32
    let words := maskWords fecBlocks * blocks % 2 ^ 32
    let capacity := reservedCapacity d.indexBufferCapacity
      ((fecBlocks * blocks + maskWords fecBlocks * blocks) % 2 ^ 32)
    ∃ buffer : Nat → BitVec 32, (∀ a < words, buffer a = 0) ∧
      d.beginArena seed data (n * d.blockSize) fecBlocks even odd = { d with
        outputData := data, outputBlocks := blocks, numXorBlocksEven := even, numXorBlocksOdd := odd
        decodedBlocks := 0, decodedBlockMask := fun _ => false, readyEncodedLinks := []
        numU32MasksPerOutput := maskWords fecBlocks, indexBuffer := buffer
        indexBufferCapacity := capacity, indexBufferOffset := words
        shuffler := (d.shuffler.seed seed).flush, encodedBlocks := fun _ => {}
        numEncodedBlocks := fecBlocks
        fault := Fault.note none (words ≤ capacity) .outOfBounds } := by
  intro blocks words capacity
  let start : Decoder := (({ d with
    outputData := data, outputBlocks := blocks, numXorBlocksEven := even, numXorBlocksOdd := odd
    decodedBlocks := 0, decodedBlockMask := fun _ => false, readyEncodedLinks := []
    numU32MasksPerOutput := maskWords fecBlocks, fault := none } : Decoder).note
    (d.blockSize ≠ 0) .divisionByZero).note (n * d.blockSize % d.blockSize = 0) .assertion
  let need := (fecBlocks * blocks + maskWords fecBlocks * blocks) % 2 ^ 32
  have hneed : need < 2 ^ 32 := Nat.mod_lt _ (by norm_num)
  have hblocks : n * d.blockSize / d.blockSize % 2 ^ 32 = blocks := by
    rw [Nat.mul_div_cancel _ hB]
  have hstart : start.fault = none := by
    simp [start, note, hB.ne']
  obtain ⟨buffer, hreserve⟩ := reserveIndices_eq start hneed
  refine ⟨fun a => if a < words then 0 else buffer a, fun a ha => if_pos ha, ?_⟩
  have harena : d.beginArena seed data (n * d.blockSize) fecBlocks even odd =
      { (start.reserveIndices need).clearMasks words with
        indexBufferOffset := (start.reserveIndices need).indexBufferOffset + words
        shuffler := ((start.reserveIndices need).shuffler.seed seed).flush
        encodedBlocks := fun _ => {}
        numEncodedBlocks := fecBlocks } := by
    simp only [beginArena, hblocks, ← maskWords.eq_1]
    rfl
  rw [harena, hreserve]
  simp only [clearMasks, note, hstart, Nat.zero_add]
  rfl

lemma beginArena_seeded (c : FecCode) (d : Decoder) (seed : Nat) (data : Bytes) (even odd : Nat)
    (hB : 0 < d.blockSize) (hmasks : c.masks = maskWords c.fecBlocks) :
    Seeded c even odd (d.shuffler.seed seed).flush (d.blockSize, data) 0
      (d.beginArena seed data (c.blocks * d.blockSize) c.fecBlocks even odd) := by
  have hsum := c.fits
  have hneed : (c.fecBlocks * c.blocks + c.masks * c.blocks) % 2 ^ 32 =
      (c.masks + c.fecBlocks) * c.blocks := by
    rw [← Nat.add_mul, Nat.add_comm c.fecBlocks, Nat.mod_eq_of_lt hsum]
  have htable : c.masks * c.blocks % 2 ^ 32 = c.masks * c.blocks :=
    Nat.mod_eq_of_lt (lt_of_le_of_lt (Nat.mul_le_mul_right _ (Nat.le_add_right _ _)) hsum)
  have hcapacity := le_reservedCapacity hsum d.indexBufferCapacity
  have htable_le : c.masks * c.blocks ≤
      reservedCapacity d.indexBufferCapacity ((c.masks + c.fecBlocks) * c.blocks) :=
    (Nat.mul_le_mul_right _ (Nat.le_add_right _ _)).trans hcapacity
  obtain ⟨buffer, hzero, harena⟩ := beginArena_eq hB seed data c.blocks c.fecBlocks even odd
  rw [Nat.mod_eq_of_lt c.blocks_lt, ← hmasks, htable] at hzero
  rw [Nat.mod_eq_of_lt c.blocks_lt, ← hmasks, htable, hneed, decide_eq_true htable_le,
    Fault.note_true] at harena
  rw [harena]
  refine { output := rfl, outputBlocks := rfl, degrees := ⟨rfl, rfl⟩, masks := rfl, encoded := rfl
           capacity := hcapacity, offset := by simp [FecCode.slice], fault := rfl
           shuffler := rfl, mask := ?_, drawn := by simp, fresh := by simp, idle := rfl
           undecoded := rfl, count := rfl }
  intro o ho f hf
  have haddr := FecCode.maskTable_le_slice ho (i := f / 32) (by omega) 0
  simp only [FecCode.slice, Nat.add_zero] at haddr
  simp [hzero _ haddr]

lemma beginDecode_seeded (d : Decoder) (seed : Nat) (data : Bytes) (hB : 0 < d.blockSize)
    (hmasks : c.masks = maskWords c.fecBlocks)
    (hdegree : ∀ f < c.fecBlocks, fecDegree even odd f ≤ c.blocks)
    (hmembers : ∀ f < c.fecBlocks,
      c.members f = (fecIndices seed c.blocks even odd f).toFinset) :
    Seeded c even odd (d.shuffler.seed seed).flush (d.blockSize, data) c.fecBlocks
      (d.beginDecode seed data (c.blocks * d.blockSize) c.fecBlocks even odd) := by
  have harena := beginArena_seeded c d seed data even odd hB hmasks
  have hvalid := Shuffler.valid_of_flush d.shuffler seed c.blocks
  exact harena.foldl hvalid hdegree
    (fun f hf => by rw [hmembers f hf, fecIndices_of_flush]) c.fecBlocks le_rfl

/-- `begin_decode` forgets everything the decoder did before. -/
lemma beginDecode_spec (d : Decoder) (seed : Nat) (data : Bytes) (hB : 0 < d.blockSize)
    (hmasks : c.masks = maskWords c.fecBlocks)
    (hdegree : ∀ f < c.fecBlocks, fecDegree even odd f ≤ c.blocks)
    (hmembers : ∀ f < c.fecBlocks,
      c.members f = (fecIndices seed c.blocks even odd f).toFinset) :
    Quiet c ∅ (d.beginDecode seed data (c.blocks * d.blockSize) c.fecBlocks even odd) ∧
      (d.beginDecode seed data (c.blocks * d.blockSize) c.fecBlocks even odd).blockSize = d.blockSize ∧
      (d.beginDecode seed data (c.blocks * d.blockSize) c.fecBlocks even odd).outputData = data ∧
      ∀ f < c.fecBlocks, ((d.beginDecode seed data (c.blocks * d.blockSize) c.fecBlocks even
        odd).encodedBlocks f).data = none := by
  have hseeded := beginDecode_seeded d seed data hB hmasks hdegree hmembers
  obtain ⟨hsize, hdata⟩ := Prod.mk.inj hseeded.output
  exact ⟨hseeded.quiet (Shuffler.valid_of_flush d.shuffler seed c.blocks) hdegree, hsize, hdata,
    fun f hf => congrArg EncodedLink.data (hseeded.drawn f hf)⟩

end Decoder

end PyroFling
