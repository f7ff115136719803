import PyroFling.Lt.Encode
import PyroFling.Library.XorSum
import PyroFling.Proofs.Shuffle

/-!
# What the encoder emits

Every FEC block is the XOR of the zero-padded input blocks its index set names, and the index
sets are those of a freshly seeded shuffler, whatever the encoder did before.
-/

namespace PyroFling
open ByteMemory

/-- A message followed by zeros. -/
def padded (message : Bytes) (size : Nat) : Bytes := fun a => if a < size then message a else 0

/-- Byte `j` of the XOR of the blocks of `content` whose indices lie in `s`. -/
def blockXor (content : Bytes) (blockSize : Nat) (s : Finset Nat) (j : Nat) : UInt8 :=
  s.fold (· ^^^ ·) 0 (fun idx => content (blockSize * idx + j))

lemma blockXor_erase (content : Bytes) (blockSize j : Nat) {s : Finset Nat} {idx : Nat}
    (h : idx ∈ s) :
    blockXor content blockSize s j ^^^ content (blockSize * idx + j) =
      blockXor content blockSize (s.erase idx) j :=
  XorSum.fold_erase (· ^^^ ·) (fun _ => UInt8.xor_self) (fun _ => UInt8.zero_xor)
    (fun idx => content (blockSize * idx + j)) h

lemma blockXor_singleton (content : Bytes) (blockSize idx j : Nat) :
    blockXor content blockSize {idx} j = content (blockSize * idx + j) := by
  simp [blockXor]

/-- The number of blocks of a message is the least number that covers it. -/
lemma lt_blockCount_iff {size blockSize idx : Nat} (hB : 0 < blockSize) :
    idx < (size + blockSize - 1) / blockSize ↔ blockSize * idx < size := by
  rw [← Nat.succ_le_iff, Nat.le_div_iff_mul_le hB, Nat.succ_mul, Nat.mul_comm idx]
  omega

namespace Encoder

variable {e : Encoder} {message : Bytes} {size n : Nat}

/-- A block that is not the last one lies inside the message; the last one reaches its end. -/
lemma block_bounds (hn : n = (size + e.blockSize - 1) / e.blockSize) (hB : 0 < e.blockSize)
    {idx : Nat} (hidx : idx < n) :
    e.blockSize * idx < size ∧ (idx + 1 ≠ n → e.blockSize * idx + e.blockSize < size) ∧
      (idx + 1 = n → size ≤ e.blockSize * idx + e.blockSize) := by
  subst hn
  refine ⟨(lt_blockCount_iff hB).mp hidx, fun hne => ?_, fun heq => ?_⟩
  · have hlt : idx + 1 < (size + e.blockSize - 1) / e.blockSize := by omega
    simpa [Nat.mul_add] using (lt_blockCount_iff hB).mp hlt
  · have hnot : ¬idx + 1 < (size + e.blockSize - 1) / e.blockSize := by omega
    rw [lt_blockCount_iff hB, Nat.mul_add, Nat.mul_one] at hnot
    omega

/-- The first pick is copied, with the padding of the last block. -/
lemma combine_zero (hn : n = (size + e.blockSize - 1) / e.blockSize) (hB : 0 < e.blockSize)
    (xorData : Bytes) {idx j : Nat} (hidx : idx < n) (hj : j < e.blockSize) :
    e.combine message size n 0 idx xorData j = padded message size (e.blockSize * idx + j) := by
  obtain ⟨hstart, hinner, hlast⟩ := block_bounds hn hB hidx
  by_cases h : idx + 1 = n
  · have hend := hlast h
    simp only [combine, if_true, h, Bytes.zero, Bytes.store, Bytes.copy, padded,
      Bytes.drop_apply, Nat.mul_comm idx]
    by_cases hj' : e.blockSize * idx + j < size
    · have h1 : ¬(size - e.blockSize * idx ≤ j ∧
          j < size - e.blockSize * idx + (e.blockSize - (size - e.blockSize * idx))) := by omega
      have h2 : j < size - e.blockSize * idx := by omega
      rw [if_neg h1, if_pos h2, if_pos hj']
    · have h1 : size - e.blockSize * idx ≤ j ∧
          j < size - e.blockSize * idx + (e.blockSize - (size - e.blockSize * idx)) := by omega
      simp [h1, hj']
  · have hend := hinner h
    have hj' : e.blockSize * idx + j < size := by omega
    simp [combine, h, Bytes.copy, hj, padded, hj']

/-- Every later pick is added; past the end of the message there is nothing to add. -/
lemma combine_succ (hn : n = (size + e.blockSize - 1) / e.blockSize) (hB : 0 < e.blockSize)
    (xorData : Bytes) {i idx j : Nat} (hi : i ≠ 0) (hidx : idx < n) (hj : j < e.blockSize) :
    e.combine message size n i idx xorData j =
      xorData j ^^^ padded message size (e.blockSize * idx + j) := by
  obtain ⟨hstart, hinner, hlast⟩ := block_bounds hn hB hidx
  by_cases h : idx + 1 = n
  · simp only [combine, hi, if_false, h, if_true, Bytes.xor, padded, Bytes.drop_apply,
      Nat.mul_comm idx]
    by_cases hj' : e.blockSize * idx + j < size
    · have h2 : j < size - e.blockSize * idx := by omega
      simp [h2, hj']
    · have h2 : ¬j < size - e.blockSize * idx := by omega
      simp [h2, hj']
  · have hend := hinner h
    have hj' : e.blockSize * idx + j < size := by omega
    simp [combine, hi, h, Bytes.xor, hj, padded, hj']

lemma generateLoop_encoder (k i : Nat) (e : Encoder) (xorData : Bytes) :
    (generateLoop message size n k i e xorData).2 =
      { e with shuffler := (e.shuffler.pickMany k).2 } := by
  induction k generalizing i e xorData with
  | zero => rfl
  | succ k ih =>
    have hstep : (generateLoop message size n (k + 1) i e xorData).2 =
        (generateLoop message size n k (i + 1) { e with shuffler := e.shuffler.pick.2 }
          (e.combine message size n i e.shuffler.pick.1 xorData)).2 := rfl
    rw [hstep, ih]
    rfl

lemma generateLoop_data (hn : n = (size + e.blockSize - 1) / e.blockSize) (hB : 0 < e.blockSize)
    (k i : Nat) (s : Shuffler) (xorData : Bytes) (hi : i ≠ 0) {j : Nat} (hj : j < e.blockSize)
    (hlt : ∀ x ∈ (s.pickMany k).1, x < n) :
    (generateLoop message size n k i { e with shuffler := s } xorData).1 j =
      (s.pickMany k).1.foldl (fun acc idx => acc ^^^ padded message size (e.blockSize * idx + j))
        (xorData j) := by
  induction k generalizing i s xorData with
  | zero => rfl
  | succ k ih =>
    have hlist : (s.pickMany (k + 1)).1 = s.pick.1 :: (s.pick.2.pickMany k).1 := rfl
    rw [hlist] at hlt ⊢
    have hcombine : e.combine message size n i s.pick.1 xorData j =
        xorData j ^^^ padded message size (e.blockSize * s.pick.1 + j) :=
      combine_succ hn hB xorData hi (hlt _ List.mem_cons_self) hj
    rw [List.foldl_cons, ← hcombine]
    exact ih (i + 1) s.pick.2 _ (by omega) (fun x hx => hlt x (List.mem_cons_of_mem _ hx))

/-- One FEC block of positive degree is the XOR of the blocks that were picked for it. -/
lemma generate_data (hn : n = (size + e.blockSize - 1) / e.blockSize) (hB : 0 < e.blockSize)
    (hn31 : n ≤ 2 ^ 31) (hvalid : e.shuffler.Valid n) (xorData : Bytes) {k j : Nat} (hk : 0 < k)
    (hkn : k ≤ n) (hj : j < e.blockSize) :
    (e.generate xorData message size k).1 j =
      blockXor (padded message size) e.blockSize (e.shuffler.select n k).1.toFinset j := by
  obtain ⟨k, rfl⟩ := Nat.exists_eq_succ_of_ne_zero hk.ne'
  obtain ⟨hnodup, hlt, _⟩ := Shuffler.select_spec hvalid hn31 hkn
  have hcount : (size + e.blockSize - 1) / e.blockSize % 2 ^ 32 = n := by
    rw [← hn]; exact Nat.mod_eq_of_lt (by omega)
  let s := e.shuffler.begin n (k + 1)
  have hlist : (e.shuffler.select n (k + 1)).1 = s.pick.1 :: (s.pick.2.pickMany k).1 := rfl
  have hstep : (e.generate xorData message size (k + 1)).1 =
      (generateLoop message size n k 1 { e with shuffler := s.pick.2 }
        (e.combine message size n 0 s.pick.1 xorData)).1 := by
    simp only [generate, hcount]
    rfl
  rw [hlist] at hlt hnodup ⊢
  rw [hstep, generateLoop_data hn hB k 1 s.pick.2 _ one_ne_zero hj
    (fun x hx => hlt x (List.mem_cons_of_mem _ hx)),
    combine_zero hn hB xorData (hlt _ List.mem_cons_self) hj, blockXor,
    List.toFinset_cons, Finset.fold_insert (by simpa using (List.nodup_cons.mp hnodup).1)]
  exact XorSum.foldl_eq_fold (· ^^^ ·) (fun _ => UInt8.zero_xor) _ (List.nodup_cons.mp hnodup).2 _

lemma generate_encoder (hn : n = (size + e.blockSize - 1) / e.blockSize) (hn31 : n ≤ 2 ^ 31)
    (xorData : Bytes) (k : Nat) :
    (e.generate xorData message size k).2 =
      { e with shuffler := (e.shuffler.select n k).2 } := by
  have hcount : (size + e.blockSize - 1) / e.blockSize % 2 ^ 32 = n := by
    rw [← hn]; exact Nat.mod_eq_of_lt (by omega)
  simp only [generate, hcount, generateLoop_encoder]
  rfl

lemma generateFrom_data (hn : n = (size + e.blockSize - 1) / e.blockSize) (hB : 0 < e.blockSize)
    (hn31 : n ≤ 2 ^ 31) {even odd : Nat} (heven : even ≤ n) (hodd : odd ≤ n) {s : Shuffler}
    (hvalid : s.Valid n) (k i : Nat) (xorData : Bytes) :
    (generateFrom message size even odd k i { e with shuffler := s.after n even odd i }
        xorData).1.length = k ∧
      ∀ f j, (hf : f < k) → j < e.blockSize → 0 < fecDegree even odd (i + f) →
        ((generateFrom message size even odd k i { e with shuffler := s.after n even odd i }
          xorData).1.getD f (fun _ => 0)) j =
        blockXor (padded message size) e.blockSize (s.indices n even odd (i + f)).toFinset j := by
  induction k generalizing i xorData with
  | zero => exact ⟨rfl, fun f _ hf => absurd hf (Nat.not_lt_zero f)⟩
  | succ k ih =>
    let e' : Encoder := { e with shuffler := s.after n even odd i }
    have hdegree : fecDegree even odd i ≤ n := by unfold fecDegree; split <;> assumption
    have hencoder : (e'.generate xorData message size (fecDegree even odd i)).2 =
        { e with shuffler := s.after n even odd (i + 1) } :=
      generate_encoder (e := e') hn hn31 xorData _
    have hlist : (generateFrom message size even odd (k + 1) i e' xorData).1 =
        (e'.generate xorData message size (fecDegree even odd i)).1 ::
          (generateFrom message size even odd k (i + 1)
            { e with shuffler := s.after n even odd (i + 1) }
            (e'.generate xorData message size (fecDegree even odd i)).1).1 := by
      rw [← hencoder]
      rfl
    obtain ⟨hlen, hrest⟩ := ih (i + 1) (e'.generate xorData message size (fecDegree even odd i)).1
    rw [hlist]
    refine ⟨by simp [hlen], ?_⟩
    intro f j hf hj hpos
    cases f with
    | zero =>
      exact generate_data (e := e') hn hB hn31
        (Shuffler.after_valid hvalid hn31 fun j _ => fecDegree_le heven hodd j) xorData hpos hdegree hj
    | succ f =>
      have hindex : i + (f + 1) = i + 1 + f := by omega
      rw [hindex] at hpos ⊢
      exact hrest f j (by omega) hj hpos

/-- The FEC blocks of a message do not depend on what the encoder did before. -/
lemma encode_data (e : Encoder) (message : Bytes) (hn : n = (size + e.blockSize - 1) / e.blockSize) (hB : 0 < e.blockSize)
    (hn31 : n ≤ 2 ^ 31) {even odd : Nat} (heven : even ≤ n) (hodd : odd ≤ n)
    (seed numFecBlocks : Nat) (xorData : Bytes) :
    (e.encode seed xorData message size numFecBlocks even odd).1.length = numFecBlocks ∧
      ∀ f j, f < numFecBlocks → j < e.blockSize → 0 < fecDegree even odd f →
        ((e.encode seed xorData message size numFecBlocks even odd).1.getD f (fun _ => 0)) j =
        blockXor (padded message size) e.blockSize (fecIndices seed n even odd f).toFinset j := by
  have hagree := (({} : Shuffler).seed_flush_agree e.shuffler seed)
  have hvalid : (e.shuffler.flush.seed seed).Valid n := by
    constructor <;> simp [Shuffler.unused, Shuffler.flush, Shuffler.seed]
  obtain ⟨hlength, hdata⟩ : _ ∧ ∀ f j, (hf : f < numFecBlocks) → _ :=
    generateFrom_data (e := e) hn hB hn31 heven hodd hvalid numFecBlocks 0 xorData
  simp only [Nat.zero_add] at hdata
  refine ⟨hlength, fun f j hf hj hpos => ?_⟩
  have hindices : fecIndices seed n even odd f =
      (e.shuffler.flush.seed seed).indices n even odd f := hagree.indices n even odd f
  rw [hindices]
  exact hdata f j hf hj hpos

end Encoder

end PyroFling
