import PyroFling.Proofs.DuplicateDatagrams
import PyroFling.Proofs.HostileDatagrams

/-!
# Which indices the client reads

A datagram carries fourteen bits of the index of its data block. The client takes the rest from the block
before it. A packet whose size rounds to nothing in 32 bits has no buffer, and then every datagram is taken
for the first one of its packet; the indices of the blocks that are sent are small enough for that.
-/

namespace PyroFling
open ByteMemory

namespace ReconstructedPacket

end ReconstructedPacket

namespace WrittenPacket

open PyroStreamConnection ReconstructedPacket

variable {w : WrittenPacket} {p q : ReconstructedPacket} {a : w.Arrivals} {k : Fin w.datagrams.length}

/-- The slot knows the index of the last block. -/
structure Tracks (a : w.Arrivals) (isError : Bool) (p : ReconstructedPacket) : Prop where
  bufferSize : p.bufferSize ≠ 0
  accum : p.subpacketSeqAccum = lastBlock a
  last : p.lastSubpacketRawSeq.toNat = lastBlock a % 2 ^ 14
  isError : p.isError = isError

lemma Tracks.prepareDecode {e : Bool} (h : Tracks a e p) (hint : k.val < w.blocks → k.val < 2 ^ 31)
    (hwindow : k.val < w.blocks → k.val < lastBlock a + 2 ^ 13 ∧ lastBlock a ≤ k.val + 2 ^ 13) :
    Tracks (a ++ [k]) e (p.prepareDecode (w.datagrams.get k).header) := by
  rw [ReconstructedPacket.prepareDecode, if_neg h.bufferSize]
  rcases Nat.lt_or_ge k.val w.blocks with hk | hk
  · have hblock := (w.datagrams_spec.2 k k.isLt).1 hk
    have hplain : ReconstructedPacket.isFec (w.datagrams.get k).header = false := hblock.plain
    have hadvance : p.advance (w.datagrams.get k).header = { p with
        subpacketSeqAccum := k.val
        lastSubpacketRawSeq := payloadGetSubpacketSeq (w.datagrams.get k).header.encoded } :=
      advance_eq (hint hk) hblock h.accum h.last (hwindow hk)
    rw [hplain, if_neg Bool.false_ne_true, hadvance]
    refine ⟨h.bufferSize, ?_, ?_, h.isError⟩
    · rw [lastBlock_snoc_data a hk]
    · rw [lastBlock_snoc_data a hk]
      exact hblock.subseq
  · have hflag : ReconstructedPacket.isFec (w.datagrams.get k).header = true := ((w.datagrams_spec.2 k k.isLt).2 hk).flagged
    rw [hflag, if_pos rfl]
    refine ⟨h.bufferSize, ?_, ?_, h.isError⟩
    · rw [lastBlock_snoc_fec a hk]
      exact h.accum
    · rw [lastBlock_snoc_fec a hk]
      exact h.last

lemma InWindow.left {a b : w.Arrivals} (h : InWindow (a ++ b)) : InWindow a := by
  have hsplit : dataBlocks (a ++ b) = dataBlocks a ++ dataBlocks b := by
    rw [dataBlocks, List.map_append, List.filter_append]
    rfl
  rw [InWindow, hsplit, ← List.cons_append, List.isChain_append] at h
  exact h.1

/-- Blocks of small indices are in the window, whatever arrives. -/
lemma inWindow_of_small (hsmall : ∀ k ∈ a, k.val < w.blocks → k.val < 2 ^ 13) : InWindow a := by
  rw [InWindow]
  have hlt : ∀ i ∈ 0 :: dataBlocks a, i < 2 ^ 13 := by
    intro i hi
    rcases List.mem_cons.1 hi with rfl | hi
    · exact Nat.two_pow_pos 13
    · obtain ⟨hmem, hdata⟩ := List.mem_filter.1 hi
      obtain ⟨k, hk, rfl⟩ := List.mem_map.1 hmem
      exact hsmall k hk (of_decide_eq_true hdata)
  rw [List.isChain_iff_getElem]
  intro i hi
  have hfirst := hlt _ (List.getElem_mem (Nat.lt_of_succ_lt hi))
  have hsecond := hlt _ (List.getElem_mem hi)
  omega

end WrittenPacket

end PyroFling
