import Mathlib.Data.List.Basic
import SearchAppliance.Hash.Blake2b

namespace SearchAppliance.Hash.Blake2b

variable {size : Nat} {message last : List UInt8} {full : List (List UInt8)}

theorem length_wordBytes (w : UInt64) : (wordBytes w).length = 8 := by
  simp [wordBytes]

/-- A digest has the length that was asked for. -/
theorem length_digest (size : Nat) (message : List UInt8) :
    (digest size message).length = min size 64 := by
  have hstate (h : Words 8) : (h.toList.flatMap wordBytes).length = 64 := by
    simp only [List.length_flatMap, length_wordBytes, List.map_const', List.sum_replicate_nat,
      Vector.length_toList]
  simp [digest, hstate]

/-- Cuts a message into full blocks and a last one, which is empty only if the message is. -/
structure Blocks (message : List UInt8) (full : List (List UInt8)) (last : List UInt8) : Prop where
  whole : message = full.flatten ++ last
  sizes : ∀ block ∈ full, block.length = 128
  short : last.length ≤ 128
  filled : last = [] → message = []

theorem exists_blocks (message : List UInt8) : ∃ full last, Blocks message full last := by
  induction hn : message.length using Nat.strongRecOn generalizing message with
  | ind n ih =>
    by_cases hshort : message.length ≤ 128
    · exact ⟨[], message, rfl, by simp, hshort, id⟩
    · have hrest : (message.drop 128).length < n := by
        rw [List.length_drop]
        omega
      obtain ⟨full, last, hblocks⟩ := ih _ hrest (message.drop 128) rfl
      refine ⟨message.take 128 :: full, last, ?_, ?_, hblocks.short, ?_⟩
      · rw [List.flatten_cons, List.append_assoc, ← hblocks.whole, List.take_append_drop]
      · rw [List.forall_mem_cons]
        exact ⟨by rw [List.length_take]; omega, hblocks.sizes⟩
      · intro hempty
        have hnone := List.drop_eq_nil_iff.mp (hblocks.filled hempty)
        omega

theorem Blocks.length (h : Blocks message full last) :
    message.length = 128 * full.length + last.length := by
  have hfull : full.flatten.length = 128 * full.length := by
    rw [List.length_flatten, List.map_congr_left h.sizes, List.map_const', List.sum_replicate_nat,
      Nat.mul_comm]
  rw [h.whole, List.length_append, hfull]

/-- The number of blocks before the last one. -/
theorem Blocks.count (h : Blocks message full last) : (message.length - 1) / 128 = full.length := by
  have hlength := h.length
  have hlast := h.short
  cases last with
  | nil =>
    have hmessage : message.length = 0 := List.length_eq_zero_iff.mpr (h.filled rfl)
    rw [List.length_nil] at hlength
    omega
  | cons b rest =>
    rw [List.length_cons] at hlength hlast
    omega

/-- Takes full blocks into a chaining value. The first one has `n` blocks before it. -/
def chain (n : Nat) (h : Words 8) (full : List (List UInt8)) : Words 8 :=
  (full.zipIdx n).foldl
    (fun h (block, n) => compress h (blockWords block) (128 * (n + 1)) false) h

theorem absorb_eq (n : Nat) (h : Words 8) (last : List UInt8)
    (hsizes : ∀ block ∈ full, block.length = 128) :
    absorb full.length (128 * n) h (full.flatten ++ last) =
      compress (chain n h full) (blockWords last)
        (128 * n + (full.flatten ++ last).length) true := by
  induction full generalizing n h with
  | nil => rfl
  | cons block full ih =>
    obtain ⟨hblock, hsizes⟩ := List.forall_mem_cons.mp hsizes
    have hnext : 128 * n + 128 = 128 * (n + 1) := by omega
    have hlength : 128 * n + (block ++ (full.flatten ++ last)).length =
        128 * (n + 1) + (full.flatten ++ last).length := by
      rw [List.length_append]
      omega
    rw [List.flatten_cons, List.append_assoc, List.length_cons, absorb,
      List.take_left' hblock, List.drop_left' hblock, hnext, ih _ _ hsizes, hlength]
    rfl

/-- The parameters of a digest: in the first word how long it is, no key, and a tree of one node. -/
def parameters (size : Nat) : Words 8 :=
  #v[UInt64.ofNat (littleEndian [UInt8.ofNat size, 0, 1, 1]), 0, 0, 0, 0, 0, 0, 0]

theorem littleEndian_parameters (h : size ≤ 64) :
    littleEndian [UInt8.ofNat size, 0, 1, 1] = 0x01010000 + size := by
  have hsize : (UInt8.ofNat size).toNat = size := by
    rw [UInt8.toNat_ofNat']
    omega
  simp only [littleEndian, List.foldr_cons, List.foldr_nil, hsize]
  change size + 256 * (0 + 256 * (1 + 256 * (1 + 256 * 0))) = _
  omega

theorem zipWith_parameters (h : size ≤ 64) :
    Vector.zipWith (· ^^^ ·) iv (parameters size) =
      iv.set 0 (iv[0] ^^^ UInt64.ofNat (0x01010000 + size)) := by
  simp [iv, parameters, littleEndian_parameters h]

/-- Is it the digest of a message? The parameters go into the start value, then block by block the
message, and the first bytes of the last chaining value are the digest. -/
def IsDigest (size : Nat) (message bytes : List UInt8) : Prop :=
  ∃ full last, Blocks message full last ∧
    let start := Vector.zipWith (· ^^^ ·) iv (parameters size)
    let final := compress (chain 0 start full) (blockWords last) message.length true
    bytes = (final.toList.flatMap wordBytes).take size

theorem isDigest_digest (h : size ≤ 64) (message : List UInt8) :
    IsDigest size message (digest size message) := by
  obtain ⟨full, last, hblocks⟩ := exists_blocks message
  refine ⟨full, last, hblocks, ?_⟩
  have habsorb (start : Words 8) : absorb ((message.length - 1) / 128) 0 start message =
      compress (chain 0 start full) (blockWords last) message.length true := by
    have hmessage := absorb_eq 0 start last hblocks.sizes
    rwa [← hblocks.whole, Nat.mul_zero, Nat.zero_add, ← hblocks.count] at hmessage
  simp only [digest, habsorb, zipWith_parameters h]

/-- The three letters `abc` in the digest of the full length. -/
example : digest 64 [0x61, 0x62, 0x63] = [
    0xba, 0x80, 0xa5, 0x3f, 0x98, 0x1c, 0x4d, 0x0d, 0x6a, 0x27, 0x97, 0xb6, 0x9f, 0x12, 0xf6, 0xe9,
    0x4c, 0x21, 0x2f, 0x14, 0x68, 0x5a, 0xc4, 0xb7, 0x4b, 0x12, 0xbb, 0x6f, 0xdb, 0xff, 0xa2, 0xd1,
    0x7d, 0x87, 0xc5, 0x39, 0x2a, 0xab, 0x79, 0x2d, 0xc2, 0x52, 0xd5, 0xde, 0x45, 0x33, 0xcc, 0x95,
    0x18, 0xd3, 0x8a, 0xa8, 0xdb, 0xf1, 0x92, 0x5a, 0xb9, 0x23, 0x86, 0xed, 0xd4, 0x00, 0x99, 0x23] := by
  decide +kernel

end SearchAppliance.Hash.Blake2b
