import Mathlib.Data.FinEnum
import Mathlib.Data.Set.Function
import Multipath.Proofs.Flow.Mixing

/-!
# Every hash is taken exactly once

Since no step of the hash loses anything, and there are no more states of the hash than words, no
value is left out either.

* Every word is the hash of a given string under exactly one seed (`hash_seed_bijective`).
* Every word is the hash of exactly one of the strings that differ in a given full block only
  (`bijOn_hash_block`).
* The bytes behind the last full block are fewer than those of a word, so their hashes are only known
  to be different (`hash_ne_of_rest`).

All of this is for strings of any length and at any of their blocks (`hash_one_to_one`).
-/

namespace Multipath.Murmur

variable {before bytes bytes' : List UInt8}

theorem hash_seed_injective (bytes : List UInt8) : Function.Injective fun seed => hash seed bytes := by
  intro seed seed' h
  have hmixed := avalanche_injective h
  -- what the tail and the length add to the two states is the same
  have hstate := (UInt32.xor_left_inj _).mp ((UInt32.xor_left_inj _).mp hmixed)
  exact foldl_mixBlock_injective _ hstate

theorem hash_seed_bijective (bytes : List UInt8) : Function.Bijective fun seed => hash seed bytes :=
  Finite.injective_iff_bijective.mp (hash_seed_injective bytes)

/-- Every word is taken by exactly one content of a full block. -/
theorem bijOn_hash_block (seed : UInt32) (h : 4 ∣ before.length) (after : List UInt8) :
    Set.BijOn (fun block => hash seed (before ++ (block ++ after))) {block | block.length = 4}
      Set.univ := by
  refine ⟨Set.mapsTo_univ _ _, ?_, ?_⟩
  · intro block hblock block' hblock' heq
    exact eq_of_hash_block_eq seed h after hblock hblock' heq
  · intro value _
    have hsurj := Finite.injective_iff_surjective.mp (hash_word_injective seed before h after)
    obtain ⟨w, hw⟩ := hsurj value
    exact ⟨bigEndian32 w, length_bigEndian32 w, hw⟩

/-- A difference behind the last full block is not lost. -/
theorem hash_ne_of_rest (seed : UInt32) (hlen : bytes.length = bytes'.length)
    (hbefore : bytes.take (4 * (bytes.length / 4)) = bytes'.take (4 * (bytes.length / 4)))
    (hne : bytes ≠ bytes') : hash seed bytes ≠ hash seed bytes' := by
  have hend : bytes.length ≤ 4 * (bytes.length / 4) + 4 := by omega
  refine hash_ne_of_one_block seed (bytes.length / 4) hlen hbefore ?_ hne
  rw [List.drop_of_length_le hend, List.drop_of_length_le (hlen ▸ hend)]

/-- **The hash is one to one in the seed and in every block.**  For any string, every word is its hash
under exactly one seed.  For any seed and whatever full blocks stand in front and whatever bytes
behind, every word is the hash for exactly one content of the block in between.  And two strings of
the same length that differ behind the last full block only have different hashes. -/
theorem hash_one_to_one :
    (∀ bytes, Function.Bijective fun seed => hash seed bytes) ∧
    (∀ seed before after, 4 ∣ before.length →
      Set.BijOn (fun block => hash seed (before ++ (block ++ after))) {block | block.length = 4}
        Set.univ) ∧
    ∀ seed bytes bytes', bytes.length = bytes'.length →
      bytes.take (4 * (bytes.length / 4)) = bytes'.take (4 * (bytes.length / 4)) →
      bytes ≠ bytes' → hash seed bytes ≠ hash seed bytes' :=
  ⟨hash_seed_bijective, fun seed _ after h => bijOn_hash_block seed h after,
    fun seed _ _ hlen hbefore hne => hash_ne_of_rest seed hlen hbefore hne⟩

/-- The second block of a string of nine bytes, and the last byte of a string of five. -/
theorem hash_one_to_one_behind_a_block :
    4 ∣ [1, 2, 3, (4 : UInt8)].length ∧
    (∃ block, block.length = 4 ∧
      hash 7 ([1, 2, 3, 4] ++ (block ++ [9])) = 0xdeadbeef) ∧
    [104, 101, 108, 108, (111 : UInt8)].length = [104, 101, 108, 108, (112 : UInt8)].length ∧
    hash 7 [104, 101, 108, 108, 111] ≠ hash 7 [104, 101, 108, 108, 112] := by
  have hdvd : 4 ∣ [1, 2, 3, (4 : UInt8)].length := by decide
  obtain ⟨-, hblock, hrest⟩ := hash_one_to_one
  obtain ⟨block, hlength, hhash⟩ := (hblock 7 _ [9] hdvd).surjOn (Set.mem_univ 0xdeadbeef)
  exact ⟨hdvd, ⟨block, hlength, hhash⟩, rfl, hrest 7 _ _ rfl rfl (by decide)⟩

end Multipath.Murmur
