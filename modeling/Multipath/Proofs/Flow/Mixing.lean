import Mathlib.Algebra.Order.Group.Nat
import Mathlib.Logic.Function.Basic
import Multipath.Murmur

/-!
# The hash loses nothing of a word

Every step of the Murmur hash is a bijection of the 32-bit words: an odd factor can be divided out
again, a rotation can be turned back, and what was folded down is still there above.  A block of the
hashed bytes goes through such steps only, so as long as the other bytes stay what they are, two
different words in the place of that block have different hashes (`hash_word_injective`).  The same
holds for the bytes behind the last full block.  So two strings of the same length that differ in
one block only are told apart, whichever block it is (`hash_ne_of_one_block`).
-/

namespace Multipath

/-! ### Words and their bytes -/

theorem toNat_toUInt32_shiftLeft (x : UInt8) {s : UInt32} (hs : s.toNat ≤ 24) :
    (x.toUInt32 <<< s).toNat = 2 ^ s.toNat * x.toNat := by
  have hlt : 2 ^ s.toNat * x.toNat < 2 ^ 32 :=
    calc 2 ^ s.toNat * x.toNat < 2 ^ s.toNat * 2 ^ 8 :=
          Nat.mul_lt_mul_of_pos_left x.toNat_lt (Nat.two_pow_pos _)
      _ ≤ 2 ^ 24 * 2 ^ 8 := Nat.mul_le_mul_right _ (Nat.pow_le_pow_right (by decide) hs)
  rw [UInt32.toNat_shiftLeft, Nat.shiftLeft_eq, UInt8.toNat_toUInt32, Nat.mul_comm,
    Nat.mod_eq_of_lt (by omega : s.toNat < 32), Nat.mod_eq_of_lt hlt]

theorem toNat_ofBigEndian32 (a b c d : UInt8) : (ofBigEndian32 a b c d).toNat =
    2 ^ 24 * a.toNat + 2 ^ 16 * b.toNat + 2 ^ 8 * c.toNat + d.toNat := by
  have hb := b.toNat_lt
  have hc := c.toNat_lt
  have hd := d.toNat_lt
  -- the bytes have no bit in common, whichever of them are put together first
  have hlow : (2 ^ 16 * b.toNat ||| 2 ^ 8 * c.toNat ||| d.toNat) =
      2 ^ 16 * b.toNat + (2 ^ 8 * c.toNat + d.toNat) := by
    rw [Nat.or_assoc, ← Nat.two_pow_add_eq_or_of_lt hd,
      ← Nat.two_pow_add_eq_or_of_lt (by omega)]
  have hall : (2 ^ 24 * a.toNat ||| 2 ^ 16 * b.toNat ||| 2 ^ 8 * c.toNat ||| d.toNat) =
      2 ^ 24 * a.toNat + (2 ^ 16 * b.toNat + (2 ^ 8 * c.toNat + d.toNat)) := by
    rw [Nat.or_assoc, Nat.or_assoc, ← Nat.or_assoc (2 ^ 16 * b.toNat), hlow,
      ← Nat.two_pow_add_eq_or_of_lt (by omega)]
  rw [ofBigEndian32, UInt32.toNat_or, UInt32.toNat_or, UInt32.toNat_or,
    toNat_toUInt32_shiftLeft a (by decide), toNat_toUInt32_shiftLeft b (by decide),
    toNat_toUInt32_shiftLeft c (by decide), UInt8.toNat_toUInt32]
  exact hall.trans (by omega)

/-- A word can be told from its bytes. -/
theorem ofBigEndian32_inj {a b c d a' b' c' d' : UInt8} :
    ofBigEndian32 a b c d = ofBigEndian32 a' b' c' d' ↔ a = a' ∧ b = b' ∧ c = c' ∧ d = d' := by
  constructor
  · intro h
    have hnat := congrArg UInt32.toNat h
    rw [toNat_ofBigEndian32, toNat_ofBigEndian32] at hnat
    have hb := b.toNat_lt
    have hc := c.toNat_lt
    have hd := d.toNat_lt
    have hb' := b'.toNat_lt
    have hc' := c'.toNat_lt
    have hd' := d'.toNat_lt
    simp only [← UInt8.toNat_inj]
    omega
  · rintro ⟨rfl, rfl, rfl, rfl⟩
    rfl

theorem ofBigEndian32_bytes (w : UInt32) : ofBigEndian32 (w >>> 24).toUInt8 (w >>> 16).toUInt8
    (w >>> 8).toUInt8 w.toUInt8 = w := by
  have hw := w.toNat_lt
  rw [← UInt32.toNat_inj, toNat_ofBigEndian32]
  simp only [UInt32.toNat_toUInt8, UInt32.toNat_shiftRight, Nat.shiftRight_eq_div_pow,
    UInt32.reduceToNat, Nat.reduceMod]
  omega

theorem bigEndian32_ofBigEndian32 (a b c d : UInt8) :
    bigEndian32 (ofBigEndian32 a b c d) = [a, b, c, d] := by
  obtain ⟨ha, hb, hc, hd⟩ := ofBigEndian32_inj.mp (ofBigEndian32_bytes (ofBigEndian32 a b c d))
  rw [bigEndian32, ha, hb, hc, hd]

/-- The word with its bytes in the opposite order: how a block reads a word that was written with
its most significant byte first. -/
def swapBytes (w : UInt32) : UInt32 :=
  ofLittleEndian (w >>> 24).toUInt8 (w >>> 16).toUInt8 (w >>> 8).toUInt8 w.toUInt8

theorem swapBytes_injective : Function.Injective swapBytes := by
  intro w w' h
  obtain ⟨h1, h2, h3, h4⟩ := ofBigEndian32_inj.mp h
  rw [← ofBigEndian32_bytes w, ← ofBigEndian32_bytes w', h1, h2, h3, h4]

namespace Murmur

variable {r s : UInt32} {before after bytes bytes' block block' rest rest' : List UInt8}

/-! ### Single steps -/

/-- What is multiplied by an odd factor can be multiplied back. -/
theorem mul_right_injective_of_inverse {factor : UInt32} (inverse : UInt32)
    (h : factor * inverse = 1) : Function.Injective fun w : UInt32 => w * factor := by
  intro w w' hw
  have hback := congrArg (· * inverse) hw
  simpa only [UInt32.mul_assoc, h, UInt32.mul_one] using hback

/-- The upper `r` bits of a word come out below, the others above. -/
theorem toNat_rotateLeft (w : UInt32) (hpos : 0 < r.toNat) (hr : r.toNat < 32) :
    (rotateLeft w r).toNat =
      2 ^ r.toNat * (w.toNat % 2 ^ (32 - r.toNat)) + w.toNat / 2 ^ (32 - r.toNat) := by
  have hle : r ≤ 32 := UInt32.le_iff_toNat_le.mpr hr.le
  have hback : (32 - r).toNat = 32 - r.toNat := UInt32.toNat_sub_of_le _ _ hle
  have hsplit : 2 ^ 32 = 2 ^ r.toNat * 2 ^ (32 - r.toNat) := by
    rw [← Nat.pow_add]
    congr 1
    omega
  have hupper : w.toNat / 2 ^ (32 - r.toNat) < 2 ^ r.toNat :=
    Nat.div_lt_of_lt_mul (by rw [Nat.mul_comm, ← hsplit]; exact w.toNat_lt)
  rw [rotateLeft, UInt32.toNat_or, UInt32.toNat_shiftLeft, UInt32.toNat_shiftRight, hback,
    Nat.mod_eq_of_lt hr, Nat.mod_eq_of_lt (by omega : 32 - r.toNat < 32), Nat.shiftLeft_eq,
    Nat.shiftRight_eq_div_pow, Nat.mul_comm w.toNat, hsplit, Nat.mul_mod_mul_left]
  exact (Nat.two_pow_add_eq_or_of_lt hupper _).symm

theorem rotateLeft_injective (hpos : 0 < r.toNat) (hr : r.toNat < 32) :
    Function.Injective fun w => rotateLeft w r := by
  intro w w' h
  have hnat := congrArg UInt32.toNat h
  simp only [toNat_rotateLeft _ hpos hr] at hnat
  have hupper : ∀ v : UInt32, v.toNat / 2 ^ (32 - r.toNat) < 2 ^ r.toNat := by
    intro v
    refine Nat.div_lt_of_lt_mul ?_
    rw [← Nat.pow_add, Nat.sub_add_cancel hr.le]
    exact v.toNat_lt
  -- the lower part of the turned words are the same upper bits, and the upper part the lower bits
  have hdiv : w.toNat / 2 ^ (32 - r.toNat) = w'.toNat / 2 ^ (32 - r.toNat) := by
    have hmod := congrArg (· % 2 ^ r.toNat) hnat
    simpa only [Nat.mul_add_mod, Nat.mod_eq_of_lt (hupper _)] using hmod
  have hmod : w.toNat % 2 ^ (32 - r.toNat) = w'.toNat % 2 ^ (32 - r.toNat) := by
    rw [hdiv] at hnat
    exact Nat.eq_of_mul_eq_mul_left (Nat.two_pow_pos _) (Nat.add_right_cancel hnat)
  rw [← UInt32.toNat_inj, ← Nat.div_add_mod w.toNat (2 ^ (32 - r.toNat)), hdiv, hmod,
    Nat.div_add_mod]

/-- Only the word zero is not changed by a move downwards. -/
theorem eq_zero_of_shiftRight_eq {x : UInt32} (hs : s.toNat % 32 ≠ 0) (h : x = x >>> s) : x = 0 := by
  have hnat := congrArg UInt32.toNat h
  rw [UInt32.toNat_shiftRight, Nat.shiftRight_eq_div_pow] at hnat
  by_contra hx
  have hpos : 0 < x.toNat := Nat.pos_of_ne_zero fun h0 => hx (UInt32.toNat_inj.mp h0)
  have hlt := Nat.div_lt_self hpos (Nat.one_lt_two_pow hs)
  omega

theorem foldDown_injective (hs : s.toNat % 32 ≠ 0) : Function.Injective fun w => foldDown w s := by
  intro w w' h
  -- the difference of the two words would be folded down to nothing
  have hdiff : w ^^^ w' = (w ^^^ w') >>> s := by
    rw [UInt32.shiftRight_xor, ← UInt32.xor_eq_zero_iff]
    calc w ^^^ w' ^^^ (w >>> s ^^^ w' >>> s)
        = foldDown w s ^^^ foldDown w' s := by rw [foldDown, foldDown]; ac_rfl
      _ = 0 := UInt32.xor_eq_zero_iff.mpr h
  exact UInt32.xor_eq_zero_iff.mp (eq_zero_of_shiftRight_eq hs hdiff)

theorem scramble_injective : Function.Injective scramble := by
  have hfirst : Function.Injective fun w : UInt32 => w * 0xcc9e2d51 :=
    mul_right_injective_of_inverse 0xdee13bb1 (by decide)
  have hsecond : Function.Injective fun w : UInt32 => w * 0x1b873593 :=
    mul_right_injective_of_inverse 0x56ed309b (by decide)
  exact hsecond.comp ((rotateLeft_injective (by decide) (by decide)).comp hfirst)

/-- All that a block does to the state is to be added to it without carries; the rest is undone. -/
theorem mixBlock_inj {state state' block block' : UInt32} :
    mixBlock state block = mixBlock state' block' ↔
      state ^^^ scramble block = state' ^^^ scramble block' := by
  have hfactor : Function.Injective fun w : UInt32 => w * 5 :=
    mul_right_injective_of_inverse 0xcccccccd (by decide)
  constructor
  · intro h
    have hturned := hfactor ((UInt32.add_left_inj _).mp h)
    exact rotateLeft_injective (by decide) (by decide) hturned
  · intro h
    rw [mixBlock, mixBlock, h]

theorem mixBlock_state_injective (block : UInt32) :
    Function.Injective fun state => mixBlock state block :=
  fun _ _ h => (UInt32.xor_left_inj _).mp (mixBlock_inj.mp h)

theorem mixBlock_block_injective (state : UInt32) : Function.Injective (mixBlock state) :=
  fun _ _ h => scramble_injective ((UInt32.xor_right_inj _).mp (mixBlock_inj.mp h))

theorem avalanche_injective : Function.Injective avalanche := by
  have hfirst : Function.Injective fun w : UInt32 => w * 0x85ebca6b :=
    mul_right_injective_of_inverse 0xa5cb9243 (by decide)
  have hsecond : Function.Injective fun w : UInt32 => w * 0xc2b2ae35 :=
    mul_right_injective_of_inverse 0x7ed1b41d (by decide)
  have hfold : Function.Injective fun w => foldDown w 16 := foldDown_injective (by decide)
  have hfold' : Function.Injective fun w => foldDown w 13 := foldDown_injective (by decide)
  exact hfold.comp (hsecond.comp (hfold'.comp (hfirst.comp hfold)))

/-! ### Whole strings -/

/-- Whatever blocks follow, they keep two states apart. -/
theorem foldl_mixBlock_injective (bs : List UInt32) :
    Function.Injective fun state => bs.foldl mixBlock state := by
  induction bs with
  | nil => exact Function.injective_id
  | cons b bs ih => exact ih.comp (mixBlock_state_injective b)

/-- Full blocks in front stay the blocks in front. -/
theorem blocks_append (h : 4 ∣ before.length) (rest : List UInt8) :
    blocks (before ++ rest) = blocks before ++ blocks rest ∧ tail (before ++ rest) = tail rest := by
  induction before using blocks.induct with
  | case1 a b c d before ih =>
      obtain ⟨hblocks, htail⟩ := ih (by simpa [Nat.dvd_add_left] using h)
      simp [hblocks, htail]
  | case2 before hshort =>
      -- what is shorter than a block and made of full blocks is empty
      obtain rfl : before = [] := by
        match before, hshort with
        | [], _ => rfl
        | [_], _ => simp at h
        | [_, _], _ => simp at h
        | [_, _, _], _ => simp at h
        | _ :: _ :: _ :: _ :: _, hshort => exact (hshort _ _ _ _ _ rfl).elim
      exact ⟨rfl, rfl⟩

/-- The hash of a string with a word at the place of a block. -/
theorem hash_word (seed : UInt32) (h : 4 ∣ before.length) (after : List UInt8) (w : UInt32) :
    hash seed (before ++ (bigEndian32 w ++ after)) =
      avalanche ((blocks after).foldl mixBlock
          (mixBlock ((blocks before).foldl mixBlock seed) (swapBytes w)) ^^^
        scramble (tail after) ^^^ UInt32.ofNat (before.length + (4 + after.length))) := by
  have hblocks : blocks (bigEndian32 w ++ after) = swapBytes w :: blocks after :=
    blocks_cons _ _ _ _ _
  have htail : tail (bigEndian32 w ++ after) = tail after := tail_cons _ _ _ _ _
  rw [hash, (blocks_append h _).1, (blocks_append h _).2, hblocks, htail, List.foldl_append,
    List.foldl_cons, List.length_append, List.length_append, length_bigEndian32]

/-- **A word at the place of a block is not lost.**  Two strings that agree apart from the four bytes
of one word have different hashes, if the word stands behind full blocks. -/
theorem hash_word_injective (seed : UInt32) (before : List UInt8) (h : 4 ∣ before.length)
    (after : List UInt8) :
    Function.Injective fun w => hash seed (before ++ (bigEndian32 w ++ after)) := by
  intro w w' heq
  simp only [hash_word seed h] at heq
  have hstate := (UInt32.xor_left_inj _).mp ((UInt32.xor_left_inj _).mp (avalanche_injective heq))
  have hblock := foldl_mixBlock_injective _ hstate
  exact swapBytes_injective (mixBlock_block_injective _ hblock)

/-! ### One block of two strings -/

theorem eq_of_hash_block_eq (seed : UInt32) (h : 4 ∣ before.length) (after : List UInt8)
    (hblock : block.length = 4) (hblock' : block'.length = 4)
    (heq : hash seed (before ++ (block ++ after)) = hash seed (before ++ (block' ++ after))) :
    block = block' := by
  have hword : ∀ bs : List UInt8, bs.length = 4 → ∃ w, bs = bigEndian32 w := by
    intro bs hbs
    match bs, hbs with
    | [a, b, c, d], _ => exact ⟨_, (bigEndian32_ofBigEndian32 a b c d).symm⟩
  obtain ⟨w, rfl⟩ := hword block hblock
  obtain ⟨w', rfl⟩ := hword block' hblock'
  rw [hash_word_injective seed before h after heq]

theorem blocks_of_short (h : rest.length < 4) : blocks rest = [] := by
  match rest with
  | [] | [_] | [_, _] | [_, _, _] => rfl

/-- What is shorter than a block can be told from its word, as long as the length is known. -/
theorem tail_inj (hshort : rest.length < 4) (hlen : rest.length = rest'.length) :
    tail rest = tail rest' ↔ rest = rest' := by
  match rest, rest' with
  | [], [] => simp
  | [a], [a'] => simp [tail, ofLittleEndian, ofBigEndian32_inj]
  | [a, b], [a', b'] => simp [tail, ofLittleEndian, ofBigEndian32_inj, and_comm]
  | [a, b, c], [a', b', c'] =>
      simp [tail, ofLittleEndian, ofBigEndian32_inj, and_comm, and_assoc]

theorem eq_of_hash_rest_eq (seed : UInt32) (h : 4 ∣ before.length) (hshort : rest.length < 4)
    (hlen : rest.length = rest'.length)
    (heq : hash seed (before ++ rest) = hash seed (before ++ rest')) : rest = rest' := by
  have hshort' : rest'.length < 4 := hlen ▸ hshort
  simp only [hash, blocks_append h, blocks_of_short hshort, blocks_of_short hshort',
    List.length_append, hlen] at heq
  have hmixed := (UInt32.xor_left_inj _).mp (avalanche_injective heq)
  exact (tail_inj hshort hlen).mp (scramble_injective ((UInt32.xor_right_inj _).mp hmixed))

/-- **A difference within one block is not lost.**  Two strings of the same length have different
hashes if they differ, but agree apart from the bytes of the block number `n`.  This may also be the
block that is not full, at the end. -/
theorem hash_ne_of_one_block (seed : UInt32) (n : ℕ) (hlen : bytes.length = bytes'.length)
    (hbefore : bytes.take (4 * n) = bytes'.take (4 * n))
    (hafter : bytes.drop (4 * n + 4) = bytes'.drop (4 * n + 4)) (hne : bytes ≠ bytes') :
    hash seed bytes ≠ hash seed bytes' := by
  intro heq
  apply hne
  rcases Nat.lt_or_ge bytes.length (4 * n) with hout | hin
  · -- the strings end in front of this block
    rwa [List.take_of_length_le hout.le, List.take_of_length_le (hlen ▸ hout.le)] at hbefore
  have hdvd : 4 ∣ (bytes.take (4 * n)).length := by
    rw [List.length_take_of_le hin]
    exact Nat.dvd_mul_right 4 n
  rcases Nat.lt_or_ge bytes.length (4 * n + 4) with hshort | hfull
  · have hrest : bytes.drop (4 * n) = bytes'.drop (4 * n) := by
      refine eq_of_hash_rest_eq seed hdvd ?_ ?_ ?_
      · rw [List.length_drop]
        omega
      · rw [List.length_drop, List.length_drop, hlen]
      · rwa [List.take_append_drop, hbefore, List.take_append_drop]
    rw [← List.take_append_drop (4 * n) bytes, hbefore, hrest, List.take_append_drop]
  · have hsplit : ∀ bs : List UInt8,
        bs.take (4 * n) ++ ((bs.drop (4 * n)).take 4 ++ bs.drop (4 * n + 4)) = bs := by
      intro bs
      rw [← List.drop_drop, List.take_append_drop, List.take_append_drop]
    have hblock : (bytes.drop (4 * n)).take 4 = (bytes'.drop (4 * n)).take 4 := by
      refine eq_of_hash_block_eq seed hdvd (bytes.drop (4 * n + 4)) ?_ ?_ ?_
      · rw [List.length_take, List.length_drop]
        omega
      · rw [List.length_take, List.length_drop]
        omega
      · rwa [hsplit bytes, hbefore, hafter, hsplit bytes']
    rw [← hsplit bytes, hbefore, hblock, hafter, hsplit bytes']

end Murmur

end Multipath
