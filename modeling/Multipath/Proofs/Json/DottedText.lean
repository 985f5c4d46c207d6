import Mathlib.Data.List.Basic
import Multipath.Ipv4
import Multipath.Proofs.Flow.Mixing
import Std.Data.String.ToNat

/-!
# Addresses and their text

The text of an address is read as that address and as no other, and nothing but the text of an
address is read at all (`ofText?_eq_some_iff`).  For the dots this is because no digit is one, so
that the text falls apart into the four fields it was made of; for the fields it is because two
different numbers differ in their digits.
-/

namespace Multipath.Ipv4

variable {field chars : List Char} {parts : List (List Char)} {o : UInt8}

/-! ### Fields -/

theorem fields_of_notMem (h : '.' ∉ field) : fields field = [field] := by
  induction field with
  | nil => rfl
  | cons c field ih =>
      simp only [List.mem_cons, not_or] at h
      rw [fields, if_neg (Ne.symm h.1), ih h.2]

theorem fields_append (h : '.' ∉ field) :
    fields (field ++ '.' :: chars) = field :: fields chars := by
  induction field with
  | nil => rw [List.nil_append, fields, if_pos rfl]
  | cons c field ih =>
      simp only [List.mem_cons, not_or] at h
      rw [List.cons_append, fields, if_neg (Ne.symm h.1), ih h.2]

/-- What is put together with dots falls apart at them, if there are no other dots. -/
theorem fields_intercalate (hne : parts ≠ []) (h : ∀ field ∈ parts, '.' ∉ field) :
    fields (['.'].intercalate parts) = parts := by
  induction parts with
  | nil => exact absurd rfl hne
  | cons field parts ih =>
      have hfield := h field List.mem_cons_self
      cases parts with
      | nil => rw [List.intercalate_singleton, fields_of_notMem hfield]
      | cons next parts =>
          have hrest := ih (by simp) fun field hin => h field (List.mem_cons_of_mem _ hin)
          rw [List.intercalate_cons_cons, List.append_assoc, List.singleton_append,
            fields_append hfield, hrest]

theorem fields_ne_nil (chars : List Char) : fields chars ≠ [] := by
  fun_induction fields chars <;> simp

/-- Whatever falls apart can be put together again. -/
theorem intercalate_fields (chars : List Char) : ['.'].intercalate (fields chars) = chars := by
  fun_induction fields chars with
  | case1 => rfl
  | case2 chars ih =>
      obtain ⟨first, others, hf⟩ := List.exists_cons_of_ne_nil (fields_ne_nil chars)
      rw [hf, List.intercalate_cons_cons, ← hf, ih]
      rfl
  | case3 c chars hc first others hf ih =>
      rw [← ih, hf]
      cases others <;> simp
  | case4 c chars hc hf => exact absurd hf (fields_ne_nil chars)

/-! ### Bytes -/

/-- The decimal digits of a byte. -/
def digits (o : UInt8) : List Char :=
  (toString o.toNat).toList

theorem dot_notMem_digits (o : UInt8) : '.' ∉ digits o := by
  intro h
  rw [digits, Nat.toString_eq_repr, Nat.toList_repr] at h
  exact absurd (Nat.isDigit_of_mem_toDigits (by decide) (by decide) h) (by decide)

theorem octet?_eq_some_iff : octet? field = some o ↔ field = digits o := by
  simp only [octet?, Option.map_eq_some_iff, List.find?_range_eq_some, beq_iff_eq, List.mem_range,
    digits]
  constructor
  · rintro ⟨n, ⟨hfield, hn, -⟩, rfl⟩
    rw [UInt8.toNat_ofNat_of_lt' hn, hfield]
  · rintro rfl
    refine ⟨o.toNat, ⟨rfl, o.toNat_lt, ?_⟩, UInt8.ofNat_toNat⟩
    -- a smaller number has other digits
    intro n hn
    simp only [Bool.not_eq_eq_eq_not, Bool.not_true, beq_eq_false_iff_ne, ne_eq,
      String.toList_inj, Nat.toString_eq_repr, Nat.repr_inj]
    omega

/-! ### Addresses -/

theorem octets_ofOctets (a b c d : UInt8) : (ofOctets a b c d).octets = [a, b, c, d] :=
  bigEndian32_ofBigEndian32 a b c d

theorem exists_ofOctets (ip : Ipv4) : ∃ a b c d, ip = ofOctets a b c d :=
  ⟨_, _, _, _, congrArg Ipv4.mk (ofBigEndian32_bytes ip.bits).symm⟩

theorem toList_text (ip : Ipv4) : ip.text.toList = ['.'].intercalate (ip.octets.map digits) := by
  rw [text, String.toList_intercalate, List.map_map]
  rfl

theorem fields_text (ip : Ipv4) : fields ip.text.toList = ip.octets.map digits := by
  rw [toList_text, fields_intercalate]
  · simp [octets, bigEndian32]
  · simp only [List.mem_map, forall_exists_index, and_imp, forall_apply_eq_imp_iff₂]
    exact fun o _ => dot_notMem_digits o

/-- Exactly the text of an address is read as that address. -/
theorem ofText?_eq_some_iff {s : String} {ip : Ipv4} : ofText? s = some ip ↔ s = ip.text := by
  constructor
  · intro h
    rw [ofText?] at h
    split at h
    · next a b c d hfields =>
      simp only [Option.bind_eq_bind, Option.pure_def, Option.bind_eq_some_iff, octet?_eq_some_iff,
        Option.some.injEq] at h
      obtain ⟨oa, rfl, ob, rfl, oc, rfl, od, rfl, rfl⟩ := h
      rw [← String.toList_inj, toList_text, octets_ofOctets, ← intercalate_fields s.toList, hfields]
      rfl
    · cases h
  · rintro rfl
    obtain ⟨a, b, c, d, hip⟩ := exists_ofOctets ip
    have hread : ∀ o, octet? (digits o) = some o := fun o => octet?_eq_some_iff.mpr rfl
    rw [ofText?, fields_text, hip, octets_ofOctets]
    simp only [List.map_cons, List.map_nil, hread]
    rfl

@[simp] theorem ofText?_text (ip : Ipv4) : ofText? ip.text = some ip :=
  ofText?_eq_some_iff.mpr rfl

theorem text_injective : Function.Injective text := by
  intro ip ip' h
  rw [← Option.some_inj, ← ofText?_text ip, h, ofText?_text]

end Multipath.Ipv4
