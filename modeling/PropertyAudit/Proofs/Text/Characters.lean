import PropertyAudit.Text.Encoding

/-! Where encoded characters begin and end in bytes: the first byte of one is never found inside
another, so no two different ones start at the same place. Any bytes fall into characters and bytes
where none starts. -/
namespace PropertyAudit.Text

theorem utf8EncodeChar_eq_cons (c : Char) :
    ∃ byte more, String.utf8EncodeChar c = byte :: more ∧ byte.IsUTF8FirstByte ∧
      ∀ other ∈ more, ¬other.IsUTF8FirstByte := by
  obtain ⟨byte, more, encoded⟩ := List.exists_cons_of_ne_nil (@String.utf8EncodeChar_ne_nil c)
  refine ⟨byte, more, encoded, ?_, fun other member => ?_⟩
  · have first := @UInt8.isUTF8FirstByte_getElem_zero_utf8EncodeChar c
    simpa [encoded] using first
  · obtain ⟨i, bound, rfl⟩ := List.mem_iff_getElem.mp member
    have inside : i + 1 < (String.utf8EncodeChar c).length := by
      rw [encoded]
      exact Nat.succ_lt_succ bound
    have later := @UInt8.isUTF8FirstByte_getElem_utf8EncodeChar c (i + 1) inside
    simpa [encoded] using later

/-- Only one character can start at a place. -/
theorem eq_of_utf8EncodeChar_prefix {a b : Char} {bytes : List UInt8}
    (startsA : String.utf8EncodeChar a <+: bytes) (startsB : String.utf8EncodeChar b <+: bytes) :
    a = b := by
  obtain ⟨afterA, rfl⟩ := startsA
  obtain ⟨afterB, same⟩ := startsB
  have decodes (c : Char) (after : List UInt8) :
      (String.utf8EncodeChar c ++ after).toByteArray.utf8DecodeChar? 0 = some c := by
    rw [List.toByteArray_append, ← List.utf8Encode_singleton]
    exact List.utf8DecodeChar?_utf8Encode_singleton_append
  have decoded := decodes a afterA
  rw [← same, decodes b afterB] at decoded
  exact (Option.some.inj decoded).symm

/-- Bytes are read one character after another, or a byte where none starts. -/
theorem characters_induction {motive : List UInt8 → Prop} (nil : motive [])
    (character : ∀ c rest, motive rest → motive (String.utf8EncodeChar c ++ rest))
    (other : ∀ byte rest, (∀ c, ¬String.utf8EncodeChar c <+: byte :: rest) → motive rest →
      motive (byte :: rest)) (bytes : List UInt8) : motive bytes := by
  induction length : bytes.length using Nat.strongRecOn generalizing bytes with
  | ind count ih =>
  subst length
  by_cases starts : ∃ c, String.utf8EncodeChar c <+: bytes
  · obtain ⟨c, rest, rfl⟩ := starts
    have positive := List.length_pos_iff.mpr (@String.utf8EncodeChar_ne_nil c)
    refine character c rest (ih rest.length ?_ rest rfl)
    rw [List.length_append]
    omega
  · cases bytes with
    | nil => exact nil
    | cons byte rest =>
      exact other byte rest (fun c starting => starts ⟨c, starting⟩)
        (ih rest.length (Nat.lt_succ_self _) rest rfl)

end PropertyAudit.Text
