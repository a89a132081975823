import TableAssembler.Encoding.Bits
import TableAssembler.Proofs.Text.Numeral

/-!
# Packed bits

Packing succeeds for zeros and ones that fill whole bytes and fit in eight of them.  The bytes,
read as one big-endian number, are then the number that the zeros and ones write.
-/

namespace TableAssembler

/-! ## Groups of bytes -/

theorem groupSize_eq_zero_iff (bits : Int) : groupSize bits = 0 ↔ bits ≤ 0 ∨ 64 < bits := by
  unfold groupSize
  split_ifs <;> simp <;> omega

theorem le_groupSize {bits : Int} (fits : bits ≤ 64) : bits ≤ 8 * groupSize bits := by
  unfold groupSize
  split_ifs <;> omega

namespace Encoding

/-! ## Big-endian numbers -/

/-- The number that bytes write, the most significant first. -/
def ofBigEndian (bytes : List UInt8) : Nat :=
  bytes.foldl (fun sofar byte => sofar * 256 + byte.toNat) 0

@[simp]
theorem ofBigEndian_nil : ofBigEndian [] = 0 := rfl

private theorem ofBigEndian_append_singleton (bytes : List UInt8) (byte : UInt8) :
    ofBigEndian (bytes ++ [byte]) = ofBigEndian bytes * 256 + byte.toNat := by
  simp [ofBigEndian, List.foldl_append]

theorem ofBigEndian_bigEndian (width value : Nat) :
    ofBigEndian (bigEndian width value) = value % 256 ^ width := by
  induction width generalizing value with
  | zero => simp [bigEndian, Nat.mod_one]
  | succ width induction =>
      rw [bigEndian, ofBigEndian_append_singleton, induction, Nat.pow_succ',
        Nat.mod_mul]
      simp only [UInt8.toNat_ofNat']
      omega

/-! ## Sizes of digits -/

private theorem utf8Size_of_digitValue? {c : Char} {digit : Nat}
    (reads : Numeral.digitValue? c = some digit) : c.utf8Size = 1 := by
  have bound : c ≤ 'z' := by
    unfold Numeral.digitValue? at reads
    split_ifs at reads with decimal small capital
    · exact Char.le_trans decimal.2 (by decide)
    · exact small.2
    · exact Char.le_trans capital.2 (by decide)
  exact Char.utf8Size_eq_one_iff.mpr (UInt32.le_trans bound (by decide))

private theorem digitValue?_of_mem {radix value : Nat} {digits : List Char}
    (reads : Numeral.value? radix digits = some value) :
    ∀ c ∈ digits, ∃ digit, Numeral.digitValue? c = some digit := by
  intro c member
  obtain ⟨front, back, rfl⟩ := List.append_of_mem member
  obtain ⟨_, _, _, rest, _⟩ := Numeral.value?_append_eq_some.mp reads
  cases read : Numeral.digitValue? c with
  | none => simp [Numeral.value?, Numeral.valueFrom?, read] at rest
  | some digit => exact ⟨digit, rfl⟩

namespace Piece

private theorem size_eq_length {piece : Piece}
    (ascii : ∀ c ∈ piece.digits, ∃ digit, Numeral.digitValue? c = some digit) :
    piece.size = piece.toList.length := by
  obtain ⟨zeros, digits⟩ := piece
  simp only [size, toList, List.length_append, List.length_replicate]
  induction digits with
  | nil => rfl
  | cons c digits induction =>
      obtain ⟨digit, reads⟩ := ascii c List.mem_cons_self
      rw [List.foldr_cons, induction fun c member => ascii c (List.mem_cons_of_mem _ member),
        utf8Size_of_digitValue? reads, List.length_cons]
      omega

private theorem length_toList_le_size (piece : Piece) : piece.toList.length ≤ piece.size := by
  obtain ⟨zeros, digits⟩ := piece
  simp only [size, toList, List.length_append, List.length_replicate]
  induction digits with
  | nil => simp
  | cons c digits induction =>
      have positive := c.utf8Size_pos
      rw [List.foldr_cons, List.length_cons]
      omega

end Piece

private theorem length_flatMap_le_totalSize (pieces : List Piece) :
    (pieces.flatMap Piece.toList).length ≤ totalSize pieces := by
  induction pieces with
  | nil => simp [totalSize]
  | cons piece pieces induction =>
      have first := piece.length_toList_le_size
      have unfolded : totalSize (piece :: pieces) = piece.size + totalSize pieces := rfl
      rw [List.flatMap_cons, List.length_append, unfolded]
      exact Nat.add_le_add first induction

/-- Digits have the size of their number. -/
theorem totalSize_eq_length {pieces : List Piece} {radix value : Nat}
    (reads : Numeral.value? radix (pieces.flatMap Piece.toList) = some value) :
    totalSize pieces = (pieces.flatMap Piece.toList).length := by
  induction pieces generalizing value with
  | nil => rfl
  | cons piece pieces induction =>
      have unfolded : totalSize (piece :: pieces) = piece.size + totalSize pieces := rfl
      rw [List.flatMap_cons] at reads ⊢
      obtain ⟨_, _, first, rest, _⟩ := Numeral.value?_append_eq_some.mp reads
      have ascii : ∀ c ∈ piece.digits, ∃ digit, Numeral.digitValue? c = some digit :=
        fun c member => digitValue?_of_mem first c (List.mem_append_right _ member)
      rw [unfolded, induction rest, Piece.size_eq_length ascii, List.length_append]

/-! ## Packing -/

/-- When packing succeeds, and with what bytes. -/
theorem pack_eq_ok_iff {pieces : List Piece} {code : List UInt8} :
    pack pieces = .ok code ↔
      ∃ value, Numeral.value? 2 (pieces.flatMap Piece.toList) = some value ∧
        (pieces.flatMap Piece.toList).length % 8 = 0 ∧
        (pieces.flatMap Piece.toList).length ≤ 64 ∧
        code = bigEndian (groupSize (pieces.flatMap Piece.toList).length) value := by
  constructor
  · intro packed
    have short := length_flatMap_le_totalSize pieces
    simp only [pack] at packed
    split_ifs at packed with empty group unaligned
    · obtain rfl : [] = code := by simpa using packed
      have nil : pieces.flatMap Piece.toList = [] :=
        List.length_eq_zero_iff.mp (Nat.le_zero.mp (empty ▸ short))
      exact ⟨0, by simp [nil, groupSize, bigEndian]⟩
    · cases reads : Numeral.value? 2 (pieces.flatMap Piece.toList) with
      | none => simp [reads] at packed
      | some value =>
          have size := totalSize_eq_length reads
          rw [groupSize_eq_zero_iff] at group
          rw [reads] at packed
          refine ⟨value, rfl, ?_, ?_, ?_⟩
          · omega
          · omega
          · rw [← size]
            exact (Except.ok.inj packed).symm
  · rintro ⟨value, reads, aligned, fits, rfl⟩
    have size := totalSize_eq_length reads
    simp only [pack, size]
    split_ifs with empty group unaligned
    · simp [empty, groupSize, bigEndian]
    · rw [groupSize_eq_zero_iff] at group
      omega
    · exact absurd aligned unaligned
    · rw [reads]

/-- Packed bytes hold the number that the digits write. -/
theorem ofBigEndian_of_pack {pieces : List Piece} {code : List UInt8} {value : Nat}
    (packed : pack pieces = .ok code)
    (reads : Numeral.value? 2 (pieces.flatMap Piece.toList) = some value) :
    ofBigEndian code = value := by
  obtain ⟨value', reads', -, fits, rfl⟩ := pack_eq_ok_iff.mp packed
  obtain rfl : value' = value := Option.some.inj (reads'.symm.trans reads)
  rw [ofBigEndian_bigEndian]
  apply Nat.mod_eq_of_lt
  have wide := le_groupSize (Int.ofNat_le.mpr fits)
  calc
    value' < 2 ^ (pieces.flatMap Piece.toList).length := Numeral.value?_lt reads
    _ ≤ 2 ^ (8 * groupSize (pieces.flatMap Piece.toList).length) :=
      Nat.pow_le_pow_right (by decide) (by omega)
    _ = 256 ^ groupSize (pieces.flatMap Piece.toList).length := Nat.pow_mul 2 8 _

end Encoding
end TableAssembler
