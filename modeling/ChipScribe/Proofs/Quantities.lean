import Mathlib.Data.Nat.Digits.Defs
import ChipScribe.Proofs.FileReader

/-!
# Quantities are a canonical prefix code

A quantity is the digits of a number to the base 128.  A reader takes more than what
the writer puts out: groups of zero may stand in front.  Nothing else is read as the
same number, so what is written is the shortest there is, and as a reader stops by
itself no quantity is the beginning of another.
-/

namespace ChipScribe.Midi.Quantity

/-! ## The groups -/

theorem encodeAbove_zero (rest : List UInt8) : encodeAbove 0 rest = rest := by
  rw [encodeAbove, if_pos rfl]

theorem encodeAbove_of_pos {n : Nat} (positive : 0 < n) (rest : List UInt8) :
    encodeAbove n rest = encodeAbove (n / 128) (continued (n % 128).toUInt8 :: rest) := by
  rw [encodeAbove, if_neg (Nat.ne_of_gt positive)]

/-- The groups are digits, highest first. -/
theorem encodeAbove_eq_digits (n : Nat) (rest : List UInt8) :
    encodeAbove n rest =
      (Nat.digits 128 n).reverse.map (fun group => continued group.toUInt8) ++ rest := by
  fun_induction encodeAbove n rest with
  | case1 rest => rw [Nat.digits_zero, List.reverse_nil, List.map_nil, List.nil_append]
  | case2 n rest positive ih =>
      rw [ih, Nat.digits_def' (by decide) (Nat.pos_of_ne_zero positive), List.reverse_cons,
        List.map_append, List.append_assoc]
      rfl

/-- A byte with bit 7 is a continued group. -/
theorem continued_mod {byte : UInt8} (more : ¬byte < 0x80) :
    continued (byte.toNat % 128).toUInt8 = byte := by
  have bound := byte.toNat_lt
  have high : 128 ≤ byte.toNat := Nat.le_of_not_lt more
  rw [← UInt8.toNat_inj, continued_eq (Nat.mod_lt _ (by decide))]
  omega

/-- One digit after another, bit 7 set in all but the lowest. -/
theorem encode_eq_digits (n : UInt32) :
    encode n =
      (Nat.digits 128 (n.toNat / 128)).reverse.map (fun group => continued group.toUInt8) ++
        [(n.toNat % 128).toUInt8] :=
  encodeAbove_eq_digits _ _

theorem length_encode_le (n : UInt32) : (encode n).length ≤ 5 :=
  length_encodeAbove 4 _ _ (by have := n.toNat_lt; omega)

/-! ## What is read as a number -/

/-- What a reader takes after some groups above zero is what the writer puts after them. -/
theorem encodeAbove_of_decodeFrom? {above : Nat} {bytes rest : List UInt8} {value : Nat}
    (positive : 0 < above) (read : decodeFrom? above bytes = some (value, rest)) :
    encodeAbove above bytes = encodeAbove (value / 128) ((value % 128).toUInt8 :: rest) := by
  induction bytes generalizing above with
  | nil => cases read
  | cons byte tail ih =>
      rw [decodeFrom?] at read
      split at read
      next last =>
        have low : byte.toNat < 128 := last
        obtain ⟨rfl, rfl⟩ := Prod.mk.inj (Option.some.inj read)
        rw [show (above * 128 + byte.toNat % 128) / 128 = above by omega,
          show (above * 128 + byte.toNat % 128) % 128 = byte.toNat by omega]
        simp
      next more =>
        have started : 0 < above * 128 + byte.toNat % 128 := by omega
        rw [← ih started read, encodeAbove_of_pos started,
          show (above * 128 + byte.toNat % 128) / 128 = above by omega,
          show (above * 128 + byte.toNat % 128) % 128 = byte.toNat % 128 by omega,
          continued_mod more]

theorem padded_of_decode? {bytes rest : List UInt8} {value : Nat}
    (read : decode? bytes = some (value, rest)) :
    ∃ pad, bytes = List.replicate pad 0x80 ++
      encodeAbove (value / 128) ((value % 128).toUInt8 :: rest) := by
  induction bytes with
  | nil => cases read
  | cons byte tail ih =>
      rw [decode?, decodeFrom?, Nat.zero_mul, Nat.zero_add] at read
      split at read
      next last =>
        have low : byte.toNat < 128 := last
        obtain ⟨rfl, rfl⟩ := Prod.mk.inj (Option.some.inj read)
        refine ⟨0, ?_⟩
        rw [Nat.mod_mod, Nat.mod_eq_of_lt low, Nat.div_eq_of_lt low, encodeAbove_zero]
        simp
      next more =>
        cases group : byte.toNat % 128 with
        | zero =>
            -- a group of zero in front leaves the reader where it was
            rw [group] at read
            obtain ⟨pad, rfl⟩ := ih read
            refine ⟨pad + 1, ?_⟩
            rw [← continued_mod more, group]
            rfl
        | succ k =>
            have positive : 0 < byte.toNat % 128 := group ▸ Nat.succ_pos k
            have same := encodeAbove_of_decodeFrom? positive read
            rw [encodeAbove_of_pos positive, Nat.mod_mod, Nat.div_eq_of_lt
              (Nat.mod_lt _ (by decide)), encodeAbove_zero, continued_mod more] at same
            exact ⟨0, same⟩

theorem decode?_padded (pad : Nat) (bytes : List UInt8) :
    decode? (List.replicate pad 0x80 ++ bytes) = decode? bytes := by
  induction pad with
  | zero => rfl
  | succ pad ih => exact ih

/-- A number is read from its quantity with groups of zero in front, and from nothing else. -/
theorem decode?_eq_some_iff {n : UInt32} {bytes rest : List UInt8} :
    decode? bytes = some (n.toNat, rest) ↔
      ∃ pad, bytes = List.replicate pad 0x80 ++ (encode n ++ rest) := by
  constructor
  · intro read
    obtain ⟨pad, rfl⟩ := padded_of_decode? read
    exact ⟨pad, by rw [encode, encodeAbove_append]; rfl⟩
  · rintro ⟨pad, rfl⟩
    rw [decode?_padded, decode?_suffix]

/-- Groups of zero only make it longer. -/
theorem length_encode_le_of_decode? {n : UInt32} {bytes : List UInt8}
    (read : decode? bytes = some (n.toNat, [])) : (encode n).length ≤ bytes.length := by
  obtain ⟨pad, rfl⟩ := decode?_eq_some_iff.mp read
  simp

/-- A group of zero in front could be dropped, and what is left would be read the same. -/
theorem head?_encode (n : UInt32) : (encode n).head? ≠ some 0x80 := by
  intro zero
  obtain ⟨tail, whole⟩ := List.head?_eq_some_iff.mp zero
  have read : decode? (encode n) = some (n.toNat, []) := by
    have alone := decode?_suffix n []
    rwa [List.append_nil] at alone
  have dropped : decode? tail = some (n.toNat, []) := by
    rw [whole] at read
    exact read
  have shorter := length_encode_le_of_decode? dropped
  rw [whole, List.length_cons] at shorter
  exact Nat.not_succ_le_self _ shorter

/-! ## Prefixes -/

/-- A reader at the beginning of a quantity stops at its end. -/
theorem eq_of_isPrefix {n m : UInt32} (front : encode n <+: encode m) : n = m := by
  obtain ⟨rest, whole⟩ := front
  have read := decode?_suffix n rest
  have other := decode?_suffix m []
  rw [List.append_nil, ← whole, read] at other
  exact UInt32.toNat_inj.mp (Prod.mk.inj (Option.some.inj other)).1

/--
A quantity put behind what a track holds is one to five bytes, the digits of the
number to the base 128 with bit 7 in all but the lowest.  Read from there it gives the
number back and leaves just what follows.  It is the shortest of all bytes that are read
as the number, which are those with groups of zero in front of it, and it is not the
beginning of another quantity.
-/
theorem encode_canonical (n : UInt32) (held rest : List UInt8) :
    encode n =
        (Nat.digits 128 (n.toNat / 128)).reverse.map (fun group => continued group.toUInt8) ++
          [(n.toNat % 128).toUInt8] ∧
      1 ≤ (encode n).length ∧ (encode n).length ≤ 5 ∧
      (n ≤ 0x0FFFFFFF → (encode n).length ≤ 4) ∧
      (held ++ encode n).take held.length = held ∧
      decode? ((held ++ encode n ++ rest).drop held.length) = some (n.toNat, rest) ∧
      (encode n).head? ≠ some 0x80 ∧
      (∀ bytes, decode? bytes = some (n.toNat, rest) ↔
        ∃ pad, bytes = List.replicate pad 0x80 ++ (encode n ++ rest)) ∧
      (∀ bytes, decode? bytes = some (n.toNat, []) → (encode n).length ≤ bytes.length) ∧
      ∀ m, n ≠ m → ¬encode n <+: encode m ∧ ¬encode m <+: encode n := by
  refine ⟨encode_eq_digits n, List.length_pos_iff.mpr (encode_ne_nil n), length_encode_le n,
    fun few => length_encode few, List.take_left, ?read, head?_encode n,
    fun bytes => decode?_eq_some_iff, fun bytes => length_encode_le_of_decode?, ?apart⟩
  case read => rw [List.append_assoc, List.drop_left, decode?_suffix]
  case apart =>
    intro m different
    exact ⟨fun front => different (eq_of_isPrefix front),
      fun front => different (eq_of_isPrefix front).symm⟩

end ChipScribe.Midi.Quantity
