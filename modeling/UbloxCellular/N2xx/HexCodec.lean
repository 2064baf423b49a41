import UbloxCellular.Memory.Cells
import UbloxCellular.N2xx.HexBuffer

namespace UbloxCellular.N2xx
open Memory

section Encoder

def binHex (n : UInt8) : UInt8 := (hexDigit n.toNat).toUInt8

def hexStore : List UInt8 → Int → Cells UInt8 → Cells UInt8
  | [], output, m => m.store output 0
  | byte :: buff, output, m =>
    hexStore buff (output + 2) ((m.store output (binHex (byte >>> 4 &&& 0x0F))).store (output + 1)
      (binHex (byte &&& 0x0F)))

-- bin_to_hex on memory: the terminator comes first and again at the end.
def binToHexAt (buff : List UInt8) (output : Int) (m : Cells UInt8) : Cells UInt8 :=
  hexStore buff output (m.store output 0)

theorem binHex_digit {n : UInt8} (h : n < 16) : binHex n = Hex.digit n := by
  have htable : ∀ k : Fin 16, binHex (UInt8.ofNat k) = Hex.digit (UInt8.ofNat k) := by decide
  have hn := htable ⟨n.toNat,UInt8.lt_iff_toNat_lt.mp h⟩
  rwa [UInt8.ofNat_toNat] at hn

theorem high_masked (b : UInt8) : (b >>> 4 &&& 0x0F : UInt8) = b >>> 4 := by
  have hb := b.toNat_lt
  apply UInt8.toNat_inj.mp
  have hlow (n : Nat) : n &&& 15 = n % 16 := Nat.and_two_pow_sub_one_eq_mod n 4
  simp [Nat.shiftRight_eq_div_pow,hlow]
  omega

theorem hexStore_cons (b : UInt8) (buff : List UInt8) (output : Int) (m : Cells UInt8) :
    hexStore (b :: buff) output m = hexStore buff (output + 2)
      ((m.store output (Hex.digit (b >>> 4))).store (output + 1) (Hex.digit (b &&& 0x0f))) := by
  rw [hexStore,high_masked,binHex_digit (Hex.high_lt b),binHex_digit (Hex.low_lt b)]

theorem hexStore_over (buff : List UInt8) (output : Int) (m : Cells UInt8) (a : UInt8) :
    hexStore buff output (m.store output a) = hexStore buff output m := by
  cases buff with
  | nil => rw [hexStore,hexStore,Cells.store_again]
  | cons b buff => rw [hexStore,hexStore,Cells.store_again]

theorem hexStore_written {m m' : Cells UInt8} {start : Int} {l : List UInt8}
    (h : Cells.Written m start l m') (buff : List UInt8) :
    Cells.Written m start (l ++ (Hex.encode buff ++ [0])) (hexStore buff (start + l.length) m') := by
  induction buff generalizing l m' with
  | nil => exact h.snoc 0
  | cons b buff ih =>
    have hpair := (h.snoc (Hex.digit (b >>> 4))).snoc (Hex.digit (b &&& 0x0f))
    have hnext : start + ((l ++ [Hex.digit (b >>> 4)]).length : Int) = start + l.length + 1 := by
      rw [List.length_append,List.length_singleton]
      omega
    have hlast : start + ((l ++ [Hex.digit (b >>> 4)] ++ [Hex.digit (b &&& 0x0f)]).length : Int) =
        start + l.length + 2 := by
      rw [List.length_append,List.length_append,List.length_singleton,List.length_singleton]
      omega
    have hrest := ih hpair
    rw [hlast,hnext] at hrest
    rw [hexStore_cons,Hex.encode_cons]
    simpa using hrest

theorem binToHexAt_written (buff : List UInt8) (output : Int) (m : Cells UInt8) :
    Cells.Written m output (Hex.encode buff ++ [0]) (binToHexAt buff output m) := by
  have h := hexStore_written (Cells.Written.nil m output) buff
  rw [List.nil_append,List.length_nil,Int.ofNat_zero,Int.add_zero] at h
  rw [binToHexAt,hexStore_over]
  exact h

theorem binToHex_encode (buff : List UInt8) :
    (binToHex buff).toList.map Char.toUInt8 = Hex.encode buff := by
  rw [binToHex,String.toList_ofList]
  induction buff with
  | nil => rfl
  | cons b buff ih =>
    have hlow : b.toNat &&& 15 = b.toNat % 16 := Nat.and_two_pow_sub_one_eq_mod b.toNat 4
    rw [List.flatMap_cons,List.map_append,ih,Hex.encode_cons,← binHex_digit (Hex.high_lt b),
      ← binHex_digit (Hex.low_lt b)]
    simp [binHex,Nat.shiftRight_eq_div_pow,hlow]

end Encoder

section Decoder
variable {room : Nat} {s bytes : List UInt8} {length : Int} {buff : Filled UInt8 room}

theorem hexLoopIn_digits (buff : Filled UInt8 room) (h : Hex.decode s = some bytes)
    (hl : (bytes.length : Int) ≤ length) (hroom : buff.val.length + bytes.length ≤ room)
    (result : Nat) :
    ∃ b : Filled UInt8 room, b.val = buff.val ++ bytes ∧
      hexLoopIn result length buff (s ++ [0]) = .ok (((result + bytes.length : Nat) : Int), b) := by
  obtain ⟨b,hb,hend⟩ := hexLoopIn_pairs h hl hroom result [0]
  exact ⟨b,hb,by rw [hend,hexLoopIn,if_pos rfl]⟩

theorem hexLoopIn_bad {a b : UInt8} (ha : a ≠ 0)
    (hbad : hexChar a = 0xFF ∨ hexChar b = 0xFF ∨ length ≤ 0) (result : Nat) (rest : List UInt8) :
    hexLoopIn result length buff (a :: b :: rest) = .ok (-1, buff) := by
  rw [hexLoopIn,if_neg ha,if_pos hbad]

theorem hexLoopIn_rejects (hnul : 0 ∉ s)
    (h : ∀ bytes, Hex.decode s = some bytes → length < bytes.length) (hl : 0 ≤ length)
    (hroom : buff.val.length + length ≤ room) (result : Nat) :
    ∃ b, hexLoopIn result length buff (s ++ [0]) = .ok (-1, b) := by
  induction s using Hex.decode.induct generalizing length buff result with
  | case1 =>
    have hempty := h [] rfl
    rw [List.length_nil] at hempty
    omega
  | case2 a =>
    have ha : a ≠ 0 := fun h => hnul (by simp [h])
    exact ⟨buff,hexLoopIn_bad ha (.inr (.inl rfl)) result []⟩
  | case3 a b s ih =>
    have ha : a ≠ 0 := fun h => hnul (by simp [h])
    rw [List.cons_append,List.cons_append]
    cases hx : Hex.value a with
    | none => exact ⟨buff,hexLoopIn_bad ha (.inl (hexChar_none hx)) result _⟩
    | some x =>
      cases hy : Hex.value b with
      | none => exact ⟨buff,hexLoopIn_bad ha (.inr (.inl (hexChar_none hy))) result _⟩
      | some y =>
        by_cases hfull : length ≤ 0
        · exact ⟨buff,hexLoopIn_bad ha (.inr (.inr hfull)) result _⟩
        · obtain ⟨c,hc,hstep⟩ := hexLoopIn_pair hx hy (by omega : 0 < length)
            (by omega : buff.val.length < room) result (s ++ [0])
          have hmore : ∀ bytes, Hex.decode s = some bytes → length - 1 < bytes.length := by
            intro rest hrest
            have hall := h ((16 * x + y) :: rest) (by simp [Hex.decode,hx,hy,hrest])
            rw [List.length_cons] at hall
            omega
          have hcroom : (c.val.length : Int) + (length - 1) ≤ room := by
            rw [hc,List.length_append,List.length_singleton]
            omega
          rw [hstep]
          exact ih (fun hs => hnul (by simp [hs])) hmore (by omega) hcroom (result + 1)

theorem hexLoopIn_bounded (hroom : buff.val.length + length ≤ room) (result : Nat) :
    hexLoopIn result length buff s ≠ .error .bufWrite := by
  induction s using Hex.decode.induct generalizing length buff result with
  | case1 => simp [hexLoopIn]
  | case2 a =>
    rw [hexLoopIn]
    split_ifs <;> simp
  | case3 a b s ih =>
    rw [hexLoopIn]
    split_ifs with hzero hbad
    · simp
    · simp
    · have hl : 0 < length := by omega
      obtain ⟨c,hc,hval⟩ := Filled.push_some (b := buff) (by omega)
        ((hexChar a <<< 4) + hexChar b)
      rw [hc]
      refine ih ?_ (result + 1)
      rw [hval,List.length_append,List.length_singleton]
      omega

theorem hexToBinIn_digits {capacity : Nat} (hpos : 0 < capacity) (h : Hex.decode s = some bytes)
    (hl : bytes.length ≤ capacity) : ∃ b, b.val = bytes ∧
      hexToBinIn capacity (s ++ [0]) capacity = .ok ((bytes.length : Int), b) := by
  obtain ⟨b,hb,hrun⟩ := hexLoopIn_digits (.empty : Filled UInt8 capacity) h (Int.ofNat_le.mpr hl)
    (by simpa [Filled.empty] using hl) 0
  refine ⟨b,hb,?_⟩
  rw [hexToBinIn,if_neg (by omega),hrun,Nat.zero_add]

theorem hexToBinIn_rejects {capacity : Nat} (hpos : 0 < capacity) (hnul : 0 ∉ s)
    (h : ∀ bytes, Hex.decode s = some bytes → capacity < bytes.length) :
    ∃ b, hexToBinIn capacity (s ++ [0]) capacity = .ok (-1, b) := by
  rw [hexToBinIn,if_neg (by omega)]
  exact hexLoopIn_rejects hnul (fun bytes hb => Int.ofNat_lt.mpr (h bytes hb)) (by omega)
    (by simp [Filled.empty]) 0

theorem hexToBinIn_bounded (cells : List UInt8) (capacity : Nat) :
    hexToBinIn capacity cells capacity ≠ .error .bufWrite := by
  rw [hexToBinIn]
  split
  · simp
  · exact hexLoopIn_bounded (by simp [Filled.empty]) 0

theorem hexToBinIn_encoded (b : List UInt8) (output : Int) (m : Cells UInt8) {capacity : Nat}
    (hcap : max b.length 1 ≤ capacity) : ∃ buff : Filled UInt8 capacity, buff.val = b ∧
      hexToBinIn capacity ((binToHexAt b output m).read output (2 * b.length + 1)) capacity =
        .ok ((b.length : Int), buff) := by
  have hread := (binToHexAt_written b output m).read
  rw [List.length_append,List.length_singleton,Hex.encode_length] at hread
  rw [hread]
  exact hexToBinIn_digits (by omega) (Hex.decode_encode b) (by omega)

theorem hexToBinIn_accepts {capacity : Nat} (hnul : 0 ∉ s) (hpos : 0 < capacity) :
    ∃ (r : Int) (buff : Filled UInt8 capacity),
      hexToBinIn capacity (s ++ [0]) capacity = .ok (r, buff) ∧
      (∀ k : Nat, r = k ↔ s.length = 2 * k ∧ (∀ c ∈ s, Hex.Digit c) ∧ k ≤ capacity) ∧
      (0 ≤ r → Hex.decode s = some buff.val) := by
  by_cases hfits : ∃ bytes, Hex.decode s = some bytes ∧ bytes.length ≤ capacity
  · obtain ⟨bytes,hbytes,hl⟩ := hfits
    obtain ⟨b,rfl,hrun⟩ := hexToBinIn_digits hpos hbytes hl
    obtain ⟨hlength,hdigits⟩ := Hex.decode_digits.mp ⟨b.val,hbytes,rfl⟩
    refine ⟨b.val.length,b,hrun,fun k => ⟨fun hk => ?_,fun hk => ?_⟩,fun _ => hbytes⟩
    · obtain rfl : b.val.length = k := by omega
      exact ⟨hlength,hdigits,hl⟩
    · have hk' := hk.1
      omega
  · obtain ⟨b,hrun⟩ := hexToBinIn_rejects hpos hnul
      (fun bytes hb => Nat.lt_of_not_le (fun hle => hfits ⟨bytes,hb,hle⟩))
    refine ⟨-1,b,hrun,fun k => iff_of_false (by omega) ?_,fun h => by omega⟩
    rintro ⟨hlength,hdigits,hk⟩
    obtain ⟨bytes,hbytes,hl⟩ := Hex.decode_digits.mpr ⟨hlength,hdigits⟩
    exact hfits ⟨bytes,hbytes,hl ▸ hk⟩

theorem hex_codec :
    (∀ (b : List UInt8) (output : Int) (m : Cells UInt8),
      (Hex.encode b).length = 2 * b.length ∧ (∀ c ∈ Hex.encode b, Hex.Upper c) ∧
      Cells.Written m output (Hex.encode b ++ [0]) (binToHexAt b output m) ∧
      ∀ capacity : Nat, max b.length 1 ≤ capacity → ∃ buff : Filled UInt8 capacity, buff.val = b ∧
        hexToBinIn capacity ((binToHexAt b output m).read output (2 * b.length + 1)) capacity =
          .ok ((b.length : Int), buff)) ∧
    (∀ (s : List UInt8) (capacity : Nat), 0 ∉ s → 0 < capacity →
      ∃ (r : Int) (buff : Filled UInt8 capacity),
        hexToBinIn capacity (s ++ [0]) capacity = .ok (r, buff) ∧
        (∀ k : Nat, r = k ↔ s.length = 2 * k ∧ (∀ c ∈ s, Hex.Digit c) ∧ k ≤ capacity) ∧
        (0 ≤ r → Hex.decode s = some buff.val)) ∧
    ∀ (cells : List UInt8) (capacity : Nat),
      hexToBinIn capacity cells capacity ≠ .error .bufWrite := by
  refine ⟨fun b output m => ?_,fun s capacity => hexToBinIn_accepts,hexToBinIn_bounded⟩
  exact ⟨Hex.encode_length b,Hex.encode_upper b,binToHexAt_written b output m,
    fun capacity => hexToBinIn_encoded b output m⟩

theorem hex_codec_dead :
    (∃ buff : Filled UInt8 2, buff.val = [0xde,0xad] ∧
      hexToBinIn 2 ((binToHexAt [0xde,0xad] 0 (fun _ => 0xff)).read 0 5) 2 = .ok (2, buff)) ∧
    ∃ (r : Int) (buff : Filled UInt8 2), hexToBinIn 2 [0x64,0x45,0x41,0] 2 = .ok (r, buff) ∧
      ∀ k : Nat, r = k ↔ 3 = 2 * k ∧ (∀ c ∈ [0x64,0x45,0x41], Hex.Digit c) ∧ k ≤ 2 := by
  refine ⟨(hex_codec.1 [0xde,0xad] 0 (fun _ => 0xff)).2.2.2 2 (by decide),?_⟩
  obtain ⟨r,buff,hrun,hlength,-⟩ := hex_codec.2.1 [0x64,0x45,0x41] 2 (by decide) (by decide)
  exact ⟨r,buff,hrun,hlength⟩

end Decoder

end UbloxCellular.N2xx
