import Mathlib.Data.List.Basic
import Mathlib.Tactic.SplitIfs

namespace Hex

def value (c : UInt8) : Option UInt8 :=
  if 48 ≤ c ∧ c ≤ 57 then some (c - 48)
  else if 65 ≤ c ∧ c ≤ 70 then some (c - 55)
  else if 97 ≤ c ∧ c ≤ 102 then some (c - 87)
  else none

def decode : List UInt8 → Option (List UInt8)
  | [] => some []
  | [_] => none
  | a :: b :: s => (value a).bind fun x => (value b).bind fun y =>
      (decode s).map fun bytes => (16 * x + y) :: bytes

theorem value_lt {c x : UInt8} (h : value c = some x) : x < 16 := by
  have hsub : ∀ k m : UInt8, k ≤ c → c ≤ m → m.toNat < k.toNat + 16 → c - k < 16 := by
    intro k m hk hm hkm
    rw [UInt8.le_iff_toNat_le] at hm
    rw [UInt8.lt_iff_toNat_lt,UInt8.toNat_sub_of_le c k hk]
    exact Nat.lt_of_le_of_lt (Nat.sub_le_sub_right hm _) (by omega : m.toNat - k.toNat < 16)
  have hle : ∀ k m : UInt8, k.toNat ≤ m.toNat → m ≤ c → k ≤ c := fun k m hkm hm =>
    UInt8.le_trans (UInt8.le_iff_toNat_le.mpr hkm) hm
  rw [value] at h
  split_ifs at h with hd hu hl
  · cases h
    exact hsub 48 57 hd.1 hd.2 (by decide)
  · cases h
    exact hsub 55 70 (hle 55 65 (by decide) hu.1) hu.2 (by decide)
  · cases h
    exact hsub 87 102 (hle 87 97 (by decide) hl.1) hl.2 (by decide)

theorem decode_pair {a b : UInt8} {s bytes : List UInt8}
    (h : decode (a :: b :: s) = some bytes) : ∃ x y rest, value a = some x ∧ value b = some y ∧
      decode s = some rest ∧ bytes = (16 * x + y) :: rest := by
  simp only [decode,Option.bind_eq_some_iff,Option.map_eq_some_iff] at h
  obtain ⟨x,hx,y,hy,rest,hs,rfl⟩ := h
  exact ⟨x,y,rest,hx,hy,hs,rfl⟩

theorem decode_length {s bytes : List UInt8} (h : decode s = some bytes) :
    s.length = 2 * bytes.length := by
  induction s using decode.induct generalizing bytes with
  | case1 =>
    cases h
    rfl
  | case2 => cases h
  | case3 a b s ih =>
    obtain ⟨x,y,rest,-,-,hs,rfl⟩ := decode_pair h
    have hlen : s.length = 2 * rest.length := ih hs
    rw [List.length_cons,List.length_cons,List.length_cons,hlen]
    omega

def Digit (c : UInt8) : Prop := 48 ≤ c ∧ c ≤ 57 ∨ 65 ≤ c ∧ c ≤ 70 ∨ 97 ≤ c ∧ c ≤ 102

def Upper (c : UInt8) : Prop := 48 ≤ c ∧ c ≤ 57 ∨ 65 ≤ c ∧ c ≤ 70

theorem digit_value {c : UInt8} : Digit c ↔ ∃ x, value c = some x := by
  rw [Digit,value]
  split_ifs with hd hu hl
  · exact iff_of_true (.inl hd) ⟨_,rfl⟩
  · exact iff_of_true (.inr (.inl hu)) ⟨_,rfl⟩
  · exact iff_of_true (.inr (.inr hl)) ⟨_,rfl⟩
  · exact iff_of_false (by simp [hd,hu,hl]) (by simp)

theorem decode_digits {s : List UInt8} {n : Nat} :
    (∃ bytes, decode s = some bytes ∧ bytes.length = n) ↔
      s.length = 2 * n ∧ ∀ c ∈ s, Digit c := by
  induction s using decode.induct generalizing n with
  | case1 =>
    simp only [decode,Option.some.injEq,exists_eq_left',List.length_nil,List.not_mem_nil,
      false_imp_iff,implies_true,and_true]
    omega
  | case2 c =>
    refine iff_of_false ?_ ?_
    · rintro ⟨_,h,-⟩
      cases h
    · rintro ⟨h,-⟩
      rw [List.length_singleton] at h
      omega
  | case3 a b s ih =>
    simp only [List.length_cons,List.forall_mem_cons]
    constructor
    · rintro ⟨bytes,h,hlen⟩
      obtain ⟨x,y,rest,ha,hb,hs,rfl⟩ := decode_pair h
      obtain ⟨hlength,hdigits⟩ := (ih (n := rest.length)).mp ⟨rest,hs,rfl⟩
      rw [List.length_cons] at hlen
      exact ⟨by omega,digit_value.mpr ⟨x,ha⟩,digit_value.mpr ⟨y,hb⟩,hdigits⟩
    · rintro ⟨hlength,ha,hb,hdigits⟩
      obtain ⟨x,hx⟩ := digit_value.mp ha
      obtain ⟨y,hy⟩ := digit_value.mp hb
      obtain ⟨rest,hrest,hlen⟩ := (ih (n := n - 1)).mpr ⟨by omega,hdigits⟩
      exact ⟨(16 * x + y) :: rest,by simp [decode,hx,hy,hrest],by rw [List.length_cons]; omega⟩

def digit (x : UInt8) : UInt8 := if x < 10 then 48 + x else 55 + x

def encode (bytes : List UInt8) : List UInt8 :=
  bytes.flatMap (fun b : UInt8 => [digit (b >>> 4),digit (b &&& 0x0f)])

theorem value_digit {x : UInt8} (h : x < 16) : value (digit x) = some x := by
  rw [digit,value]
  grind

theorem digit_upper {x : UInt8} (h : x < 16) : Upper (digit x) := by
  rw [digit,Upper]
  grind

theorem high_lt (b : UInt8) : b >>> 4 < 16 := by
  rw [UInt8.lt_iff_toNat_lt]
  have hb := b.toNat_lt
  simp [Nat.shiftRight_eq_div_pow]
  omega

theorem low_lt (b : UInt8) : b &&& 0x0f < 16 := by
  rw [UInt8.lt_iff_toNat_lt,UInt8.toNat_and]
  exact Nat.lt_of_le_of_lt Nat.and_le_right (by decide)

theorem halves (b : UInt8) : (16 : UInt8) * (b >>> 4) + (b &&& 0x0f) = b := by
  have hb := b.toNat_lt
  have hlow : b.toNat &&& 15 = b.toNat % 16 := Nat.and_two_pow_sub_one_eq_mod b.toNat 4
  apply UInt8.toNat_inj.mp
  simp [Nat.shiftRight_eq_div_pow,hlow]
  omega

theorem encode_cons (b : UInt8) (bytes : List UInt8) :
    encode (b :: bytes) = digit (b >>> 4) :: digit (b &&& 0x0f) :: encode bytes := rfl

theorem decode_encode (bytes : List UInt8) : decode (encode bytes) = some bytes := by
  induction bytes with
  | nil => rfl
  | cons b bytes ih =>
    rw [encode_cons,decode,value_digit (high_lt b),value_digit (low_lt b),ih]
    simp [halves]

theorem encode_length (bytes : List UInt8) : (encode bytes).length = 2 * bytes.length :=
  decode_length (decode_encode bytes)

theorem encode_upper (bytes : List UInt8) : ∀ c ∈ encode bytes, Upper c := by
  induction bytes with
  | nil => simp [encode]
  | cons b bytes ih =>
    rw [encode_cons,List.forall_mem_cons,List.forall_mem_cons]
    exact ⟨digit_upper (high_lt b),digit_upper (low_lt b),ih⟩

end Hex
