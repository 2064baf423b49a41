import UbloxCellular.Gauge.Driver
import Mathlib.Tactic.Tauto

namespace UbloxCellular.Gauge
open Interaction I2c

variable {α : Type}

def Proceeds (p : BusCode α) : Prop := ∀ a, p ≠ pure a

def fitsInt32 (n : Int) : Prop := -0x80000000 ≤ n ∧ n < 0x80000000

def SumsFit (offset length : Int32) : Prop :=
  fitsInt32 (offset.toInt + length.toInt) ∧ fitsInt32 (offset.toInt + length.toInt - 1)

def Checked (g : BatteryGaugeBq27441) (pData : Bool) (length : Int32) : Prop :=
  g.gpI2c = true ∧ length.toInt ≤ 32 ∧ pData = true

-- The test that it does not cross a 32-byte boundary, with C's division.
def OneBlock (offset length : Int32) : Prop :=
  offset.toInt.tdiv 32 = (offset.toInt + length.toInt - 1).tdiv 32

structure InRange (offset length : Int32) : Prop where
  size : 1 ≤ length.toInt ∧ length.toInt ≤ 32
  start : 0 ≤ offset.toInt
  block : ∀ i, offset.toInt ≤ i → i < offset.toInt + length.toInt → i / 32 = offset.toInt / 32
  number : offset.toInt / 32 < 256

structure Indexed (offset length : Int32) : Prop where
  copied : 0 ≤ offset.toInt.tmod 32 ∧ offset.toInt.tmod 32 + length.toInt ≤ 32
  sent : 0 ≤ length.toInt ∧ length.toInt + 1 ≤ 35
  number : (BitVec.ofInt 8 (offset.toInt.tdiv 32)).toNat = offset.toInt / 32
  window : (windowAddress offset.toInt).toNat = 0x40 + offset.toInt % 32

structure Guards (g : BatteryGaugeBq27441) (p : BusCode α) (pData : Bool) (offset length : Int32) :
    Prop where
  sums : Checked g pData length → SumsFit offset length
  range : Proceeds p → InRange offset length ∧ Indexed offset length

theorem InRange.indexed {offset length : Int32} (h : InRange offset length) :
    Indexed offset length := by
  obtain ⟨o,ho⟩ := Int.eq_ofNat_of_zero_le h.start
  obtain ⟨hlo,hhi⟩ := h.size
  have hlast := h.block (offset.toInt + length.toInt - 1) (by omega) (by omega)
  have hnumber := h.number
  have hdiv : offset.toInt.tdiv 32 = (o / 32 : Nat) := by
    rw [ho]
    rfl
  have hmod : offset.toInt.tmod 32 = (o % 32 : Nat) := by
    rw [ho]
    rfl
  refine ⟨by omega,by omega,?_,?_⟩
  · rw [hdiv,BitVec.ofInt_natCast,BitVec.toNat_ofNat]
    omega
  · have hsum : 0x40 + offset.toInt.tmod 32 = ((0x40 + o % 32 : Nat) : Int) := by omega
    rw [windowAddress,hsum,BitVec.ofInt_natCast,BitVec.toNat_ofNat]
    omega

theorem inRange_iff {offset length : Int32} (hlen : length.toInt ≤ 32)
    (hone : OneBlock offset length) : InRange offset length ↔
      1 ≤ length.toInt ∧ 0 ≤ offset.toInt ∧ offset.toInt ≤ 8191 := by
  constructor
  · intro h
    have hnumber := h.number
    exact ⟨h.size.1,h.start,by omega⟩
  · rintro ⟨hpos,hoff,hmax⟩
    rw [OneBlock,Int.tdiv_eq_ediv_of_nonneg hoff,Int.tdiv_eq_ediv_of_nonneg (by omega)] at hone
    exact ⟨⟨hpos,hlen⟩,hoff,fun i _ _ => by omega,by omega⟩

theorem guards_iff {g : BatteryGaugeBq27441} {p : BusCode α} {pData : Bool} {offset length : Int32}
    (hp : Proceeds p ↔ Checked g pData length ∧ OneBlock offset length) :
    Guards g p pData offset length ↔ (Checked g pData length → SumsFit offset length ∧
      (¬ OneBlock offset length ∨
        1 ≤ length.toInt ∧ 0 ≤ offset.toInt ∧ offset.toInt ≤ 8191)) := by
  constructor
  · intro h hc
    refine ⟨h.sums hc,?_⟩
    by_cases hone : OneBlock offset length
    · exact .inr ((inRange_iff hc.2.1 hone).mp (h.range (hp.mpr ⟨hc,hone⟩)).1)
    · exact .inl hone
  · intro h
    refine ⟨fun hc => (h hc).1,fun hproceeds => ?_⟩
    obtain ⟨hc,hone⟩ := hp.mp hproceeds
    have hrange := (inRange_iff hc.2.1 hone).mpr ((h hc).2.resolve_left (not_not_intro hone))
    exact ⟨hrange,hrange.indexed⟩

theorem withinBlock_iff {offset length : Int32} :
    withinBlock offset.toInt length.toInt = true ↔
      length.toInt ≤ 32 ∧ OneBlock offset length := by
  simp [withinBlock,OneBlock]

theorem proceeds_if {c : Prop} [Decidable c] {p : BusCode α} {a : α} (hp : Proceeds p) :
    Proceeds (if c then p else pure a) ↔ c := by
  by_cases hc : c
  · rw [if_pos hc]
    exact iff_of_true hp hc
  · rw [if_neg hc]
    exact iff_of_false (fun h => h a rfl) hc

theorem readExtendedData_proceeds {g : BatteryGaugeBq27441} {subClassId : Byte}
    {offset length : Int32} {pData : Bool} :
    Proceeds (g.readExtendedData subClassId offset.toInt length.toInt pData) ↔
      Checked g pData length ∧ OneBlock offset length := by
  rw [BatteryGaugeBq27441.readExtendedData,proceeds_if (by rintro a ⟨⟩),Bool.and_eq_true,
    Bool.and_eq_true,withinBlock_iff,Checked]
  tauto

theorem writeExtendedData_proceeds {g : BatteryGaugeBq27441} {subClassId : Byte}
    {offset length : Int32} {pData : Option (List Byte)} :
    Proceeds (g.writeExtendedData subClassId offset.toInt length.toInt pData) ↔
      Checked g pData.isSome length ∧ OneBlock offset length := by
  rw [BatteryGaugeBq27441.writeExtendedData,proceeds_if (by rintro a ⟨⟩),Bool.and_eq_true,
    Bool.and_eq_true,withinBlock_iff,Checked]
  tauto

theorem config_range_iff (g : BatteryGaugeBq27441) (subClassId : Byte) (offset length : Int32)
    (pData : Option (List Byte)) :
    (Guards g (g.readExtendedData subClassId offset.toInt length.toInt pData.isSome) pData.isSome
      offset length ↔ (Checked g pData.isSome length → SumsFit offset length ∧
        (¬ OneBlock offset length ∨
          1 ≤ length.toInt ∧ 0 ≤ offset.toInt ∧ offset.toInt ≤ 8191))) ∧
    (Guards g (g.writeExtendedData subClassId offset.toInt length.toInt pData) pData.isSome
      offset length ↔ (Checked g pData.isSome length → SumsFit offset length ∧
        (¬ OneBlock offset length ∨
          1 ≤ length.toInt ∧ 0 ≤ offset.toInt ∧ offset.toInt ≤ 8191))) :=
  ⟨guards_iff readExtendedData_proceeds,guards_iff writeExtendedData_proceeds⟩

theorem config_range_negative : ¬ Guards ⟨true,0xaa,0x8000,true,false⟩
    (BatteryGaugeBq27441.writeExtendedData ⟨true,0xaa,0x8000,true,false⟩ 64 (-31 : Int32).toInt
      (31 : Int32).toInt (some (List.replicate 31 0))) true (-31) 31 := by
  intro h
  have hproceeds := @writeExtendedData_proceeds ⟨true,0xaa,0x8000,true,false⟩ 64 (-31) 31
    (some (List.replicate 31 0))
  have hstart := (h.range (hproceeds.mpr ⟨⟨rfl,by decide,rfl⟩,rfl⟩)).1.start
  revert hstart
  decide

end UbloxCellular.Gauge
