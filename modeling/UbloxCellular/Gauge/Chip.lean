import UbloxCellular.Gauge.Driver
import Mathlib.Tactic.SplitIfs
import Mathlib.Data.BitVec

namespace UbloxCellular.Gauge
open Interaction I2c

abbrev Block := Vector Byte 32

inductive Mode where
  | normal
  | entering
  | config
  | leaving
  deriving DecidableEq, Repr

-- The chip by its registers: the memory behind the block buffer, the config-update mode, the last
-- control word with the byte of the next one, the seal and the hibernate flag.
structure Chip where
  mem : Byte → Byte → Block
  subClass : Byte
  blockNo : Byte
  buffer : Block
  mode : Mode
  low : Byte
  word : Word
  sealed : Bool
  sealCode : Word
  hibernating : Bool

def checksum (b : Block) : Byte := ~~~ b.toList.sum

namespace Chip

def byte (c : Chip) (subClassId : Byte) (offset : Nat) : Byte :=
  (c.mem subClassId (BitVec.ofNat 8 (offset / 32)))[Fin.ofNat 32 offset]

-- The top bit of Update Status: sub-class 82, offset 2.
def reseals (c : Chip) : Bool := (c.byte 82 2).getLsbD 7

def load (c : Chip) : Chip := { c with buffer := c.mem c.subClass c.blockNo }

def commit (c : Chip) : Chip :=
  { c with mem := fun s b => if s = c.subClass ∧ b = c.blockNo then c.buffer else c.mem s b }

def modeAfter (w : Word) (c : Chip) : Mode :=
  if w = 0x0013 ∧ c.mode ≠ .config then .entering
  else if w = 0x0042 ∧ c.mode = .config then .leaving
  else c.mode

def subCommands : List Word :=
  [0x0000,0x0002,0x000c,0x0011,0x0012,0x0013,0x0020,0x0041,0x0042]

-- A word that is not a sub-command is taken for a seal code.
def sealedAfter (w : Word) (c : Chip) : Bool :=
  if w = 0x0020 then true
  else if w = 0x0042 ∧ c.mode = .config then c.sealed || c.reseals
  else if w ∉ subCommands ∧ w = c.sealCode then false
  else c.sealed

def hibernatingAfter (w : Word) (c : Chip) : Bool :=
  if w = 0x0011 then true else if w = 0x0012 then false else c.hibernating

def command (w : Word) (c : Chip) : Chip where
  mem := c.mem
  subClass := c.subClass
  blockNo := c.blockNo
  buffer := c.buffer
  mode := c.modeAfter w
  low := c.low
  word := w
  sealed := c.sealedAfter w
  sealCode := c.sealCode
  hibernating := c.hibernatingAfter w

def poke (a d : Byte) (c : Chip) : Chip :=
  if a = 0x00 then { c with low := d }
  else if a = 0x01 then c.command (d ++ c.low)
  else if a = 0x3e then { c with subClass := d }.load
  else if a = 0x3f then { c with blockNo := d }.load
  else if 0x40 ≤ a ∧ a < 0x60 then
    { c with buffer := c.buffer.setIfInBounds (a.toNat - 64) d }
  else if a = 0x60 ∧ d = checksum c.buffer ∧ c.mode = .config then c.commit
  else c

def configFlag (c : Chip) : Bool := c.mode = .config ∨ c.mode = .leaving

-- Every other register may show anything.
def shows (c : Chip) (a d : Byte) : Prop :=
  (a = 0x06 → d.getLsbD 4 = c.configFlag) ∧
  (∀ h : a.toNat - 64 < 32, 0x40 ≤ a → d = c.buffer[a.toNat - 64]) ∧
  (a = 0x60 → d = checksum c.buffer)

def showsStatus (c : Chip) (a d : Byte) : Prop :=
  c.shows a d ∧ (a = 0x01 → c.word = 0x0000 → d.getLsbD 5 = c.sealed)

inductive Drift : Chip → Chip → Prop
  | entered (c : Chip) : c.mode = .entering → Drift c { c with mode := .config }
  | left (c : Chip) : c.mode = .leaving → Drift c { c with mode := .normal }

-- A transfer that failed may have left anything but the memory, and the mode unless the transfer
-- was a control word.
def spoilt (data : List Byte) (c c' : Chip) : Prop :=
  c'.mem = c.mem ∧ (data.head? = some 0x00 ∨ c'.mode = c.mode)

end Chip

def chipOn (address : Byte) (shows : Chip → Byte → Byte → Prop)
    (lost : List Byte → Chip → Chip → Prop) : Device Chip where
  address := address
  poke := Chip.poke
  shows := shows
  event := Chip.Drift
  lost := lost
  missed := lost []

abbrev unreliable (address : Byte) : Device Chip := chipOn address Chip.shows Chip.spoilt

abbrev working (address : Byte) : Device Chip := chipOn address Chip.showsStatus (fun _ _ _ => False)

-- Transfers succeed, and no register shows anything to rely on.
abbrev answering (address : Byte) : Device Chip :=
  chipOn address (fun _ _ _ => True) (fun _ _ _ => False)

theorem drift_keep {β : Type} {f : Chip → β} (h : ∀ c m, f { c with mode := m } = f c)
    (c c' : Chip) (hd : Chip.Drift c c') : f c' = f c := by
  cases hd <;> exact h _ _

section Settled

def Chip.settle (c : Chip) : Chip :=
  match c.mode with
  | .entering => { c with mode := .config }
  | .leaving => { c with mode := .normal }
  | _ => c

-- The registers of a chip that shows 0 wherever it need not show anything else.
def Chip.answer (c : Chip) (a : Byte) : Byte :=
  if a = 0x00 then if c.word = 0x0002 then 0x09 else 0x00
  else if a = 0x01 then
    if c.word = 0x0002 then 0x01 else if c.word = 0x0000 ∧ c.sealed then 0x20 else 0x00
  else if a = 0x06 then if c.configFlag then 0x10 else 0x00
  else if a = 0x60 then checksum c.buffer
  else if 0x40 ≤ a then c.buffer.toList.getD (a.toNat - 64) 0
  else 0x00

theorem Chip.answer_window {c : Chip} {a : Byte} (h : a.toNat - 64 < 32) (ha : 0x40 ≤ a) :
    c.answer a = c.buffer[a.toNat - 64] := by
  have hlo : 64 ≤ a.toNat := BitVec.le_def.mp ha
  have hne (r : Byte) (hr : r.toNat < 64 ∨ 96 ≤ r.toNat) : a ≠ r := by
    rintro rfl
    omega
  rw [answer,if_neg (hne 0x00 (by decide)),if_neg (hne 0x01 (by decide)),
    if_neg (hne 0x06 (by decide)),if_neg (hne 0x60 (by decide)),if_pos ha]
  simp [h]

theorem Chip.answer_shows (c : Chip) (a : Byte) : c.showsStatus a (c.answer a) := by
  refine ⟨⟨?_,fun h ha => answer_window h ha,?_⟩,?_⟩
  · rintro rfl
    change (if c.configFlag then (0x10 : Byte) else 0x00).getLsbD 4 = _
    cases c.configFlag <;> rfl
  · rintro rfl
    rfl
  · rintro rfl hw
    change (if c.word = 0x0002 then (0x01 : Byte) else
      if c.word = 0x0000 ∧ c.sealed then 0x20 else 0x00).getLsbD 5 = _
    rw [hw]
    cases c.sealed <;> rfl

theorem Chip.settle_drifts {address : Byte} {shows : Chip → Byte → Byte → Prop}
    {lost : List Byte → Chip → Chip → Prop} (c : Chip) :
    (chipOn address shows lost).Drifts c c.settle := by
  rw [Chip.settle]
  split
  · exact .single (.entered c ‹_›)
  · exact .single (.left c ‹_›)
  · exact .refl

def factory (sealed : Bool) (updateStatus : Byte) : Chip where
  mem s b := if s = 82 ∧ b = 0 then (Vector.replicate 32 0x00).setIfInBounds 2 updateStatus
    else .replicate 32 0x00
  subClass := 0x00
  blockNo := 0x00
  buffer := .replicate 32 0x00
  mode := .normal
  low := 0x00
  word := 0x0000
  sealed := sealed
  sealCode := 0x8000
  hibernating := false

def obliging (D : Device Chip) : Prog.Oracle Bus (Node Chip) := D.play Chip.answer Chip.settle

end Settled

section Drifting
variable {address : Byte} {shows : Chip → Byte → Byte → Prop}
  {lost : List Byte → Chip → Chip → Prop} {c c' : Chip}

theorem drifts_mode (h : (chipOn address shows lost).Drifts c c') :
    c' = { c with mode := c'.mode } := by
  induction h with
  | refl => rfl
  | tail _ hd ih =>
    cases hd <;> rw [ih]

theorem drifts_config (h : (chipOn address shows lost).Drifts c c') (hc : c.mode = .config) :
    c' = c := by
  induction h with
  | refl => rfl
  | tail _ hd ih =>
    subst ih
    cases hd with
    | entered hm => rw [hc] at hm; cases hm
    | left hm => rw [hc] at hm; cases hm

end Drifting

theorem word_bytes (w : Word) : highByte w ++ lowByte w = w := by
  apply BitVec.eq_of_getLsbD_eq
  intro i hi
  simp only [highByte,lowByte,BitVec.getLsbD_append,BitVec.getLsbD_setWidth,
    BitVec.getLsbD_ushiftRight]
  by_cases h : i < 8
  · simp [h]
  · have hi8 : i - 8 < 8 := by omega
    simp [h,hi8,show 8 + (i - 8) = i by omega]

section Put
variable {address : Byte} {shows : Chip → Byte → Byte → Prop}
  {lost : List Byte → Chip → Chip → Prop} (n : Node Chip)

@[simp] theorem put_select (r : Byte) :
    (chipOn address shows lost).put [r] n = ⟨r,n.core⟩ := by
  simp [Device.put,Device.pokes]

@[simp] theorem put_data (r d : Byte) :
    ((chipOn address shows lost).put [r,d] n).core = n.core.poke r d := rfl

@[simp] theorem put_control (w : Word) :
    ((chipOn address shows lost).put [0x00,lowByte w,highByte w] n).core =
      { n.core with low := lowByte w }.command w := by
  have h : ((chipOn address shows lost).put [0x00,lowByte w,highByte w] n).core =
    { n.core with low := lowByte w }.command (highByte w ++ lowByte w) := rfl
  rw [h,word_bytes]

end Put

section Transfers
variable {address : Byte} {shows : Chip → Byte → Byte → Prop}
  {lost : List Byte → Chip → Chip → Prop} {g : BatteryGaugeBq27441} {n : Node Chip}

abbrev Drifted (address : Byte) (shows : Chip → Byte → Byte → Prop)
    (lost : List Byte → Chip → Chip → Prop) (n : Node Chip) (x : Chip) : Prop :=
  (chipOn address shows lost).Drifts n.core x

theorem wp_control {w : Word} {Q : Bool → Node Chip → Prop}
    (hfail : ∀ x n', lost [0x00,lowByte w,highByte w] x n'.core → Q false n')
    (hok : ∀ p x, Drifted address shows lost n x →
      Q true ⟨p,{ x with low := lowByte w }.command w⟩) :
    wp (chipOn address shows lost).spec (g.control w) Q n := by
  refine (Device.wp_write _ _ _).mpr (fun x hx => ⟨fun _ => ?_,fun n' hn => hfail x n' hn⟩)
  have h := hok ((chipOn address shows lost).put [0x00,lowByte w,highByte w] ⟨n.pointer,x⟩).pointer
    x hx
  rwa [← @put_control address shows lost ⟨n.pointer,x⟩] at h

theorem wp_data {r d : Byte} {Q : Bool → Node Chip → Prop}
    (hfail : ∀ x n', lost [r,d] x n'.core → Q false n')
    (hok : ∀ x, Drifted address shows lost n x → Q true ⟨r + 1,x.poke r d⟩) :
    wp (chipOn address shows lost).spec (g.write [r,d]) Q n :=
  (Device.wp_write _ _ _).mpr (fun x hx => ⟨fun _ => hok x hx,fun n' hn => hfail x n' hn⟩)

theorem wp_dataRepeated {r d : Byte} {Q : Bool → Node Chip → Prop}
    (hfail : ∀ x n', lost [r,d] x n'.core → Q false n')
    (hok : ∀ x, Drifted address shows lost n x → Q true ⟨r + 1,x.poke r d⟩) :
    wp (chipOn address shows lost).spec (g.writeRepeated [r,d]) Q n :=
  (Device.wp_writeRepeated _ _ _).mpr (fun x hx =>
    ⟨fun _ => hok x hx,fun n' hn => hfail x n' hn⟩)

theorem wp_select {r : Byte} {Q : Bool → Node Chip → Prop}
    (hfail : ∀ x n', lost [r] x n'.core → Q false n')
    (hok : ∀ x, Drifted address shows lost n x → Q true ⟨r,x⟩) :
    wp (chipOn address shows lost).spec (g.writeRepeated [r]) Q n := by
  refine (Device.wp_writeRepeated _ _ _).mpr (fun x hx =>
    ⟨fun _ => ?_,fun n' hn => hfail x n' hn⟩)
  rw [put_select]
  exact hok x hx

theorem wp_bytes {k : Nat} {Q : Option (Vector Byte k) → Node Chip → Prop}
    (hfail : ∀ x n', lost [] x n'.core → Q none n')
    (hok : ∀ x v, Drifted address shows lost n x →
      (∀ i (h : i < k), shows x (n.pointer + BitVec.ofNat 8 i) v[i]) →
      Q (some v) ⟨n.pointer + BitVec.ofNat 8 k,x⟩) :
    wp (chipOn address shows lost).spec (g.read k) Q n :=
  (Device.wp_read _ _ _).mpr (fun x hx =>
    ⟨fun v _ hv => hok x v hx hv,fun n' hn => hfail x n' hn⟩)

theorem wp_word {r : Byte} {Q : Option Word → Node Chip → Prop} (hi2c : g.gpI2c = true)
    (hfail : ∀ x n', Drifted address shows lost n x → lost [r] x n'.core ∨ lost [] x n'.core →
      Q none n')
    (hok : ∀ p x lo hi, Drifted address shows lost n x → shows x r lo → shows x (r + 1) hi →
      Q (some (hi ++ lo)) ⟨p,x⟩) :
    wp (chipOn address shows lost).spec (g.getTwoBytes r) Q n := by
  rw [BatteryGaugeBq27441.getTwoBytes,if_pos hi2c,wp_bind,BatteryGaugeBq27441.write,
    Device.wp_write]
  refine fun x hx => ⟨fun _ => ?_,fun n' hn => hfail x n' hx (.inl hn)⟩
  rw [put_select,if_pos rfl,wp_bind,BatteryGaugeBq27441.read,Device.wp_read]
  refine fun y hy => ⟨fun v _ hv => ?_,fun n' hn => hfail y n' (hx.trans hy) (.inr hn)⟩
  have hlo : shows y (r + BitVec.ofNat 8 0) v[0] := hv 0 (by decide)
  have hhi : shows y (r + 1) v[1] := hv 1 (by decide)
  rw [BitVec.add_zero] at hlo
  exact hok _ y v[0] v[1] (hx.trans hy) hlo hhi

end Transfers

end UbloxCellular.Gauge
