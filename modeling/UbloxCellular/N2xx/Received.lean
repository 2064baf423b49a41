import UbloxCellular.N2xx.Transcript

namespace UbloxCellular.N2xx
open Interaction Code

theorem hexChar_value (c : UInt8) : hexChar c = (Hex.value c).getD 0xFF := by
  rw [hexChar,Hex.value]
  split_ifs
  · rfl
  · rw [Option.getD_some]
    grind
  · rw [Option.getD_some]
    grind
  · rfl

theorem hexChar_none {c : UInt8} (h : Hex.value c = none) : hexChar c = 0xFF := by
  rw [hexChar_value,h,Option.getD_none]

theorem hexChar_some {c x : UInt8} (h : Hex.value c = some x) : c ≠ 0 ∧ hexChar c = x ∧
    x ≠ 0xFF := by
  have hx : x < 16 := Hex.value_lt h
  refine ⟨?_,?_,?_⟩
  · rintro rfl
    cases h
  · rw [hexChar_value,h,Option.getD_some]
  · rintro rfl
    exact absurd hx (by decide)

theorem nibbles {x : UInt8} (y : UInt8) : (x <<< 4) + y = 16 * x + y := by
  congr 1
  apply UInt8.toNat_inj.mp
  rw [UInt8.toNat_shiftLeft,UInt8.toNat_mul]
  simp [Nat.shiftLeft_eq,Nat.mul_comm]

theorem digits_good {a b x y : UInt8} (ha : Hex.value a = some x) (hb : Hex.value b = some y)
    {length : Int} (hl : 0 < length) :
    ¬ (hexChar a = 0xFF ∨ hexChar b = 0xFF ∨ length ≤ 0) := by
  obtain ⟨-,hax,hxne⟩ := hexChar_some ha
  obtain ⟨-,hby,hyne⟩ := hexChar_some hb
  rw [hax,hby]
  rintro (h | h | h)
  · exact hxne h
  · exact hyne h
  · omega

theorem hexLoop_pair {a b x y : UInt8} (ha : Hex.value a = some x) (hb : Hex.value b = some y)
    {length : Int} (hl : 0 < length) (result : Nat) (buff s : List UInt8) :
    hexLoop result length buff (a :: b :: s) =
      hexLoop (result + 1) (length - 1) (buff ++ [16 * x + y]) s := by
  obtain ⟨hzero,hax,-⟩ := hexChar_some ha
  obtain ⟨-,hby,-⟩ := hexChar_some hb
  rw [hexLoop,if_neg hzero,if_neg (digits_good ha hb hl),hax,hby,nibbles]

theorem hexLoop_decode {s bytes : List UInt8} (h : Hex.decode s = some bytes) {length : Int}
    (hl : (bytes.length : Int) ≤ length) (result : Nat) (buff tail : List UInt8) :
    hexLoop result length buff (s ++ tail) =
      hexLoop (result + bytes.length) (length - bytes.length) (buff ++ bytes) tail := by
  induction s using Hex.decode.induct generalizing bytes length result buff with
  | case1 =>
    cases h
    simp
  | case2 => cases h
  | case3 a b s ih =>
    obtain ⟨x,y,rest,ha,hb,hs,rfl⟩ := Hex.decode_pair h
    rw [List.length_cons] at hl
    rw [List.cons_append,List.cons_append,hexLoop_pair ha hb (by omega),ih hs (by omega),
      List.length_cons,List.append_assoc]
    congr 1
    · omega
    · omega

theorem hexLoop_full {length : Int} (hl : length ≤ 0) (result : Nat) (buff s : List UInt8) :
    (hexLoop result length buff s).2 = buff := by
  rcases s with _ | ⟨a,_ | ⟨b,s⟩⟩
  · rfl
  · rfl
  · rw [hexLoop]
    split
    · rfl
    · rw [if_pos (.inr (.inr hl))]

theorem hexToBin_decode {s bytes : List UInt8} (h : Hex.decode s = some bytes)
    (tail : List UInt8) : (hexToBin (s ++ tail) bytes.length).2 = bytes := by
  rw [hexToBin]
  split
  · rename_i hzero
    have hnil : bytes = [] := List.eq_nil_of_length_eq_zero (by omega)
    rw [hnil]
  · rw [hexLoop_decode h (Int.le_refl _),Int.sub_self,hexLoop_full (Int.le_refl _),List.nil_append]

theorem twice_full {n : Int} (h : 0 ≤ n) (hn : n < 2 ^ 31) (ht : 0 ≤ twice n) :
    twice n = 2 * n := by
  rw [twice,toSigned,toUnsigned] at *
  split <;> omega

namespace Transcript

variable (t : Transcript)

def answer : Option Header := if t.sent then t.header else none

def reported : Int := (t.answer.elim t.size Header.size).toInt

def failed : Bool := t.sent && (!t.ok || t.header.any (fun h => t.full h && !t.remaining))

structure Delivered (got : Received) (h : Header) (bytes : List UInt8) : Prop where
  header : t.answer = some h
  size : h.size.toInt = got.size
  digits : Hex.decode (t.digits.take (2 * got.size.toNat)) = some bytes
  length : bytes.length = got.size.toNat
  buf : got.buf.take got.size.toNat = bytes
  address : got.address = some (h.ip, h.port)

def Honest (got : Received) : Prop := 0 ≤ got.size → ∃ h bytes, t.Delivered got h bytes

def Whole (h : Header) : Prop :=
  t.full h = true ∧ (Hex.decode (t.digits.take (2 * h.size.toInt.toNat))).isSome

def Sound : Prop := t.enough = false ∨ t.failed = true ∨ t.reported < 0 ∨
  ∃ h, t.answer = some h ∧ t.Whole h

variable {t} {tail : List UInt8}

theorem received_poor (h : t.enough = false) : (t.received tail).size = NsapiError.noMemory := by
  rw [received,h]
  rfl

theorem received_size (tail : List UInt8) (h : t.enough = true) : (t.received tail).size =
    if t.failed then NsapiError.deviceError else t.reported := by
  rw [received,if_pos h,failed,reported,answer,heard]
  cases t.sent with
  | false => rfl
  | true =>
    cases t.ok with
    | false => rfl
    | true =>
      cases t.header with
      | none => rfl
      | some h => rfl

theorem received_answer (tail : List UInt8) (h : t.enough = true) {header : Header} (ha : t.answer = some header) :
    (t.received tail).buf = t.decoded header tail ∧
    (t.received tail).address = some (header.ip, header.port) := by
  rw [answer] at ha
  split at ha
  · rename_i hsent
    rw [received,if_pos h,if_pos hsent,heard,ha]
    cases t.ok with
    | false => exact ⟨rfl,rfl⟩
    | true => exact ⟨rfl,rfl⟩
  · cases ha

theorem full_digits {header : Header} (hn : 0 ≤ header.size.toInt)
    (hfull : t.full header = true) : (twice header.size.toInt).toNat = 2 * header.size.toInt.toNat ∧
      2 * header.size.toInt.toNat ≤ t.digits.length := by
  obtain ⟨hpos,hle⟩ := of_decide_eq_true hfull
  have htwice : twice header.size.toInt = 2 * header.size.toInt :=
    twice_full hn (Int32.toInt_lt _) hpos
  omega

theorem decoded_whole (tail : List UInt8) {header : Header} (hn : 0 ≤ header.size.toInt)
    (hfull : t.full header = true) {bytes : List UInt8}
    (hb : Hex.decode (t.digits.take (2 * header.size.toInt.toNat)) = some bytes) :
    bytes.length = header.size.toInt.toNat ∧ t.decoded header tail = bytes := by
  obtain ⟨htake,hle⟩ := full_digits hn hfull
  have hlength : bytes.length = header.size.toInt.toNat := by
    have hlen := Hex.decode_length hb
    rw [List.length_take] at hlen
    omega
  refine ⟨hlength,?_⟩
  have hsize : header.size.toInt = (bytes.length : Int) := by omega
  rw [decoded,if_pos hfull,htake]
  rw [hsize] at hb ⊢
  exact hexToBin_decode hb tail

theorem full_zero {header : Header} (h : header.size.toInt = 0) : t.full header = true := by
  rw [full,h]
  exact decide_eq_true ⟨by decide,Int.natCast_nonneg _⟩

theorem received_honest (h : t.enough = true) (hf : t.failed = false) (hr : 0 ≤ t.reported) :
    t.Honest (t.received tail) ↔ ∃ h, t.answer = some h ∧ t.Whole h := by
  have hsize : (t.received tail).size = t.reported := by
    rw [received_size tail h,hf,if_neg Bool.false_ne_true]
  rw [Honest,hsize]
  constructor
  · intro hhonest
    obtain ⟨header,bytes,hd⟩ := hhonest hr
    have hn : header.size.toInt = t.reported := hd.size.trans hsize
    have hdigits := hd.digits
    have hbuf := hd.buf
    rw [hsize,← hn] at hdigits hbuf
    refine ⟨header,hd.header,?_,by rw [hdigits]; rfl⟩
    by_contra hpart
    rw [(received_answer tail h hd.header).1,decoded,if_neg hpart,List.take_nil] at hbuf
    have hzero : header.size.toInt = 0 := by
      have hlength := hd.length
      rw [← hbuf,hsize,List.length_nil] at hlength
      omega
    exact hpart (full_zero hzero)
  · rintro ⟨header,hanswer,hfull,hdigits⟩ -
    have hn : header.size.toInt = t.reported := by
      rw [reported,hanswer]
      rfl
    obtain ⟨bytes,hb⟩ := Option.isSome_iff_exists.mp hdigits
    obtain ⟨hlength,hdecoded⟩ := decoded_whole tail (hn ▸ hr) hfull hb
    obtain ⟨hbuf,haddress⟩ := received_answer tail h hanswer
    rw [hn] at hb hlength
    refine ⟨header,bytes,hanswer,hn.trans hsize.symm,?_,?_,?_,haddress⟩
    · rw [hsize]
      exact hb
    · rw [hsize]
      exact hlength
    · rw [hsize,hbuf,hdecoded,← hlength,List.take_length]

theorem received_honest_iff {id : Int} {length : Nat} (hl : length ≤ maxReadSize)
    {w w' : Station sig Bool} {got : Received} (h : Exec t.handler (receivefrom id length) w got w') :
    t.Honest got ↔ t.Sound := by
  obtain ⟨⟨tail,rfl⟩,-⟩ := wp_sound (receivefrom_spec id hl) h
  have hneg : ∀ {got : Received}, got.size < 0 → t.Honest got := fun hs hp =>
    absurd hs (Int.not_lt.mpr hp)
  cases he : t.enough with
  | false =>
    refine iff_of_true (hneg ?_) (.inl he)
    rw [received_poor he]
    decide
  | true =>
    have hsize := received_size tail he
    cases hf : t.failed with
    | true =>
      refine iff_of_true (hneg ?_) (.inr (.inl hf))
      rw [hsize,hf,if_pos rfl]
      decide
    | false =>
      rw [hf,if_neg Bool.false_ne_true] at hsize
      rcases Int.lt_or_le t.reported 0 with hr | hr
      · refine iff_of_true (hneg ?_) (.inr (.inr (.inl hr)))
        rw [hsize]
        exact hr
      · rw [received_honest he hf hr,Sound]
        simp [he,hf,Int.not_lt.mpr hr]

def spoken (size : Int32) (digits : List UInt8) : Transcript :=
  ⟨true,0,true,some ⟨0,"10.0.0.2",7,size⟩,digits,true,true⟩

def quiet : Station sig Bool := ⟨Driver.initial,false⟩

theorem received_honest_one : ∃ got w',
    Exec (spoken 1 [0x34,0x31]).handler (receivefrom 0 1) quiet got w' ∧
    ((spoken 1 [0x34,0x31]).Honest got ↔ (spoken 1 [0x34,0x31]).Sound) := by
  have hrun : ((receivefrom 0 1).run ((spoken 1 [0x34,0x31]).modem.machine.play
      (spoken 1 [0x34,0x31]).peer.script) 3 quiet).map (fun r => (r.1, r.2.modem)) =
      some (⟨1,[0x41],some ("10.0.0.2", 7)⟩, true) := by decide +kernel
  obtain ⟨w',hx,-⟩ := runs_result rfl hrun
  exact ⟨_,w',hx,received_honest_iff (by decide) hx⟩

theorem received_dishonest : ¬ ∀ (t : Transcript) (id : Int) (length : Nat)
    (w w' : Station sig Bool) (got : Received), 1 ≤ length → length ≤ 512 →
    Exec t.handler (receivefrom id length) w got w' → t.Honest got := by
  intro hall
  have hrun : ((receivefrom 0 3).run ((spoken 3 [0x34,0x31]).modem.machine.play
      (spoken 3 [0x34,0x31]).peer.script) 3 quiet).map (fun r => (r.1, r.2.modem)) =
      some (⟨3,[],some ("10.0.0.2", 7)⟩, true) := by decide +kernel
  obtain ⟨w',hx,-⟩ := runs_result rfl hrun
  obtain ⟨header,bytes,hd⟩ := hall _ 0 3 quiet w' _ (by decide) (by decide) hx (by decide)
  have hbuf := hd.buf
  have hlength := hd.length
  rw [← hbuf] at hlength
  cases hlength

end Transcript

end UbloxCellular.N2xx
