import UbloxCellular.Memory.Filled
import UbloxCellular.N2xx.Received

namespace UbloxCellular.N2xx
open Interaction Code Memory

inductive Fault where
  | hexWrite
  | hexRead
  | bufWrite
  deriving DecidableEq, Repr

-- The digits are the cells of tmpBuf from *s on: behind the last of them nothing was written.
def hexLoopIn {room : Nat} (result : Nat) (length : Int) (buff : Filled UInt8 room) :
    List UInt8 → Except Fault (Int × Filled UInt8 room)
  | [] => .error .hexRead
  | [a] =>
    if a = 0 then .ok (result, buff)
    else if hexChar a = 0xFF then .ok (-1, buff)
    else .error .hexRead
  | a :: b :: s =>
    if a = 0 then .ok (result, buff)
    else if hexChar a = 0xFF ∨ hexChar b = 0xFF ∨ length ≤ 0 then .ok (-1, buff)
    else match buff.push ((hexChar a <<< 4) + hexChar b) with
      | none => .error .bufWrite
      | some buff => hexLoopIn (result + 1) (length - 1) buff s

def hexToBinIn (room : Nat) (s : List UInt8) (length : Int) :
    Except Fault (Int × Filled UInt8 room) :=
  if length ≤ 0 then .ok (-1, .empty) else hexLoopIn 0 length .empty s

variable {room : Nat}

theorem hexLoop_nul {result : Nat} {length : Int} {buff : List UInt8} (s : List UInt8) :
    hexLoop result length buff (0 :: s) = ((result : Int), buff) := by
  cases s with
  | nil => rw [hexLoop,if_pos rfl]
  | cons b s => rw [hexLoop,if_pos rfl]

theorem hexLoop_bad {result : Nat} {length : Int} {buff : List UInt8} {a : UInt8} (ha : a ≠ 0)
    (hbad : hexChar a = 0xFF) (s : List UInt8) :
    hexLoop result length buff (a :: s) = (-1, buff) := by
  cases s with
  | nil => rw [hexLoop,if_neg ha]
  | cons b s => rw [hexLoop,if_neg ha,if_pos (.inl hbad)]

theorem hexLoopIn_ok {result : Nat} {length k : Int} {buff b : Filled UInt8 room}
    {s : List UInt8} (h : hexLoopIn result length buff s = .ok (k, b)) (tail : List UInt8) :
    hexLoop result length buff.val (s ++ tail) = (k, b.val) := by
  induction s using Hex.decode.induct generalizing result length buff with
  | case1 => cases h
  | case2 a =>
    rw [hexLoopIn] at h
    split_ifs at h with hzero hbad
    · cases h
      rw [hzero]
      exact hexLoop_nul tail
    · cases h
      exact hexLoop_bad hzero hbad tail
  | case3 a c s ih =>
    rw [hexLoopIn] at h
    rw [List.cons_append,List.cons_append,hexLoop]
    split_ifs at h ⊢ with hzero hbad
    · cases h
      rfl
    · cases h
      rfl
    · split at h
      · cases h
      · rename_i d hd
        have hval : d.val = buff.val ++ [(hexChar a <<< 4) + hexChar c] := Filled.push_val hd
        rw [← hval]
        exact ih h

theorem hexLoopIn_pair {a b x y : UInt8} (ha : Hex.value a = some x) (hb : Hex.value b = some y)
    {length : Int} (hl : 0 < length) {buff : Filled UInt8 room}
    (hroom : buff.val.length < room) (result : Nat) (s : List UInt8) :
    ∃ c : Filled UInt8 room, c.val = buff.val ++ [(hexChar a <<< 4) + hexChar b] ∧
      hexLoopIn result length buff (a :: b :: s) = hexLoopIn (result + 1) (length - 1) c s := by
  obtain ⟨hzero,hax,hxne⟩ := hexChar_some ha
  obtain ⟨-,hby,hyne⟩ := hexChar_some hb
  obtain ⟨c,hc,hval⟩ := Filled.push_some hroom ((hexChar a <<< 4) + hexChar b)
  refine ⟨c,hval,?_⟩
  rw [hexLoopIn,if_neg hzero,if_neg (digits_good ha hb hl),hc]

theorem hexLoopIn_pairs {s bytes : List UInt8} (h : Hex.decode s = some bytes) {length : Int}
    (hl : (bytes.length : Int) ≤ length) {buff : Filled UInt8 room}
    (hroom : buff.val.length + bytes.length ≤ room) (result : Nat) (rest : List UInt8) :
    ∃ c : Filled UInt8 room, c.val = buff.val ++ bytes ∧
      hexLoopIn result length buff (s ++ rest) =
        hexLoopIn (result + bytes.length) (length - bytes.length) c rest := by
  induction s using Hex.decode.induct generalizing bytes length result buff with
  | case1 =>
    cases h
    exact ⟨buff,(List.append_nil _).symm,by
      rw [List.nil_append,List.length_nil,Nat.add_zero,Int.ofNat_zero,Int.sub_zero]⟩
  | case2 => cases h
  | case3 a b s ih =>
    obtain ⟨x,y,bytes',ha,hb,hs,rfl⟩ := Hex.decode_pair h
    rw [List.length_cons] at hl hroom
    obtain ⟨c,hc,hstep⟩ := hexLoopIn_pair ha hb (by omega : 0 < length)
      (by omega : buff.val.length < room) result (s ++ rest)
    have hcroom : c.val.length + bytes'.length ≤ room := by
      rw [hc,List.length_append,List.length_singleton]
      omega
    obtain ⟨d,hd,hrest⟩ := ih hs (by omega : (bytes'.length : Int) ≤ length - 1) hcroom (result + 1)
    obtain ⟨-,hax,-⟩ := hexChar_some ha
    obtain ⟨-,hby,-⟩ := hexChar_some hb
    have hcount : result + (bytes'.length + 1) = result + 1 + bytes'.length := by omega
    have hleft : length - ((bytes'.length + 1 : Nat) : Int) = length - 1 - bytes'.length := by omega
    refine ⟨d,?_,?_⟩
    · rw [hd,hc,hax,hby,nibbles,List.append_assoc]
      rfl
    · rw [List.cons_append,List.cons_append,hstep,hrest,List.length_cons,hcount,hleft]

theorem hexLoopIn_decode {s bytes : List UInt8} (h : Hex.decode s = some bytes) {length : Int}
    (hl : (bytes.length : Int) ≤ length) {buff : Filled UInt8 room}
    (hroom : buff.val.length + bytes.length ≤ room) (result : Nat) :
    hexLoopIn result length buff s = .error .hexRead := by
  obtain ⟨c,-,hrest⟩ := hexLoopIn_pairs h hl hroom result []
  rw [List.append_nil] at hrest
  rw [hrest]
  rfl

theorem hexLoopIn_stops {s : List UInt8} (h : Hex.decode s = none) {n : Nat}
    (hs : s.length = 2 * n) {buff : Filled UInt8 room} (hroom : buff.val.length + n ≤ room)
    (result : Nat) {length : Int} (hl : (n : Int) ≤ length) :
    ∃ r, hexLoopIn result length buff s = .ok r := by
  induction s using Hex.decode.induct generalizing n length result buff with
  | case1 => cases h
  | case2 =>
    rw [List.length_singleton] at hs
    omega
  | case3 a b s ih =>
    rw [List.length_cons,List.length_cons] at hs
    have hstop : hexChar a = 0xFF ∨ hexChar b = 0xFF →
        ∃ r, hexLoopIn result length buff (a :: b :: s) = .ok r := by
      intro hbad
      rw [hexLoopIn]
      split
      · exact ⟨_,rfl⟩
      · rw [if_pos (hbad.imp_right .inl)]
        exact ⟨_,rfl⟩
    cases ha : Hex.value a with
    | none => exact hstop (.inl (hexChar_none ha))
    | some x =>
      cases hb : Hex.value b with
      | none => exact hstop (.inr (hexChar_none hb))
      | some y =>
        have hrest : Hex.decode s = none := by
          rw [Hex.decode,ha,hb] at h
          exact Option.map_eq_none_iff.mp h
        obtain ⟨c,hval,hstep⟩ := hexLoopIn_pair ha hb (by omega : 0 < length)
          (by omega : buff.val.length < room) result s
        rw [hstep]
        refine ih hrest (n := n - 1) (by omega) ?_ (result + 1) (by omega)
        rw [hval,List.length_append,List.length_singleton]
        omega

theorem hexToBinIn_ok {s : List UInt8} {length k : Int} {b : Filled UInt8 room}
    (h : hexToBinIn room s length = .ok (k, b)) (tail : List UInt8) :
    hexToBin (s ++ tail) length = (k, b.val) := by
  rw [hexToBinIn] at h
  rw [hexToBin]
  split_ifs at h ⊢
  · cases h
    rfl
  · exact hexLoopIn_ok h tail

namespace Transcript

variable (t : Transcript)

-- The reply taken into a tmpBuf of length*2 bytes and a buf of length bytes.
def receiveBodyIn (length : Nat) (h : Header) : Except Fault Received :=
  let read := t.read (twice h.size.toInt)
  match (Filled.empty : Filled UInt8 (length * 2)).pushAll read.2 with
  | none => .error .hexWrite
  | some tmpBuf =>
    if read.1 = twice h.size.toInt then
      match hexToBinIn length tmpBuf.val h.size.toInt with
      | .error fault => .error fault
      | .ok decoded => .ok ⟨if t.remaining then h.size.toInt else NsapiError.deviceError,
          decoded.2.val,some (h.ip, h.port)⟩
    else .ok ⟨h.size.toInt,[],some (h.ip, h.port)⟩

def receivefromIn (length : Nat) : Except Fault Received :=
  if t.enough then
    if t.sent then
      (t.header.elim (.ok ⟨t.size.toInt,[],none⟩) (t.receiveBodyIn length)).map fun got =>
        if t.ok then got else { got with size := NsapiError.deviceError }
    else .ok ⟨t.size.toInt,[],none⟩
  else .ok ⟨NsapiError.noMemory,[],none⟩

def InRange (length : Nat) (h : Header) : Prop :=
  (twice h.size.toInt ≤ (length * 2 : Nat) ∨ t.digits.length ≤ length * 2) ∧
  ¬ (0 < h.size.toInt ∧ t.Whole h)

def Bounded (length : Nat) : Prop :=
  t.enough = false ∨ ∀ h, t.answer = some h → t.InRange length h

variable {t} {length : Nat} {tail : List UInt8}

theorem receiveBodyIn_ok {h : Header} {got : Received} (hok : t.receiveBodyIn length h = .ok got) :
    got = t.body h tail := by
  rw [receiveBodyIn] at hok
  split at hok
  · cases hok
  · rename_i tmpBuf hbuf
    have hval : tmpBuf.val = (t.read (twice h.size.toInt)).2 := Filled.pushAll_val hbuf
    split at hok
    · rename_i hread
      have hfull : t.full h = true := (read_full h).mp hread
      rw [hval,read_stored hfull] at hok
      split at hok
      · cases hok
      · rename_i decoded hdecoded
        cases hok
        rw [body,Transcript.decoded,if_pos hfull,hfull,hexToBinIn_ok hdecoded tail]
        cases t.remaining <;> rfl
    · rename_i hread
      have hfull : t.full h = false :=
        eq_false_of_ne_true (fun hf => hread ((read_full h).mpr hf))
      cases hok
      rw [body,Transcript.decoded,hfull]
      rfl

theorem receivefromIn_ok (tail : List UInt8) {got : Received} (hok : t.receivefromIn length = .ok got) :
    got = t.received tail := by
  have hheard : ∀ {got : Received}, t.header.elim (.ok ⟨t.size.toInt,[],none⟩) (t.receiveBodyIn length) =
      .ok got → got = t.heard tail := by
    intro got hgot
    rw [heard]
    cases hh : t.header with
    | none =>
      rw [hh] at hgot
      cases hgot
      rfl
    | some h =>
      rw [hh] at hgot
      exact receiveBodyIn_ok hgot
  rw [receivefromIn] at hok
  rw [received]
  split
  · rename_i henough
    rw [if_pos henough] at hok
    split
    · rename_i hsent
      rw [if_pos hsent] at hok
      cases hb : t.header.elim (.ok ⟨t.size.toInt,[],none⟩) (t.receiveBodyIn length) with
      | error fault =>
        rw [hb] at hok
        cases hok
      | ok inner =>
        rw [hb,Except.map,hheard hb] at hok
        cases hok
        rfl
    · rename_i hsent
      rw [if_neg hsent] at hok
      cases hok
      rfl
  · rename_i henough
    rw [if_neg henough] at hok
    cases hok
    rfl

theorem digits_spill {h : Header} (hover : ¬ (twice h.size.toInt ≤ (length * 2 : Nat) ∨
    t.digits.length ≤ length * 2)) : t.receiveBodyIn length h = .error .hexWrite := by
  have hlong : length * 2 < (t.read (twice h.size.toInt)).2.length := by
    rw [read_length]
    omega
  have hfull : (Filled.empty : Filled UInt8 (length * 2)).pushAll
      (t.read (twice h.size.toInt)).2 = none := by
    refine Filled.pushAll_none ?_
    rw [Filled.empty,List.length_nil]
    omega
  rw [receiveBodyIn,hfull]

theorem digits_stored {h : Header} (hin : twice h.size.toInt ≤ (length * 2 : Nat) ∨
    t.digits.length ≤ length * 2) : ∃ tmpBuf : Filled UInt8 (length * 2),
      Filled.empty.pushAll (t.read (twice h.size.toInt)).2 = some tmpBuf ∧
      tmpBuf.val = (t.read (twice h.size.toInt)).2 := by
  have hshort : (t.read (twice h.size.toInt)).2.length ≤ length * 2 := by
    rw [read_length]
    omega
  obtain ⟨tmpBuf,hbuf⟩ := Filled.pushAll_some (b := (.empty : Filled UInt8 (length * 2)))
    (l := (t.read (twice h.size.toInt)).2) (by rw [Filled.empty,List.length_nil]; omega)
  exact ⟨tmpBuf,hbuf,Filled.pushAll_val hbuf⟩

theorem receiveBodyIn_whole {h : Header} (hin : twice h.size.toInt ≤ (length * 2 : Nat) ∨
    t.digits.length ≤ length * 2) (hpos : 0 < h.size.toInt) (hw : t.Whole h) :
    t.receiveBodyIn length h = .error .hexRead := by
  obtain ⟨hfull,hdigits⟩ := hw
  obtain ⟨bytes,hb⟩ := Option.isSome_iff_exists.mp hdigits
  obtain ⟨hlength,-⟩ := decoded_whole [] (Int.le_of_lt hpos) hfull hb
  obtain ⟨htake,hle⟩ := full_digits (Int.le_of_lt hpos) hfull
  obtain ⟨tmpBuf,hbuf,hval⟩ := digits_stored hin
  have hread : hexToBinIn length tmpBuf.val h.size.toInt = .error .hexRead := by
    rw [hval,read_stored hfull,htake,hexToBinIn,if_neg (Int.not_le.mpr hpos)]
    refine hexLoopIn_decode hb (by omega) ?_ 0
    rw [Filled.empty,List.length_nil]
    omega
  rw [receiveBodyIn,hbuf]
  dsimp only
  rw [if_pos ((read_full h).mpr hfull),hread]

theorem receiveBodyIn_fits {h : Header} (hin : t.InRange length h) :
    ∃ got, t.receiveBodyIn length h = .ok got := by
  obtain ⟨hroom,hpart⟩ := hin
  obtain ⟨tmpBuf,hbuf,hval⟩ := digits_stored hroom
  rw [receiveBodyIn,hbuf]
  dsimp only
  split
  · rename_i hread
    have hfull : t.full h = true := (read_full h).mp hread
    have hdecoded : ∃ r, hexToBinIn length tmpBuf.val h.size.toInt = .ok r := by
      rw [hexToBinIn]
      split
      · exact ⟨_,rfl⟩
      · rename_i hpos
        have hpos : 0 < h.size.toInt := Int.not_le.mp hpos
        obtain ⟨htake,hle⟩ := full_digits (Int.le_of_lt hpos) hfull
        have hnone : Hex.decode (t.digits.take (2 * h.size.toInt.toNat)) = none :=
          Option.not_isSome_iff_eq_none.mp (fun hd => hpart ⟨hpos,hfull,hd⟩)
        rw [hval,read_stored hfull,htake]
        refine hexLoopIn_stops hnone (n := h.size.toInt.toNat) ?_ ?_ 0 (by omega)
        · rw [List.length_take]
          omega
        · rw [Filled.empty,List.length_nil]
          omega
    obtain ⟨r,hr⟩ := hdecoded
    rw [hr]
    exact ⟨_,rfl⟩
  · exact ⟨_,rfl⟩

theorem receiveBodyIn_some_iff {h : Header} :
    (∃ got, t.receiveBodyIn length h = .ok got) ↔ t.InRange length h := by
  refine ⟨fun ⟨got,hgot⟩ => ?_,receiveBodyIn_fits⟩
  by_cases hroom : twice h.size.toInt ≤ (length * 2 : Nat) ∨ t.digits.length ≤ length * 2
  · refine ⟨hroom,fun ⟨hpos,hw⟩ => ?_⟩
    rw [receiveBodyIn_whole hroom hpos hw] at hgot
    cases hgot
  · rw [digits_spill hroom] at hgot
    cases hgot

theorem receivefromIn_some_iff : (∃ got, t.receivefromIn length = .ok got) ↔ t.Bounded length := by
  rw [receivefromIn,Bounded,answer]
  cases t.enough with
  | false => exact iff_of_true ⟨_,rfl⟩ (.inl rfl)
  | true =>
    cases t.sent with
    | false => exact iff_of_true ⟨_,rfl⟩ (.inr (by rintro h ⟨⟩))
    | true =>
      cases t.header with
      | none => exact iff_of_true ⟨_,rfl⟩ (.inr (by rintro h ⟨⟩))
      | some h =>
        simp only [if_true,Option.elim_some,Option.some.injEq,forall_eq',Bool.true_eq_false,
          false_or,← receiveBodyIn_some_iff]
        cases t.receiveBodyIn length h with
        | error fault => simp [Except.map]
        | ok got => simp [Except.map]

theorem received_bounded_iff {id : Int} (hl : length ≤ maxReadSize) {w w' : Station sig Bool}
    {got : Received} (h : Exec t.handler (receivefrom id length) w got w') :
    t.receivefromIn length = .ok got ↔ t.Bounded length := by
  obtain ⟨⟨tail,rfl⟩,-⟩ := wp_sound (receivefrom_spec id hl) h
  rw [← receivefromIn_some_iff]
  constructor
  · intro hok
    exact ⟨_,hok⟩
  · rintro ⟨got,hok⟩
    rw [hok,receivefromIn_ok tail hok]

theorem received_bounded_short : ∃ got w', Exec (spoken 2 [0x34,0x31]).handler
    (receivefrom 0 2) quiet got w' ∧
    ((spoken 2 [0x34,0x31]).receivefromIn 2 = .ok got ↔ (spoken 2 [0x34,0x31]).Bounded 2) := by
  have hrun : ((receivefrom 0 2).run ((spoken 2 [0x34,0x31]).modem.machine.play
      (spoken 2 [0x34,0x31]).peer.script) 3 quiet).map (fun r => (r.1, r.2.modem)) =
      some (⟨2,[],some ("10.0.0.2", 7)⟩, true) := by decide +kernel
  obtain ⟨w',hx,-⟩ := runs_result rfl hrun
  exact ⟨_,w',hx,received_bounded_iff (by decide) hx⟩

theorem received_unbounded : ¬ ∀ (t : Transcript) (length : Nat), 1 ≤ length → length ≤ 512 →
    ∃ got, t.receivefromIn length = .ok got := by
  intro hall
  obtain ⟨got,hok⟩ := hall (spoken 1 [0x34,0x31]) 1 (by decide) (by decide)
  have hfault : (spoken 1 [0x34,0x31]).receivefromIn 1 = .error .hexRead := by
    rfl
  rw [hfault] at hok
  cases hok

end Transcript

end UbloxCellular.N2xx
