import UbloxCellular.Gauge.Frames

namespace UbloxCellular.Gauge
open Interaction I2c

section Blocks
variable {b : Block} {s : Nat} {ds : List Byte}

theorem memcpy_get {i : Nat} (hi : i < 32) :
    (memcpy b s ds)[i] = if s ≤ i ∧ i < s + ds.length then ds.getD (i - s) 0 else b[i] := by
  simp [memcpy]

theorem memcpy_nil : memcpy b s [] = b := by
  apply Vector.ext
  intro i hi
  rw [memcpy_get hi,if_neg (by simp only [List.length_nil]; omega)]

theorem memcpy_cons {d : Byte} (hs : s < 32) :
    memcpy (b.setIfInBounds s d) (s + 1) ds = memcpy b s (d :: ds) := by
  apply Vector.ext
  intro i hi
  rw [memcpy_get hi,memcpy_get hi,List.length_cons]
  rcases Nat.lt_trichotomy i s with h | rfl | h
  · rw [if_neg (by omega),if_neg (by omega),Vector.getElem_setIfInBounds_ne hi (by omega)]
  · rw [if_neg (by omega),if_pos (by omega),Vector.getElem_setIfInBounds_self,Nat.sub_self,
      List.getD_cons_zero]
  · obtain ⟨k,rfl⟩ : ∃ k, i = s + 1 + k := ⟨i - (s + 1),by omega⟩
    rw [show s + 1 + k - (s + 1) = k by omega,show s + 1 + k - s = k + 1 by omega,
      List.getD_cons_succ,Vector.getElem_setIfInBounds_ne hi (by omega)]
    by_cases hk : k < ds.length
    · rw [if_pos (by omega),if_pos (by omega)]
    · rw [if_neg (by omega),if_neg (by omega)]

theorem computeChecksum_eq (b : Block) : computeChecksum b = checksum b := by
  have hones : (0xff : Byte) = BitVec.allOnes 8 := by decide
  rw [computeChecksum,checksum,List.sum_eq_foldl,hones,BitVec.allOnes_sub_eq_not]

end Blocks

section Pokes
variable {address : Byte} {shows : Chip → Byte → Byte → Prop}
  {lost : List Byte → Chip → Chip → Prop} {c : Chip}

theorem poke_window {s : Nat} (hs : s < 32) (d : Byte) :
    c.poke (BitVec.ofNat 8 (64 + s)) d = { c with buffer := c.buffer.setIfInBounds s d } := by
  have hn : (BitVec.ofNat 8 (64 + s)).toNat = 64 + s := by
    rw [BitVec.toNat_ofNat]
    omega
  have hne (r : Byte) (hr : r.toNat < 64) : BitVec.ofNat 8 (64 + s) ≠ r := by
    rintro rfl
    omega
  have hlo : (0x40 : Byte) ≤ BitVec.ofNat 8 (64 + s) ∧ BitVec.ofNat 8 (64 + s) < (0x60 : Byte) := by
    rw [BitVec.le_def,BitVec.lt_def,hn]
    exact ⟨Nat.le_add_right 64 s,by change 64 + s < 96; omega⟩
  rw [Chip.poke,if_neg (hne 0x00 (by decide)),if_neg (hne 0x01 (by decide)),
    if_neg (hne 0x3e (by decide)),if_neg (hne 0x3f (by decide)),if_pos hlo,hn,
    Nat.add_sub_cancel_left]

theorem pokes_window {s : Nat} {ds : List Byte} (hs : s + ds.length ≤ 32) :
    (chipOn address shows lost).pokes (BitVec.ofNat 8 (64 + s)) ds c =
      { c with buffer := memcpy c.buffer s ds } := by
  induction ds generalizing s c with
  | nil => rw [Device.pokes,memcpy_nil]
  | cons d ds ih =>
    rw [List.length_cons] at hs
    have hnext : BitVec.ofNat 8 (64 + s) + 1 = BitVec.ofNat 8 (64 + (s + 1)) := by
      rw [← Nat.add_assoc,BitVec.ofNat_add (64 + s) 1]
      rfl
    have hpoke : (chipOn address shows lost).poke (BitVec.ofNat 8 (64 + s)) d c =
        { c with buffer := c.buffer.setIfInBounds s d } := poke_window (by omega) d
    rw [Device.pokes,hnext,hpoke,ih (by omega),memcpy_cons (by omega)]

theorem windowAddress_eq (offset : Nat) :
    windowAddress offset = BitVec.ofNat 8 (64 + offset % 32) := by
  have hmod : (0x40 : Int) + (offset : Int).tmod 32 = ((64 + offset % 32 : Nat) : Int) := rfl
  rw [windowAddress,hmod,BitVec.ofInt_natCast]

theorem wp_window {g : BatteryGaugeBq27441} {offset : Nat} {data : List Byte} {n : Node Chip}
    {Q : Bool → Node Chip → Prop} (hfit : offset % 32 + data.length ≤ 32)
    (hfail : ∀ x n', Drifted address shows lost n x →
      lost (windowAddress offset :: data) x n'.core → Q false n')
    (hok : ∀ p x, Drifted address shows lost n x →
      Q true ⟨p,{ x with buffer := memcpy x.buffer (offset % 32) data }⟩) :
    wp (chipOn address shows lost).spec (g.write (windowAddress offset :: data)) Q n := by
  refine (Device.wp_write _ _ _).mpr (fun x hx => ⟨fun _ => ?_,fun n' hn => hfail x n' hx hn⟩)
  rw [windowAddress_eq,Device.put,pokes_window hfit]
  exact hok _ x hx

end Pokes

theorem poke_mem {r d : Byte} {c : Chip} (hr : r ≠ 0x01) (hr' : r ≠ 0x60) :
    (c.poke r d).mem = c.mem := by
  simp only [Chip.poke,hr,hr',if_false,false_and]
  split_ifs <;> rfl

theorem poke_mode {r d : Byte} {c : Chip} (hr : r ≠ 0x01) : (c.poke r d).mode = c.mode := by
  simp only [Chip.poke,hr,if_false]
  split_ifs <;> rfl

theorem poke_class {d : Byte} {c : Chip} : c.poke 0x3e d = { c with subClass := d }.load := rfl

theorem poke_block {d : Byte} {c : Chip} : c.poke 0x3f d = { c with blockNo := d }.load := rfl

namespace BatteryGaugeBq27441
variable {address : Byte} {g : BatteryGaugeBq27441} {n : Node Chip}

def memory (address : Byte) : (unreliable address).Kept (Byte → Byte → Block) where
  part := Chip.mem
  event := drift_keep (fun _ _ => rfl)
  lost _ _ _ h := h.1
  missed _ _ h := h.1

instance memory_quiet : Quiet (memory address).frame :=
  quiet_chip (fun _ _ _ h h' => poke_mem h h')

instance memory_control (w : Word) : (memory address).frame.Keeps (g.control w) :=
  keeps_control (fun _ => rfl)

structure Loaded (c : Chip) (subClassId blockNo : Byte) : Prop where
  isSubClass : c.subClass = subClassId
  isBlock : c.blockNo = blockNo
  buffered : c.buffer = c.mem subClassId blockNo

def blockOf (offset : Int) : Byte := BitVec.ofInt 8 (offset.tdiv 32)

theorem window_shown {c : Chip} {k : Nat} (hk : k ≤ 32) {s : Nat} (hs : s + k ≤ 32)
    {v : Vector Byte k}
    (h : ∀ i (h : i < k), c.shows (BitVec.ofNat 8 (64 + s) + BitVec.ofNat 8 i) v[i]) :
    ∀ i (hi : i < k), v[i] = c.buffer[s + i] := by
  intro i hi
  have hsum : BitVec.ofNat 8 (64 + s) + BitVec.ofNat 8 i = BitVec.ofNat 8 (64 + (s + i)) := by
    rw [← BitVec.ofNat_add,Nat.add_assoc]
  have hn : (BitVec.ofNat 8 (64 + (s + i))).toNat = 64 + (s + i) := by
    rw [BitVec.toNat_ofNat]
    omega
  have hlo : (0x40 : Byte) ≤ BitVec.ofNat 8 (64 + (s + i)) := by
    rw [BitVec.le_def,hn]
    exact Nat.le_add_right 64 _
  have hv := h i hi
  rw [hsum] at hv
  have hb := hv.2.1 (by omega) hlo
  simpa only [hn,Nat.add_sub_cancel_left] using hb

theorem Loaded.drifts {c c' : Chip} {s b : Byte} (h : Loaded c s b)
    (hd : (unreliable address).Drifts c c') : Loaded c' s b := by
  rw [drifts_mode hd]
  exact ⟨h.isSubClass,h.isBlock,h.buffered⟩

theorem loaded_selected {y z t : Chip} {s b : Byte}
    (hz : (unreliable address).Drifts (y.poke 0x3e s) z)
    (ht : (unreliable address).Drifts (z.poke 0x3f b) t) : Loaded t s b := by
  have hs : z.subClass = s := by
    rw [drifts_mode hz,poke_class]
    rfl
  have hload : Loaded (z.poke 0x3f b) s b := by
    rw [poke_block]
    exact ⟨hs,rfl,by rw [← hs]; rfl⟩
  exact hload.drifts ht

theorem config_stays {c c' : Chip} (hd : (unreliable address).Drifts c c')
    (hc : c.mode = .config) : c'.mode = .config := by
  rw [drifts_config hd hc]
  exact hc

theorem loadBlock_spec (subClassId : Byte) (offset : Int) :
    wp (unreliable address).spec (g.loadBlock subClassId offset) (fun r n' => ∀ block,
      r = some block → Loaded n'.core subClassId (blockOf offset) ∧ block = n'.core.buffer ∧
        (n.core.mode = .config → n'.core.mode = .config)) n := by
  rw [loadBlock,wp_bind]
  refine wp_data (by simp) (fun x hx => ?_)
  rw [if_pos rfl,wp_bind]
  refine wp_data (by simp) (fun y hy => ?_)
  rw [if_pos rfl,wp_bind]
  refine wp_dataRepeated (by simp) (fun z hz => ?_)
  rw [if_pos rfl,wp_bind]
  refine wp_bytes (by simp) (fun t v ht hv => ?_)
  simp only [Option.elim_some,wp_bind]
  refine wp_select (by simp) (fun u hu => ?_)
  rw [if_pos rfl,wp_bind]
  refine wp_bytes (by simp) (fun w sum hw _ => ?_)
  intro block hblock
  have hloaded : Loaded t subClassId (blockOf offset) := loaded_selected hz ht
  have hbuffer : v = t.buffer := by
    apply Vector.ext
    intro i hi
    have hi' := window_shown (by omega) (Nat.le_of_eq (Nat.zero_add 32)) hv i hi
    simpa only [Nat.zero_add] using hi'
  have hsame : w.buffer = t.buffer := by
    rw [drifts_mode hw,drifts_mode hu]
  have hgot : block = v := by
    by_cases hsum : sum[0] = computeChecksum v
    · simpa [hsum] using hblock.symm
    · simp [hsum] at hblock
  refine ⟨(hloaded.drifts hu).drifts hw,by rw [hgot,hbuffer,hsame],fun hc => ?_⟩
  have hx' := config_stays hx hc
  have hy' := config_stays hy hx'
  have hz' := config_stays hz ((poke_mode (by decide)).trans hy')
  have ht' := config_stays ht ((poke_mode (by decide)).trans hz')
  exact config_stays hw (config_stays hu ht')

def Entered (c : Chip) : Prop := c.mode = .entering ∨ c.mode = .config

theorem Entered.drifts {c c' : Chip} (h : Entered c) (hd : (unreliable address).Drifts c c') :
    Entered c' := by
  induction hd with
  | refl => exact h
  | tail _ hstep ih =>
    cases hstep with
    | entered _ => exact .inr rfl
    | left hm => rcases ih with hi | hi <;> rw [hm] at hi <;> cases hi

theorem Entered.spoilt {c c' : Chip} {data : List Byte} (h : Entered c)
    (hs : Chip.spoilt data c c') (hd : data.head? ≠ some 0x00) : Entered c' := by
  rw [Entered,hs.2.resolve_left hd]
  exact h

theorem Entered.flag {c : Chip} {lo : Byte} (h : Entered c) (hs : c.shows 0x06 lo)
    (hlo : lo.getLsbD 4 = true) : c.mode = .config := by
  rw [hs.1 rfl,Chip.configFlag,decide_eq_true_eq] at hlo
  rcases hlo with hm | hm
  · exact hm
  · rcases h with hi | hi <;> rw [hm] at hi <;> cases hi

theorem word_flag (hi lo : Byte) : (hi ++ lo : Word).getLsbD 4 = lo.getLsbD 4 := by
  rw [BitVec.getLsbD_append]
  exact if_pos (by decide)

theorem getTwoBytes_entered (h : Entered n.core) :
    wp (unreliable address).spec (g.getTwoBytes 0x06) (fun o n' => Entered n'.core ∧
      ∀ w, o = some w → w.getLsbD 4 = true → n'.core.mode = .config) n := by
  cases hi2c : g.gpI2c with
  | false =>
    rw [getTwoBytes,if_neg (by simp [hi2c])]
    exact ⟨h,by simp⟩
  | true =>
    refine wp_word hi2c (fun x n' hx hn => ⟨?_,by simp⟩) (fun p x lo hi hx hlo _ => ?_)
    · rcases hn with hn | hn <;> exact (h.drifts hx).spoilt hn (by simp)
    · refine ⟨h.drifts hx,fun w hw hflag => ?_⟩
      obtain rfl := Option.some.inj hw
      rw [word_flag] at hflag
      exact (h.drifts hx).flag hlo hflag

theorem enterConfig_spec : wp (unreliable address).spec g.enterConfig
    (fun b n' => b = true → n'.core.mode = .config) n := by
  rw [enterConfig,wp_both]
  refine wp_control (by simp) (fun p x hx => ?_)
  rw [if_pos rfl,wp_bind]
  have hentered : Entered ({ x with low := lowByte 0x0013 }.command 0x0013) := by
    by_cases hm : x.mode = .config
    · exact .inr (by simp [Chip.command,Chip.modeAfter,hm])
    · exact .inl (by simp [Chip.command,Chip.modeAfter,hm])
  refine wp_upTo (Device.mono _) (fun _ (a : Word) n' => Entered n'.core ∧
    (a.getLsbD 4 = true → n'.core.mode = .config)) (fun _ a n' hn _ => hn.2)
    (fun a n' hn => hn.2) (fun _ a n' hn _ => ?_)
    ⟨hentered,fun h => absurd h (by decide)⟩
  refine wp_seq (Device.mono _) (getTwoBytes_entered hn.1) (fun o m hm => ?_)
  rw [wp_bind,Device.wp_wait]
  refine fun y hy => ⟨hm.1.drifts hy,fun hflag => ?_⟩
  cases o with
  | none => exact absurd hflag (by decide)
  | some w => exact config_stays hy (hm.2 w rfl hflag)

def stored (m : Byte → Byte → Block) (subClassId blockNo : Byte) (start : Nat)
    (data : List Byte) : Byte → Byte → Block :=
  fun s b => if s = subClassId ∧ b = blockNo then memcpy (m s b) start data else m s b

theorem poke_checksum {c : Chip} {s b : Byte} {start : Nat} {data : List Byte}
    (h : Loaded c s b) (hc : c.mode = .config) :
    ({ c with buffer := memcpy c.buffer start data }.poke 0x60
      (computeChecksum (memcpy c.buffer start data))).mem = stored c.mem s b start data := by
  rw [computeChecksum_eq]
  have hcommit : { c with buffer := memcpy c.buffer start data }.poke 0x60
      (checksum (memcpy c.buffer start data)) =
      { c with buffer := memcpy c.buffer start data }.commit := by
    simp [Chip.poke,hc]
  rw [hcommit]
  funext s' b'
  simp only [Chip.commit,stored,h.isSubClass,h.isBlock,h.buffered]
  split_ifs with hsb
  · rw [hsb.1,hsb.2]
  · rfl

def AllOrNothing (before after : Byte → Byte → Block) (ok : Bool) (m : Byte → Byte → Block) :
    Prop := if ok then m = after else m = before ∨ m = after

theorem storeBlock_spec {s b : Byte} {offset : Nat} {data : List Byte}
    (hfit : offset % 32 + data.length ≤ 32) (h : Loaded n.core s b) (hc : n.core.mode = .config) :
    wp (unreliable address).spec (g.storeBlock offset data n.core.buffer) (fun ok n' =>
      AllOrNothing n.core.mem (stored n.core.mem s b (offset % 32) data) ok n'.core.mem ∧
        (ok = true → n'.core.mode = .config)) n := by
  have hstart : ((offset : Int).tmod 32).toNat = offset % 32 := rfl
  rw [storeBlock,wp_both,hstart]
  refine wp_window hfit (fun x n' hx hn => ?_) (fun p x hx => ?_)
  · rw [if_neg Bool.false_ne_true]
    rw [drifts_config hx hc] at hn
    exact ⟨.inl hn.1,by simp⟩
  · obtain rfl := drifts_config hx hc
    rw [if_pos rfl,write,Device.wp_write]
    refine fun y hy => ⟨fun _ => ?_,fun n' hn => ?_⟩
    · obtain rfl := drifts_config hy hc
      rw [put_data]
      exact ⟨poke_checksum h hc,fun _ => (poke_mode (by decide)).trans hc⟩
    · rw [drifts_config hy hc] at hn
      exact ⟨.inl hn.1,by simp⟩

theorem writeBlock_spec {subClassId : Byte} {offset : Nat} {data : List Byte} (wasSealed : Bool)
    (hfit : offset % 32 + data.length ≤ 32) :
    wp (unreliable address).spec (g.writeBlock wasSealed subClassId offset data) (fun ok n' =>
      AllOrNothing n.core.mem
        (stored n.core.mem subClassId (blockOf offset) (offset % 32) data) ok n'.core.mem) n := by
  rw [writeBlock,wp_both]
  refine wp_mono (Device.mono _) (fun b m hb => ?_)
    (Handler.wp_and (Device.Kept.run (K := memory address) inferInstance n) enterConfig_spec)
  obtain ⟨hmem,hmode⟩ := hb
  change m.core.mem = n.core.mem at hmem
  cases b with
  | false => exact .inl hmem
  | true =>
    rw [if_pos rfl,wp_bind,← hmem]
    refine wp_mono (Device.mono _) (fun r k hr => ?_)
      (Handler.wp_and (Device.Kept.run (K := memory address) inferInstance m)
        (loadBlock_spec subClassId offset))
    obtain ⟨hkept,hblock⟩ := hr
    change k.core.mem = m.core.mem at hkept
    cases r with
    | none => exact .inl hkept
    | some block =>
      obtain ⟨hloaded,rfl,hconfig⟩ := hblock block rfl
      simp only [Option.elim_some,wp_both]
      refine wp_mono (Device.mono _) (fun ok p hp => ?_)
        (storeBlock_spec hfit hloaded (hconfig (hmode rfl)))
      rw [hkept] at hp
      obtain ⟨hp,-⟩ := hp
      cases ok with
      | false => exact hp
      | true =>
        refine wp_mono (Device.mono _) (fun done q hq => ?_)
          (Device.Kept.run (K := memory address) inferInstance p)
        have hstored : q.core.mem = stored m.core.mem subClassId (blockOf offset) (offset % 32) data :=
          Eq.trans hq hp
        cases done with
        | false => exact .inr hstored
        | true => exact hstored

theorem kept_memory {α : Type} (p : BusCode α) [hp : (memory address).frame.Keeps p] :
    wp (unreliable address).spec p (fun _ n' => n'.core.mem = n.core.mem) n := hp.run n trivial

theorem resealed_memory {before after : Byte → Byte → Block} {success wasSealed : Bool}
    (h : AllOrNothing before after success n.core.mem) :
    wp (unreliable address).spec (if !success && wasSealed then do
      let _ ← g.seal'
      return false
      else return success) (fun ok n' => AllOrNothing before after ok n'.core.mem) n := by
  cases success with
  | true => exact h
  | false =>
    cases wasSealed with
    | false => exact h
    | true =>
      simp only [Bool.not_false,Bool.and_self,if_true,wp_bind]
      refine wp_mono (Device.mono _) (fun _ m hm => ?_) (kept_memory g.seal')
      rw [wp_pure,hm]
      exact h

theorem writeExtendedData_spec {subClassId : Byte} {offset k : Nat} {data : List Byte}
    (hfit : offset % 32 + k ≤ 32) :
    wp (unreliable address).spec (g.writeExtendedData subClassId offset k (some data)) (fun ok n' =>
      AllOrNothing n.core.mem
        (stored n.core.mem subClassId (blockOf offset) (offset % 32) (data.take k))
        ok n'.core.mem) n := by
  have hlen : offset % 32 + (data.take k).length ≤ 32 := by
    rw [List.length_take]
    omega
  rw [writeExtendedData,wp_ite]
  split
  · refine wp_seq (Device.mono _) (kept_memory g.isSealed) (fun wasSealed m hm => ?_)
    refine wp_seq (Device.mono _) (kept_memory (g.accessible wasSealed)) (fun opened l hl => ?_)
    rw [wp_bind,← hm,← hl,wp_ite]
    cases opened with
    | true => exact wp_mono (Device.mono _) (fun _ _ h => resealed_memory h) (writeBlock_spec _ hlen)
    | false => exact resealed_memory (.inl rfl)
  · exact .inl rfl

theorem byte_eq {c : Chip} {subClassId : Byte} {offset i : Nat} (h : offset % 32 + i < 32) :
    c.byte subClassId (offset + i) = (c.mem subClassId (blockOf offset))[offset % 32 + i] := by
  have hdiv : (offset + i) / 32 = offset / 32 := by omega
  have hmod : (offset + i) % 32 = offset % 32 + i := by omega
  have hblock : blockOf offset = BitVec.ofNat 8 (offset / 32) := BitVec.ofInt_natCast 8 _
  simp only [Chip.byte,hblock,hdiv,Fin.getElem_fin,Fin.val_ofNat,hmod]

theorem readBlock_spec {subClassId : Byte} {offset k : Nat} (hfit : offset % 32 + k ≤ 32) :
    wp (unreliable address).spec (g.readBlock subClassId offset k) (fun r n' => ∀ bytes,
      r = some bytes →
        bytes = (List.range k).map (fun i => n'.core.byte subClassId (offset + i))) n := by
  rw [readBlock]
  refine wp_seq (Device.mono _) (loadBlock_spec subClassId offset) (fun r m hm => ?_)
  cases r with
  | none => simp
  | some block =>
    obtain ⟨hloaded,rfl,-⟩ := hm block rfl
    simp only [Option.elim_some,wp_bind]
    refine wp_select (by simp) (fun x hx => ?_)
    rw [if_pos rfl,wp_bind]
    refine wp_bytes (by simp) (fun y v hy hv bytes hbytes => ?_)
    have hy' : Loaded y subClassId (blockOf offset) := (hloaded.drifts hx).drifts hy
    simp only [Option.map_some,Option.some.injEq] at hbytes
    rw [← hbytes]
    refine List.ext_getElem (by simp) (fun i hi hi' => ?_)
    have hik : i < k := by simpa using hi
    rw [windowAddress_eq] at hv
    have hvi := window_shown (by omega) hfit hv i hik
    simp only [Vector.getElem_toList,List.getElem_map,List.getElem_range]
    rw [hvi,byte_eq (by omega)]
    exact congrArg (fun b : Block => b[offset % 32 + i]) hy'.buffered

theorem byte_mem {c c' : Chip} (h : c'.mem = c.mem) (s : Byte) (o : Nat) :
    c'.byte s o = c.byte s o := by rw [Chip.byte,h,Chip.byte]

theorem returned {r : Option (List Byte)} {wasSealed : Bool} {Q : List Byte → Prop}
    (h : ∀ bytes, r = some bytes → Q bytes) :
    wp (unreliable address).spec (if wasSealed then do
      if ← g.seal' then return r else return none
      else return r) (fun r _ => ∀ bytes, r = some bytes → Q bytes) n := by
  cases wasSealed with
  | false => exact h
  | true =>
    simp only [if_true,wp_bind]
    refine wp_mono (Device.mono _) (fun b m _ => ?_) (kept_memory g.seal')
    cases b with
    | false => simp
    | true => exact h

theorem readExtendedData_spec {subClassId : Byte} {offset k : Nat} {pData : Bool}
    (hfit : offset % 32 + k ≤ 32) :
    wp (unreliable address).spec (g.readExtendedData subClassId offset k pData) (fun r _ =>
      ∀ bytes, r = some bytes →
        bytes = (List.range k).map (fun i => n.core.byte subClassId (offset + i))) n := by
  rw [readExtendedData,wp_ite]
  split
  · refine wp_seq (Device.mono _) (kept_memory g.isSealed) (fun wasSealed m hm => ?_)
    refine wp_seq (Device.mono _) (kept_memory (g.accessible wasSealed)) (fun opened l hl => ?_)
    rw [wp_bind,wp_ite]
    cases opened with
    | true =>
      refine wp_mono (Device.mono _) (fun r j hr => returned (fun bytes hbytes => ?_))
        (Handler.wp_and (kept_memory _) (readBlock_spec hfit))
      have hmem : j.core.mem = n.core.mem := hr.1.trans (hl.trans hm)
      simpa only [byte_mem hmem] using hr.2 bytes hbytes
    | false => exact returned (fun _ h => by cases h)
  · simp

end BatteryGaugeBq27441

section Patch
open BatteryGaugeBq27441

def Chip.patched (c : Chip) (subClassId : Byte) (offset length : Int) (data : List Byte) (s : Byte)
    (o : Nat) : Byte :=
  if s = subClassId ∧ offset ≤ o ∧ o < offset + length then data.getD (o - offset.toNat) 0
  else c.byte s o

structure AtomicWrite (address : Byte) (g : BatteryGaugeBq27441) (subClassId : Byte)
    (offset length : Int) (data : List Byte) (n : Node Chip) (ok : Bool) (n' : Node Chip) :
    Prop where
  atomic : n'.core.mem = n.core.mem ∨ ∀ s, ∀ o < 8192,
    n'.core.byte s o = n.core.patched subClassId offset length data s o
  written : ok = true → ∀ s, ∀ o < 8192,
    n'.core.byte s o = n.core.patched subClassId offset length data s o
  readBack : ok = true → ∀ (h : BatteryGaugeBq27441) (offset' length' : Int) (bytes : List Byte)
    (n'' : Node Chip), 0 ≤ offset' → 1 ≤ length' → withinBlock offset' length' = true →
    offset' / 32 = offset / 32 →
    Exec (unreliable address).handler (h.readExtendedData subClassId offset' length' true) n'
      (some bytes) n'' →
    bytes = (List.range length'.toNat).map (fun i =>
      n.core.patched subClassId offset length data subClassId (offset'.toNat + i))

theorem byte_stored {c c' : Chip} {subClassId : Byte} {offset : Nat} {ds : List Byte}
    (hbound : offset < 8192)
    (h : c'.mem = stored c.mem subClassId (blockOf offset) (offset % 32) ds) (s : Byte) {o : Nat}
    (ho : o < 8192) : c'.byte s o =
      if s = subClassId ∧ o / 32 = offset / 32 ∧ offset % 32 ≤ o % 32 ∧
        o % 32 < offset % 32 + ds.length then ds.getD (o % 32 - offset % 32) 0 else c.byte s o := by
  have hblock : BitVec.ofNat 8 (o / 32) = blockOf offset ↔ o / 32 = offset / 32 := by
    have hof : blockOf offset = BitVec.ofNat 8 (offset / 32) := BitVec.ofInt_natCast 8 _
    rw [hof,← BitVec.toNat_inj,BitVec.toNat_ofNat,BitVec.toNat_ofNat,
      Nat.mod_eq_of_lt (by omega),Nat.mod_eq_of_lt (by omega)]
  have hmem := congrFun (congrFun h s) (BitVec.ofNat 8 (o / 32))
  simp only [stored,hblock] at hmem
  by_cases hs : s = subClassId ∧ o / 32 = offset / 32
  · rw [if_pos hs] at hmem
    have hbyte : c'.byte s o =
        (memcpy (c.mem s (BitVec.ofNat 8 (o / 32))) (offset % 32) ds)[o % 32] :=
      congrArg (fun b : Block => b[Fin.ofNat 32 o]) hmem
    rw [hbyte,memcpy_get (Nat.mod_lt o (by decide))]
    by_cases hin : offset % 32 ≤ o % 32 ∧ o % 32 < offset % 32 + ds.length
    · rw [if_pos hin,if_pos ⟨hs.1,hs.2,hin⟩]
    · rw [if_neg hin,if_neg (fun h => hin h.2.2)]
      rfl
  · rw [if_neg hs] at hmem
    have hbyte : c'.byte s o = c.byte s o := congrArg (fun b : Block => b[Fin.ofNat 32 o]) hmem
    rw [hbyte,if_neg (fun h => hs ⟨h.1,h.2.1⟩)]

theorem byte_outside {c c' : Chip} {subClassId : Byte} {offset k : Nat} {ds : List Byte}
    (hbound : offset < 8192) (hlen : ds.length ≤ k)
    (h : c'.mem = stored c.mem subClassId (blockOf offset) (offset % 32) ds) {s : Byte} {o : Nat}
    (ho : o < 8192) (hout : ¬ (s = subClassId ∧ offset ≤ o ∧ o < offset + k)) :
    c'.byte s o = c.byte s o := by
  rw [byte_stored hbound h s ho,if_neg]
  rintro ⟨hs,hb,hlo,hhi⟩
  exact hout ⟨hs,by omega,by omega⟩

theorem patched_stored {c c' : Chip} {subClassId : Byte} {offset k : Nat} {data : List Byte}
    (hbound : offset < 8192) (hfit : offset % 32 + k ≤ 32) (hdata : k ≤ data.length)
    (h : c'.mem = stored c.mem subClassId (blockOf offset) (offset % 32) (data.take k)) (s : Byte)
    (o : Nat) (ho : o < 8192) : c'.byte s o = c.patched subClassId offset k data s o := by
  have hlen : (data.take k).length = k := by simp [hdata]
  rw [Chip.patched]
  split_ifs with hin
  · obtain ⟨hs,hlo,hhi⟩ := hin
    have hpos : o % 32 - offset % 32 = o - offset := by omega
    rw [byte_stored hbound h s ho,if_pos ⟨hs,by omega,by omega,by omega⟩,hpos,Int.toNat_natCast,
      List.getD_eq_getElem?_getD,List.getElem?_take_of_lt (by omega),List.getD_eq_getElem?_getD]
  · refine byte_outside hbound (Nat.le_of_eq hlen) h ho (fun hout => hin ⟨hout.1,?_⟩)
    omega

theorem withinBlock_fits {offset k : Nat} (hk : 1 ≤ k) (h : withinBlock offset k = true) :
    offset % 32 + k ≤ 32 := by
  simp only [withinBlock,Bool.and_eq_true,decide_eq_true_eq,beq_iff_eq] at h
  have hlast : (offset : Int) + k - 1 = ((offset + k - 1 : Nat) : Int) := by omega
  rw [hlast] at h
  have hdiv : ((offset / 32 : Nat) : Int) = ((offset + k - 1) / 32 : Nat) := h.2
  omega

theorem config_write_atomic {address : Byte} {g : BatteryGaugeBq27441} {subClassId : Byte}
    {offset length : Int} {data : List Byte} {n n' : Node Chip} {ok : Bool} (hoffset : 0 ≤ offset)
    (hbound : offset ≤ 8191) (hlength : 1 ≤ length) (hwithin : withinBlock offset length = true)
    (hdata : length ≤ data.length)
    (hrun : Exec (unreliable address).handler
      (g.writeExtendedData subClassId offset length (some data)) n ok n') :
    AtomicWrite address g subClassId offset length data n ok n' := by
  obtain ⟨o,rfl⟩ := Int.eq_ofNat_of_zero_le hoffset
  obtain ⟨k,rfl⟩ := Int.eq_ofNat_of_zero_le (show (0 : Int) ≤ length by omega)
  have hfit : o % 32 + k ≤ 32 := withinBlock_fits (by omega) hwithin
  have hresult := wp_sound (writeExtendedData_spec hfit) hrun
  have hpatched := fun h => @patched_stored n.core n'.core subClassId o k data (by omega) hfit
    (by omega) h
  have hwritten : ok = true → ∀ s, ∀ i < 8192,
      n'.core.byte s i = n.core.patched subClassId o k data s i := by
    rintro rfl
    exact hpatched hresult
  refine ⟨?_,hwritten,?_⟩
  · cases ok with
    | true => exact .inr (hwritten rfl)
    | false => exact hresult.imp id hpatched
  · intro hok h offset' length' bytes n'' hoffset' hlength' hwithin' hsame hread
    obtain ⟨o',rfl⟩ := Int.eq_ofNat_of_zero_le hoffset'
    obtain ⟨k',rfl⟩ := Int.eq_ofNat_of_zero_le (show (0 : Int) ≤ length' by omega)
    have hfit' : o' % 32 + k' ≤ 32 := withinBlock_fits (by omega) hwithin'
    rw [wp_sound (readExtendedData_spec hfit') hread bytes rfl]
    refine List.map_congr_left (fun i hi => ?_)
    rw [List.mem_range] at hi
    exact hwritten hok _ _ (by omega)

theorem config_write_atomic_voltage : ∃ n',
    AtomicWrite 0xaa ⟨true,0xaa,0x8000,true,false⟩ 68 9 2 [0x13,0x88] ⟨0x00,factory true 0x80⟩
      true n' := by
  let g : BatteryGaugeBq27441 := ⟨true,0xaa,0x8000,true,false⟩
  have hrun : ((g.writeExtendedData 68 9 2 (some [0x13,0x88])).run (obliging (unreliable 0xaa)) 0
      ⟨0x00,factory true 0x80⟩).map Prod.fst = some true := by decide +kernel
  obtain ⟨⟨ok,n'⟩,hr,rfl⟩ := Option.map_eq_some_iff.mp hrun
  have hexec := Device.play_exec (fun c a => (c.answer_shows a).1) Chip.settle_drifts hr
  exact ⟨n',config_write_atomic (by decide) (by decide) (by decide) (by decide) (by decide) hexec⟩

end Patch

end UbloxCellular.Gauge
