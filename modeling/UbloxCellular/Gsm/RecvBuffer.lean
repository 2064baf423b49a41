import UbloxCellular.Gsm.ReceiveLoop
import UbloxCellular.Memory.Region

namespace UbloxCellular.Gsm
open Interaction Code
open Memory (Region)

-- The caller's memory from data on, and the bytes read() has stored there, in their order.
structure Area where
  cells : Region UInt8
  stored : List UInt8

namespace Area

def empty : Area := ⟨.holding [],[]⟩

def store (a : Area) (buf : Nat) (bytes : List UInt8) : Area :=
  ⟨a.cells.write buf bytes,a.stored ++ bytes⟩

end Area

-- read(buf, n) stores at most n bytes and returns n or a negative value; all else is arbitrary.
def readModem : Modem (sig AtInterface) Area where
  event a _ b _ := b = a
  allow
    | _, .read _ size, _, _, b => b.2.length ≤ size.toNat ∧
        (b.1 = size ∧ b.2.length = size.toNat ∨ b.1 < 0)
    | _, _, _, _, _ => True
  next
    | _, .read buf _, a, _, b => a.store buf b.2
    | _, _, a, _, _ => a

abbrev ReadStation := Station (sig AtInterface) Area

namespace ReadStation

theorem events_area {w v : ReadStation} (h : readModem.Events w v) : v.modem = w.modem :=
  Modem.events_keep (P := fun u => u.modem = w.modem) h rfl (fun _ _ hu huv => huv.trans hu)

structure Filling (size : Nat) (s : RecvState) (a : Area) : Prop where
  cells : a.cells = .holding a.stored
  within : a.stored.length ≤ size
  counted : s.success = true → s.buf = a.stored.length ∧ s.count = a.stored.length ∧
    s.count + s.size ≤ size
  error : s.error = NsapiError.deviceError ∨
    s.success = false ∧ s.error = NsapiError.wouldBlock ∧ a.stored = []

variable {size : Nat} {s : RecvState} {a : Area}

theorem Filling.start (size : UInt32) : Filling size.toNat (.start size) .empty where
  cells := rfl
  within := Nat.zero_le _
  counted _ := ⟨rfl,rfl,Nat.le_of_eq (Nat.zero_add _)⟩
  error := .inl rfl

theorem Filling.fail (h : Filling size s a) (hs : s.success = true) : Filling size s.fail a where
  cells := h.cells
  within := h.within
  counted := by rintro ⟨⟩
  error := .inl (h.error.resolve_right (by rw [hs]; rintro ⟨⟨⟩,-⟩))

theorem Filling.timedOut (h : Filling size s a) (hs : s.success = true) :
    Filling size s.timedOut a := by
  obtain ⟨hbuf,hcount,hsize⟩ := h.counted hs
  have herror := h.error.resolve_right (by rw [hs]; rintro ⟨⟨⟩,-⟩)
  rw [RecvState.timedOut]
  split
  · rename_i hzero
    refine ⟨h.cells,h.within,by rintro ⟨⟩,.inr ⟨rfl,rfl,?_⟩⟩
    exact List.length_eq_zero_iff.mp (by omega)
  · exact ⟨h.cells,h.within,fun _ => ⟨hbuf,hcount,(Nat.le_add_right _ _).trans hsize⟩,.inl herror⟩

theorem Filling.addressed (h : Filling size s a) (address : Option (String × Int)) :
    Filling size { s with address := address } a := ⟨h.cells,h.within,h.counted,h.error⟩

theorem Filling.done (h : Filling size s a) : Filling size { s with size := 0 } a where
  cells := h.cells
  within := h.within
  counted hs := by
    obtain ⟨hbuf,hcount,hsize⟩ := h.counted hs
    exact ⟨hbuf,hcount,(Nat.le_add_right _ _).trans hsize⟩
  error := h.error

theorem Filling.stored (h : Filling size s a) (hs : s.success = true) (bytes : List UInt8)
    (hb : bytes.length ≤ s.size) : (a.store s.buf bytes).cells = .holding (a.stored ++ bytes) ∧
      (a.stored ++ bytes).length ≤ size := by
  obtain ⟨hbuf,hcount,hsize⟩ := h.counted hs
  constructor
  · change a.cells.write s.buf bytes = _
    rw [h.cells,hbuf,Region.write_end]
  · rw [List.length_append]
    omega

theorem Filling.read (h : Filling size s a) (hs : s.success = true) (hsize : size < 2 ^ 31)
    {n : Nat} (hn : n ≤ s.size) {b : Int × List UInt8} (hlen : b.2.length ≤ (toSigned n).toNat)
    (hb : b.1 = toSigned n ∧ b.2.length = (toSigned n).toNat ∨ b.1 < 0) :
    Filling size (if 0 < b.1 then s.store b.1 b.2 else s.fail) (a.store s.buf b.2) := by
  obtain ⟨hbuf,hcount,hroom⟩ := h.counted hs
  have herror := h.error.resolve_right (by rw [hs]; rintro ⟨⟨⟩,-⟩)
  have hsigned : toSigned n = n := toSigned_of_lt (by omega)
  rw [hsigned,Int.toNat_natCast] at hlen hb
  obtain ⟨hcells,hwithin⟩ := h.stored hs b.2 (hlen.trans hn)
  split
  · rename_i hpos
    have hfull : b.1 = n ∧ b.2.length = n := hb.resolve_right (by omega)
    have hcast : toUnsigned b.1 = b.2.length := by
      rw [hfull.1,hfull.2]
      exact toUnsigned_natCast (by omega)
    refine ⟨hcells,hwithin,fun _ => ⟨?_,?_,?_⟩,.inl herror⟩
    · change s.buf + b.1.toNat = (a.stored ++ b.2).length
      rw [hbuf,hfull.1,Int.toNat_natCast,List.length_append,hfull.2]
    · change addU s.count (toUnsigned b.1) = (a.stored ++ b.2).length
      rw [hcast,addU_of_lt (by omega),hcount,List.length_append]
    · change addU s.count (toUnsigned b.1) + subU s.size (toUnsigned b.1) ≤ size
      rw [hcast,addU_of_lt (by omega),subU_of_le (by omega) (by omega)]
      omega
  · exact ⟨hcells,hwithin,by rintro ⟨⟩,.inl herror⟩

theorem recvBlock_filling {x : Handle} {w : ReadStation} (h : Filling size s w.modem)
    (hs : s.success = true) (hsize : size < 2 ^ 31) :
    wp readModem.spec (recvBlock x s) (fun s' w' => Filling size s' w'.modem) w := by
  simp only [recvBlock,subPending,Modem.wp_ask,wp_bind,wp_get,wp_elim,wp_pure,Modem.wp_modify,
    Modem.wp_recvOk]
  intro sent _
  split
  · rw [Modem.wp_recv]
    intro v r hv _
    have hvm : v.modem = w.modem := events_area hv
    cases r with
    | none =>
      change Filling size s.fail v.modem
      rw [hvm]
      exact h.fail hs
    | some n =>
      rw [Option.elim_some,Modem.wp_asks rfl]
      rintro b ⟨hlen,hb⟩ u ok hu _
      have hum : u.modem = v.modem.store s.buf b.2 := events_area hu
      change Filling size _ u.modem
      rw [hum,hvm]
      exact h.read hs hsize (Nat.min_le_right _ _) hlen hb
  · exact h.fail hs

theorem recvfromBlock_filling {x : Handle} {w : ReadStation} (h : Filling size s w.modem)
    (hs : s.success = true) (hsize : size < 2 ^ 31) :
    wp readModem.spec (recvfromBlock x s) (fun s' w' => Filling size s' w'.modem) w := by
  simp only [recvfromBlock,subPending,Modem.wp_ask,wp_bind,wp_get,wp_elim,wp_pure,
    Modem.wp_modify,Modem.wp_recvOk,wp_ite]
  intro sent _
  split
  · rw [Modem.wp_recv]
    intro v r hv _
    have hvm : v.modem = w.modem := events_area hv
    cases r with
    | none =>
      change Filling size s.fail v.modem
      rw [hvm]
      exact h.fail hs
    | some reply =>
      rw [Option.elim_some,Modem.wp_asks rfl]
      rintro b ⟨hlen,hb⟩
      have hread := h.read hs hsize (Nat.min_le_right reply.2.2 s.size) hlen hb
      split
      · rename_i hpos
        rw [if_pos hpos] at hread
        rw [Modem.wp_asks rfl]
        intro _ _ u ok hu _
        have hum : u.modem = v.modem.store s.buf b.2 := events_area hu
        change Filling size _ u.modem
        rw [hum,hvm]
        split
        · exact (hread.addressed (some (reply.1, reply.2.1))).done
        · exact hread.addressed _
      · rename_i hneg
        rw [if_neg hneg] at hread
        intro u ok hu _
        have hum : u.modem = v.modem.store s.buf b.2 := events_area hu
        change Filling size _ u.modem
        rw [hum,hvm]
        exact hread
  · exact h.fail hs

theorem recvWait_filling {w : ReadStation} (h : Filling size s w.modem) (hs : s.success = true) :
    wp readModem.spec (recvWait s) (fun s' w' => Filling size s' w'.modem) w := by
  rw [wp_recvWait]
  intro ms _
  split
  · rw [Modem.wp_recv]
    intro v r hv _
    have hvm : v.modem = w.modem := events_area hv
    change Filling size s v.modem
    rw [hvm]
    exact h
  · exact h.timedOut hs

theorem recvLoop_filling {x : Handle} {size : UInt32} {w : ReadStation}
    {block : Handle → RecvState → AtCode RecvState} (hw : w.modem = .empty)
    (hblock : ∀ {s : RecvState} {u : ReadStation}, Filling size.toNat s u.modem →
      s.success = true → wp readModem.spec (block x s)
        (fun s' w' => Filling size.toNat s' w'.modem) u) :
    wp readModem.spec (recvLoop block x size)
      (fun s w' => Filling size.toNat s w'.modem) w := by
  refine wp_mono readModem.mono (fun s u h => h.1)
    (wp_recvLoop (fun s u => Filling size.toNat s u.modem) ?_ ?_ ?_ ?_)
  · rw [hw]
    exact .start size
  · intro s u v hs hv
    rw [events_area hv]
    exact hs
  · exact fun s u hs hgo => hblock hs hgo.1
  · exact fun s u hs hgo => recvWait_filling hs hgo.1

structure Placed (size : UInt32) (r : Int) (a : Area) : Prop where
  cells : a.cells = .holding a.stored
  within : a.stored.length ≤ size.toNat
  counted : 0 ≤ r → r = a.stored.length
  blocked : r = NsapiError.wouldBlock → a.stored = []

theorem Filling.placed {size : UInt32} (h : Filling size.toNat s a) (hsize : size.toNat < 2 ^ 31) :
    Placed size s.result a := by
  refine ⟨h.cells,h.within,fun hr => ?_,fun hr => ?_⟩
  · cases hs : s.success with
    | true =>
      obtain ⟨-,hcount,-⟩ := h.counted hs
      rw [RecvState.result,if_pos hs,hcount,toSigned_of_lt (Nat.lt_of_le_of_lt h.within hsize)]
    | false =>
      rw [RecvState.result,hs] at hr
      change 0 ≤ s.error at hr
      rcases h.error with he | ⟨-,he,-⟩
      · rw [he] at hr
        exact absurd hr (by decide)
      · rw [he] at hr
        exact absurd hr (by decide)
  · rcases h.error with he | ⟨-,-,hnone⟩
    · cases hs : s.success with
      | true =>
        obtain ⟨-,hcount,-⟩ := h.counted hs
        rw [RecvState.result,if_pos hs,hcount,
          toSigned_of_lt (Nat.lt_of_le_of_lt h.within hsize)] at hr
        exact absurd hr (by change _ ≠ (-3001 : Int); omega)
      | false =>
        rw [RecvState.result,hs] at hr
        change s.error = _ at hr
        rw [he] at hr
        exact absurd hr (by decide)
    · exact hnone

theorem receive_within {x : Handle} {size : UInt32} {d : Driver AtInterface}
    (hsize : size.toNat < 2 ^ 31) :
    (∀ r w, readModem.Runs (socketRecv x size) ⟨d,.empty⟩ r w → Placed size r.1 w.modem) ∧
    (∀ r w, readModem.Runs (socketRecvfrom x size) ⟨d,.empty⟩ r w → Placed size r.1 w.modem) := by
  constructor
  · intro r w hx
    refine Modem.sound (Q := fun r w => Placed size r.1 w.modem) ?_ hx
    simp only [socketRecv,wp_bind,wp_pure]
    exact wp_mono readModem.mono (fun s u h => h.placed hsize)
      (recvLoop_filling rfl (fun h hs => recvBlock_filling h hs hsize))
  · intro r w hx
    refine Modem.sound (Q := fun r w => Placed size r.1 w.modem) ?_ hx
    simp only [socketRecvfrom,wp_bind,wp_pure]
    exact wp_mono readModem.mono (fun s u h => h.placed hsize)
      (recvLoop_filling rfl (fun h hs => recvfromBlock_filling h hs hsize))

def hostile : Modem.Peer (sig AtInterface) Area where
  send _ _ := true
  recv
    | _, .usord, w => some (some 4294967295, w)
    | _, .usorf, w => some (some ("", 0, 4294967295), w)
    | _, _, w => some (none, w)
  ask
    | _, .read _ size, _ => some (size, List.replicate size.toNat 7)
    | _, .setIpAddress _, _ => some true
    | _, _, _ => none

theorem hostile_fair : hostile.Fair readModem where
  send _ _ := trivial
  recv := by
    intro β p w b v h
    cases p <;> cases h <;> exact ⟨.refl,trivial⟩
  ask := by
    intro β e w b h
    cases e <;> cases h
    case read => exact ⟨Nat.le_of_eq List.length_replicate,.inl ⟨rfl,List.length_replicate⟩⟩
    case setIpAddress => trivial

theorem receive_within_hostile : ∃ (r : Int × List UInt8) (w : ReadStation),
    readModem.Runs (socketRecv 0 2) ⟨announced,.empty⟩ r w ∧ r.1 = 2 ∧
    Placed 2 r.1 w.modem := by
  have hrun : ((socketRecv 0 2).run (readModem.machine.play hostile.script) 3
      ⟨announced,.empty⟩).map (fun r => r.1.1) = some 2 := by decide
  obtain ⟨r,hr,hresult⟩ := Option.map_eq_some_iff.mp hrun
  have hx := hostile_fair.runs hr
  exact ⟨r.1,r.2,hx,hresult,(receive_within (by decide)).1 r.1 r.2 hx⟩

end ReadStation

end UbloxCellular.Gsm
