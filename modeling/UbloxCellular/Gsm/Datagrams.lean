import UbloxCellular.Gsm.ReceiveLoop

namespace UbloxCellular.Gsm
open Interaction Code

-- What an AT+USORF is answered with: a datagram, or the part of it that was asked for.
structure Packet where
  ip : String
  port : Int
  payload : List UInt8
  deriving DecidableEq, Repr

def Packet.cut (p : Packet) (len : Nat) : Packet := { p with payload := p.payload.take len }

structure Inbox where
  next : Option Packet
  asked : Nat
  taken : List Packet
  deriving DecidableEq, Repr

def Inbox.take (i : Inbox) (got : Bool) : Inbox :=
  if got then { i with taken := i.taken ++ i.next.toList } else i

-- AT+USORF=h,k is answered with at most k bytes from a valid address, or not at all; read()
-- returns the full count or a negative value. URCs come at any time, as the packets do.
def packetModem : Modem (sig AtInterface) Inbox where
  event i d i' d' := i'.asked = i.asked ∧ i'.taken = i.taken ∧
    (d' = d ∨ ∃ u : Urc, d' = u.handle d)
  allow
    | _, .recv .usorf, i, _, b => b = none ∨ ∃ p, i.next = some p ∧
        p.payload.length ≤ i.asked ∧ b = some (p.ip, p.port, p.payload.length)
    | _, .read _ size, i, _, b => b.1 < 0 ∨ b.1 = size ∧
        ∃ p, i.taken.getLast? = some p ∧ b.2 = p.payload.take size.toNat
    | _, .setIpAddress _, _, _, b => b = true
    | _, _, _, _, _ => True
  next
    | _, .send (.usorf _ len), i, _, _ => { i with asked := len }
    | _, .recv .usorf, i, _, b => i.take b.isSome
    | _, _, i, _, _ => i

abbrev PacketStation := Station (sig AtInterface) Inbox

namespace PacketStation

theorem events_taken {w v : PacketStation} (h : packetModem.Events w v) :
    v.modem.asked = w.modem.asked ∧ v.modem.taken = w.modem.taken :=
  Modem.events_keep (P := fun u => u.modem.asked = w.modem.asked ∧ u.modem.taken = w.modem.taken)
    h ⟨rfl,rfl⟩ (fun _ _ hu huv => ⟨huv.1.trans hu.1,huv.2.1.trans hu.2⟩)

structure Idle (s : RecvState) (taken : List Packet) : Prop where
  success : s.success = true
  bound : s.size < 2 ^ 32
  error : s.error < 0
  count : s.count = 0
  data : s.data = []
  taken : taken = []

structure Holds (s : RecvState) (p : Packet) : Prop where
  success : s.success = true
  size : s.size = 0
  data : s.data = p.payload
  count : s.count = p.payload.length
  short : p.payload.length ≤ maxReadSize
  address : s.address = some (p.ip, p.port)

inductive Got (s : RecvState) (taken : List Packet) : Prop
  | failed : s.success = false → s.error < 0 → Got s taken
  | idle : Idle s taken → Got s taken
  | packet (p : Packet) : Holds s p → taken = [p] → Got s taken

variable {s : RecvState} {taken : List Packet} {w : PacketStation} {x : Handle}

theorem Got.going (h : Got s taken) (hs : s.going) : Idle s taken := by
  cases h with
  | failed hf _ => exact absurd (hf.symm.trans hs.1) Bool.false_ne_true
  | idle hi => exact hi
  | packet p hp _ => exact absurd hp.size (Nat.ne_of_gt hs.2)

theorem Got.result (h : Got s taken) (hpos : 0 < s.result) : ∃ p, Holds s p ∧ taken = [p] := by
  cases h with
  | failed hf he =>
    rw [RecvState.result,hf] at hpos
    change 0 < s.error at hpos
    omega
  | idle hi =>
    rw [RecvState.result,if_pos hi.success,hi.count] at hpos
    exact absurd hpos (by decide)
  | packet p hp ht => exact ⟨p,hp,ht⟩

theorem Holds.result {p : Packet} (h : Holds s p) : s.result = p.payload.length := by
  have hshort : p.payload.length ≤ 1024 := h.short
  rw [RecvState.result,if_pos h.success,h.count,toSigned_of_lt (by omega)]

theorem Idle.fail (h : Idle s taken) (taken' : List Packet) : Got s.fail taken' :=
  .failed rfl h.error

theorem Idle.timedOut (h : Idle s taken) : Got s.timedOut taken := by
  rw [RecvState.timedOut,if_pos h.count]
  exact .failed rfl (show NsapiError.wouldBlock < 0 by decide)

-- A reply shorter than asked for ends the loop, and so does one of the greatest length; any
-- other fills what is left of the caller's buffer.
theorem Idle.store (h : Idle s taken) {p : Packet}
    (hp : p.payload.length ≤ min maxReadSize s.size) (hpos : 0 < p.payload.length) :
    Holds (let s' := { s.store p.payload.length p.payload with address := some (p.ip, p.port) }
      if min p.payload.length s.size < min maxReadSize s.size ∨
        min p.payload.length s.size = maxReadSize then { s' with size := 0 } else s') p := by
  have hmax : maxReadSize = 1024 := rfl
  have hn : min p.payload.length s.size = p.payload.length := by omega
  have hcast : toUnsigned (p.payload.length : Nat) = p.payload.length :=
    toUnsigned_natCast (by omega)
  have hcount : addU s.count (toUnsigned (p.payload.length : Nat)) = p.payload.length := by
    rw [hcast,h.count,addU_of_lt (by omega),Nat.zero_add]
  have hdata : s.data ++ p.payload.take (p.payload.length : Int).toNat = p.payload := by
    rw [h.data,Int.toNat_natCast,List.take_length,List.nil_append]
  simp only [hn,RecvState.store]
  split
  · exact ⟨h.success,rfl,hdata,hcount,by omega,rfl⟩
  · rename_i hfull
    refine ⟨h.success,?_,hdata,hcount,by omega,rfl⟩
    change subU s.size (toUnsigned (p.payload.length : Nat)) = 0
    rw [hcast,subU_of_le (by omega) h.bound]
    omega

theorem recvfromBlock_got (h : Idle s w.modem.taken) :
    wp packetModem.spec (recvfromBlock x s) (fun s' w' => Got s' w'.modem.taken) w := by
  simp only [recvfromBlock,subPending,Modem.wp_ask,wp_bind,wp_get,wp_elim,wp_pure,
    Modem.wp_modify,Modem.wp_recvOk,wp_ite]
  intro sent _
  split
  · rw [Modem.wp_recv]
    intro v r hv hr
    obtain ⟨hasked,htaken⟩ := events_taken hv
    rcases hr with rfl | ⟨p,hnext,hlen,rfl⟩
    · exact h.fail _
    · change v.modem.asked = min maxReadSize s.size at hasked
      change v.modem.taken = w.modem.taken at htaken
      have hlast : (v.modem.taken ++ v.modem.next.toList) = [p] := by
        rw [htaken,h.taken,hnext]
        rfl
      rw [hasked] at hlen
      have hmax : maxReadSize = 1024 := rfl
      have hn : min p.payload.length s.size = p.payload.length := by omega
      have hsigned : toSigned p.payload.length = p.payload.length :=
        toSigned_of_lt (by omega)
      rw [Option.elim_some,Modem.wp_asks rfl]
      intro b hb
      split
      · rename_i hpos
        rcases hb with hneg | ⟨hcount,q,hq,hbytes⟩
        · omega
        · obtain rfl : q = p := by
            have hq' : (v.modem.taken ++ v.modem.next.toList).getLast? = some q := hq
            rw [hlast] at hq'
            exact (Option.some.inj hq').symm
          rw [Modem.wp_asks rfl]
          intro _ _ u ok hu _
          have htaken' : u.modem.taken = [q] := (events_taken hu).2.trans hlast
          refine .packet q ?_ htaken'
          change b.1 = toSigned (min q.payload.length s.size) at hcount
          change b.2 = q.payload.take (toSigned (min q.payload.length s.size)).toNat at hbytes
          rw [hn,hsigned] at hcount hbytes
          rw [Int.toNat_natCast,List.take_length] at hbytes
          rw [hcount,hbytes]
          exact h.store hlen (by omega)
      · exact fun u _ hu _ => h.fail _
  · exact h.fail _

theorem recvWait_got (h : Idle s w.modem.taken) :
    wp packetModem.spec (recvWait s) (fun s' w' => Got s' w'.modem.taken) w := by
  rw [wp_recvWait]
  intro ms _
  split
  · rw [Modem.wp_recv]
    intro v r hv _
    have htaken : v.modem.taken = w.modem.taken := (events_taken hv).2
    change Got s v.modem.taken
    rw [htaken]
    exact .idle h
  · exact h.timedOut

theorem socketRecvfrom_got {size : UInt32} (hw : w.modem.taken = []) :
    wp packetModem.spec (socketRecvfrom x size) (fun r v => ∃ s, Got s v.modem.taken ∧
      r = (s.result, s.data, s.address)) w := by
  simp only [socketRecvfrom,wp_bind,wp_pure]
  refine wp_mono packetModem.mono (fun s u h => ⟨s,h.1,rfl⟩)
    (wp_recvLoop (fun s u => Got s u.modem.taken) ?_ ?_ ?_ ?_)
  · exact .idle ⟨rfl,UInt32.toNat_lt_size size,show NsapiError.deviceError < 0 by decide,rfl,rfl,hw⟩
  · intro s u v hs hv
    rw [(events_taken hv).2]
    exact hs
  · exact fun s u hs hgo => recvfromBlock_got (hs.going hgo)
  · exact fun s u hs hgo => recvWait_got (hs.going hgo)

theorem recvfrom_one_packet {size : UInt32} {r : Int × List UInt8 × Option (String × Int)}
    {v : PacketStation} (hw : w.modem.taken = [])
    (hx : packetModem.Runs (socketRecvfrom x size) w r v) (hpos : 0 < r.1) :
    ∃ p, v.modem.taken = [p] ∧
      r = ((p.payload.length : Int), p.payload, some (p.ip, p.port)) := by
  obtain ⟨s,hgot,rfl⟩ := Modem.sound (socketRecvfrom_got hw) hx
  obtain ⟨p,hp,htaken⟩ := hgot.result hpos
  refine ⟨p,htaken,?_⟩
  rw [hp.result,hp.data,hp.address]

def courier (p : Packet) : Modem.Peer (sig AtInterface) Inbox where
  send _ _ := true
  recv
    | _, .usorf, w =>
        let q := p.cut w.modem.asked
        some (some (q.ip, q.port, q.payload.length),
          { w with modem := { w.modem with next := some q } })
    | _, _, w => some (none, w)
  ask
    | _, .read _ size, w =>
        w.modem.taken.getLast?.map (fun q => (size, q.payload.take size.toNat))
    | _, .setIpAddress _, _ => some true
    | _, _, _ => none

theorem courier_fair (p : Packet) : (courier p).Fair packetModem where
  send _ _ := trivial
  recv := by
    intro β pat w b v h
    cases pat <;> cases h
    case usorf =>
      refine ⟨.single ⟨rfl,rfl,.inl rfl⟩,.inr ⟨p.cut w.modem.asked,rfl,?_,rfl⟩⟩
      exact List.length_take_le _ _
    all_goals exact ⟨.refl,trivial⟩
  ask := by
    intro β e w b h
    cases e <;> try cases h
    case read =>
      obtain ⟨q,hq,rfl⟩ := Option.map_eq_some_iff.mp h
      exact .inr ⟨rfl,q,hq,rfl⟩
    case setIpAddress => rfl

def letter : Packet := ⟨"10.0.0.1",7,[1,2,3]⟩

theorem recvfrom_one_letter : ∃ (r : Int × List UInt8 × Option (String × Int))
    (v : PacketStation), packetModem.Runs (socketRecvfrom 0 8) ⟨announced,⟨none,0,[]⟩⟩ r v ∧
    0 < r.1 ∧ ∃ p, v.modem.taken = [p] ∧
      r = ((p.payload.length : Int), p.payload, some (p.ip, p.port)) := by
  have hrun : ((socketRecvfrom 0 8).run (packetModem.machine.play (courier letter).script) 3
      ⟨announced,⟨none,0,[]⟩⟩).map (fun r => r.1.1) = some 3 := by decide
  obtain ⟨r,hr,hresult⟩ := Option.map_eq_some_iff.mp hrun
  have hx := (courier_fair letter).runs hr
  have hpos : 0 < r.1.1 := by
    rw [hresult]
    decide
  exact ⟨r.1,r.2,hx,hpos,recvfrom_one_packet rfl hx hpos⟩

end PacketStation

end UbloxCellular.Gsm
