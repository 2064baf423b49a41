import UbloxCellular.Gsm.Halting
import UbloxCellular.Gsm.ReceiveLoop

namespace UbloxCellular.Gsm
open Interaction Code

-- The waits for URCs so far. After the n-th the timer shows clock n or more; read() returns no
-- more than it was asked for, and all else is arbitrary, what the driver holds of the socket too.
def clockModem (clock : Nat → Nat) : Modem (sig AtInterface) Nat where
  event n _ m _ := m = n
  allow
    | _, .timerReadMs, n, _, ms => clock n ≤ ms
    | _, .read _ size, _, _, b => b.1 ≤ size.toNat
    | _, _, _, _, _ => True
  next
    | _, .recv .unnatural, n, _, _ => n + 1
    | _, _, n, _, _ => n

def Passes (clock : Nat → Nat) (limit : Nat) : Prop := ∃ n, ∀ m, n ≤ m → limit ≤ clock m

abbrev ClockStation := Station (sig AtInterface) Nat

namespace ClockStation

variable {clock : Nat → Nat} {n : Nat} {x : Handle} {s s' : RecvState} {w : ClockStation}

theorem events_waits {v : ClockStation} (h : (clockModem clock).Events w v) :
    v.modem = w.modem :=
  Modem.events_keep (P := fun u => u.modem = w.modem) h rfl (fun _ _ hu huv => huv.trans hu)

-- The turns the loop may still take: one for each byte still wanted, one for each wait left
-- until the n-th, and the turn it is in.
def left (n : Nat) (s : RecvState) (waits : Nat) : Nat :=
  if s.going then s.size + (n - waits) + 1 else 0

structure Nearer (n : Nat) (s : RecvState) (waits : Nat) (s' : RecvState) (w : ClockStation) :
    Prop where
  bounded : s'.size < 2 ^ 32
  less : s'.going → s'.size + (n - w.modem) < s.size + (n - waits)

theorem Nearer.left {waits : Nat} (h : Nearer n s waits s' w) (hs : s.going) :
    left n s' w.modem < left n s waits := by
  rw [ClockStation.left,ClockStation.left,if_pos hs]
  split
  · rename_i hgo
    exact Nat.succ_lt_succ (h.less hgo)
  · exact Nat.succ_pos _

theorem Nearer.fail {waits : Nat} (hs : s.size < 2 ^ 32) : Nearer n s waits s.fail w :=
  ⟨hs,by rintro ⟨⟨⟩,-⟩⟩

theorem Nearer.stopped {waits : Nat} (h : s'.size = 0) : Nearer n s waits s' w where
  bounded := by
    rw [h]
    decide
  less := by
    rintro ⟨-,hpos⟩
    rw [h] at hpos
    exact absurd hpos (Nat.lt_irrefl 0)

theorem store_size {m : Nat} (hm : m ≤ s.size) (hs : s.size < 2 ^ 32) {b : Int × List UInt8}
    (hb : b.1 ≤ (toSigned m).toNat) (hpos : 0 < b.1) : (s.store b.1 b.2).size < s.size := by
  have hsmall : m < 2 ^ 31 := by
    by_contra hlarge
    have hneg : toSigned m < 0 := toSigned_neg (by omega) (by omega)
    omega
  rw [toSigned_of_lt hsmall] at hb
  obtain ⟨k,hk⟩ := Int.eq_ofNat_of_zero_le (Int.le_of_lt hpos)
  rw [RecvState.store]
  change subU s.size (toUnsigned b.1) < s.size
  rw [hk,toUnsigned_natCast (by omega),subU_of_le (by omega) hs]
  omega

theorem recvBlock_nearer (hs : s.size < 2 ^ 32) :
    wp (clockModem clock).spec (recvBlock x s) (Nearer n s w.modem) w := by
  simp only [recvBlock,subPending,Modem.wp_ask,wp_bind,wp_get,wp_elim,wp_pure,Modem.wp_modify,
    Modem.wp_recvOk]
  intro sent _
  split
  · rw [Modem.wp_recv]
    intro v r hv _
    have hvm : v.modem = w.modem := events_waits hv
    cases r with
    | none => exact .fail hs
    | some size =>
      rw [Option.elim_some,Modem.wp_asks rfl]
      intro b hb u ok hu _
      have hum := events_waits hu
      change u.modem = v.modem at hum
      split
      · rename_i hpos
        have hless := store_size (Nat.min_le_right size s.size) hs hb hpos
        refine ⟨hless.trans hs,fun _ => ?_⟩
        change _ + (n - u.modem) < _
        rw [hum,hvm]
        exact Nat.add_lt_add_right hless _
      · exact .fail hs
  · exact .fail hs

theorem recvfromBlock_nearer (hs : s.size < 2 ^ 32) :
    wp (clockModem clock).spec (recvfromBlock x s) (Nearer n s w.modem) w := by
  simp only [recvfromBlock,subPending,Modem.wp_ask,wp_bind,wp_get,wp_elim,wp_pure,
    Modem.wp_modify,Modem.wp_recvOk,wp_ite]
  intro sent _
  split
  · rw [Modem.wp_recv]
    intro v r hv _
    have hvm : v.modem = w.modem := events_waits hv
    cases r with
    | none => exact .fail hs
    | some reply =>
      rw [Option.elim_some,Modem.wp_asks rfl]
      intro b hb
      split
      · rename_i hpos
        have hless := store_size (Nat.min_le_right reply.2.2 s.size) hs hb hpos
        rw [Modem.wp_asks rfl]
        intro _ _ u ok hu _
        have hum := events_waits hu
        change u.modem = v.modem at hum
        split
        · exact .stopped rfl
        · refine ⟨hless.trans hs,fun _ => ?_⟩
          change _ + (n - u.modem) < _
          rw [hum,hvm]
          exact Nat.add_lt_add_right hless _
      · exact fun _ _ _ _ => .fail hs
  · exact .fail hs

theorem recvWait_nearer (hn : ∀ m, n ≤ m → socketTimeout ≤ clock m) (hs : s.size < 2 ^ 32) :
    wp (clockModem clock).spec (recvWait s) (Nearer n s w.modem) w := by
  rw [wp_recvWait]
  intro ms hms
  split
  · rename_i hearly
    have hbefore : w.modem < n := by
      by_contra hlate
      have hclock : socketTimeout ≤ clock w.modem := hn w.modem (Nat.le_of_not_lt hlate)
      have hshown : clock w.modem ≤ ms := hms
      omega
    rw [Modem.wp_recv]
    intro v r hv _
    have hvm : v.modem = w.modem := events_waits hv
    refine ⟨hs,fun _ => ?_⟩
    change s.size + (n - (v.modem + 1)) < _
    omega
  · refine .stopped ?_
    rw [RecvState.timedOut]
    split <;> rfl

section Halting
variable {H : Handler (Locked (Eff (sig AtInterface))) ClockStation}

instance : Halting H (recvWait s) := by
  simp only [recvWait]
  infer_instance

instance : Halting H (recvBlock x s) := by
  simp only [recvBlock,subPending]
  infer_instance

set_option synthInstance.maxSize 8192 in
instance : Halting H (recvfromBlock x s) := by
  simp only [recvfromBlock,subPending]
  infer_instance

instance {block : Handle → RecvState → AtCode RecvState} [∀ s, Halting H (block x s)] :
    Halting H (recvIteration block x s) := by
  simp only [recvIteration]
  infer_instance

end Halting

theorem recvLoop_halts {block : Handle → RecvState → AtCode RecvState} {size : UInt32}
    (h : Passes clock socketTimeout)
    [hhalt : ∀ s, Halting (clockModem clock).machine.handler (block x s)]
    (hblock : ∀ (n : Nat) (s : RecvState) (u : ClockStation), s.size < 2 ^ 32 →
      wp (clockModem clock).spec (block x s) (Nearer n s u.modem) u) :
    Halts (clockModem clock).machine.handler (recvLoop block x size) w := by
  obtain ⟨n,hn⟩ := h
  refine ((halting_act .timerStart).run w).bind (fun _ v _ => ?_)
  refine Halts.iterate (measure (fun c : RecvState × ClockStation => left n c.1 c.2.modem)).wf
    (fun s _ => s.size < 2 ^ 32) (UInt32.toNat_lt_size size) (fun s u _ => ?_) (fun s u hs => ?_)
  · exact Halting.halting_ite.run u
  · rw [wp_ite]
    split
    · rename_i hgo
      rw [wp_bind]
      refine (wp_recvIteration s _).mpr (fun t ht => ?_)
      have htm : t.modem = u.modem := events_waits ht
      have hturn : ∀ s' w', Nearer n s t.modem s' w' → wp (clockModem clock).spec
          (pure (.inl s') : AtCode (RecvState ⊕ RecvState)) (fun r w' => ∀ s', r = .inl s' →
            s'.size < 2 ^ 32 ∧ left n s' w'.modem < left n s u.modem) w' := by
        intro s' w' hs' s'' he
        cases he
        rw [← htm]
        exact ⟨hs'.bounded,hs'.left hgo⟩
      split
      · exact wp_mono (Modem.mono _) hturn (hblock n s t hs)
      · exact wp_mono (Modem.mono _) hturn (recvWait_nearer hn hs)
    · rintro s' ⟨⟩

theorem receive_ends {size : UInt32} (h : Passes clock socketTimeout) (w : ClockStation) :
    Halts (clockModem clock).machine.handler (socketRecv x size) w ∧
    Halts (clockModem clock).machine.handler (socketRecvfrom x size) w := by
  constructor
  · exact (recvLoop_halts h (fun n s u => recvBlock_nearer)).bind
      (fun s v _ => (Halting.halting_pure _).run v)
  · exact (recvLoop_halts h (fun n s u => recvfromBlock_nearer)).bind
      (fun s v _ => (Halting.halting_pure _).run v)

theorem receive_ends_slow :
    Halts (clockModem id).machine.handler (socketRecv 0 2048) ⟨⟨.initial 115200,.initial⟩,0⟩ ∧
    Halts (clockModem id).machine.handler (socketRecvfrom 0 2048)
      ⟨⟨.initial 115200,.initial⟩,0⟩ :=
  receive_ends ⟨socketTimeout,fun _ h => h⟩ _

end ClockStation

end UbloxCellular.Gsm
