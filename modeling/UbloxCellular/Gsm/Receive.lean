import UbloxCellular.Gsm.ReceiveLoop

namespace UbloxCellular.Gsm
open Interaction Code

-- The unread data of one TCP socket of the modem, the +UUSORD still on the wire and a record
-- of what AT+USORD has removed, in all and since the current call began.
structure Wire where
  unread : List UInt8
  urcs : List Nat
  asked : Option Nat
  block : List UInt8
  removed : List UInt8
  taken : Nat
  lossy : Bool
  deriving DecidableEq, Repr

namespace Wire

def opened (unread : List UInt8) (urcs : List Nat) : Wire := ⟨unread,urcs,none,[],[],0,false⟩

def take (x : Wire) (k : Nat) : Wire :=
  { x with
    unread := x.unread.drop k
    asked := none
    block := x.unread.take k
    removed := x.removed ++ x.unread.take k
    taken := x.taken + (x.unread.take k).length
    lossy := x.lossy || (decide ((x.unread.take k).length = 0) && decide (0 < x.taken)) ||
      decide (2 ^ 31 ≤ x.taken + (x.unread.take k).length) }

end Wire

inductive WireEvent (id : Int) : Wire → Driver AtInterface → Wire → Driver AtInterface → Prop
  | arrive (x : Wire) (d : Driver AtInterface) (bytes : List UInt8) :
      WireEvent id x d { x with unread := x.unread ++ bytes } d
  | announce (x : Wire) (d : Driver AtInterface) :
      WireEvent id x d { x with urcs := x.urcs ++ [x.unread.length] } d
  | deliver (x : Wire) (d : Driver AtInterface) {n : Nat} {rest : List Nat} :
      x.urcs = n :: rest →
      WireEvent id x d { x with urcs := rest } ((Urc.uusord id n).handle d)

def recvModem (id : Int) : Modem (sig AtInterface) Wire where
  event := WireEvent id
  allow
    | _, .send (.usord _ _), _, _, b => b = true
    | _, .recv .usord, x, _, b => ∀ k, x.asked = some k →
        x.urcs = [] ∧ b = some (x.unread.take k).length
    | _, .read _ size, x, _, b => size.toNat ≤ x.block.length → b = (size, x.block.take size.toNat)
    | _, _, _, _, _ => True
  next
    | _, .send (.usord h k), x, _, _ => { x with asked := if h = id then some k else none }
    | _, .recv .usord, x, _, _ => x.asked.elim x x.take
    | _, _, x, _, _ => x

abbrev RecvStation := Station (sig AtInterface) Wire

namespace RecvStation

variable {id : Int} {x : Handle}

def slot (x : Handle) (w : RecvStation) : SockCtrl := w.driver.iface.sockets x

def handed (r : Int × List UInt8) : List UInt8 := if 0 < r.1 then r.2.take r.1.toNat else []

def begin (w : RecvStation) : RecvStation := { w with modem := { w.modem with taken := 0 } }

inductive Received (id : Int) (x : Handle) (start : RecvStation) :
    RecvStation → List UInt8 → Prop
  | start : Received id x start start []
  | call {w w' : RecvStation} {got : List UInt8} {r : Int × List UInt8} (size : UInt32) :
      Received id x start w got → (recvModem id).Runs (socketRecv x size) w.begin r w' →
      Received id x start w' (got ++ handed r)
  | event {w w' : RecvStation} {got : List UInt8} : Received id x start w got →
      WireEvent id w.modem w.driver w'.modem w'.driver → Received id x start w' got

structure Same (x : Handle) (w w' : RecvStation) : Prop where
  handle : (slot x w').modemHandle = (slot x w).modemHandle
  asked : w'.modem.asked = w.modem.asked
  block : w'.modem.block = w.modem.block
  removed : w'.modem.removed = w.modem.removed
  taken : w'.modem.taken = w.modem.taken
  lossy : w'.modem.lossy = w.modem.lossy

theorem Same.refl (w : RecvStation) : Same x w w := ⟨rfl,rfl,rfl,rfl,rfl,rfl⟩

theorem Same.trans {u v w : RecvStation} (h : Same x u v) (k : Same x v w) : Same x u w :=
  ⟨k.handle.trans h.handle,k.asked.trans h.asked,k.block.trans h.block,
    k.removed.trans h.removed,k.taken.trans h.taken,k.lossy.trans h.lossy⟩

theorem event_same {w w' : RecvStation} (h : WireEvent id w.modem w.driver w'.modem w'.driver) :
    Same x w w' := by
  obtain ⟨d,m⟩ := w
  obtain ⟨d',m'⟩ := w'
  cases h with
  | arrive => exact ⟨rfl,rfl,rfl,rfl,rfl,rfl⟩
  | announce => exact ⟨rfl,rfl,rfl,rfl,rfl,rfl⟩
  | deliver => exact ⟨pendingUrc_handle _ x _ _,rfl,rfl,rfl,rfl,rfl⟩

theorem events_same {w w' : RecvStation} (h : (recvModem id).Events w w') : Same x w w' := by
  induction h with
  | refl => exact Same.refl w
  | tail _ huv ih => exact ih.trans (event_same huv)

structure Progress (id : Int) (x : Handle) (w : RecvStation) (s : RecvState) (u : RecvStation) :
    Prop where
  handle : (slot x u).modemHandle = id
  removed : u.modem.removed = w.modem.removed ++ s.data
  length : s.data.length = s.count
  taken : u.modem.taken = s.count
  bound : s.count + s.size < 2 ^ 32
  error : s.error < 0
  lossy : u.modem.lossy = (w.modem.lossy || decide (2 ^ 31 ≤ s.count) ||
    (!s.success && decide (0 < s.count)))

theorem Progress.same {w u v : RecvStation} {s : RecvState} (h : Progress id x w s u)
    (k : Same x u v) : Progress id x w s v :=
  ⟨k.handle.trans h.handle,k.removed.trans h.removed,h.length,k.taken.trans h.taken,h.bound,
    h.error,k.lossy.trans h.lossy⟩

theorem Progress.timedOut {w u : RecvStation} {s : RecvState} (h : Progress id x w s u) :
    Progress id x w s.timedOut u := by
  rw [RecvState.timedOut]
  have hb := h.bound
  split
  · rename_i hc
    refine ⟨h.handle,h.removed,h.length,h.taken,?_,(by decide : NsapiError.wouldBlock < 0),?_⟩
    · change s.count + 0 < 2 ^ 32
      omega
    · rw [h.lossy]
      simp [hc]
  · refine ⟨h.handle,h.removed,h.length,h.taken,?_,h.error,h.lossy⟩
    change s.count + 0 < 2 ^ 32
    omega

theorem recvWait_progress {w u : RecvStation} {s : RecvState} (h : Progress id x w s u) :
    wp (recvModem id).spec (recvWait s) (Progress id x w) u := by
  rw [wp_recvWait]
  intro ms _
  split
  · rw [Modem.wp_recv]
    intro v b hv _
    exact h.same (events_same hv)
  · exact h.timedOut

section Taken
variable {w v u : RecvStation} {s : RecvState} {k : Nat} {bytes : List UInt8}

theorem store_count (h : bytes.length ≤ s.size) (hb : s.count + s.size < 2 ^ 32) :
    (s.store bytes.length bytes).count = s.count + bytes.length := by
  change addU s.count (toUnsigned bytes.length) = _
  rw [toUnsigned_natCast (by omega)]
  exact addU_of_lt (by omega)

theorem store_size (h : bytes.length ≤ s.size) (hb : s.count + s.size < 2 ^ 32) :
    (s.store bytes.length bytes).size = s.size - bytes.length := by
  change subU s.size (toUnsigned bytes.length) = _
  rw [toUnsigned_natCast (by omega)]
  exact subU_of_le (by omega) (by omega)

theorem store_data (s : RecvState) (bytes : List UInt8) :
    (s.store bytes.length bytes).data = s.data ++ bytes := by
  change s.data ++ bytes.take (bytes.length : Int).toNat = _
  rw [Int.toNat_natCast,List.take_length]

theorem Progress.removed_take (h : Progress id x w s v) (k : Nat) :
    (v.modem.take k).removed = w.modem.removed ++ (s.data ++ v.modem.unread.take k) := by
  rw [← List.append_assoc,← h.removed]
  rfl

theorem Progress.taken_take (h : Progress id x w s v) (k : Nat) :
    (v.modem.take k).taken = s.count + (v.modem.unread.take k).length := by
  rw [← h.taken]
  rfl

theorem Progress.lossy_take (h : Progress id x w s v) (hs : s.success = true) (k : Nat) :
    (v.modem.take k).lossy = (w.modem.lossy || decide (2 ^ 31 ≤ s.count) ||
      (decide ((v.modem.unread.take k).length = 0) && decide (0 < s.count)) ||
      decide (2 ^ 31 ≤ s.count + (v.modem.unread.take k).length)) := by
  have hlossy : v.modem.lossy = (w.modem.lossy || decide (2 ^ 31 ≤ s.count)) := by
    rw [h.lossy,hs]
    exact Bool.or_false _
  rw [← hlossy,← h.taken]
  rfl

theorem stored_progress (h : Progress id x w s v) (hs : s.success = true) (hk : k ≤ s.size)
    (hhandle : (slot x u).modemHandle = id) (hu : u.modem = v.modem.take k)
    (hpos : 0 < (v.modem.unread.take k).length) :
    Progress id x w (s.store (v.modem.unread.take k).length (v.modem.unread.take k)) u := by
  have hlossy := h.lossy_take hs k
  have hremoved := h.removed_take k
  have htaken := h.taken_take k
  have hn : (v.modem.unread.take k).length ≤ s.size := (List.length_take_le k _).trans hk
  rw [← hu] at hlossy hremoved htaken
  generalize v.modem.unread.take k = bytes at *
  have hb := h.bound
  have hcount := store_count hn hb
  have hsize := store_size hn hb
  constructor
  · exact hhandle
  · rw [hremoved,store_data]
  · rw [store_data,hcount,List.length_append,h.length]
  · rw [htaken,hcount]
  · omega
  · exact h.error
  · have hzero : decide (bytes.length = 0) = false := decide_eq_false (by omega)
    change u.modem.lossy = (w.modem.lossy || decide (2 ^ 31 ≤ _) || (!s.success && _))
    rw [hlossy,hcount,hs,hzero,Bool.false_and,Bool.or_false,Bool.not_true,Bool.false_and,
      Bool.or_false,Bool.or_assoc,← Bool.decide_or]
    congr 1
    refine decide_eq_decide.mpr ?_
    omega

theorem failed_progress (h : Progress id x w s v) (hs : s.success = true)
    (hhandle : (slot x u).modemHandle = id) (hu : u.modem = v.modem.take k)
    (hnil : v.modem.unread.take k = []) : Progress id x w s.fail u := by
  have hlossy := h.lossy_take hs k
  have hremoved := h.removed_take k
  have htaken := h.taken_take k
  rw [hnil,← hu] at hlossy hremoved htaken
  refine ⟨hhandle,?_,h.length,htaken,h.bound,h.error,?_⟩
  · rw [hremoved]
    exact congrArg _ (List.append_nil _)
  · rw [hlossy]
    change (_ || decide (2 ^ 31 ≤ s.count) || (true && _) || decide (2 ^ 31 ≤ s.count)) =
      (w.modem.lossy || decide (2 ^ 31 ≤ s.count) || (true && decide (0 < s.count)))
    cases w.modem.lossy <;> cases decide (2 ^ 31 ≤ s.count) <;>
      cases decide (0 < s.count) <;> rfl

theorem taken_progress (h : Progress id x w s v) (hs : s.success = true) (hk : k ≤ s.size)
    (hhandle : (slot x u).modemHandle = id) (hu : u.modem = v.modem.take k) :
    Progress id x w (if 0 < ((v.modem.unread.take k).length : Int) then
      s.store (v.modem.unread.take k).length (v.modem.unread.take k) else s.fail) u := by
  split
  · rename_i hpos
    exact stored_progress h hs hk hhandle hu (Int.natCast_pos.mp hpos)
  · rename_i hzero
    exact failed_progress h hs hhandle hu (List.length_eq_zero_iff.mp (by omega))

end Taken

theorem recvBlock_progress {w u : RecvStation} {s : RecvState} (h : Progress id x w s u)
    (hs : s.success = true) :
    wp (recvModem id).spec (recvBlock x s) (Progress id x w) u := by
  have hid : (u.driver.iface.sockets x).modemHandle = id := h.handle
  simp only [recvBlock,subPending,Modem.wp_ask,wp_bind,wp_get,wp_elim,wp_pure,Modem.wp_modify,
    Modem.wp_recvOk,hid]
  intro sent hsent
  obtain rfl : sent = true := hsent
  rw [if_pos rfl,Modem.wp_recv]
  intro v r hv hr
  generalize hk : min maxReadSize s.size = k at hv
  have hkm : k ≤ maxReadSize := hk ▸ Nat.min_le_left _ _
  have hks : k ≤ s.size := hk ▸ Nat.min_le_right _ _
  change (recvModem id).Events ⟨u.driver,{ u.modem with
    asked := if id = id then some k else none }⟩ v at hv
  rw [if_pos rfl] at hv
  have hsame : Same x ⟨u.driver,{ u.modem with asked := some k }⟩ v := events_same hv
  have hv' : Progress id x w s v := by
    refine Progress.same ?_ hsame
    exact ⟨h.handle,h.removed,h.length,h.taken,h.bound,h.error,h.lossy⟩
  obtain ⟨-,rfl⟩ := hr k hsame.asked
  have hn : (v.modem.unread.take k).length ≤ k := List.length_take_le k _
  have hbound := hv'.bound
  have hmin : min (v.modem.unread.take k).length s.size = (v.modem.unread.take k).length :=
    Nat.min_eq_left (by omega)
  have hsigned : toSigned (v.modem.unread.take k).length = (v.modem.unread.take k).length :=
    toSigned_of_lt (by
      have : maxReadSize < 2 ^ 31 := by decide
      omega)
  rw [Option.elim_some,hmin,hsigned,Modem.wp_asks rfl]
  intro read hread v' b hv'' _
  have hnext : (recvModem id).next (.recv .usord) v.modem v.driver
      (some (v.modem.unread.take k).length) = v.modem.take k := by
    change v.modem.asked.elim v.modem v.modem.take = _
    rw [hsame.asked]
    rfl
  rw [hnext] at hread hv''
  have hread' : read = (((v.modem.unread.take k).length : Int), v.modem.unread.take k) := by
    refine (hread (Nat.le_refl _)).trans ?_
    change (_, (v.modem.unread.take k).take _) = _
    rw [Int.toNat_natCast,List.take_length]
  rw [hread']
  refine Progress.same (taken_progress hv' hs hks ?_ rfl) (events_same hv'')
  exact (Sockets.setPending_handle _ x x _).trans hv'.handle

theorem recvLoop_progress {w u : RecvStation} {size : UInt32}
    (h : Progress id x w (RecvState.start size) u) :
    wp (recvModem id).spec (recvLoop recvBlock x size) (Progress id x w) u := by
  refine wp_mono (recvModem id).mono (fun s v hv => hv.1) (wp_recvLoop (Progress id x w) h ?_ ?_ ?_)
  · exact fun s u v hs hv => hs.same (events_same hv)
  · exact fun s u hs hgo => recvBlock_progress hs hgo.1
  · exact fun s u hs _ => recvWait_progress hs

def lost (s : RecvState) : Bool := decide (2 ^ 31 ≤ s.count) || (!s.success && decide (0 < s.count))

theorem handed_failed {s : RecvState} (hs : s.success = false) (he : s.error < 0) :
    handed (s.result, s.data) = [] := by
  refine if_neg ?_
  change ¬ 0 < s.result
  rw [RecvState.result,hs]
  change ¬ 0 < s.error
  omega

theorem handed_done {s : RecvState} (hs : s.success = true) (hl : s.data.length = s.count)
    (hc : s.count < 2 ^ 31) : handed (s.result, s.data) = s.data := by
  have hr : s.result = s.count := by
    rw [RecvState.result,if_pos hs,toSigned_of_lt hc]
  rw [handed]
  split
  · rw [hr,Int.toNat_natCast]
    exact List.take_of_length_le (Nat.le_of_eq hl)
  · rename_i hzero
    change ¬ 0 < s.result at hzero
    rw [hr] at hzero
    exact (List.length_eq_zero_iff.mp (by omega)).symm

theorem handed_overfull {s : RecvState} (hs : s.success = true) (hc : 2 ^ 31 ≤ s.count)
    (hb : s.count < 2 ^ 32) : handed (s.result, s.data) = [] := by
  refine if_neg ?_
  change ¬ 0 < s.result
  rw [RecvState.result,if_pos hs]
  have hneg := toSigned_neg hc hb
  omega

theorem Progress.handed {w u : RecvStation} {s : RecvState} (h : Progress id x w s u) :
    handed (s.result, s.data) = (if lost s then [] else s.data) ∧
      (lost s = true → s.data ≠ []) := by
  have hb := h.bound
  have hl := h.length
  constructor
  · cases hs : s.success with
    | false =>
      rw [handed_failed hs h.error]
      by_cases hc : s.count = 0
      · have hnil : s.data = [] := List.length_eq_zero_iff.mp (by omega)
        rw [hnil,ite_self]
      · have hlost : lost s = true := by
          simp only [lost,hs,Bool.not_false,Bool.true_and,Bool.or_eq_true,decide_eq_true_eq]
          omega
        rw [if_pos hlost]
    | true =>
      by_cases hc : 2 ^ 31 ≤ s.count
      · have hlost : lost s = true := by
          rw [lost,decide_eq_true hc,Bool.true_or]
        rw [if_pos hlost,handed_overfull hs hc (by omega)]
      · have hlost : lost s = false := by
          rw [lost,decide_eq_false hc,hs]
          rfl
        rw [hlost,handed_done hs hl (by omega)]
        rfl
  · intro hlost hnil
    rw [hnil] at hl
    have hz : s.count = 0 := hl.symm
    simp [lost,hz] at hlost

structure Settled (id : Int) (x : Handle) (w : RecvStation) (got : List UInt8) : Prop where
  handle : (slot x w).modemHandle = id
  kept : w.modem.lossy = false → got = w.modem.removed
  lost : w.modem.lossy = true → got.length < w.modem.removed.length

theorem socketRecv_settled {w : RecvStation} {got : List UInt8} (size : UInt32)
    (h : Settled id x w got) :
    wp (recvModem id).spec (socketRecv x size)
      (fun r w' => Settled id x w' (got ++ handed r)) w.begin := by
  simp only [socketRecv,wp_bind,wp_pure]
  have hstart : Progress id x w (RecvState.start size) w.begin := by
    refine ⟨h.handle,?_,rfl,rfl,?_,(by decide : NsapiError.deviceError < 0),?_⟩
    · exact (List.append_nil _).symm
    · change 0 + size.toNat < 2 ^ 32
      have := size.toNat_lt
      omega
    · change w.modem.lossy = (w.modem.lossy || false || false)
      simp
  refine wp_mono (recvModem id).mono (fun s u hu => ?_) (recvLoop_progress hstart)
  obtain ⟨hgot,hne⟩ := hu.handed
  have hlossy : u.modem.lossy = (w.modem.lossy || lost s) := by
    rw [hu.lossy,Bool.or_assoc]
    rfl
  refine ⟨hu.handle,fun hk => ?_,fun hl => ?_⟩
  · rw [hlossy,Bool.or_eq_false_iff] at hk
    rw [hgot,hk.2,hu.removed,h.kept hk.1]
    rfl
  · rw [hu.removed,hgot]
    rw [hlossy,Bool.or_eq_true] at hl
    have hle : (if lost s then [] else s.data).length ≤ s.data.length := by
      split
      · exact Nat.zero_le _
      · exact Nat.le_refl _
    rw [List.length_append,List.length_append]
    rcases hw : w.modem.lossy with _ | _
    · have hlost : lost s = true := by
        rw [hw] at hl
        exact hl.resolve_left (by rintro ⟨⟩)
      have hpos := List.length_pos_iff.mpr (hne hlost)
      rw [h.kept hw,hlost]
      change _ + 0 < _
      omega
    · have := h.lost hw
      omega

theorem received_settled {start w : RecvStation} {got : List UInt8}
    (hstart : Settled id x start []) (h : Received id x start w got) : Settled id x w got := by
  induction h with
  | start => exact hstart
  | call size _ hr ih => exact Modem.sound (socketRecv_settled size ih) hr
  | event _ he ih =>
    have hs := event_same (x := x) he
    refine ⟨hs.handle.trans ih.handle,fun hk => ?_,fun hl => ?_⟩
    · rw [hs.removed]
      exact ih.kept (hs.lossy ▸ hk)
    · rw [hs.removed]
      exact ih.lost (hs.lossy ▸ hl)

theorem tcp_receive {d : Driver AtInterface} {unread : List UInt8} {urcs : List Nat}
    {w : RecvStation} {got : List UInt8} (hd : (d.iface.sockets x).modemHandle = id)
    (h : Received id x ⟨d,.opened unread urcs⟩ w got) :
    got = w.modem.removed ↔ w.modem.lossy = false := by
  have hstart : Settled id x ⟨d,.opened unread urcs⟩ [] := ⟨hd,fun _ => rfl,by rintro ⟨⟩⟩
  have hs := received_settled hstart h
  constructor
  · intro hgot
    cases hl : w.modem.lossy with
    | false => rfl
    | true =>
      have := hs.lost hl
      rw [hgot] at this
      omega
  · exact hs.kept

def streaming : Modem.Peer (sig AtInterface) Wire where
  send _ _ := true
  recv
    | _, .ok, w => some (some (), w)
    | _, .unnatural, w => some (none, w)
    | _, .usord, w => if w.modem.urcs = [] then
        some (w.modem.asked.map (fun k => (w.modem.unread.take k).length), w) else none
    | _, _, _ => none
  ask
    | _, .read _ size, w => some (size, w.modem.block.take size.toNat)
    | _, .timerReadMs, _ => some 1000
    | _, _, _ => none

theorem streaming_fair : streaming.Fair (recvModem id) where
  send c w := by
    cases c <;> first | rfl | trivial
  recv := by
    intro β p w b v h
    cases p
    case ok => cases h; exact ⟨.refl,trivial⟩
    case unnatural => cases h; exact ⟨.refl,trivial⟩
    case usord =>
      obtain ⟨hu,hs⟩ := Option.ite_none_right_eq_some.mp h
      cases hs
      refine ⟨.refl,fun k hk => ⟨hu,?_⟩⟩
      rw [hk]
      rfl
    all_goals cases h
  ask := by
    intro β e w b h
    cases e <;> cases h
    case read => exact fun _ => rfl
    case timerReadMs => trivial

def connected : Driver AtInterface := ⟨.initial 115200,{ AtInterface.initial with
  sockets := Function.update Sockets.initial 0 { SockCtrl.cleared with modemHandle := 0 } }⟩

theorem announced : Received 0 0 ⟨connected,.opened [] []⟩
    ⟨(Urc.uusord 0 3).handle connected,.opened [1,2,3] []⟩ [] := by
  have h1 : Received 0 0 ⟨connected,.opened [] []⟩ ⟨connected,.opened [1,2,3] []⟩ [] :=
    .event .start (.arrive _ _ [1,2,3])
  have h2 : Received 0 0 ⟨connected,.opened [] []⟩ ⟨connected,.opened [1,2,3] [3]⟩ [] :=
    .event h1 (.announce _ _)
  exact .event h2 (.deliver _ _ rfl)

abbrev played (size : UInt32) (w : RecvStation) : Option ((Int × List UInt8) × RecvStation) :=
  (socketRecv 0 size).run ((recvModem 0).machine.play streaming.script) 4 w.begin

theorem tcp_receive_three : ∃ w : RecvStation,
    Received 0 0 ⟨connected,.opened [] []⟩ w [1,2,3] ∧
    ([1,2,3] = w.modem.removed ↔ w.modem.lossy = false) := by
  have hrun : (played 10 ⟨(Urc.uusord 0 3).handle connected,.opened [1,2,3] []⟩).map
      (fun r => handed r.1) = some [1,2,3] := by decide
  obtain ⟨r,hr,hgot⟩ := Option.map_eq_some_iff.mp hrun
  have hw : Received 0 0 ⟨connected,.opened [] []⟩ r.2 (handed r.1) :=
    .call 10 announced (streaming_fair.runs hr)
  rw [hgot] at hw
  have hd : (connected.iface.sockets 0).modemHandle = 0 := rfl
  exact ⟨r.2,hw,tcp_receive hd hw⟩

theorem tcp_receive_loses : ¬ ∀ (w : RecvStation) (got : List UInt8),
    Received 0 0 ⟨connected,.opened [] []⟩ w got → got = w.modem.removed := by
  intro hall
  have hrun : (played 10 ⟨(Urc.uusord 0 3).handle connected,.opened [1,2,3,4,5] []⟩).map
      (fun r => (r.1.1, handed r.1, r.2.modem.removed)) =
      some (NsapiError.deviceError, [], [1,2,3,4,5]) := by decide
  obtain ⟨r,hr,he⟩ := Option.map_eq_some_iff.mp hrun
  simp only [Prod.mk.injEq] at he
  obtain ⟨-,hgot,hremoved⟩ := he
  have hfive : Received 0 0 ⟨connected,.opened [] []⟩
      ⟨(Urc.uusord 0 3).handle connected,.opened [1,2,3,4,5] []⟩ [] :=
    .event announced (.arrive _ _ [4,5])
  have hlost := hall r.2 _ (.call 10 hfive (streaming_fair.runs hr))
  rw [hgot,hremoved] at hlost
  cases hlost

end RecvStation

end UbloxCellular.Gsm
