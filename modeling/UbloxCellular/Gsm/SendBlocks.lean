import UbloxCellular.Driver.Modem
import UbloxCellular.Gsm.Frames

namespace UbloxCellular.Gsm
open Interaction Code

-- One exchange of a send: the command, what was written at its prompt, and whether the modem
-- answered OK. The call is the number of looks at the timer before it.
structure Transfer where
  call : Nat
  command : Cmd
  block : Option (List UInt8)
  ok : Bool
  deriving DecidableEq, Repr

structure Outbox where
  calls : Nat
  transfers : List Transfer
  deriving DecidableEq, Repr

namespace Outbox

def empty : Outbox := ⟨0,[]⟩

def push (o : Outbox) (t : Transfer) : Outbox := { o with transfers := t :: o.transfers }

def begin (o : Outbox) (c : Cmd) : Outbox := o.push ⟨o.calls,c,none,false⟩

def onLast (f : Transfer → Transfer) (o : Outbox) : Outbox :=
  match o.transfers with
  | [] => o
  | t :: rest => { o with transfers := f t :: rest }

end Outbox

-- Every exchange may come out as it likes, and all but calm is left to the URCs.
def sendModem (calm : Driver AtInterface → Prop) : Modem (sig AtInterface) Outbox where
  event o _ p d := p = o ∧ calm d
  allow _ _ _ _ _ := True
  next
    | _, .timerReadMs, o, _, _ => { o with calls := o.calls + 1 }
    | _, .send c, o, _, _ => o.begin c
    | _, .write block, o, _, _ => o.onLast (fun t => { t with block := some block })
    | _, .recv .ok, o, _, b => o.onLast (fun t => { t with ok := b.isSome })
    | _, _, o, _, _ => o

abbrev SendStation := Station (sig AtInterface) Outbox

def Transfer.Carries (t : Transfer) (block : List UInt8) : Prop :=
  t.block = some block ∨ t.block = none ∧ t.ok = false

def Transfer.bytes (t : Transfer) : List UInt8 := t.block.getD []

inductive Cut (call : Nat) (command : Nat → Cmd → Prop) :
    List UInt8 → List Transfer → Bool → Prop
  | done : Cut call command [] [] true
  | failed {data : List UInt8} {t : Transfer} : data ≠ [] → t.call = call →
      command (data.take maxWriteSize).length t.command →
      t.Carries (data.take maxWriteSize) → t.ok = false → Cut call command data [t] false
  | next {data : List UInt8} {t : Transfer} {ts : List Transfer} {success : Bool} : data ≠ [] →
      t.call = call → command (data.take maxWriteSize).length t.command →
      t.Carries (data.take maxWriteSize) → t.ok = true →
      Cut call command (data.drop maxWriteSize) ts success →
      Cut call command data (t :: ts) success

def slice (data : List UInt8) (k : Nat) : List UInt8 :=
  (data.drop (k * maxWriteSize)).take maxWriteSize

namespace Cut

variable {call : Nat} {command : Nat → Cmd → Prop} {data : List UInt8} {ts : List Transfer}
variable {success : Bool}

theorem slice_next (data : List UInt8) (k : Nat) :
    slice (data.drop maxWriteSize) k = slice data (k + 1) := by
  rw [slice,slice,List.drop_drop,Nat.succ_mul,Nat.add_comm]

theorem slice_length {data : List UInt8} (h : data ≠ []) :
    0 < (slice data 0).length ∧ (slice data 0).length ≤ maxWriteSize := by
  have hmax : maxWriteSize = 1024 := rfl
  have hpos := List.length_pos_iff.mpr h
  rw [slice,Nat.zero_mul,List.drop_zero,List.length_take]
  omega

structure Matches (command : Nat → Cmd → Prop) (block : List UInt8) (t : Transfer) : Prop where
  short : 0 < block.length ∧ block.length ≤ maxWriteSize
  command : command block.length t.command
  carries : t.Carries block

theorem each (h : Cut call command data ts success) {k : Nat} {t : Transfer}
    (ht : ts[k]? = some t) : Matches command (slice data k) t := by
  induction h generalizing k with
  | done => cases ht
  | failed hdata _ hcommand hcarries _ =>
    cases k with
    | zero =>
      cases ht
      exact ⟨slice_length hdata,hcommand,hcarries⟩
    | succ k => cases ht
  | next hdata _ hcommand hcarries _ _ ih =>
    cases k with
    | zero =>
      cases ht
      exact ⟨slice_length hdata,hcommand,hcarries⟩
    | succ k =>
      rw [← slice_next]
      exact ih ht

theorem whole (h : Cut call command data ts success) (hs : success = true) :
    (∀ t ∈ ts, t.ok = true) ∧ ts.flatMap Transfer.bytes = data := by
  induction h with
  | done => exact ⟨by rintro t ⟨⟩,rfl⟩
  | failed => cases hs
  | @next data t ts _ _ _ _ hcarries hok _ ih =>
    obtain ⟨hall,hbytes⟩ := ih hs
    refine ⟨List.forall_mem_cons.mpr ⟨hok,hall⟩,?_⟩
    have hblock : t.bytes = data.take maxWriteSize := by
      rcases hcarries with hb | ⟨-,hf⟩
      · rw [Transfer.bytes,hb]
        rfl
      · rw [hok] at hf
        cases hf
    rw [List.flatMap_cons,hbytes,hblock,List.take_append_drop]

theorem stopped (h : Cut call command data ts success) {k : Nat} {t : Transfer}
    (ht : ts[k]? = some t) (hfail : t.ok = false) : k + 1 = ts.length ∧ success = false := by
  induction h generalizing k with
  | done => cases ht
  | failed =>
    cases k with
    | zero => exact ⟨rfl,rfl⟩
    | succ k => cases ht
  | next _ _ _ _ hok _ ih =>
    cases k with
    | zero =>
      cases ht
      rw [hok] at hfail
      cases hfail
    | succ k =>
      obtain ⟨hk,hs⟩ := ih ht
      exact ⟨by rw [List.length_cons,hk],hs⟩

theorem failing (h : Cut call command data ts success) (hs : success = false) :
    ∃ t ∈ ts, t.ok = false := by
  induction h with
  | done => cases hs
  | @failed _ t _ _ _ _ hf => exact ⟨t,List.mem_singleton_self t,hf⟩
  | next _ _ _ _ _ _ ih =>
    obtain ⟨t,ht,hf⟩ := ih hs
    exact ⟨t,List.mem_cons_of_mem _ ht,hf⟩

end Cut

namespace SendStation

variable {calm : Driver AtInterface → Prop} {w : SendStation} {x : Handle}

theorem events_outbox {v : SendStation} (h : (sendModem calm).Events w v)
    (hw : calm w.driver) : v.modem = w.modem ∧ calm v.driver :=
  Modem.events_keep (P := fun u => u.modem = w.modem ∧ calm u.driver) h ⟨rfl,hw⟩
    (fun _ _ hu huv => ⟨huv.1.trans hu.1,huv.2⟩)

theorem sendBlock_transfer {command : Int → Cmd} {block : List UInt8} (hw : calm w.driver) :
    wp (sendModem calm).spec (sendBlock command x block) (fun success v => calm v.driver ∧
      ∃ d t, calm d ∧ v.modem = w.modem.push t ∧ t.call = w.modem.calls ∧
        t.command = command (d.iface.sockets x).modemHandle ∧ t.Carries block ∧
        t.ok = success) w := by
  simp only [sendBlock,Modem.wp_locked,wp_bind,wp_get,Modem.wp_ask,wp_elim,wp_pure]
  intro v hv
  obtain ⟨hvm,hvd⟩ := events_outbox hv hw
  intro sent _
  rw [hvm]
  let t : Transfer := ⟨w.modem.calls,command (v.driver.iface.sockets x).modemHandle,none,false⟩
  split
  · rw [Modem.wp_recv]
    intro u r hu _
    obtain ⟨hum,hud⟩ := events_outbox hu hvd
    change u.modem = w.modem.push t at hum
    cases r with
    | none => exact ⟨hud,v.driver,t,hvd,hum,rfl,rfl,.inr ⟨rfl,rfl⟩,rfl⟩
    | some _ =>
      rw [Option.elim_some,Modem.wp_wait,Modem.wp_asks rfl]
      intro written _
      have hwrite : u.modem.onLast (fun t => { t with block := some block }) =
          w.modem.push { t with block := some block } := by
        rw [hum]
        rfl
      split
      · exact ⟨hud,v.driver,{ t with block := some block },hvd,hwrite,rfl,rfl,.inl rfl,rfl⟩
      · rw [Modem.wp_recvOk]
        intro u' ok hu' _
        obtain ⟨hum',hud'⟩ := events_outbox hu' hud
        change u'.modem = u.modem.onLast (fun t => { t with block := some block }) at hum'
        have hanswer : u'.modem.onLast (fun t => { t with ok := ok.isSome }) =
            w.modem.push { t with block := some block, ok := ok.isSome } := by
          rw [hum',hwrite]
          rfl
        exact ⟨hud',v.driver,{ t with block := some block, ok := ok.isSome },hvd,hanswer,rfl,rfl,
          .inl rfl,rfl⟩
  · exact ⟨hvd,v.driver,t,hvd,rfl,rfl,rfl,.inr ⟨rfl,rfl⟩,rfl⟩

def Announces (calm : Driver AtInterface → Prop) (command : Nat → Int → Cmd) (x : Handle)
    (len : Nat) (c : Cmd) : Prop := ∃ d, calm d ∧ c = command len (d.iface.sockets x).modemHandle

variable {command : Nat → Int → Cmd} {data : List UInt8} {call : Nat} {s : SendState}
variable {old : List Transfer} {o : Outbox}

structure Cutting (call : Nat) (command : Nat → Cmd → Prop) (data : List UInt8)
    (s : SendState) (ts : List Transfer) : Prop where
  sizes : s.buf + s.count = data.length ∧ s.blk ≤ maxWriteSize ∧ min maxWriteSize s.count ≤ s.blk
  rest : ∀ {rest success}, Cut call command (data.drop s.buf) rest success →
    Cut call command data (ts ++ rest) success

theorem Cutting.start {announces : Nat → Cmd → Prop} :
    Cutting call announces data ⟨true,0,maxWriteSize,data.length⟩ [] where
  sizes := ⟨Nat.zero_add _,Nat.le_refl _,Nat.min_le_left _ _⟩
  rest h := h

theorem Cutting.block {announces : Nat → Cmd → Prop} {ts : List Transfer}
    (h : Cutting call announces data s ts) :
    (if s.count < s.blk then s.count else s.blk) = min maxWriteSize s.count ∧
    ((data.drop s.buf).take maxWriteSize).length = min maxWriteSize s.count ∧
    (data.drop s.buf).take (min maxWriteSize s.count) = (data.drop s.buf).take maxWriteSize := by
  obtain ⟨hcount,hblk,hmin⟩ := h.sizes
  have hlength : (data.drop s.buf).length = s.count := by
    rw [List.length_drop]
    omega
  refine ⟨?_,?_,?_⟩
  · split <;> omega
  · rw [List.length_take,hlength]
  · rw [← hlength,List.take_eq_take_iff]
    omega

theorem Cutting.next {announces : Nat → Cmd → Prop} {ts : List Transfer} {t : Transfer}
    (h : Cutting call announces data s ts) (hd : data.length < 2 ^ 32) (hs : 0 < s.count)
    (ht : t.call = call ∧ announces (min maxWriteSize s.count) t.command ∧
      t.Carries ((data.drop s.buf).take maxWriteSize)) :
    (t.ok = true → Cutting call announces data ⟨true,s.buf + min maxWriteSize s.count,
      min maxWriteSize s.count,subU s.count (min maxWriteSize s.count)⟩ (ts ++ [t])) ∧
    (t.ok = false → Cut call announces data (ts ++ [t]) false) := by
  obtain ⟨hcount,hblk,hmin⟩ := h.sizes
  obtain ⟨-,hlength,-⟩ := h.block
  obtain ⟨hcall,hcommand,hcarries⟩ := ht
  rw [← hlength] at hcommand
  have hmax : maxWriteSize = 1024 := rfl
  have hleft : data.drop s.buf ≠ [] := by
    rw [Ne,List.drop_eq_nil_iff]
    omega
  constructor
  · intro hok
    rw [subU_of_le (Nat.min_le_right _ _) (by omega)]
    refine ⟨⟨?_,Nat.min_le_left _ _,?_⟩,fun {rest success} hrest => ?_⟩
    · change s.buf + _ + (s.count - _) = data.length
      omega
    · change min maxWriteSize (s.count - _) ≤ min maxWriteSize s.count
      omega
    · rw [List.append_assoc]
      refine h.rest (.next hleft hcall hcommand hcarries hok ?_)
      rw [List.drop_drop]
      have hdrop : data.drop (s.buf + min maxWriteSize s.count) =
          data.drop (s.buf + maxWriteSize) := by
        rw [List.drop_eq_drop_iff]
        omega
      rw [← hdrop]
      exact hrest
  · exact fun hok => h.rest (.failed hleft hcall hcommand hcarries hok)

theorem Cutting.done {announces : Nat → Cmd → Prop} {ts : List Transfer}
    (h : Cutting call announces data s ts) (hs : s.count = 0) :
    Cut call announces data ts true := by
  have hdone : data.drop s.buf = [] := by
    rw [List.drop_eq_nil_iff,← h.sizes.1]
    omega
  have hcut := h.rest (by rw [hdone]; exact Cut.done)
  rw [List.append_nil] at hcut
  exact hcut

theorem sendLoop_cut (hd : data.length < 2 ^ 32) (hw : calm w.driver) :
    wp (sendModem calm).spec (sendLoop command x data) (fun s v => calm v.driver ∧
      (s.success = true → s.count = 0) ∧ ∃ ts,
        v.modem = ⟨w.modem.calls,ts.reverse ++ w.modem.transfers⟩ ∧
        Cut w.modem.calls (Announces calm command x) data ts s.success) w := by
  refine wp_iterate (fun s v => calm v.driver ∧ ∃ ts,
    v.modem = ⟨w.modem.calls,ts.reverse ++ w.modem.transfers⟩ ∧
    (s.success = true → Cutting w.modem.calls (Announces calm command x) data s ts) ∧
    (s.success = false → Cut w.modem.calls (Announces calm command x) data ts false))
    ⟨hw,[],rfl,fun _ => .start,by rintro ⟨⟩⟩ ?_
  rintro s v ⟨hv,ts,hm,hgo,hstop⟩
  rw [wp_ite]
  split
  · rename_i hgoing
    have hcutting := hgo hgoing.2
    obtain ⟨hblk,-,hblock⟩ := hcutting.block
    refine wp_seq (sendModem calm).mono (sendBlock_transfer hv) (fun success u hu => ?_)
    obtain ⟨hud,d,t,hcd,hum,hcall,hcommand,hcarries,rfl⟩ := hu
    rw [hblk] at hcommand hcarries
    rw [hblock] at hcarries
    rw [hm] at hum hcall
    obtain ⟨hnext,hfail⟩ := hcutting.next hd hgoing.1 ⟨hcall,⟨d,hcd,hcommand⟩,hcarries⟩
    rw [hblk]
    refine ⟨hud,ts ++ [t],?_,fun hok => ?_,hfail⟩
    · rw [hum,List.reverse_append]
      rfl
    · have hok : t.ok = true := hok
      rw [hok]
      exact hnext hok
  · rename_i hstopped
    have hzero : s.success = true → s.count = 0 := by
      intro hs
      by_contra hcount
      exact hstopped ⟨by omega,hs⟩
    refine ⟨hv,hzero,ts,hm,?_⟩
    cases hs : s.success with
    | true => exact (hgo hs).done (hzero hs)
    | false => exact hstop hs

theorem sendResult_cut {s : SendState} (hd : data.length < 2 ^ 31)
    (h : s.success = true → s.count = 0) :
    sendResult data.length s = if s.success then (data.length : Int) else NsapiError.deviceError := by
  rw [sendResult]
  split
  · rename_i hs
    rw [h hs,subU_of_le (Nat.zero_le _) (by omega),toSigned_of_lt (by omega),Nat.sub_zero]
  · rfl

structure Sent (command : Nat → Cmd) (data : List UInt8) (r : Int) (ts : List Transfer) :
    Prop where
  each : ∀ k t, ts[k]? = some t → Cut.Matches (fun len c => c = command len) (slice data k) t
  whole : (∀ t ∈ ts, t.ok = true) → ts.flatMap Transfer.bytes = data ∧ r = data.length
  stopped : ∀ k t, ts[k]? = some t → t.ok = false → k + 1 = ts.length ∧ r < 0

abbrev holding (x : Handle) (id : Int) (d : Driver AtInterface) : Prop :=
  (d.iface.sockets x).modemHandle = id

theorem sendLoop_sent {id : Int} (hd : data.length < 2 ^ 31)
    (hw : holding x id w.driver) (hm : w.modem = .empty) :
    wp (sendModem (holding x id)).spec (sendLoop command x data) (fun s v =>
      Sent (fun len => command len id) data (sendResult data.length s)
        v.modem.transfers.reverse) w := by
  refine wp_mono (Modem.mono _) (fun s v hv => ?_) (sendLoop_cut (by omega) hw)
  obtain ⟨-,hcount,ts,hts,hcut⟩ := hv
  have hlog : v.modem.transfers.reverse = ts := by
    rw [hts,hm]
    simp [Outbox.empty]
  rw [hlog,sendResult_cut hd hcount]
  refine ⟨fun k t ht => ?_,fun hall => ?_,fun k t ht hf => ?_⟩
  · obtain ⟨hshort,⟨d,hcalm,hcommand⟩,hcarries⟩ := hcut.each ht
    rw [hcalm] at hcommand
    exact ⟨hshort,hcommand,hcarries⟩
  · cases hs : s.success with
    | true => exact ⟨(hcut.whole hs).2,rfl⟩
    | false =>
      obtain ⟨t,ht,hf⟩ := hcut.failing hs
      rw [hall t ht] at hf
      cases hf
  · obtain ⟨hlast,hs⟩ := hcut.stopped ht hf
    rw [hs]
    exact ⟨hlast,(by decide : NsapiError.deviceError < 0)⟩

theorem send_slices {id : Int} {d : Driver AtInterface} (hd : data.length < 2 ^ 31)
    (hx : holding x id d) :
    (∀ r w, (sendModem (holding x id)).Runs (socketSend x data) ⟨d,.empty⟩ r w →
      Sent (fun len => .usowr id len) data r w.modem.transfers.reverse) ∧
    (∀ ip port r w, (sendModem (holding x id)).Runs (socketSendto x ip port data) ⟨d,.empty⟩ r w →
      Sent (fun len => .usost id ip port len) data r w.modem.transfers.reverse) := by
  refine ⟨fun r w hr => ?_,fun ip port r w hr => ?_⟩
  · refine Modem.sound (Q := fun r w => Sent _ data r w.modem.transfers.reverse) ?_ hr
    simp only [socketSend,wp_bind,wp_pure]
    exact sendLoop_sent hd hx rfl
  · refine Modem.sound (Q := fun r w => Sent _ data r w.modem.transfers.reverse) ?_ hr
    simp only [socketSendto,wp_bind,wp_pure]
    exact sendLoop_sent hd hx rfl

def choosing (accepts : Outbox → Bool) : Modem.Peer (sig AtInterface) Outbox where
  send _ _ := true
  recv
    | _, .prompt, w => some (some (), w)
    | _, .ok, w => some (if accepts w.modem then some () else none, w)
    | _, _, _ => none
  ask
    | _, .write block, _ => some block.length
    | _, .timerReadMs, w => some (if w.modem.calls < 2 then 0 else 10000)
    | _, _, _ => none

theorem choosing_fair (accepts : Outbox → Bool) : (choosing accepts).Fair (sendModem calm) where
  send _ _ := trivial
  recv := by
    intro β p w b v h
    cases p <;> cases h <;> exact ⟨.refl,trivial⟩
  ask := by
    intro β e w b h
    trivial

def connected : Driver AtInterface := ⟨.initial 115200,{ AtInterface.initial with
  sockets := Function.update Sockets.initial 0 ⟨0,0,none,none⟩ }⟩

theorem send_slices_blocks : ∃ (r : Int) (w : SendStation),
    (sendModem (holding 0 0)).Runs (socketSend 0 (List.replicate 1100 0xa5)) ⟨connected,.empty⟩ r w ∧
    r = 1100 ∧ w.modem.transfers.length = 2 ∧
    Sent (fun len => .usowr 0 len) (List.replicate 1100 0xa5) r w.modem.transfers.reverse := by
  have hrun : ((socketSend 0 (List.replicate 1100 0xa5)).run ((sendModem (holding 0 0)).machine.play
      (choosing (fun _ => true)).script) 3 ⟨connected,.empty⟩).map (fun r =>
        (r.1, r.2.modem.transfers.length)) = some (1100, 2) := by decide +kernel
  obtain ⟨r,hr,he⟩ := Option.map_eq_some_iff.mp hrun
  obtain ⟨hresult,htransfers⟩ := Prod.mk.inj he
  have hx := (choosing_fair _).runs hr
  have hshort : (List.replicate 1100 (0xa5 : UInt8)).length < 2 ^ 31 := by
    rw [List.length_replicate]
    decide
  have hheld : holding 0 0 connected := rfl
  exact ⟨r.1,r.2,hx,hresult,htransfers,(send_slices hshort hheld).1 r.1 r.2 hx⟩

end SendStation

end UbloxCellular.Gsm
