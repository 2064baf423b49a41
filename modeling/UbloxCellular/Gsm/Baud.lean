import UbloxCellular.Gsm.Dialling

namespace UbloxCellular.Gsm
open Interaction Code

variable {I : Type}

-- The modem is opened no faster than it can reliably auto-baud.
def uartRate (baud : Int) : Int := if 115200 < baud then 115200 else baud

-- The rate of the UART, whether the modem was powered up with nothing sent since, the command
-- that is not answered yet, whether an AT+IPR has been answered OK, and for each power-up the
-- rate its first command was sent at and whether one had been answered by then, newest first.
structure Uart where
  rate : Int
  fresh : Bool
  last : Option Cmd
  adopted : Bool
  woken : List (Int × Bool)

namespace Uart

def opened (baud : Int) : Uart := ⟨uartRate baud,false,none,false,[]⟩

def send (x : Uart) (c : Cmd) (sent : Bool) : Uart :=
  { x with
    fresh := false
    last := if sent then some c else none
    woken := if x.fresh then (x.rate, x.adopted) :: x.woken else x.woken }

def answered (x : Uart) (ok : Bool) : Uart :=
  { x with last := none, adopted := x.adopted || ok && x.last.any Cmd.setsRate }

end Uart

def baudModem (I : Type) : Modem (sig I) Uart where
  event x d x' d' := x' = x ∧ d'.base.baud = d.base.baud
  allow _ _ _ _ _ := True
  next
    | _, .send c, x, _, b => x.send c b
    | _, .recv .ok, x, _, b => x.answered b.isSome
    | _, .hw .modemPowerUp, x, _, _ => { x with fresh := true }
    | _, .hw (.setBaud baud), x, _, _ => { x with rate := baud }
    | _, _, x, _, _ => x

abbrev UartStation (I : Type) := Station (sig I) Uart

inductive PowerCall where
  | init (pin : Option String)
  | deinit
  deriving DecidableEq, Repr

def PowerCall.code : PowerCall → BaseCode I Unit
  | .init pin => void (Gsm.init pin)
  | .deinit => Gsm.deinit

namespace UartStation

variable {baud : Int} {w v : UartStation I}

def baseClassInit (baud : Int) (i : I) : UartStation I := ⟨⟨.initial baud,i⟩,.opened baud⟩

def runs (baud : Int) (adopted : Bool) : Int := if adopted then baud else uartRate baud

structure Rated (baud : Int) (w : UartStation I) : Prop where
  configured : w.driver.base.baud = baud
  rate : w.modem.rate = runs baud w.modem.adopted
  settled : w.modem.last.any Cmd.setsRate = false
  woken : ∀ e ∈ w.modem.woken, e.1 = runs baud e.2

theorem opened_rated (baud : Int) (i : I) : Rated baud (baseClassInit baud i) :=
  ⟨rfl,rfl,rfl,by simp [baseClassInit,Uart.opened]⟩

theorem woken_sent (h : Rated baud w) (c : Cmd) (b : Bool) :
    ∀ e ∈ (w.modem.send c b).woken, e.1 = runs baud e.2 := by
  intro e he
  simp only [Uart.send] at he
  split at he
  · rcases List.mem_cons.mp he with rfl | he
    · exact h.rate
    · exact h.woken e he
  · exact h.woken e he

theorem Rated.sent (h : Rated baud w) {c : Cmd} {b : Bool} (hc : b = true → c.setsRate = false) :
    Rated baud { w with modem := w.modem.send c b } where
  configured := h.configured
  rate := h.rate
  settled := by
    cases b with
    | false => rfl
    | true => exact hc rfl
  woken := woken_sent h c b

theorem Rated.answered (h : Rated baud w) (ok : Bool) :
    Rated baud { w with modem := w.modem.answered ok } := by
  have hadopted : (w.modem.answered ok).adopted = w.modem.adopted := by
    rw [Uart.answered,h.settled,Bool.and_false,Bool.or_false]
  exact ⟨h.configured,h.rate.trans (congrArg (runs baud) hadopted.symm),rfl,h.woken⟩

theorem event_rated (h : Rated baud w)
    (he : (baudModem I).event w.modem w.driver v.modem v.driver) : Rated baud v := by
  obtain ⟨hx,hd⟩ := he
  exact ⟨hd.trans h.configured,by rw [hx]; exact h.rate,by rw [hx]; exact h.settled,
    by rw [hx]; exact h.woken⟩

def rated (I : Type) (baud : Int) : (baudModem I).Kept where
  pre := Rated baud
  rel u v := Rated baud u → Rated baud v
  refl _ := id
  trans _ _ _ h k := k ∘ h
  keep _ _ h := h
  event _ _ _ he h := event_rated h he

theorem stable : (rated I baud).Stable (Rated baud) := ⟨fun _ h => h,fun _ _ hu h => h hu⟩

instance : Routine (rated I baud).frame where
  lock := Modem.Kept.keeps_lock
  unlock := Modem.Kept.keeps_unlock
  act e he := by
    refine Modem.Kept.keeps_act (by cases e <;> first | rfl | cases he) (fun w b hw _ _ => ?_)
    cases e with
    | recv p =>
      cases p with
      | ok => exact hw.answered b.isSome
      | _ => exact hw
    | send c => cases he
    | hw h => cases he
    | _ => exact hw
  send c _ hc := Modem.Kept.keeps_act rfl (fun _ _ hw _ _ => hw.sent (fun _ => hc))
  modemInit := Modem.Kept.keeps_still rfl (fun _ _ _ => rfl)
  modemPowerUp := Modem.Kept.keeps_act rfl
    (fun _ _ hw _ _ => ⟨hw.configured,hw.rate,hw.settled,hw.woken⟩)
  modemDeinit := Modem.Kept.keeps_still rfl (fun _ _ _ => rfl)
  info _ := Modem.Kept.keeps_modify (fun _ hw _ => ⟨hw.configured,hw.rate,hw.settled,hw.woken⟩)

instance (c : Cmd) [h : Fact (c.setsRate = false)] : (rated I baud).frame.Keeps (send c) :=
  Modem.Kept.keeps_act rfl (fun _ _ hw _ _ => hw.sent (fun _ => h.out))

instance : (rated I baud).frame.Keeps (recv .cpin : BaseCode I (Option String)) :=
  Modem.Kept.keeps_still rfl (fun _ _ _ => rfl)

instance : (rated I baud).frame.Keeps (hw .modemPowerDown : BaseCode I Unit) :=
  Modem.Kept.keeps_still rfl (fun _ _ _ => rfl)

instance (c : Call) : (rated I baud).frame.Keeps (enter c : BaseCode I Unit) :=
  Modem.Kept.keeps_still rfl (fun _ _ _ => rfl)

theorem keeps_base {f : Base → Base} (hf : ∀ b, (f b).baud = b.baud) :
    (rated I baud).frame.Keeps (modify (Driver.onBase f) : BaseCode I Unit) :=
  Modem.Kept.keeps_modify (fun _ hw _ => ⟨(hf _).trans hw.configured,hw.rate,hw.settled,hw.woken⟩)

-- Between the answer to AT+IPR and the call of set_baud() the two ends have different rates.
theorem rateSet_rated {q : BaseCode I Bool} [(rated I baud).frame.Keeps q] (h : Rated baud w) :
    wp (baudModem I).spec (do
      if ← exchange (.ipr baud) then
        wait 100
        hw (.setBaud baud)
        q
      else q) (fun _ => Rated baud) w := by
  rw [wp_bind,Modem.wp_exchange]
  intro sent _
  cases sent with
  | false =>
    rw [if_neg Bool.false_ne_true,if_neg Bool.false_ne_true]
    exact stable.run (h.sent (by rintro ⟨⟩))
  | true =>
    rw [if_pos rfl,Modem.wp_recvOk]
    intro v ok hv _
    obtain ⟨hx,hd⟩ := Modem.events_keep (P := fun u : UartStation I =>
      u.modem = w.modem.send (.ipr baud) true ∧ u.driver.base.baud = baud) hv
        ⟨rfl,h.configured⟩ (fun _ _ hu huv => ⟨huv.1.trans hu.1,huv.2.trans hu.2⟩)
    have hwoken := woken_sent h (.ipr baud) true
    rw [← hx] at hwoken
    have hrate : v.modem.rate = runs baud v.modem.adopted := by
      rw [hx]
      exact h.rate
    cases ok with
    | none =>
      have hadopted : (v.modem.answered false).adopted = v.modem.adopted := Bool.or_false _
      rw [Option.isSome_none,if_neg Bool.false_ne_true]
      exact stable.run ⟨hd,hrate.trans (congrArg (runs baud) hadopted.symm),rfl,hwoken⟩
    | some _ =>
      rw [Option.isSome_some,if_pos rfl,wp_bind,Modem.wp_wait,wp_bind,Modem.wp_hw]
      refine fun _ => stable.run ⟨hd,?_,rfl,hwoken⟩
      have hadopted : (v.modem.answered true).adopted = true := by
        rw [hx]
        exact Bool.or_true _
      exact (congrArg (runs baud) hadopted).symm

theorem powerUp_rated (h : Rated baud w) :
    wp (baudModem I).spec powerUp (fun _ => Rated baud) w := by
  simp only [powerUp,wp_bind,Modem.wp_locked,Modem.wp_atTimeout,Modem.wp_hw,Modem.wp_wait]
  intro v hv timeout _
  have hrated : Rated baud v := stable.events hv h
  refine wp_mono (Modem.mono _) (fun success u hu => ?_)
    (stable.run (p := Prog.upTo id (fun _ => powerUpTry timeout) 20 false) hrated)
  cases success with
  | false => exact hu
  | true =>
    rw [if_pos rfl,wp_bind,wp_get,hu.configured]
    exact rateSet_rated hu

instance : (rated I baud).frame.Keeps (powerUp : BaseCode I Bool) :=
  ⟨fun _ h => wp_mono (Modem.mono _) (fun _ _ hv _ => hv) (powerUp_rated h)⟩

instance (s : String) : (rated I baud).frame.Keeps (cpinAnswer s : BaseCode I Bool) := by
  have henabled := @keeps_base I baud (fun b =>
    { b with simPinCheckEnabled := true }) (fun _ => rfl)
  have hdisabled := @keeps_base I baud (fun b =>
    { b with simPinCheckEnabled := false }) (fun _ => rfl)
  simp only [cpinAnswer]
  infer_instance

instance (s : Bool × Bool) : (rated I baud).frame.Keeps (simTry s : BaseCode I (Bool × Bool)) := by
  simp only [simTry]
  infer_instance

instance : (rated I baud).frame.Keeps (initialiseSimCard : BaseCode I Bool) := by
  simp only [initialiseSimCard]
  infer_instance

set_option synthInstance.maxSize 8192 in
instance (pin : Option String) : (rated I baud).frame.Keeps (init pin : BaseCode I Bool) := by
  have hpin := @keeps_base I baud (fun b => { b with pin := pin })
    (fun _ => rfl)
  have hinitialised := @keeps_base I baud (fun b =>
    { b with modemInitialised := true }) (fun _ => rfl)
  simp only [init]
  infer_instance

instance : (rated I baud).frame.Keeps (deinit : BaseCode I Unit) := by
  have hinitialised := @keeps_base I baud (fun b =>
    { b with modemInitialised := false }) (fun _ => rfl)
  simp only [deinit]
  infer_instance

theorem call_rated (o : PowerCall) (h : Rated baud w) :
    wp (baudModem I).spec o.code (fun _ => Rated baud) w := by
  cases o with
  | init pin =>
    rw [PowerCall.code]
    exact stable.run h
  | deinit => exact stable.run (p := deinit) h

abbrev Runs (baud : Int) (i : I) : UartStation I → Prop :=
  (baudModem I).Told PowerCall.code (fun _ x => x) (baseClassInit baud i)

theorem runs_rated {i : I} (hw : Runs baud i w) : Rated baud w :=
  hw.keeps (opened_rated baud i) (fun _ o h => call_rated o h) (fun _ _ h he => event_rated h he)

theorem woken_slow_iff {i : I} (hw : Runs baud i w) {rate : Int} {adopted : Bool}
    (he : (rate, adopted) ∈ w.modem.woken) : rate ≤ 115200 ↔ baud ≤ 115200 ∨ adopted = false := by
  obtain rfl : rate = runs baud adopted := (runs_rated hw).woken _ he
  cases adopted with
  | true => simp [runs]
  | false =>
    rw [runs,if_neg Bool.false_ne_true,uartRate]
    refine iff_of_true ?_ (.inr rfl)
    split
    · exact le_refl _
    · omega

theorem fast_runs {calls : List PowerCall} {woken : List (Int × Bool)}
    (hrun : ((refusing Unit Uart none).replay (baudModem Unit) PowerCall.code (fun _ x => x) 0 calls
      (baseClassInit 230400 ())).map (fun w => w.modem.woken) = some woken) :
    ∃ w, Runs 230400 () w ∧ w.modem.woken = woken := by
  obtain ⟨w,hr,hwoken⟩ := Option.map_eq_some_iff.mp hrun
  have hfair : (refusing Unit Uart none).Fair (baudModem Unit) :=
    refusing_fair (fun _ _ _ _ _ => trivial) (fun _ _ => ⟨rfl,rfl⟩)
  exact ⟨w,hfair.told hr .start,hwoken⟩

theorem woken_slow_first : ∃ w, Runs 230400 () w ∧ w.modem.woken = [(115200, false)] ∧
    ((115200 : Int) ≤ 115200 ↔ (230400 : Int) ≤ 115200 ∨ false = false) := by
  obtain ⟨w,hw,hwoken⟩ := @fast_runs [.init none] [(115200, false)]
    (by decide +kernel)
  exact ⟨w,hw,hwoken,woken_slow_iff hw (by rw [hwoken]; exact List.mem_singleton_self _)⟩

theorem woken_fast : ∃ w, Runs 230400 () w ∧
    w.modem.woken = [(230400, true),(115200, false)] :=
  @fast_runs [.init none,.deinit,.init none] _ (by decide +kernel)

end UartStation

end UbloxCellular.Gsm
