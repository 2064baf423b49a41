import UbloxCellular.Gsm.Sim

namespace UbloxCellular.Gsm
open Interaction Code

variable {I : Type}

structure PinLog where
  answer : Option String
  sent : List (Cmd × Option String)
  cpins : Nat
  prompted : Bool
  deriving DecidableEq, Repr

namespace PinLog

def empty : PinLog := ⟨none,[],0,false⟩

def Paid (x : PinLog) : Prop := ∀ c ∈ x.sent, c.1.isSim = true → c.2.isSome = true

def sending (x : PinLog) (c : Cmd) (pin : Option String) : PinLog :=
  { x with
    answer := none
    sent := (c, pin) :: x.sent
    cpins := match c with | .cpin _ => x.cpins + 1 | _ => x.cpins }

def heardOk (x : PinLog) (pin : Option String) (ok : Bool) : PinLog :=
  { x with
    answer := none
    prompted := x.prompted || (ok && x.answer = some "SIM PIN" && pin.isNone) }

theorem paid_sending (x : PinLog) (c : Cmd) (pin : Option String) :
    (x.sending c pin).Paid ↔ (c.isSim = true → pin.isSome = true) ∧ x.Paid := by
  simp [Paid,sending]

structure Sound (x : PinLog) : Prop where
  answer : x.answer = none
  cpins : x.cpins ≤ 1
  paid : x.Paid ↔ x.prompted = false

theorem Sound.heardOk {x : PinLog} (h : x.Sound) (pin : Option String) (ok : Bool) :
    x.heardOk pin ok = x := by
  cases x with
  | mk answer sent cpins prompted =>
    obtain rfl : answer = none := h.answer
    simp [PinLog.heardOk]

theorem Sound.unanswered {x : PinLog} (h : x.Sound) : ({ x with answer := none } : PinLog) = x := by
  cases x with
  | mk answer sent cpins prompted =>
    obtain rfl : answer = none := h.answer
    rfl

theorem Sound.refused {x : PinLog} (h : x.Sound) (answer pin : Option String) :
    ({ x with answer := answer } : PinLog).heardOk pin false = x := by
  have hkeep : ({ x with answer := answer } : PinLog).heardOk pin false =
      { x with answer := none, prompted := x.prompted || false } := rfl
  rw [hkeep,Bool.or_false]
  exact h.unanswered

theorem Sound.unprompted {x : PinLog} (h : x.Sound) {pinstr : String} (hp : pinstr ≠ "SIM PIN")
    (pin : Option String) :
    ({ x with answer := some pinstr } : PinLog).heardOk pin true = x := by
  have hother : decide (some pinstr = some "SIM PIN") = false :=
    decide_eq_false (fun he => hp (Option.some.inj he))
  rw [PinLog.heardOk,hother,Bool.and_false,Bool.false_and,Bool.or_false]
  exact h.unanswered

theorem Sound.sending {x : PinLog} (h : x.Sound) {c : Cmd} {pin : Option String}
    (hp : c.isSim = true → pin.isSome = true)
    (hc : ∀ p, c ≠ .cpin p) : (x.sending c pin).Sound ∧ (x.sending c pin).cpins = x.cpins := by
  have hk : (x.sending c pin).cpins = x.cpins := by
    cases c <;> first | rfl | exact absurd rfl (hc _)
  refine ⟨⟨rfl,hk ▸ h.cpins,?_⟩,hk⟩
  rw [paid_sending]
  exact ⟨fun hx => h.paid.mp hx.2,fun hx => ⟨hp,h.paid.mpr hx⟩⟩

end PinLog

def pinModem (I : Type) : Modem (sig I) PinLog where
  event x d x' d' := x' = x ∧ Unsolicited d d'
  allow _ _ _ _ _ := True
  next
    | _, .send c, x, d, _ => x.sending c d.base.pin
    | _, .recv .cpin, x, _, b => { x with answer := b }
    | _, .recv .ok, x, d, b => x.heardOk d.base.pin b.isSome
    | _, .enter .init, x, _, _ => { x with cpins := 0 }
    | _, _, x, _, _ => x

abbrev PinStation (I : Type) := Station (sig I) PinLog

namespace PinStation

structure Quiet (w w' : PinStation I) : Prop where
  pin : w'.driver.base.pin = w.driver.base.pin
  cpins : w'.modem.cpins = w.modem.cpins
  prompted : w'.modem.prompted = w.modem.prompted
  sound : w.modem.Sound → w'.modem.Sound

theorem Quiet.refl (w : PinStation I) : Quiet w w := ⟨rfl,rfl,rfl,id⟩

theorem Quiet.trans {u v w : PinStation I} (h : Quiet u v) (k : Quiet v w) : Quiet u w :=
  ⟨k.pin.trans h.pin,k.cpins.trans h.cpins,k.prompted.trans h.prompted,k.sound ∘ h.sound⟩

theorem quiet_modem {w w' : PinStation I} (hp : w'.driver.base.pin = w.driver.base.pin)
    (hm : w'.modem = w.modem) : Quiet w w' := by
  refine ⟨hp,?_,?_,?_⟩
  · rw [hm]
  · rw [hm]
  · intro h
    rw [hm]
    exact h

theorem unsolicited_pin {d d' : Driver I} (h : Unsolicited d d') : d'.base.pin = d.base.pin := by
  rw [h]

def quiet (I : Type) : (pinModem I).Kept where
  pre w := w.modem.Sound
  rel := Quiet
  refl := Quiet.refl
  trans _ _ _ := Quiet.trans
  keep _ _ h := h.sound
  event _ _ _ h := quiet_modem (unsolicited_pin h.2) h.1

theorem sent_quiet {c : Cmd} {w : PinStation I} (hw : w.modem.Sound)
    (hp : c.isSim = true → w.driver.base.pin.isSome = true) (hc : ∀ p, c ≠ .cpin p) :
    Quiet w { w with modem := w.modem.sending c w.driver.base.pin } := by
  obtain ⟨hs,hk⟩ := hw.sending hp hc
  exact ⟨rfl,hk,rfl,fun _ => hs⟩

instance : Ordinary (quiet I).frame := by
  apply ordinary_kept
  · intro β e w b he hw _
    cases e with
    | recv p =>
      cases p with
      | ok => exact quiet_modem rfl (hw.heardOk _ _)
      | cpin => cases he
      | _ => exact Quiet.refl w
    | enter c => cases he
    | send c => cases he
    | _ => exact Quiet.refl w
  · intro c w b hc hw _
    refine sent_quiet hw (fun h => ?_) (fun p h => ?_)
    · rw [Cmd.plain_sim hc] at h
      cases h
    · subst h
      cases hc
  · intro h w b _ _ _
    exact Quiet.refl w
  · intro f w _
    exact ⟨rfl,rfl,rfl,id⟩

instance : (quiet I).frame.Keeps (hw .modemPowerDown) :=
  Modem.Kept.keeps_act rfl (fun w _ _ _ => Quiet.refl w)

theorem quiet_run {α : Type} {p : BaseCode I α} [hp : (quiet I).frame.Keeps p]
    {Q : α → PinStation I → Prop} {w : PinStation I} (hw : w.modem.Sound)
    (hq : ∀ a w', Quiet w w' → Q a w') : wp (pinModem I).spec p Q w :=
  wp_mono (pinModem I).mono hq (hp.run w hw)

theorem events_pin {w v : PinStation I} (h : (pinModem I).Events w v) :
    v.modem = w.modem ∧ v.driver.base.pin = w.driver.base.pin := by
  induction h with
  | refl => exact ⟨rfl,rfl⟩
  | tail _ huv ih => exact ⟨huv.1.trans ih.1,(unsolicited_pin huv.2).trans ih.2⟩

def Untried (done : Bool) (w : PinStation I) : Prop :=
  w.modem.Sound ∧ (done = false → w.modem.cpins = 0)

theorem Untried.quiet {done : Bool} {w w' : PinStation I} (h : Untried done w)
    (hq : Quiet w w') : Untried done w' :=
  ⟨hq.sound h.1,fun hd => hq.cpins.trans (h.2 hd)⟩

theorem Untried.same {done : Bool} {w : PinStation I} {x : PinLog} (hm : w.modem = x)
    (hx : x.Sound) (hc : x.cpins = 0) : Untried done w := by
  subst hm
  exact ⟨hx,fun _ => hc⟩

theorem pin_answered {x : PinLog} (hx : x.Sound) (hc : x.cpins = 0) (pin : Option String) :
    ((({ x with answer := some "SIM PIN" } : PinLog).heardOk pin true).sending
      (.cpin pin) pin).Sound := by
  refine ⟨rfl,?_,?_⟩
  · change x.cpins + 1 ≤ 1
    omega
  · rw [PinLog.paid_sending]
    change (true = true → pin.isSome = true) ∧ x.Paid ↔ (x.prompted || pin.isNone) = false
    rw [hx.paid]
    cases pin <;> simp

theorem cpinAnswer_sound {x : PinLog} (hx : x.Sound) (hc : x.cpins = 0) (pinstr : String)
    {u : PinStation I} (hu : u.modem =
      ({ x with answer := some pinstr } : PinLog).heardOk u.driver.base.pin true) :
    wp (pinModem I).spec (cpinAnswer pinstr) (fun _ w => w.modem.Sound) u := by
  rw [cpinAnswer]
  by_cases hp : pinstr = "SIM PIN"
  · subst hp
    rw [if_pos rfl,wp_bind,Modem.wp_modify,wp_bind,wp_get,Modem.wp_exchange]
    intro b _
    have hs : (u.modem.sending (.cpin u.driver.base.pin) u.driver.base.pin).Sound := by
      rw [hu]
      exact pin_answered hx hc _
    cases b with
    | false => exact hs
    | true =>
      rw [if_pos rfl,Modem.wp_recvOk]
      intro v r hv _
      obtain ⟨hm,_⟩ := events_pin hv
      change (v.modem.heardOk v.driver.base.pin r.isSome).Sound
      have hv' : v.modem.Sound := by
        rw [hm]
        exact hs
      rw [hv'.heardOk]
      exact hv'
  · have hs : u.modem.Sound := by
      rw [hu,hx.unprompted hp]
      exact hx
    rw [if_neg hp]
    split
    · rw [wp_bind,Modem.wp_modify]
      exact hs
    · exact hs

theorem simTry_untried {w : PinStation I} {s : Bool × Bool} (h : Untried s.1 w)
    (hs : s.1 = false) :
    wp (pinModem I).spec (simTry s) (fun s' w' => Untried s'.1 w') w := by
  rw [simTry,wp_bind,Modem.wp_ask]
  intro b _
  have hsent : Untried s.1 { w with
      modem := w.modem.sending .cpinQuery w.driver.base.pin } :=
    h.quiet (sent_quiet h.1 (by rintro ⟨⟩) (by rintro p ⟨⟩))
  simp only [wp_bind,Modem.wp_wait,wp_pure]
  cases b with
  | false => exact hsent
  | true =>
    rw [if_pos rfl,Modem.wp_recv]
    intro v r hv _
    have hm : v.modem = w.modem.sending .cpinQuery w.driver.base.pin := (events_pin hv).1
    generalize hx : w.modem.sending .cpinQuery w.driver.base.pin = x at hsent hm
    have hxs : x.Sound := hsent.1
    have hxc : x.cpins = 0 := hsent.2 hs
    cases r with
    | none =>
      have hsame : ({ v.modem with answer := none } : PinLog) = x := by
        rw [hm]
        exact hxs.unanswered
      exact Untried.same hsame hxs hxc
    | some pinstr =>
      rw [Option.elim_some,wp_bind,Modem.wp_recvOk]
      intro u r hu _
      obtain ⟨hmu,_⟩ := events_pin hu
      have hu' : u.modem = { x with answer := some pinstr } := by
        rw [hmu]
        change ({ v.modem with answer := some pinstr } : PinLog) = _
        rw [hm]
      cases r with
      | none =>
        have hsame : u.modem.heardOk u.driver.base.pin false = x := by
          rw [hu']
          exact hxs.refused _ _
        exact Untried.same hsame hxs hxc
      | some _ =>
        simp only [Option.isSome_some,if_true,wp_bind,wp_pure]
        refine wp_mono (pinModem I).mono (fun a w' hw' => ⟨hw',by rintro ⟨⟩⟩) ?_
        refine cpinAnswer_sound hxs hxc pinstr ?_
        change u.modem.heardOk u.driver.base.pin true = _
        rw [hu']

theorem initialiseSimCard_sound {w : PinStation I} (h : w.modem.Sound) (hc : w.modem.cpins = 0) :
    wp (pinModem I).spec initialiseSimCard (fun _ w' => w'.modem.Sound) w := by
  simp only [initialiseSimCard,Modem.wp_locked,wp_bind,wp_pure]
  intro v hv
  have hv' : Untried false v := Untried.quiet ⟨h,fun _ => hc⟩ (quiet_modem (events_pin hv).2
    (events_pin hv).1)
  refine wp_upTo (pinModem I).mono (fun _ s u => Untried s.1 u) ?_ ?_ ?_ hv'
  · intro n s u hu _
    exact hu.1
  · intro s u hu
    exact hu.1
  · intro n s u hu hs
    exact simTry_untried hu hs

theorem init_sound {w : PinStation I} (pin : Option String) (hw : w.modem.Sound) :
    wp (pinModem I).spec (Gsm.init pin) (fun _ w' => w'.modem.Sound) w := by
  simp only [Gsm.init,wp_bind,Modem.wp_enter,wp_get,wp_ite,Modem.wp_modify,wp_pure]
  intro _
  have hstart : ({ w.modem with cpins := 0 } : PinLog).Sound := ⟨hw.answer,Nat.zero_le 1,hw.paid⟩
  split
  · exact hstart
  · refine quiet_run hstart (fun a u hu => ?_)
    have hsu : u.modem.Sound := hu.sound hstart
    have hsim : ∀ u' : PinStation I, u'.modem = u.modem → wp (pinModem I).spec initialiseSimCard
        (fun a u => if a = true then wp (pinModem I).spec initAfterSim (fun a v =>
          if a = true then v.modem.Sound else v.modem.Sound) u else u.modem.Sound) u' := by
      intro u' hu'
      refine wp_mono (pinModem I).mono (fun a v hv => ?_)
        (initialiseSimCard_sound (hu' ▸ hsu) (by rw [hu']; exact hu.cpins))
      split
      · refine quiet_run hv (fun a v' hv' => ?_)
        rw [ite_self]
        exact hv'.sound hv
      · exact hv
    split
    · split
      · exact hsim _ rfl
      · exact hsim _ rfl
    · exact hsu

theorem paid_exchange {c : Cmd} {w : PinStation I} (hw : w.modem.Sound)
    (hp : w.driver.base.pin.isSome = true) (hc : ∀ p, c ≠ .cpin p) :
    wp (pinModem I).spec (exchange c) (fun _ w' => w'.modem.Sound) w := by
  have hsent := sent_quiet hw (fun _ => hp) hc
  rw [Modem.wp_exchange]
  intro b _
  cases b with
  | false => exact hsent.sound hw
  | true =>
    rw [if_pos rfl]
    exact quiet_run (hsent.sound hw) (fun r v hv => (hsent.trans hv).sound hw)

theorem simPinCheckEnable_sound {w : PinStation I} (enable : Bool) (hw : w.modem.Sound) :
    wp (pinModem I).spec (simPinCheckEnable enable) (fun _ w' => w'.modem.Sound) w := by
  simp only [simPinCheckEnable,simLock,wp_bind,Modem.wp_enter,Modem.wp_locked,wp_get,wp_ite,
    Modem.wp_modify,wp_pure]
  intro _ v hv
  have hw : v.modem.Sound := (events_pin hv).1 ▸ hw
  split
  · rename_i hp
    have hlock : ∀ n, wp (pinModem I).spec (exchange (.clck n v.driver.base.pin))
        (fun a u => if a = true then u.modem.Sound else u.modem.Sound) v := by
      intro n
      simp only [ite_self]
      exact paid_exchange hw hp (by rintro p ⟨⟩)
    split
    · exact hlock 0
    · split
      · exact hlock 1
      · exact hw
  · exact hw

theorem changeSimPin_sound {w : PinStation I} (pin : Option String) (hw : w.modem.Sound) :
    wp (pinModem I).spec (changeSimPin pin) (fun _ w' => w'.modem.Sound) w := by
  simp only [changeSimPin,wp_bind,Modem.wp_enter,Modem.wp_locked,wp_get,wp_ite,Modem.wp_modify,
    wp_pure]
  intro _ v hv
  have hw : v.modem.Sound := (events_pin hv).1 ▸ hw
  split
  · rename_i hp
    simp only [ite_self]
    exact paid_exchange hw (Bool.and_eq_true_iff.mp hp).2 (by rintro p ⟨⟩)
  · exact hw

theorem call_sound {w : PinStation I} (o : SimCall) (hw : w.modem.Sound) :
    wp (pinModem I).spec o.code (fun _ w' => w'.modem.Sound) w := by
  cases o with
  | init pin =>
    simp only [SimCall.code,Modem.wp_void]
    exact init_sound pin hw
  | deinit =>
    simp only [SimCall.code,Gsm.deinit,wp_bind,Modem.wp_modify]
    exact quiet_run hw (fun _ u hu => hu.sound hw)
  | simPinCheckEnable b =>
    simp only [SimCall.code,Modem.wp_void]
    exact simPinCheckEnable_sound b hw
  | changeSimPin pin =>
    simp only [SimCall.code,Modem.wp_void]
    exact changeSimPin_sound pin hw
  | setPin pin =>
    simp only [SimCall.code,Gsm.setPin,Modem.wp_modify]
    exact hw

abbrev Runs (start w : PinStation I) : Prop :=
  (pinModem I).Reached SimCall.code (fun _ _ => True) start w

def start (baud : Int) (iface : I) : PinStation I := ⟨⟨.initial baud,iface⟩,.empty⟩

theorem start_sound (baud : Int) (iface : I) : (start baud iface).modem.Sound :=
  ⟨rfl,Nat.zero_le 1,⟨fun _ => rfl,fun _ => by rintro m ⟨⟩⟩⟩

theorem runs_sound {baud : Int} {iface : I} {w : PinStation I}
    (h : Runs (start baud iface) w) : w.modem.Sound := by
  refine h.keeps (start_sound baud iface) (fun u o hu _ => call_sound o hu) ?_
  intro u v hu huv
  have hm : v.modem = u.modem := huv.1
  rw [hm]
  exact hu

theorem pin_attempts {baud : Int} {iface : I} {w : PinStation I}
    (h : Runs (start baud iface) w) :
    (w.modem.cpins ≤ 1 ∧ ∀ c ∈ w.modem.sent, c.1.isSim = true → c.2.isSome = true) ↔
      w.modem.prompted = false := by
  have hs := runs_sound h
  constructor
  · intro hw
    exact hs.paid.mp hw.2
  · intro hw
    exact ⟨hs.cpins,hs.paid.mpr hw⟩

def locked (I : Type) : Modem.Peer (sig I) PinLog where
  send _ _ := true
  recv
    | _, .ok, w => some (some (), w)
    | _, .cpin, w => some (some "SIM PIN", w)
    | _, _, w => some (none, w)
  ask
    | _, .hw _, _ => some ()
    | _, .enter _, _ => some ()
    | _, _, _ => none

theorem locked_fair : (locked I).Fair (pinModem I) where
  send _ _ := trivial
  recv := by
    intro β p w b v h
    cases p <;> cases h <;> exact ⟨.refl,trivial⟩
  ask _ _ _ _ _ := trivial

abbrev played (o : SimCall) (w : PinStation Unit) : Option (Unit × PinStation Unit) :=
  o.code.run ((pinModem Unit).machine.play (locked Unit).script) 0 w

theorem pin_attempts_paid : ∃ w : PinStation Unit, Runs (start 115200 ()) w ∧
    w.modem.sent.any (fun c => c.1.isSim) = true ∧
    ((w.modem.cpins ≤ 1 ∧ ∀ c ∈ w.modem.sent, c.1.isSim = true → c.2.isSome = true) ↔
      w.modem.prompted = false) := by
  have hrun : (played (.init (some "1234")) (start 115200 ())).map
      (fun r => r.2.modem.sent.any (fun c => c.1.isSim)) = some true := by decide
  obtain ⟨r,hr,hs⟩ := Option.map_eq_some_iff.mp hrun
  have hw : Runs (start 115200 ()) r.2 :=
    .call (SimCall.init (some "1234")) .start trivial (locked_fair.runs hr)
  exact ⟨r.2,hw,hs,pin_attempts hw⟩

theorem null_pin_sent : ¬ ∀ w : PinStation Unit, Runs (start 115200 ()) w →
    w.modem.cpins ≤ 1 ∧ ∀ c ∈ w.modem.sent, c.1.isSim = true → c.2.isSome = true := by
  intro hall
  have hrun : (played (.init none) (start 115200 ())).map
      (fun r => decide ((.cpin none, none) ∈ r.2.modem.sent)) = some true := by decide
  obtain ⟨r,hr,hs⟩ := Option.map_eq_some_iff.mp hrun
  have hw : Runs (start 115200 ()) r.2 :=
    .call (SimCall.init none) .start trivial (locked_fair.runs hr)
  have hpin := (hall r.2 hw).2 _ (of_decide_eq_true hs) rfl
  cases hpin

end PinStation

end UbloxCellular.Gsm
