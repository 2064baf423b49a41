import UbloxCellular.Gsm.Frames
import UbloxCellular.Interaction.Moment

namespace UbloxCellular.Gsm
open Interaction Code

inductive Query where
  | activate
  | deactivate
  | other
  deriving DecidableEq, Repr

-- The data connection as the modem has it, and what it has told the driver: how often it has said
-- that the connection is up, and whether it was lost since the last time.
structure Context where
  up : Bool
  tried : Bool
  lost : Bool
  said : Nat
  asked : Query
  deriving DecidableEq, Repr

namespace Context

def down : Context := ⟨false,false,false,0,.other⟩

def say (x : Context) : Context := { x with lost := false, said := x.said + 1 }

def request (x : Context) : Cmd → Context
  | .upsda 3 => { x with tried := true, asked := .activate }
  | .upsda 4 => { x with asked := .deactivate }
  | _ => { x with asked := .other }

def accept (x : Context) : Context :=
  match x.asked with
  | .activate => { x with up := true, asked := .other }.say
  | .deactivate => { x with up := false, tried := false, asked := .other }
  | .other => x

end Context

def noAddress : String := "0.0.0.0"

-- The connection may be lost at any time, and an activation that was asked for may also take effect
-- late, after the driver has given up waiting for its OK.
inductive ContextEvent : Context → Driver AtInterface → Context → Driver AtInterface → Prop
  | lose (x : Context) (d : Driver AtInterface) :
      ContextEvent x d { x with up := false, lost := x.lost || x.up } d
  | late (x : Context) (d : Driver AtInterface) : x.tried = true →
      ContextEvent x d { x with up := true } d
  | deliver (x : Context) (d : Driver AtInterface) (u : Urc) : ContextEvent x d x (u.handle d)

-- A modem that has an address, and says that it is active, only while the connection is up.
def contextModem : Modem (sig AtInterface) Context where
  event := ContextEvent
  allow
    | _, .recv .upsndStatus, x, _, b => ∀ active, b = some active → active ≠ 0 → x.up = true
    | _, .recv .upsndIp, x, _, b => ∀ ip, b = some ip → ip ≠ noAddress → x.up = true
    | _, .addressNonzero ip, _, _, b => b = true → ip ≠ noAddress
    | _, _, _, _, _ => True
  next
    | _, .send c, x, _, _ => x.request c
    | _, .recv .upsndStatus, x, _, b => if b.elim false (fun active => active ≠ 0) then x.say else x
    | _, .recv .upsndIp, x, _, b => if b.elim false (fun ip => ip ≠ noAddress) then x.say else x
    | _, .recv .ok, x, _, b => if b.isSome then x.accept else x
    | _, _, x, _, _ => x

abbrev ContextStation := Station (sig AtInterface) Context

namespace ContextStation

variable {w u v : ContextStation} {n : Nat} {α β : Type}

structure Told (n : Nat) (w : ContextStation) : Prop where
  said : n < w.modem.said
  up : w.modem.up = true ∨ w.modem.lost = true

structure Down (w : ContextStation) : Prop where
  up : w.modem.up = false
  tried : w.modem.tried = false

structure Drift (w v : ContextStation) : Prop where
  asked : v.modem.asked = w.modem.asked
  said : v.modem.said = w.modem.said
  ip : v.driver.iface.ip = w.driver.iface.ip
  up : w.modem.up = true ∨ w.modem.lost = true → v.modem.up = true ∨ v.modem.lost = true
  down : Down w → Down v

theorem event_drift (h : contextModem.event w.modem w.driver v.modem v.driver) : Drift w v := by
  obtain ⟨d,x⟩ := w
  obtain ⟨e,y⟩ := v
  cases h with
  | lose =>
    refine ⟨rfl,rfl,rfl,fun h => .inr ?_,fun h => ⟨rfl,h.tried⟩⟩
    exact Bool.or_eq_true_iff.mpr h.symm
  | late ht => exact ⟨rfl,rfl,rfl,fun _ => .inl rfl,fun h => absurd (ht.symm.trans h.tried) nofun⟩
  | deliver u => exact ⟨rfl,rfl,by cases u <;> rfl,id,fun h => ⟨h.up,h.tried⟩⟩

theorem events_drift (h : contextModem.Events w v) : Drift w v := by
  refine Modem.events_keep (P := Drift w) h ⟨rfl,rfl,rfl,id,id⟩ (fun u v hu huv => ?_)
  have hv := event_drift huv
  exact ⟨hv.asked.trans hu.asked,hv.said.trans hu.said,hv.ip.trans hu.ip,hv.up ∘ hu.up,
    hv.down ∘ hu.down⟩

theorem Drift.told (h : Drift w v) (hw : Told n w) : Told n v := ⟨h.said ▸ hw.said,h.up hw.up⟩

theorem request_said (x : Context) (c : Cmd) : (x.request c).said = x.said := by
  unfold Context.request
  split <;> rfl

theorem accept_said (x : Context) : x.said ≤ x.accept.said := by
  unfold Context.accept
  split
  · exact Nat.le_succ _
  · exact Nat.le_refl _
  · exact Nat.le_refl _

theorem next_said (e : Eff (sig AtInterface) β) (x : Context) (d : Driver AtInterface) (b : β) :
    x.said ≤ (contextModem.next e x d b).said := by
  cases e with
  | send c => exact Nat.le_of_eq (request_said x c).symm
  | recv p =>
    cases p with
    | ok =>
      change x.said ≤ (if b.isSome then x.accept else x).said
      split
      · exact accept_said x
      · exact Nat.le_refl _
    | upsndStatus =>
      change x.said ≤ (if _ then x.say else x).said
      split
      · exact Nat.le_succ _
      · exact Nat.le_refl _
    | upsndIp =>
      change x.said ≤ (if _ then x.say else x).said
      split
      · exact Nat.le_succ _
      · exact Nat.le_refl _
    | _ => exact Nat.le_refl _
  | _ => exact Nat.le_refl _

theorem env_said {e : Locked (Eff (sig AtInterface)) β} (h : contextModem.machine.env e w v) :
    v.modem.said = w.modem.said := by
  cases e with
  | lock => exact (event_drift h).said
  | unlock => cases h
  | act e =>
    cases e with
    | recv p => exact (event_drift h).said
    | _ => cases h

theorem update_said (e : Locked (Eff (sig AtInterface)) β) (w : ContextStation) (b : β) :
    w.modem.said ≤ (contextModem.machine.next e w b).modem.said := by
  cases e with
  | lock => exact Nat.le_refl _
  | unlock => exact Nat.le_refl _
  | act e =>
    cases e with
    | send c => exact next_said (.send c) w.modem w.driver b
    | recv p => exact next_said (.recv p) w.modem w.driver b
    | _ => exact Nat.le_refl _

theorem said_grows (q : AtCode α) (w : ContextStation) :
    wp contextModem.spec q (fun _ v => w.modem.said ≤ v.modem.said) w := by
  refine wp_iff_exec.mpr (fun a v hx => ?_)
  refine hx.linked (R := fun u v => u.modem.said ≤ v.modem.said) (fun _ => Nat.le_refl _)
    (fun _ _ _ => Nat.le_trans) (fun β e u b v h => ?_)
  obtain ⟨x,henv,-,rfl⟩ := h
  have hsaid : x.modem.said = u.modem.said := by
    induction henv with
    | refl => rfl
    | tail _ hstep ih => exact (env_said hstep).trans ih
  exact hsaid ▸ update_said e x b

theorem skip {p : AtCode β} {f : β → AtCode α} {Q : α → ContextStation → Prop}
    (hn : n ≤ w.modem.said)
    (h : ∀ b v, n ≤ v.modem.said → wp contextModem.spec (f b) Q v) :
    wp contextModem.spec (p >>= f) Q w :=
  wp_seq contextModem.mono (said_grows p w) (fun b v hv => h b v (Nat.le_trans hn hv))

theorem skip_either {c : Prop} [Decidable c] {p q : AtCode β} {f : β → AtCode α}
    {Q : α → ContextStation → Prop} (hn : n ≤ w.modem.said)
    (h : ∀ b v, n ≤ v.modem.said → wp contextModem.spec (f b) Q v) :
    wp contextModem.spec (if c then p >>= f else q >>= f) Q w := by
  split
  · exact skip hn h
  · exact skip hn h

theorem request_told (hw : Told n w) (c : Cmd) :
    Told n { w with modem := w.modem.request c } := by
  refine ⟨(request_said w.modem c).symm ▸ hw.said,?_⟩
  obtain ⟨d,x⟩ := w
  change (x.request c).up = true ∨ (x.request c).lost = true
  unfold Context.request
  split <;> exact hw.up

theorem recvOk_told (hw : Told n w) (ha : w.modem.asked ≠ .deactivate) :
    wp contextModem.spec recvOk (fun _ => Told n) w := by
  rw [Modem.wp_recvOk]
  intro v b hv _
  have hd := events_drift hv
  have hvt := hd.told hw
  refine ⟨Nat.lt_of_lt_of_le hvt.said (next_said (.recv .ok) v.modem v.driver b),?_⟩
  obtain ⟨d,x⟩ := v
  have hx : x.asked ≠ .deactivate := hd.asked ▸ ha
  change (if b.isSome then x.accept else x).up = true ∨ (if b.isSome then x.accept else x).lost = true
  split
  · unfold Context.accept
    split
    · exact .inl rfl
    · rename_i h
      exact absurd h hx
    · exact hvt.up
  · exact hvt.up

theorem exchange_told {c : Cmd} (hc : c ≠ .upsda 4) (hw : Told n w) :
    wp contextModem.spec (exchange c) (fun _ => Told n) w := by
  rw [Modem.wp_exchange]
  intro b _
  have hs := request_told hw c
  cases b with
  | false => exact hs
  | true =>
    refine recvOk_told hs (fun h => ?_)
    change (w.modem.request c).asked = .deactivate at h
    unfold Context.request at h
    split at h
    · cases h
    · exact hc rfl
    · cases h

theorem activate_told (t : Int) (hn : n ≤ w.modem.said) :
    wp contextModem.spec (activate t) (fun ok v => ok = true → Told n v) w := by
  rw [activate,Modem.wp_timed,Modem.wp_exchange]
  intro b _
  cases b with
  | false => exact Bool.false_ne_true.elim
  | true =>
    rw [if_pos rfl,Modem.wp_recvOk]
    intro v r hv _ hr
    have hd := events_drift hv
    obtain ⟨d,x⟩ := v
    have ha : x.asked = .activate := hd.asked
    have hsaid : x.said = w.modem.said := hd.said
    change Told n ⟨d,if r.isSome then x.accept else x⟩
    rw [if_pos hr,Context.accept,ha]
    exact ⟨Nat.lt_succ_of_le (hsaid ▸ hn),.inl rfl⟩

theorem tryProtocol_told {t protocol : Int} {activated : Bool} (hn : n ≤ w.modem.said)
    (hw : activated = true → Told n w) :
    wp contextModem.spec (tryProtocol t activated protocol)
      (fun ok v => n ≤ v.modem.said ∧ (ok = true → Told n v)) w := by
  have hgrows := wp_mono contextModem.mono (fun _ _ => Nat.le_trans hn)
    (said_grows (tryProtocol t activated protocol) w)
  refine Handler.wp_and hgrows ?_
  rw [tryProtocol,wp_bind,Modem.wp_get,wp_ite]
  split
  · have hkept : wp contextModem.spec (exchange (.upsdAuth protocol))
        (fun _ v => activated = true → Told n v) w := by
      cases activated with
      | false => exact wp_always (fun _ _ => Bool.false_ne_true.elim) w
      | true => exact wp_mono contextModem.mono (fun _ _ h _ => h) (exchange_told (by simp) (hw rfl))
    refine wp_seq contextModem.mono (Handler.wp_and (said_grows _ w) hkept) (fun b v hv => ?_)
    rw [wp_ite]
    split
    · exact activate_told t (Nat.le_trans hn hv.1)
    · exact hv.2
  · exact hw

theorem activateProfile_told (apn username password : String) (auth : Security)
    (hn : n ≤ w.modem.said) :
    wp contextModem.spec (activateProfile apn username password auth)
      (fun ok v => ok = true → Told n v) w := by
  rw [activateProfile]
  refine skip hn (fun t v hv => skip_either hv (fun _ v hv => skip_either hv (fun _ v hv =>
    skip_either hv (fun success v hv => ?_))))
  rw [wp_ite]
  split
  · refine skip hv (fun b v hv => ?_)
    rw [wp_ite]
    split
    · refine wp_seq contextModem.mono (tryProtocol_told hv Bool.false_ne_true.elim)
        (fun a v hv => ?_)
      refine wp_seq contextModem.mono (tryProtocol_told hv.1 hv.2) (fun a v hv => ?_)
      exact wp_mono contextModem.mono (fun _ _ h => h.2) (tryProtocol_told hv.1 hv.2)
    · exact Bool.false_ne_true.elim
  · exact Bool.false_ne_true.elim

theorem chosen_told {t : Int} {q : AtCode Bool} (hn : n ≤ w.modem.said) :
    wp contextModem.spec (do
      if ← q then activate t else return false) (fun ok v => ok = true → Told n v) w := by
  refine skip hn (fun b v hv => ?_)
  rw [wp_ite]
  split
  · exact activate_told t hv
  · exact Bool.false_ne_true.elim

theorem activateProfileReuseExternal_told (hn : n ≤ w.modem.said) :
    wp contextModem.spec activateProfileReuseExternal
      (fun ok v => n ≤ v.modem.said ∧ (ok = true → Told n v)) w := by
  refine Handler.wp_and (wp_mono contextModem.mono (fun _ _ => Nat.le_trans hn) (said_grows _ w)) ?_
  rw [activateProfileReuseExternal]
  refine skip hn (fun t v hv => skip hv (fun r v hv => skip hv (fun cid v hv => ?_)))
  rw [wp_ite]
  split
  · exact chosen_told hv
  · exact Bool.false_ne_true.elim

theorem activateProfileByCid_told (cid : Int) (apn username password : String) (auth : Security)
    (hn : n ≤ w.modem.said) :
    wp contextModem.spec (activateProfileByCid cid apn username password auth)
      (fun ok v => ok = true → Told n v) w := by
  rw [activateProfileByCid]
  exact skip hn (fun t v hv => chosen_told hv)

theorem connectOnce_told (config : Option (List String)) (hn : n ≤ w.modem.said) :
    wp contextModem.spec (connectOnce config) (fun r v => r.1 = true → Told n v) w := by
  rw [connectOnce]
  refine skip hn (fun config v hv => skip hv (fun _ v hv => skip hv (fun d v hv => skip hv
    (fun _ v hv => ?_))))
  rw [wp_ite]
  split
  · exact wp_seq contextModem.mono (activateProfile_told _ _ _ _ hv) (fun _ _ h => h)
  · refine wp_seq contextModem.mono (activateProfileReuseExternal_told hv) (fun b v hv => ?_)
    rw [wp_ite]
    split
    · rename_i hb
      exact fun _ => hv.2 hb
    · exact wp_seq contextModem.mono (activateProfileByCid_told _ _ _ _ _ hv.1) (fun _ _ h => h)

theorem connectLoop_told (config : Option (List String)) (hn : n ≤ w.modem.said) :
    wp contextModem.spec (connectLoop config) (fun ok v => ok = true → Told n v) w := by
  rw [connectLoop]
  refine wp_iterate (fun _ v => n ≤ v.modem.said) hn (fun config v hv => ?_)
  refine wp_seq contextModem.mono
    (Handler.wp_and (said_grows _ v) (connectOnce_told config hv)) (fun r u hu => ?_)
  rw [wp_pure]
  split
  · exact Nat.le_trans hv hu.1
  · exact hu.2

theorem said_told (hn : n ≤ w.modem.said) (hup : w.modem.up = true) :
    Told n { w with modem := w.modem.say } := ⟨Nat.lt_succ_of_le hn,.inl hup⟩

theorem connectModemStack_told (hn : n ≤ w.modem.said) :
    wp contextModem.spec connectModemStack (fun ok v => ok = true → Told n v) w := by
  rw [connectModemStack,Modem.wp_locked]
  intro u hu
  have hnu : n ≤ u.modem.said := (events_drift hu).said ▸ hn
  rw [wp_bind,Modem.wp_ask]
  intro b _
  cases b with
  | false => exact Bool.false_ne_true.elim
  | true =>
    rw [if_pos rfl,Modem.wp_recv]
    intro v r hv hr
    have hd := events_drift hv
    have hnv : n ≤ v.modem.said := Nat.le_trans hnu (Nat.le_of_eq hd.said.symm)
    have hasked : v.modem.asked = .other := hd.asked
    cases r with
    | none => exact Bool.false_ne_true.elim
    | some active =>
      rw [Option.elim_some]
      by_cases ha : active = 0
      · refine skip (Nat.le_trans hnv (next_said (.recv .upsndStatus) v.modem v.driver _))
          (fun ok v hv => ?_)
        rw [wp_ite,wp_ite,if_pos ha]
        split
        · exact skip hv (fun d v hv => skip_either hv (fun config v hv =>
            connectLoop_told config hv))
        · exact Bool.false_ne_true.elim
      · have hup : v.modem.up = true := hr active rfl ha
        have hsaid : contextModem.next (.recv .upsndStatus) v.modem v.driver (some active) =
            v.modem.say := if_pos (decide_eq_true ha)
        rw [hsaid]
        refine wp_seq contextModem.mono (recvOk_told (said_told hnv hup) (fun h => ?_))
          (fun ok x hx => ?_)
        · exact absurd (hasked.symm.trans h) (by decide)
        · rw [wp_ite,wp_ite,if_neg ha]
          split
          · exact fun _ => hx
          · exact Bool.false_ne_true.elim

theorem checkIpAddress_told (hn : n ≤ w.modem.said) :
    wp contextModem.spec checkIpAddress (fun ok v => ok = true → Told n v) w := by
  rw [checkIpAddress,wp_bind,Modem.wp_ask]
  intro b _
  cases b with
  | false => exact Bool.false_ne_true.elim
  | true =>
    rw [if_pos rfl,Modem.wp_recv]
    intro v r hv hr
    have hd := events_drift hv
    have hnv : n ≤ v.modem.said := Nat.le_trans hn (Nat.le_of_eq hd.said.symm)
    have hasked : v.modem.asked = .other := hd.asked
    cases r with
    | none => exact Bool.false_ne_true.elim
    | some ip =>
      rw [Option.elim_some,wp_bind,Modem.wp_modify]
      by_cases hip : ip = noAddress
      · refine wp_seq contextModem.mono (wp_always (Q := fun _ _ => True) (fun _ _ => trivial) _)
          (fun ok x _ => ?_)
        rw [wp_ite]
        split
        · refine wp_seq contextModem.mono (wp_always (Q := fun _ _ => True) (fun _ _ => trivial) _)
            (fun set x _ => ?_)
          rw [wp_ite]
          split
          · exact (Modem.wp_asks rfl _).mpr (fun b hb h => absurd hip (hb h))
          · exact Bool.false_ne_true.elim
        · exact Bool.false_ne_true.elim
      · have hup : v.modem.up = true := hr ip rfl hip
        have hsaid : contextModem.next (.recv .upsndIp) v.modem v.driver (some ip) =
            v.modem.say := if_pos (decide_eq_true hip)
        rw [hsaid]
        have htold : Told n (⟨Driver.onIface (fun i => { i with ip := some ip }) v.driver,
            v.modem.say⟩ : ContextStation) := ⟨Nat.lt_succ_of_le hnv,.inl hup⟩
        refine wp_seq contextModem.mono (recvOk_told htold (fun h => ?_)) (fun ok x hx => ?_)
        · exact absurd (hasked.symm.trans h) (by decide)
        · rw [wp_ite]
          split
          · rw [wp_bind,Modem.wp_asks rfl]
            intro set _
            rw [wp_ite]
            split
            · exact (Modem.wp_asks rfl _).mpr (fun _ _ _ => hx)
            · exact Bool.false_ne_true.elim
          · exact Bool.false_ne_true.elim

theorem getIpAddress_told (hn : n ≤ w.modem.said) :
    wp contextModem.spec getIpAddress (fun ip v => ip ≠ none → Told n v) w := by
  rw [getIpAddress]
  have hask (v : ContextStation) (hv : n ≤ v.modem.said) : wp contextModem.spec (do
      let d ← get
      if d.iface.ip ≠ none then
        modify (Driver.onIface (fun i => { i with ip := some "" }))
        if !(← checkIpAddress) then
          modify (Driver.onIface (fun i => { i with ip := none })) : AtCode Unit)
      (fun _ v => v.driver.iface.ip ≠ none → Told n v) v := by
    rw [wp_bind,Modem.wp_get,wp_ite]
    split
    · rw [wp_bind,Modem.wp_modify]
      refine wp_seq contextModem.mono (checkIpAddress_told (n := n) hv) (fun ok x hx => ?_)
      cases ok with
      | true => exact fun _ => hx rfl
      | false => exact (Modem.wp_modify _ _).mpr (fun h => absurd rfl h)
    · rename_i hip
      exact fun h => absurd h hip
  refine wp_seq contextModem.mono (Q := fun _ v => v.driver.iface.ip ≠ none → Told n v) ?_
    (fun _ v hv => (wp_bind _ _ _ _).mpr ((Modem.wp_get _).mpr hv))
  rw [Modem.wp_locked]
  intro u hu
  refine skip ((events_drift hu).said ▸ hn) (fun d v hv => ?_)
  rw [wp_ite]
  split
  · refine skip hv (fun ok v hv => ?_)
    rw [wp_ite]
    split
    · exact skip hv (fun _ v hv => hask v hv)
    · exact hask v hv
  · exact hask v hv

theorem pendingSimActions_failing (w : ContextStation) :
    wp contextModem.spec pendingSimActions
      (fun error v => w.modem.said ≤ v.modem.said ∧ error ≠ NsapiError.ok) w := by
  have hchange (error : Int) (he : error ≠ NsapiError.ok) (v : ContextStation) :
      wp contextModem.spec (do
        let d ← get
        if d.iface.simPinChangePending then
          let done ← changeSimPin d.iface.simPinChangePendingNewPinValue
          modify (Driver.onIface (fun i => { i with simPinChangePending := false }))
          return if done then error else NsapiError.authFailure
        else return error : AtCode Int) (fun error _ => error ≠ NsapiError.ok) v := by
    refine skip (Nat.zero_le _) (fun d v hv => ?_)
    rw [wp_ite]
    split
    · refine skip hv (fun done v hv => skip hv (fun _ v hv => ?_))
      rw [wp_pure]
      split
      · exact he
      · decide
    · exact he
  refine Handler.wp_and (said_grows _ w) ?_
  rw [pendingSimActions]
  refine skip (Nat.zero_le _) (fun d v hv => ?_)
  rw [wp_ite]
  split
  · refine skip hv (fun done v hv => skip hv (fun _ v hv => ?_))
    exact hchange _ (by split <;> decide) v
  · exact hchange _ (by decide) v

theorem connect_told (w : ContextStation) : wp contextModem.spec connect
    (fun error v => error = NsapiError.ok → Told w.modem.said v) w := by
  have hstack (r : Int × Bool) (hr : r.1 ≠ NsapiError.ok) {v : ContextStation}
      (hv : w.modem.said ≤ v.modem.said) : wp contextModem.spec (do
        if ← (pure r.2 : AtCode Bool).both connectModemStack then return NsapiError.ok
        else return r.1) (fun error v => error = NsapiError.ok → Told w.modem.said v) v := by
    refine wp_seq contextModem.mono (Q := fun ok v => ok = true → Told w.modem.said v) ?_
      (fun ok v hv => ?_)
    · rw [wp_both,wp_pure]
      split
      · exact connectModemStack_told hv
      · exact Bool.false_ne_true.elim
    · cases ok with
      | true => exact fun _ => hv rfl
      | false => exact fun h => absurd h hr
  rw [connect]
  refine skip (Nat.le_refl _) (fun ready v hv => ?_)
  rw [wp_ite]
  split
  · refine wp_seq contextModem.mono (pendingSimActions_failing v) (fun error v hv' => ?_)
    have hv := Nat.le_trans hv hv'.1
    rw [wp_ite]
    split
    · exact skip hv (fun registered v hv => hstack (error, registered) hv'.2 hv)
    · exact hstack (error, false) hv'.2 hv
  · exact hstack (NsapiError.deviceError, false) (by decide) hv

theorem isConnected_told (w : ContextStation) : wp contextModem.spec isConnected
    (fun b v => b = true → Told w.modem.said v) w :=
  wp_seq contextModem.mono (getIpAddress_told (Nat.le_refl _))
    (fun _ _ hv h => hv (of_decide_eq_true h))

theorem deactivate_down (w : ContextStation) :
    wp contextModem.spec (exchange (.upsda 4)) (fun ok v => ok = true → Down v) w := by
  rw [Modem.wp_exchange]
  intro b _
  cases b with
  | false => exact Bool.false_ne_true.elim
  | true =>
    rw [if_pos rfl,Modem.wp_recvOk]
    intro v r hv _ hr
    obtain ⟨d,x⟩ := v
    have ha : x.asked = .deactivate := (events_drift hv).asked
    change Down ⟨d,if r.isSome then x.accept else x⟩
    rw [if_pos hr,Context.accept,ha]
    exact ⟨rfl,rfl⟩

theorem nwkDeregistration_down (hw : Down w) :
    wp contextModem.spec (nwkDeregistration : AtCode Bool) (fun _ => Down) w := by
  rw [nwkDeregistration,Modem.wp_locked]
  intro u hu
  have hdown := (events_drift hu).down hw
  refine wp_seq contextModem.mono (Q := fun _ => Down) ?_ (fun ok v hv => ?_)
  · rw [Modem.wp_exchange]
    intro b _
    cases b with
    | false => exact ⟨hdown.up,hdown.tried⟩
    | true =>
      rw [if_pos rfl,Modem.wp_recvOk]
      intro v r hv _
      have hd := events_drift hv
      have hv := hd.down ⟨hdown.up,hdown.tried⟩
      obtain ⟨d,x⟩ := v
      have ha : x.asked = .other := hd.asked
      change Down ⟨d,if r.isSome then x.accept else x⟩
      rw [Context.accept,ha,ite_self]
      exact hv
  · cases ok with
    | true => exact (wp_bind _ _ _ _).mpr ((Modem.wp_modify _ _).mpr ⟨hv.up,hv.tried⟩)
    | false => exact hv

theorem disconnectModemStack_down (w : ContextStation) : wp contextModem.spec
    disconnectModemStack (fun ok v => ok = true → Down v) w := by
  rw [disconnectModemStack,Modem.wp_locked]
  intro u hu
  refine skip (Nat.zero_le _) (fun ip v hv => ?_)
  rw [wp_ite]
  split
  · refine wp_seq contextModem.mono (deactivate_down v) (fun ok v hv => ?_)
    cases ok with
    | true =>
      rw [wp_ite,if_pos rfl,wp_bind,Modem.wp_inside rfl]
      exact fun _ _ => hv rfl
    | false => exact Bool.false_ne_true.elim
  · exact Bool.false_ne_true.elim

theorem disconnect_down (w : ContextStation) : wp contextModem.spec disconnect
    (fun error v => error = NsapiError.ok → Down v) w := by
  rw [disconnect]
  refine wp_seq contextModem.mono (Q := fun ok v => ok = true → Down v) ?_ (fun ok v hv => ?_)
  · rw [wp_both]
    refine wp_mono contextModem.mono (fun ok v hv => ?_) (disconnectModemStack_down w)
    cases ok with
    | true =>
      exact wp_mono contextModem.mono (fun _ _ h _ => h) (nwkDeregistration_down (hv rfl))
    | false => exact Bool.false_ne_true.elim
  · cases ok with
    | true => exact fun _ => hv rfl
    | false => exact fun h => absurd h (by decide)

theorem connection_reported (w : ContextStation) :
    (∀ v, contextModem.Runs connect w NsapiError.ok v → Told w.modem.said v) ∧
    (∀ v, contextModem.Runs isConnected w true v → Told w.modem.said v) ∧
    ∀ v, contextModem.Runs disconnect w NsapiError.ok v → v.modem.up = false :=
  ⟨fun _ hv => Modem.sound (connect_told w) hv rfl,
    fun _ hv => Modem.sound (isConnected_told w) hv rfl,
    fun _ hv => (Modem.sound (disconnect_down w) hv rfl).up⟩

def serving : Modem.Peer (sig AtInterface) Context where
  send _ _ := true
  recv
    | _, .ok, w => some (some (), w)
    | _, .unnatural, w =>
        some (none, { w with driver := w.driver.onInfo (fun i => { i with regStatusCsd := 1 }) })
    | _, .ati, w => some (some "SARA-U201", w)
    | _, .cpin, w => some (some "READY", w)
    | _, .ccid, w => some (some "8944501312167518236", w)
    | _, .cimi, w => some (some "234500012345678", w)
    | _, .cgsn, w => some (some "357520070000001", w)
    | _, .gsn, w => some (some "357520070000001", w)
    | _, .upsndStatus, w => some (some 0, w)
    | _, _, w => some (none, w)
  ask
    | _, .hw _, _ => some ()
    | _, .enter _, _ => some ()
    | _, _, _ => none

theorem serving_fair : serving.Fair contextModem where
  send _ _ := trivial
  recv := by
    intro β pat w b v h
    cases pat <;> cases h
    case unnatural => exact ⟨.single (.deliver _ _ (.creg 1)),trivial⟩
    case upsndStatus => exact ⟨.refl,fun _ h ha => absurd (Option.some.inj h).symm ha⟩
    case upsndIp => exact ⟨.refl,nofun⟩
    all_goals exact ⟨.refl,trivial⟩
  ask _ e w b h := by
    cases e <;> first | exact trivial | cases h

def offline : ContextStation :=
  ⟨⟨.initial 115200,{ AtInterface.initial with cred := ⟨some "internet",none,none⟩ }⟩,.down⟩

theorem connection_reported_up : ∃ v, contextModem.Runs connect offline NsapiError.ok v ∧
    v.modem.up = true ∧ Told 0 v := by
  have hrun : (connect.run (contextModem.machine.play serving.script) 1 offline).map
      (fun r => (r.1, r.2.modem.up)) = some (NsapiError.ok, true) := by decide +kernel
  obtain ⟨⟨error,v⟩,hr,h⟩ := Option.map_eq_some_iff.mp hrun
  obtain ⟨rfl,hup⟩ := Prod.mk.inj h
  have hruns := serving_fair.runs hr
  exact ⟨v,hruns,hup,(connection_reported offline).1 v hruns⟩

end ContextStation

end UbloxCellular.Gsm
