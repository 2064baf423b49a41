import UbloxCellular.Gsm.Frames
import Mathlib.Data.Fintype.Card

namespace UbloxCellular.Gsm
open Interaction Code

inductive Request where
  | nothing
  | create
  | close (id : Int) (named : Bool)
  | deactivate
  deriving DecidableEq, Repr

def Request.name (r : Request) (id : Int) : Request :=
  match r with
  | .close id' named => .close id' (named || id = id')
  | r => r

-- The open sockets of the modem, how many of each identifier it has closed by itself without a
-- +UUSOCL or +UUPSDD that names it since, and whether the connection has ever gone down; whether an
-- AT+USOCL ever went unanswered for such a socket or an open one, and whether one was ever answered
-- OK although a URC had named its socket since it was sent.
structure Profile where
  opened : Int → Bool
  silent : Int → Nat
  asked : Request
  answer : Option Int
  dropped : Bool
  lapsed : Bool
  misled : Bool

namespace Profile

def up : Profile := ⟨fun _ => false,fun _ => 0,.nothing,none,false,false,false⟩

def fall (x : Profile) : Profile :=
  { x with
    opened := fun _ => false
    silent := fun id => x.silent id + (x.opened id).toNat
    dropped := true }

def lose (x : Profile) (id : Int) : Profile :=
  { x with
    opened := Function.update x.opened id false
    silent := Function.update x.silent id (x.silent id + 1) }

def hear (x : Profile) (id : Int) : Profile :=
  { x with
    silent := Function.update x.silent id (x.silent id - 1)
    asked := x.asked.name id }

def name (x : Profile) : Urc → Profile
  | .uusocl id => x.hear id
  | .uupsdd id => x.hear id
  | _ => x

def refuse (x : Profile) (id : Int) : Profile :=
  { x with asked := .nothing, lapsed := x.lapsed || x.opened id || x.silent id ≠ 0 }

def request (x : Profile) (sent : Bool) : Cmd → Profile
  | .usocr _ _ => { x with asked := .create, answer := none }
  | .usocl id => if sent then { x with asked := .close id false } else x.refuse id
  | .upsda 4 => { x with asked := .deactivate }
  | _ => { x with asked := .nothing }

def accepted (x : Profile) : Profile :=
  match x.asked, x.answer with
  | .create, some id => { x with asked := .nothing, opened := Function.update x.opened id true }
  | .close id named, _ =>
      { x with
        asked := .nothing
        opened := Function.update x.opened id false
        misled := x.misled || named }
  | .deactivate, _ => { x.fall with asked := .nothing }
  | _, _ => { x with asked := .nothing }

def declined (x : Profile) : Profile :=
  match x.asked with
  | .close id _ => x.refuse id
  | _ => { x with asked := .nothing }

theorem accepted_create {x : Profile} {id : Int} (hasked : x.asked = .create)
    (hanswer : x.answer = some id) : x.accepted =
      { x with asked := .nothing, opened := Function.update x.opened id true } := by
  obtain ⟨opened,silent,asked,answer,dropped,lapsed,misled⟩ := x
  obtain rfl : asked = .create := hasked
  obtain rfl : answer = some id := hanswer
  rfl

theorem accepted_close {x : Profile} {id : Int} {named : Bool}
    (hasked : x.asked = .close id named) : x.accepted =
      { x with
        asked := .nothing
        opened := Function.update x.opened id false
        misled := x.misled || named } := by
  rw [accepted,hasked]

theorem declined_close {x : Profile} {id : Int} {named : Bool}
    (hasked : x.asked = .close id named) : x.declined = x.refuse id := by
  rw [declined,hasked]

end Profile

inductive ProfileEvent : Profile → Driver AtInterface → Profile → Driver AtInterface → Prop
  | fall (x : Profile) (d : Driver AtInterface) : ProfileEvent x d x.fall d
  | remoteClose (x : Profile) (d : Driver AtInterface) {id : Int} : x.opened id = true →
      ProfileEvent x d (x.lose id) d
  | deliver (x : Profile) (d : Driver AtInterface) (u : Urc) :
      ProfileEvent x d (x.name u) (u.handle d)

def profileModem : Modem (sig AtInterface) Profile where
  event := ProfileEvent
  allow
    | _, .recv .usocr, x, _, b => ∀ id, b = some id → x.opened id = false
    | _, .recv .ok, x, _, b => ∀ id n, b.isSome → x.asked = .close id n → x.opened id = true
    | _, _, _, _, _ => True
  next
    | _, .send c, x, _, b => x.request b c
    | _, .recv .usocr, x, _, b => { x with answer := b }
    | _, .recv .ok, x, _, b => if b.isSome then x.accepted else x.declined
    | _, _, x, _, _ => x

abbrev ProfileStation := Station (sig AtInterface) Profile

namespace ProfileStation

def handle (w : ProfileStation) (y : Handle) : Int := (w.driver.iface.sockets y).modemHandle

def users (f : Handle → Int) (id : Int) : Nat := (Finset.univ.filter (fun y => f y = id)).card

theorem users_pos (f : Handle → Int) (y : Handle) : 0 < users f (f y) :=
  Finset.card_pos.mpr ⟨y,by simp⟩

theorem users_filled {f g : Handle → Int} {x : Handle} {id : Int}
    (hg : ∀ y, g y = if y = x then id else f y) (i : Int) :
    users g i ≤ users f i + if id = i then 1 else 0 := by
  have hsub : Finset.univ.filter (fun y => g y = i) ⊆
      Finset.univ.filter (fun y => f y = i) ∪ if id = i then {x} else ∅ := by
    intro y hy
    rw [Finset.mem_filter,hg] at hy
    rw [Finset.mem_union,Finset.mem_filter]
    by_cases hyx : y = x
    · rw [if_pos hyx] at hy
      right
      rw [if_pos hy.2]
      exact Finset.mem_singleton.mpr hyx
    · rw [if_neg hyx] at hy
      exact .inl hy
  refine (Finset.card_le_card hsub).trans ((Finset.card_union_le _ _).trans ?_)
  refine Nat.add_le_add_left ?_ _
  split
  · exact (Finset.card_singleton x).le
  · exact Finset.card_empty.le

theorem users_cleared {f g : Handle → Int} {x : Handle} {id : Int}
    (hg : ∀ y, g y = if y = x then socketUnused else f y) (hid : id ≠ socketUnused) :
    users g id = users f id - if f x = id then 1 else 0 := by
  have he : Finset.univ.filter (fun y => g y = id) =
      (Finset.univ.filter (fun y => f y = id)).erase x := by
    ext y
    rw [Finset.mem_erase,Finset.mem_filter,Finset.mem_filter,hg]
    by_cases hy : y = x
    · simp [hy,Ne.symm hid]
    · simp [hy]
  rw [users]
  rw [he]
  split
  · rename_i hx
    exact Finset.card_erase_of_mem (by simp [hx])
  · rename_i hx
    rw [Finset.erase_eq_of_notMem (by simp [hx])]
    exact (Nat.sub_zero _).symm

theorem users_clearFound {s : Sockets} {a id : Int} (hid : id ≠ socketUnused) :
    users (fun y => (s.clearFound a y).modemHandle) id =
      users (fun y => (s y).modemHandle) id - if a = id then 1 else 0 := by
  rw [Sockets.clearFound]
  cases hx : s.findSocket a with
  | none =>
    split
    · rename_i ha
      have hz : users (fun y => (s y).modemHandle) id = 0 :=
        Finset.card_eq_zero.mpr (Finset.filter_eq_empty_iff.mpr (fun y _ hy =>
          Sockets.findSocket_none hx y (hy.trans ha.symm)))
      change users (fun y => (s y).modemHandle) id = _
      omega
    · exact (Nat.sub_zero _).symm
  | some x =>
    have hfound := Sockets.findSocket_handle hx
    rw [← hfound]
    exact users_cleared (fun y => Sockets.clearSocket_handle s x y) hid

def owing (x : Profile) (id : Int) : Nat := x.silent id + (x.opened id).toNat

structure Clean (w : ProfileStation) : Prop where
  lapsed : w.modem.lapsed = false
  misled : w.modem.misled = false

def Owed (w : ProfileStation) : Prop :=
  ∀ id, id ≠ socketUnused → users (handle w) id ≤ owing w.modem id

structure Settled (w : ProfileStation) : Prop where
  asked : ∀ id n, w.modem.asked ≠ .close id n
  owed : Clean w → Owed w

structure Drains (w w' : ProfileStation) : Prop where
  handle : ∀ y, handle w' y = handle w y ∨ handle w' y = socketUnused
  clean : Clean w' → Clean w

theorem Drains.refl (w : ProfileStation) : Drains w w := ⟨fun _ => .inl rfl,id⟩

theorem Drains.trans {u v w : ProfileStation} (h : Drains u v) (k : Drains v w) :
    Drains u w where
  handle y := by
    rcases k.handle y with hk | hk
    · rw [hk]
      exact h.handle y
    · exact .inr hk
  clean := h.clean ∘ k.clean

theorem Owed.lost {w w' : ProfileStation} (h : Owed w) (hh : handle w' = handle w)
    (hm : ∀ id, owing w'.modem id = owing w.modem id) : Owed w' := by
  intro id hid
  rw [hh,hm]
  exact h id hid

theorem fall_owing (x : Profile) (id : Int) : owing x.fall id = owing x id := rfl

theorem lose_owing {x : Profile} {id : Int} (ho : x.opened id = true) (i : Int) :
    owing (x.lose id) i = owing x i := by
  simp only [owing,Profile.lose]
  by_cases hi : i = id
  · rw [hi,ho,Function.update_self,Function.update_self]
    rfl
  · rw [Function.update_of_ne hi,Function.update_of_ne hi]

theorem hear_owing (x : Profile) (a id : Int) :
    owing x id - (if a = id then 1 else 0) ≤ owing (x.hear a) id := by
  simp only [owing,Profile.hear]
  by_cases ha : a = id
  · rw [ha,if_pos rfl,Function.update_self]
    omega
  · rw [if_neg ha,Function.update_of_ne (Ne.symm ha)]
    exact Nat.le_refl _

theorem Owed.heard {w : ProfileStation} (h : Owed w) {a : Int} {d : Driver AtInterface}
    (hd : d.iface.sockets = w.driver.iface.sockets.clearFound a) :
    Owed ⟨d,w.modem.hear a⟩ := by
  intro id hid
  change users (fun y => (d.iface.sockets y).modemHandle) id ≤ _
  rw [hd,users_clearFound hid]
  exact (Nat.sub_le_sub_right (h id hid) _).trans (hear_owing w.modem a id)

theorem name_asked {r : Request} (h : ∀ id n, r ≠ .close id n) (a id : Int) (n : Bool) :
    r.name a ≠ .close id n := by
  cases r with
  | close id' n' => exact absurd rfl (h id' n')
  | _ => exact h id n

theorem hear_drains {w : ProfileStation} {a : Int} {d : Driver AtInterface}
    (hd : d.iface.sockets = w.driver.iface.sockets.clearFound a) :
    Drains w ⟨d,w.modem.hear a⟩ := by
  refine ⟨fun y => ?_,fun hc => ⟨hc.lapsed,hc.misled⟩⟩
  change (d.iface.sockets y).modemHandle = _ ∨ (d.iface.sockets y).modemHandle = _
  rw [hd]
  exact Sockets.clearFound_handle _ _ y

theorem pending_handle (w : ProfileStation) (a n : Int) (m : Profile) :
    handle ⟨w.driver.onSockets (pendingUrc a n),m⟩ = handle w :=
  funext fun y => pendingUrc_handle _ y a n

theorem event_drains {w w' : ProfileStation}
    (he : ProfileEvent w.modem w.driver w'.modem w'.driver) : Drains w w' := by
  obtain ⟨d,m⟩ := w
  obtain ⟨d',m'⟩ := w'
  cases he with
  | fall => exact ⟨fun _ => .inl rfl,fun hc => ⟨hc.lapsed,hc.misled⟩⟩
  | remoteClose _ => exact ⟨fun _ => .inl rfl,fun hc => ⟨hc.lapsed,hc.misled⟩⟩
  | deliver u =>
    cases u with
    | uusocl a => exact @hear_drains ⟨d,m⟩ a _ rfl
    | uupsdd a => exact @hear_drains ⟨d,m⟩ a _ rfl
    | uusord a n =>
      exact ⟨fun y => .inl (congrFun (pending_handle ⟨d,m⟩ a n m) y),fun hc => ⟨hc.lapsed,hc.misled⟩⟩
    | uusorf a n =>
      exact ⟨fun y => .inl (congrFun (pending_handle ⟨d,m⟩ a n m) y),fun hc => ⟨hc.lapsed,hc.misled⟩⟩
    | _ => exact ⟨fun _ => .inl rfl,fun hc => ⟨hc.lapsed,hc.misled⟩⟩

theorem event_owed {w w' : ProfileStation} (h : Owed w)
    (he : ProfileEvent w.modem w.driver w'.modem w'.driver) : Owed w' := by
  obtain ⟨d,m⟩ := w
  obtain ⟨d',m'⟩ := w'
  cases he with
  | fall => exact h.lost rfl (fall_owing m)
  | remoteClose ho => exact h.lost rfl (lose_owing ho)
  | deliver u =>
    cases u with
    | uusocl a => exact h.heard rfl
    | uupsdd a => exact h.heard rfl
    | uusord a n => exact h.lost (pending_handle _ a n m) (fun _ => rfl)
    | uusorf a n => exact h.lost (pending_handle _ a n m) (fun _ => rfl)
    | _ => exact h

theorem event_settled {w w' : ProfileStation} (h : Settled w)
    (he : ProfileEvent w.modem w.driver w'.modem w'.driver) : Settled w' := by
  refine ⟨fun id n => ?_,fun hc => event_owed (h.owed ((event_drains he).clean hc)) he⟩
  have hasked := h.asked
  obtain ⟨d,m⟩ := w
  obtain ⟨d',m'⟩ := w'
  cases he with
  | fall => exact hasked id n
  | remoteClose _ => exact hasked id n
  | deliver u =>
    cases u with
    | uusocl a => exact name_asked hasked a id n
    | uupsdd a => exact name_asked hasked a id n
    | _ => exact hasked id n

theorem events_drains {w w' : ProfileStation} (he : profileModem.Events w w') : Drains w w' :=
  Modem.events_keep (P := Drains w) he (.refl w) (fun _ _ hu huv => hu.trans (event_drains huv))

theorem events_settled {w w' : ProfileStation} (h : Settled w) (he : profileModem.Events w w') :
    Settled w' := Modem.events_keep he h (fun _ _ => event_settled)

structure Idles (w w' : ProfileStation) : Prop where
  drains : Drains w w'
  settled : Settled w → Settled w'

theorem Settled.asks {w : ProfileStation} (h : Settled w) {r : Request}
    (hr : ∀ id n, r ≠ .close id n) {a : Option Int} :
    Settled { w with modem := { w.modem with asked := r, answer := a } } :=
  ⟨hr,fun hc => h.owed ⟨hc.lapsed,hc.misled⟩⟩

theorem same_drains {w : ProfileStation} {m : Profile} (hl : m.lapsed = w.modem.lapsed)
    (hm : m.misled = w.modem.misled) : Drains w { w with modem := m } :=
  ⟨fun _ => .inl rfl,fun hc => ⟨hl.symm.trans hc.lapsed,hm.symm.trans hc.misled⟩⟩

theorem request_idles (w : ProfileStation) {c : Cmd} (hc : ∀ id, c ≠ .usocl id) (b : Bool) :
    Idles w { w with modem := w.modem.request b c } := by
  unfold Profile.request
  split
  · exact ⟨same_drains rfl rfl,fun h => h.asks (by rintro _ _ ⟨⟩)⟩
  · exact absurd rfl (hc _)
  · exact ⟨same_drains rfl rfl,fun h => h.asks (by rintro _ _ ⟨⟩)⟩
  · exact ⟨same_drains rfl rfl,fun h => h.asks (by rintro _ _ ⟨⟩)⟩

theorem Owed.opened {w : ProfileStation} (h : Owed w) (id : Int) {r : Request} :
    Owed { w with modem := { w.modem with
      asked := r, opened := Function.update w.modem.opened id true } } := by
  intro i hi
  refine (h i hi).trans (Nat.add_le_add_left ?_ _)
  change (w.modem.opened i).toNat ≤ (Function.update w.modem.opened id true i).toNat
  by_cases hid : i = id
  · rw [hid,Function.update_self]
    exact Bool.toNat_le _
  · rw [Function.update_of_ne hid]

theorem heard_idles (w : ProfileStation) (hw : ∀ id n, w.modem.asked ≠ .close id n)
    (b : Option Unit) :
    Idles w { w with modem := profileModem.next (.recv .ok) w.modem w.driver b } := by
  cases b with
  | none =>
    have hm : profileModem.next (.recv .ok) w.modem w.driver none =
        { w.modem with asked := .nothing } := by
      change w.modem.declined = _
      unfold Profile.declined
      split
      · exact absurd ‹_› (hw _ _)
      · rfl
    rw [hm]
    exact ⟨same_drains rfl rfl,fun h => h.asks (by rintro _ _ ⟨⟩)⟩
  | some _ =>
    change Idles w { w with modem := w.modem.accepted }
    unfold Profile.accepted
    split
    · exact ⟨same_drains rfl rfl,fun h => ⟨(by rintro _ _ ⟨⟩),fun hc => (h.owed ⟨hc.lapsed,hc.misled⟩).opened _⟩⟩
    · exact absurd ‹_› (hw _ _)
    · exact ⟨same_drains rfl rfl,fun h => ⟨(by rintro _ _ ⟨⟩),fun hc =>
        (h.owed ⟨hc.lapsed,hc.misled⟩).lost rfl (fall_owing w.modem)⟩⟩
    · exact ⟨same_drains rfl rfl,fun h => h.asks (by rintro _ _ ⟨⟩)⟩

theorem idles_same (w : ProfileStation) {m : Profile} (hm : m = w.modem) :
    Idles w { w with modem := m } := by
  rw [hm]
  exact ⟨.refl w,id⟩

theorem driver_idles (w : ProfileStation) {d : Driver AtInterface}
    (hd : d.iface.sockets = w.driver.iface.sockets) : Idles w { w with driver := d } := by
  have hh : handle { w with driver := d } = handle w :=
    funext fun y => congrArg (fun s : Sockets => (s y).modemHandle) hd
  exact ⟨⟨fun y => .inl (congrFun hh y),fun hc => ⟨hc.lapsed,hc.misled⟩⟩,
    fun h => ⟨h.asked,fun hc => (h.owed ⟨hc.lapsed,hc.misled⟩).lost hh (fun _ => rfl)⟩⟩

theorem recv_idles {β : Type} (p : Pat β) {w : ProfileStation} (b : Option β) (hw : Settled w) :
    Idles w { w with modem := profileModem.next (.recv p) w.modem w.driver b } := by
  cases p with
  | ok => exact heard_idles w hw.asked b
  | usocr => exact ⟨same_drains rfl rfl,fun h => h.asks h.asked⟩
  | _ => exact idles_same w rfl

def idling : profileModem.Kept where
  pre := Settled
  rel := Idles
  refl w := idles_same w rfl
  trans _ _ _ h k := ⟨h.drains.trans k.drains,k.settled ∘ h.settled⟩
  keep _ _ h hw := h.settled hw
  event _ _ _ he := ⟨event_drains he,fun h => event_settled h he⟩

theorem keeps_request {c : Cmd} (hc : ∀ id, c ≠ .usocl id) :
    idling.frame.Keeps (send c : AtCode Bool) :=
  Modem.Kept.keeps_act rfl (fun w b _ _ => request_idles w hc b)

instance {β : Type} (p : Pat β) : idling.frame.Keeps (recv p : AtCode (Option β)) :=
  Modem.Kept.keeps_act rfl (fun _ b hw _ => recv_idles p b hw)

instance : Ordinary idling.frame := by
  apply ordinary_kept
  · intro β e w b he hw _
    cases e with
    | recv p => exact recv_idles p b hw
    | send c => cases he
    | _ => exact idles_same w rfl
  · intro c w b hc _ _
    exact request_idles w (by rintro _ rfl; cases hc) b
  · intro h w b _ _ _
    exact idles_same w rfl
  · intro f w _
    exact driver_idles w rfl

section Keeps

instance keeps_upsnd (tag : Nat) : idling.frame.Keeps (send (.upsnd tag) : AtCode Bool) :=
  keeps_request (by rintro _ ⟨⟩)
instance keeps_upsda (action : Nat) : idling.frame.Keeps (send (.upsda action) : AtCode Bool) :=
  keeps_request (by rintro _ ⟨⟩)
instance keeps_malloc (use : Buffer) (size : Nat) :
    idling.frame.Keeps (act (.malloc use size) : AtCode Bool) :=
  Modem.Kept.keeps_still rfl (fun _ _ _ => rfl)
instance keeps_setIpAddress (ip : String) :
    idling.frame.Keeps (act (.setIpAddress ip) : AtCode Bool) :=
  Modem.Kept.keeps_still rfl (fun _ _ _ => rfl)
instance keeps_addressNonzero (ip : String) :
    idling.frame.Keeps (act (.addressNonzero ip) : AtCode Bool) :=
  Modem.Kept.keeps_still rfl (fun _ _ _ => rfl)
instance keeps_connectionStatusCb : idling.frame.Keeps (act .connectionStatusCb : AtCode Unit) :=
  Modem.Kept.keeps_still rfl (fun _ _ _ => rfl)

instance (f : AtInterface → Option String) : idling.frame.Keeps
    (modify (Driver.onIface (fun i => { i with ip := f i }))) :=
  Modem.Kept.keeps_modify (fun w _ => driver_idles w rfl)

instance : idling.frame.Keeps checkIpAddress := by
  simp only [checkIpAddress]
  infer_instance

set_option synthInstance.maxSize 8192 in
instance : idling.frame.Keeps getIpAddress := by
  simp only [getIpAddress]
  infer_instance

instance : idling.frame.Keeps disconnectModemStack := by
  simp only [disconnectModemStack]
  infer_instance

instance : idling.frame.Keeps nwkDeregistration := by
  simp only [nwkDeregistration]
  infer_instance

instance : idling.frame.Keeps Gsm.disconnect := by
  simp only [Gsm.disconnect]
  infer_instance

end Keeps

structure Held (held : List Handle) (w : ProfileStation) : Prop where
  settled : Settled w
  held : Clean w → ∀ y, handle w y ≠ socketUnused → y ∈ held

theorem Held.idles {held : List Handle} {u v : ProfileStation} (h : Held held u)
    (k : Idles u v) : Held held v := by
  refine ⟨k.settled h.settled,fun hc y hy => h.held (k.drains.clean hc) y ?_⟩
  rwa [← (k.drains.handle y).resolve_right hy]

theorem Held.events {held : List Handle} {u v : ProfileStation} (h : Held held u)
    (k : profileModem.Events u v) : Held held v :=
  h.idles ⟨events_drains k,fun hs => events_settled hs k⟩

theorem held_run {α : Type} {p : AtCode α} [hp : idling.frame.Keeps p] {held : List Handle}
    {w : ProfileStation} (hw : Held held w) :
    wp profileModem.spec p (fun _ => Held held) w :=
  wp_mono profileModem.mono (fun _ _ h => hw.idles h) (hp.run w hw.settled)

theorem events_answer {u v : ProfileStation} (h : profileModem.Events u v) :
    v.modem.answer = u.modem.answer := by
  refine Modem.events_keep (P := fun v => v.modem.answer = u.modem.answer) h rfl
    (fun s t hs hst => ?_)
  obtain ⟨d,m⟩ := s
  obtain ⟨d',m'⟩ := t
  cases hst with
  | deliver r => cases r <;> exact hs
  | _ => exact hs

theorem events_create {u v : ProfileStation} (hu : u.modem.asked = .create)
    (h : profileModem.Events u v) : v.modem.asked = .create := by
  refine Modem.events_keep (P := fun v => v.modem.asked = .create) h hu (fun s t hs hst => ?_)
  obtain ⟨d,m⟩ := s
  obtain ⟨d',m'⟩ := t
  have hs : m.asked = .create := hs
  cases hst with
  | deliver r =>
    cases r with
    | uusocl a => exact congrArg (fun r : Request => r.name a) hs
    | uupsdd a => exact congrArg (fun r : Request => r.name a) hs
    | _ => exact hs
  | _ => exact hs

theorem events_free {u v : ProfileStation} {id : Int} (hu : u.modem.opened id = false)
    (h : profileModem.Events u v) : v.modem.opened id = false := by
  refine Modem.events_keep (P := fun v => v.modem.opened id = false) h hu (fun s t hs hst => ?_)
  obtain ⟨d,m⟩ := s
  obtain ⟨d',m'⟩ := t
  cases hst with
  | fall => rfl
  | @remoteClose a _ =>
    by_cases ha : id = a
    · rw [ha]
      exact Function.update_self ..
    · exact (Function.update_of_ne ha ..).trans hs
  | deliver r => cases r <;> exact hs

theorem Held.granted {held : List Handle} {u : ProfileStation} {x : Handle} {id : Int}
    (h : Held held u) (hfree : u.modem.opened id = false) :
    Held (x :: held) ⟨u.driver.onSockets (fun s => Function.update (s.clearSocket x) x
        { SockCtrl.cleared with modemHandle := id }),
      { u.modem with
        asked := .nothing, opened := Function.update u.modem.opened id true }⟩ := by
  have hh : ∀ y, (Function.update (u.driver.iface.sockets.clearSocket x) x
      { SockCtrl.cleared with modemHandle := id } y).modemHandle =
      if y = x then id else handle u y := by
    intro y
    rw [Sockets.clearSocket,Function.update_idem]
    by_cases hy : y = x
    · rw [hy,Function.update_self,if_pos rfl]
    · rw [Function.update_of_ne hy,if_neg hy]
      rfl
  refine ⟨⟨(by rintro _ _ ⟨⟩),fun hc i hi => ?_⟩,fun hc y hy => ?_⟩
  · have hu := h.settled.owed ⟨hc.lapsed,hc.misled⟩ i hi
    refine (users_filled hh i).trans ?_
    change _ ≤ u.modem.silent i + (Function.update u.modem.opened id true i).toNat
    by_cases hid : id = i
    · subst hid
      rw [owing,hfree] at hu
      rw [if_pos rfl,Function.update_self]
      exact Nat.add_le_add_right hu 1
    · rw [if_neg hid,Function.update_of_ne (Ne.symm hid)]
      exact hu
  · have hy' := (hh y).symm.trans_ne hy
    by_cases hyx : y = x
    · exact List.mem_cons.mpr (.inl hyx)
    · rw [if_neg hyx] at hy'
      exact List.mem_cons_of_mem x (h.held ⟨hc.lapsed,hc.misled⟩ y hy')

theorem openReply_held {held : List Handle} {w : ProfileStation} (x : Handle)
    (hw : Held held w) (hasked : w.modem.asked = .create) :
    wp profileModem.spec (openReply x) (fun r => Held (r.2.toList ++ held)) w := by
  simp only [openReply,wp_bind,Modem.wp_recv,Modem.wp_recvOk,wp_elim,wp_ite,Modem.wp_modify,
    wp_pure]
  intro v r hv hfree
  have hlv : Held held { v with modem := { v.modem with answer := r } } :=
    (hw.events hv).idles (recv_idles .usocr r (hw.events hv).settled)
  have hcreate := events_create hasked hv
  have hwait : ({ v with modem := { v.modem with answer := r } } : ProfileStation).modem.asked =
      .create := hcreate
  cases r with
  | none => exact hlv
  | some id =>
    rw [Option.elim_some]
    split
    · intro u ok hu _
      have hlu := hlv.events hu
      cases ok with
      | none => exact hlu.idles (heard_idles u hlu.settled.asked none)
      | some _ =>
        have hopen : ({ v with modem := { v.modem with answer := some id } } :
            ProfileStation).modem.opened id = false := hfree id rfl
        change Held (x :: held) ⟨_,u.modem.accepted⟩
        rw [Profile.accepted_create (events_create hwait hu) (events_answer hu)]
        exact hlu.granted (events_free hopen hu)
    · exact hlv

theorem openWith_held {held : List Handle} {w : ProfileStation} (x : Handle) (proto : Int)
    (hw : Held held w) :
    wp profileModem.spec (openWith x proto) (fun r => Held (r.2.toList ++ held)) w := by
  simp only [openWith,wp_bind,Modem.wp_send,wp_ite,wp_pure]
  intro b _
  have hs := hw.idles (request_idles w (c := .usocr proto none) (by rintro _ ⟨⟩) b)
  split
  · exact openReply_held x hs rfl
  · exact hs

theorem socketOpen_held {held : List Handle} {w : ProfileStation} (proto : Protocol)
    (hw : Held held w) :
    wp profileModem.spec (Gsm.socketOpen proto) (fun r => Held (r.2.toList ++ held)) w := by
  simp only [Gsm.socketOpen,Modem.wp_locked,wp_bind,wp_get,wp_elim,wp_pure]
  intro v hv
  have hlv := hw.events hv
  cases v.driver.iface.sockets.findSocket socketUnused with
  | none => exact hlv
  | some x =>
    rw [Option.elim_some]
    cases proto with
    | udp => exact openWith_held x 17 hlv
    | tcp => exact openWith_held x 6 hlv
    | other => exact hlv

structure Closing (held : List Handle) (x : Handle) (id : Int) (w : ProfileStation) : Prop where
  asked : ∃ n, w.modem.asked = .close id n ∧ (n = false → handle w x = id)
  slot : handle w x = id ∨ handle w x = socketUnused
  owed : Clean w → Owed w
  held : Clean w → ∀ y, handle w y ≠ socketUnused → y ∈ held

theorem event_asked {id : Int} {x : Handle} {u v : ProfileStation}
    (h : ∃ n, u.modem.asked = .close id n ∧ (n = false → handle u x = id))
    (he : ProfileEvent u.modem u.driver v.modem v.driver) :
    ∃ n, v.modem.asked = .close id n ∧ (n = false → handle v x = id) := by
  obtain ⟨n,hasked,hslot⟩ := h
  obtain ⟨d,m⟩ := u
  obtain ⟨d',m'⟩ := v
  have hasked : m.asked = .close id n := hasked
  have hname : ∀ a, (m.hear a).asked = .close id (n || a = id) := by
    intro a
    change m.asked.name a = _
    rw [hasked]
    rfl
  have hclear : ∀ a, (n || decide (a = id)) = false →
      (d.iface.sockets.clearFound a x).modemHandle = id := by
    intro a ha
    obtain ⟨hn,ha⟩ := Bool.or_eq_false_iff.mp ha
    have hx : (d.iface.sockets x).modemHandle = id := hslot hn
    rw [Sockets.clearFound]
    cases hf : d.iface.sockets.findSocket a with
    | none => exact hx
    | some y =>
      have hyx : x ≠ y := by
        rintro rfl
        exact of_decide_eq_false ha ((Sockets.findSocket_handle hf).symm.trans hx)
      rw [Option.elim_some,Sockets.clearSocket_handle,if_neg hyx]
      exact hx
  cases he with
  | fall => exact ⟨n,hasked,hslot⟩
  | remoteClose _ => exact ⟨n,hasked,hslot⟩
  | deliver r =>
    cases r with
    | uusocl a => exact ⟨_,hname a,hclear a⟩
    | uupsdd a => exact ⟨_,hname a,hclear a⟩
    | uusord a k =>
      exact ⟨n,hasked,fun hn => (congrFun (pending_handle ⟨d,m⟩ a k m) x).trans (hslot hn)⟩
    | uusorf a k =>
      exact ⟨n,hasked,fun hn => (congrFun (pending_handle ⟨d,m⟩ a k m) x).trans (hslot hn)⟩
    | _ => exact ⟨n,hasked,hslot⟩

theorem Closing.event {held : List Handle} {x : Handle} {id : Int} {u v : ProfileStation}
    (h : Closing held x id u) (he : ProfileEvent u.modem u.driver v.modem v.driver) :
    Closing held x id v := by
  have hd := event_drains he
  refine ⟨event_asked h.asked he,?_,fun hc => event_owed (h.owed (hd.clean hc)) he,
    fun hc y hy => h.held (hd.clean hc) y ?_⟩
  · rcases hd.handle x with hx | hx
    · rw [hx]
      exact h.slot
    · exact .inr hx
  · rwa [← (hd.handle y).resolve_right hy]

theorem Closing.events {held : List Handle} {x : Handle} {id : Int} {u v : ProfileStation}
    (h : Closing held x id u) (he : profileModem.Events u v) : Closing held x id v :=
  Modem.events_keep he h (fun _ _ hs => hs.event)

theorem refused_held {held : List Handle} {x : Handle} {id : Int} {w : ProfileStation}
    (hslot : handle w x = id ∨ handle w x = socketUnused) (ho : Clean w → Owed w)
    (hh : Clean w → ∀ y, handle w y ≠ socketUnused → y ∈ held) :
    Held (held.erase x) { w with modem := w.modem.refuse id } := by
  have hclean : Clean { w with modem := w.modem.refuse id } →
      Clean w ∧ w.modem.opened id = false ∧ w.modem.silent id = 0 := by
    intro hc
    have hl : (w.modem.lapsed || w.modem.opened id || decide (w.modem.silent id ≠ 0)) = false :=
      hc.lapsed
    rw [Bool.or_eq_false_iff,Bool.or_eq_false_iff] at hl
    exact ⟨⟨hl.1.1,hc.misled⟩,hl.1.2,not_not.mp (of_decide_eq_false hl.2)⟩
  refine ⟨⟨(by rintro _ _ ⟨⟩),fun hc => (ho (hclean hc).1).lost rfl (fun _ => rfl)⟩,
    fun hc y hy => ?_⟩
  obtain ⟨hc,hopen,hsilent⟩ := hclean hc
  have hyx : y ≠ x := by
    rintro rfl
    have hid : handle w y = id := hslot.resolve_right hy
    have hpos := users_pos (handle w) y
    have hle := ho hc (handle w y) hy
    rw [hid,owing,hopen,hsilent] at hle
    rw [hid] at hpos
    exact absurd (hpos.trans_le hle) (by decide)
  exact (List.mem_erase_of_ne hyx).mpr (hh hc y hy)

theorem Closing.done {held : List Handle} {x : Handle} {id : Int} {u : ProfileStation}
    (h : Closing held x id u) : Held (held.erase x)
      ⟨u.driver.onSockets (fun s => s.clearSocket x),u.modem.accepted⟩ := by
  obtain ⟨n,hasked,hslot⟩ := h.asked
  rw [Profile.accepted_close hasked]
  have hh : ∀ y, (u.driver.iface.sockets.clearSocket x y).modemHandle =
      if y = x then socketUnused else handle u y :=
    fun y => Sockets.clearSocket_handle u.driver.iface.sockets x y
  refine ⟨⟨(by rintro _ _ ⟨⟩),fun hc i hi => ?_⟩,fun hc y hy => ?_⟩
  · obtain ⟨hm,hn⟩ := Bool.or_eq_false_iff.mp hc.misled
    have hu := h.owed ⟨hc.lapsed,hm⟩ i hi
    have hx := hslot hn
    change users (fun y => (u.driver.iface.sockets.clearSocket x y).modemHandle) i ≤
      u.modem.silent i + (Function.update u.modem.opened id false i).toNat
    rw [users_cleared hh hi,hx]
    rw [owing] at hu
    by_cases hid : id = i
    · rw [if_pos hid,← hid,Function.update_self]
      have hle := Bool.toNat_le (u.modem.opened i)
      rw [hid]
      exact (Nat.sub_le_sub_right hu 1).trans (by omega)
    · rw [if_neg hid,Function.update_of_ne (Ne.symm hid)]
      exact hu
  · obtain ⟨hm,-⟩ := Bool.or_eq_false_iff.mp hc.misled
    have hy' := (hh y).symm.trans_ne hy
    by_cases hyx : y = x
    · rw [if_pos hyx] at hy'
      exact absurd rfl hy'
    · rw [if_neg hyx] at hy'
      exact (List.mem_erase_of_ne hyx).mpr (h.held ⟨hc.lapsed,hm⟩ y hy')

theorem socketClose_held {held : List Handle} {w : ProfileStation} (x : Handle)
    (hw : Held held w) :
    wp profileModem.spec (Gsm.socketClose x) (fun _ => Held (held.erase x)) w := by
  simp only [Gsm.socketClose,closeExchange,Modem.wp_locked,wp_bind,wp_get,Modem.wp_exchange,
    Modem.wp_recvOk,wp_ite,Modem.wp_modify,wp_pure]
  intro v hv b _
  have hlv := hw.events hv
  cases b with
  | false => exact refused_held (.inl rfl) hlv.settled.owed hlv.held
  | true =>
    have hask : Closing held x (handle v x)
        { v with modem := { v.modem with asked := .close (handle v x) false } } :=
      ⟨⟨false,rfl,fun _ => rfl⟩,.inl rfl,fun hc => hlv.settled.owed ⟨hc.lapsed,hc.misled⟩,
        fun hc => hlv.held ⟨hc.lapsed,hc.misled⟩⟩
    intro u ok hu _
    have hcu := hask.events hu
    cases ok with
    | none =>
      obtain ⟨n,hasked,-⟩ := hcu.asked
      change Held (held.erase x) ⟨u.driver,u.modem.declined⟩
      rw [Profile.declined_close hasked]
      exact refused_held hcu.slot hcu.owed hcu.held
    | some _ => exact hcu.done

-- The second index is what the application still holds.
inductive Session (start : ProfileStation) : ProfileStation → List Handle → Prop
  | start : Session start start []
  | opened {w w' : ProfileStation} {held : List Handle} {r : Int × Option Handle}
      (proto : Protocol) : Session start w held →
      profileModem.Runs (Gsm.socketOpen proto) w r w' → Session start w' (r.2.toList ++ held)
  | closed {w w' : ProfileStation} {held : List Handle} {r : Int} {x : Handle} :
      Session start w held → x ∈ held → profileModem.Runs (Gsm.socketClose x) w r w' →
      Session start w' (held.erase x)
  | disconnected {w w' : ProfileStation} {held : List Handle} {r : Int} : Session start w held →
      profileModem.Runs Gsm.disconnect w r w' → Session start w' held
  | event {w w' : ProfileStation} {held : List Handle} : Session start w held →
      ProfileEvent w.modem w.driver w'.modem w'.driver → Session start w' held

def start (baud : Int) : ProfileStation := ⟨⟨.initial baud,.initial⟩,.up⟩

theorem start_held (baud : Int) : Held [] (start baud) := by
  refine ⟨⟨(by rintro _ _ ⟨⟩),fun _ id hid => ?_⟩,fun _ _ h => absurd rfl h⟩
  have hnone : users (handle (start baud)) id = 0 :=
    Finset.card_eq_zero.mpr (Finset.filter_eq_empty_iff.mpr (fun _ _ h => hid h.symm))
  rw [hnone]
  exact Nat.zero_le _

theorem session_held {baud : Int} {w : ProfileStation} {held : List Handle}
    (h : Session (start baud) w held) : Held held w := by
  induction h with
  | start => exact start_held baud
  | @opened w w' held r proto _ hr ih =>
    exact Modem.sound (Q := fun r => Held (r.2.toList ++ held)) (socketOpen_held proto ih) hr
  | @closed w w' held r x _ _ hr ih =>
    exact Modem.sound (Q := fun _ => Held (held.erase x)) (socketClose_held x ih) hr
  | @disconnected w w' held r _ hr ih =>
    exact Modem.sound (Q := fun _ => Held held) (held_run ih) hr
  | event _ he ih => exact ih.events (.single he)

theorem slots_recovered {baud : Int} {w : ProfileStation} {held : List Handle}
    (h : Session (start baud) w held) (hl : w.modem.lapsed = false)
    (hm : w.modem.misled = false) : ∀ y, y ∉ held → handle w y = socketUnused := by
  intro y hy
  by_contra hused
  exact hy ((session_held h).held ⟨hl,hm⟩ y hused)

def refuses (x : Profile) : Bool :=
  match x.asked with
  | .close id _ => !x.opened id
  | _ => false

def lowest (x : Profile) : Int := if x.opened 0 then 1 else 0

def obliging : Modem.Peer (sig AtInterface) Profile where
  send _ _ := true
  recv
    | _, .ok, w => some (if refuses w.modem then none else some (), w)
    | _, .usocr, w =>
        if w.modem.opened (lowest w.modem) = false then some (some (lowest w.modem), w) else none
    | _, .upsndIp, w => some (some "10.0.0.1", w)
    | _, _, _ => none
  ask
    | _, .malloc _ _, _ => some true
    | _, .setIpAddress _, _ => some true
    | _, .addressNonzero _, _ => some true
    | _, .connectionStatusCb, _ => some ()
    | _, _, _ => none

theorem obliging_fair : obliging.Fair profileModem where
  send _ _ := trivial
  recv := by
    intro β p w b v h
    cases p
    case ok =>
      cases h
      refine ⟨.refl,fun id n hb hasked => ?_⟩
      cases ho : w.modem.opened id with
      | true => rfl
      | false =>
        have hr : refuses w.modem = true := by simp [refuses,hasked,ho]
        rw [if_pos hr] at hb
        cases hb
    case usocr =>
      obtain ⟨ho,hs⟩ := Option.ite_none_right_eq_some.mp h
      cases hs
      exact ⟨.refl,fun id hid => Option.some.inj hid ▸ ho⟩
    case upsndIp => cases h; exact ⟨.refl,trivial⟩
    all_goals cases h
  ask := by
    intro β e w b h
    cases e <;> trivial

inductive Deed where
  | socketOpen
  | socketClose (x : Handle)
  | disconnect
  | hear (u : Urc)

def played : List Deed → ProfileStation × List Handle → Option (ProfileStation × List Handle)
  | [], s => some s
  | .socketOpen :: l, s =>
    ((Gsm.socketOpen .udp).run (profileModem.machine.play obliging.script) 0 s.1).bind
      (fun a => played l (a.2, a.1.2.toList ++ s.2))
  | .socketClose x :: l, s =>
    if x ∈ s.2 then ((Gsm.socketClose x).run (profileModem.machine.play obliging.script) 0 s.1).bind
      (fun a => played l (a.2, s.2.erase x)) else none
  | .disconnect :: l, s =>
    (Gsm.disconnect.run (profileModem.machine.play obliging.script) 0 s.1).bind
      (fun a => played l (a.2, s.2))
  | .hear u :: l, s => played l (⟨u.handle s.1.driver,s.1.modem.name u⟩, s.2)

theorem played_session {l : List Deed} {start : ProfileStation}
    {s t : ProfileStation × List Handle} (hs : Session start s.1 s.2) (hp : played l s = some t) :
    Session start t.1 t.2 := by
  induction l generalizing s with
  | nil =>
    obtain rfl : s = t := Option.some.inj hp
    exact hs
  | cons a l ih =>
    cases a with
    | socketOpen =>
      obtain ⟨a,ha,hp⟩ := Option.bind_eq_some_iff.mp hp
      exact @ih (a.2, a.1.2.toList ++ s.2) (.opened .udp hs (obliging_fair.runs ha)) hp
    | socketClose x =>
      obtain ⟨hx,hp⟩ := Option.ite_none_right_eq_some.mp hp
      obtain ⟨a,ha,hp⟩ := Option.bind_eq_some_iff.mp hp
      exact @ih (a.2, s.2.erase x) (.closed hs hx (obliging_fair.runs ha)) hp
    | disconnect =>
      obtain ⟨a,ha,hp⟩ := Option.bind_eq_some_iff.mp hp
      exact @ih (a.2, s.2) (.disconnected hs (obliging_fair.runs ha)) hp
    | hear u =>
      exact @ih (⟨u.handle s.1.driver,s.1.modem.name u⟩, s.2)
        (.event hs (.deliver s.1.modem s.1.driver u)) hp

def recovering : List Deed :=
  [.socketOpen,.socketOpen,.disconnect,.hear (.uupsdd 0),.socketClose 0,.socketOpen,
    .hear (.uusocl 1),.socketClose 1,.socketClose 0]

theorem slots_recovered_down : ∃ w : ProfileStation, Session (start 115200) w [] ∧
    played recovering (start 115200, []) = some (w, []) ∧ w.modem.dropped = true ∧
    ∀ y, y ∉ ([] : List Handle) → handle w y = socketUnused := by
  have hrun : (played recovering (start 115200, [])).map (fun s =>
      (s.2, s.1.modem.dropped, s.1.modem.lapsed, s.1.modem.misled)) =
      some ([], true, false, false) := by decide +kernel
  obtain ⟨⟨w,held⟩,hw,he⟩ := Option.map_eq_some_iff.mp hrun
  simp only [Prod.mk.injEq] at he
  obtain ⟨rfl,hdropped,hlapsed,hmisled⟩ := he
  have hs : Session (start 115200) w [] := played_session .start hw
  exact ⟨w,hs,hw,hdropped,slots_recovered hs hlapsed hmisled⟩

theorem slots_leak : ¬ ∀ w : ProfileStation, Session (start 115200) w [] →
    w.modem.dropped = true → ∀ y, handle w y = socketUnused := by
  intro hall
  have hrun : (played [.socketOpen,.disconnect,.socketClose 0] (start 115200, [])).map (fun s =>
      (s.2, s.1.modem.dropped, handle s.1 0)) = some ([], true, 0) := by decide +kernel
  obtain ⟨⟨w,held⟩,hw,he⟩ := Option.map_eq_some_iff.mp hrun
  simp only [Prod.mk.injEq] at he
  obtain ⟨rfl,hdropped,hhandle⟩ := he
  have hzero := hall w (played_session .start hw) hdropped 0
  rw [hhandle] at hzero
  cases hzero

end ProfileStation

end UbloxCellular.Gsm
