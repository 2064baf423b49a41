import UbloxCellular.Gsm.Frames

namespace UbloxCellular.Gsm
open Interaction Code

-- The application's side of the table: who holds which handle and who is at it, the handles whose
-- slot was cleared while they were held (by a +UUSOCL, or by a bind that has not reopened its
-- socket), and whether a command has ever named a modem socket that was opened for somebody else.
structure Ledger where
  serial : Nat
  actor : Nat
  acting : List (Handle × Nat)
  held : List (Handle × Nat)
  vacated : List (Handle × Nat)
  exposed : Bool
  overtaken : Bool
  stolen : Bool
  crossed : Bool
  deriving DecidableEq, Repr

namespace Ledger

def empty : Ledger := ⟨0,0,[],[],[],false,false,false,false⟩

def address (l : Ledger) (owner : Option Nat) : Ledger :=
  { l with crossed := l.crossed || owner.any (fun n => n ≠ l.actor) }

def expose (l : Ledger) : Ledger := { l with exposed := !l.vacated.isEmpty }

def vacate (l : Ledger) : Ledger := { l with vacated := l.acting ++ l.vacated }

def lose (l : Ledger) (x : Option Handle) : Ledger :=
  { l with vacated := l.held.filter (fun p => x = some p.1) ++ l.vacated }

def created (l : Ledger) (s : Sockets) (bound : Bool) (closed id : Int) : Ledger :=
  { l with
    overtaken := l.overtaken || !bound && l.exposed
    stolen := l.stolen || l.held.any (fun p => (s p.1).modemHandle = id)
    vacated := if bound && closed ≠ socketUnused then l.vacated.filter (fun p => p ∉ l.acting)
      else l.vacated }

end Ledger

inductive Asked where
  | nothing
  | create (bound : Bool)
  | close (id : Int)
  deriving DecidableEq, Repr

structure Net where
  owner : Int → Option Nat
  queue : List Int
  asked : Asked
  answer : Option Int
  closed : Int
  reused : Bool
  moved : Bool
  ledger : Ledger

namespace Net

def empty : Net := ⟨fun _ => none,[],.nothing,none,socketUnused,false,false,.empty⟩

def request (x : Net) : Cmd → Net
  | .usocr _ none => { x with asked := .create false, answer := none, ledger := x.ledger.expose }
  | .usocr _ (some _) => { x with asked := .create true, answer := none }
  | .usocl id => { x with asked := .close id, ledger := x.ledger.address (x.owner id) }
  | .usoctl id => { x with asked := .nothing, ledger := x.ledger.address (x.owner id) }
  | _ => { x with asked := .nothing }

def create (x : Net) (s : Sockets) (bound : Bool) (id : Int) : Net :=
  { x with
    asked := .nothing
    owner := Function.update x.owner id (some x.ledger.actor)
    reused := x.reused || (!bound && decide (∃ y, (s y).modemHandle = id))
    moved := x.moved ||
      (bound && decide (id ≠ x.closed ∧ x.closed ≠ socketUnused ∧ x.closed ∉ x.queue))
    ledger := x.ledger.created s bound x.closed id }

def close (x : Net) (id : Int) : Net :=
  { x with
    asked := .nothing
    owner := Function.update x.owner id none
    closed := id
    ledger := x.ledger.vacate }

def accepted (x : Net) (s : Sockets) : Net :=
  match x.asked, x.answer with
  | .create bound, some id => x.create s bound id
  | .close id, _ => x.close id
  | _, _ => { x with asked := .nothing }

theorem accepted_create {x : Net} {s : Sockets} {bound : Bool} {id : Int}
    (hasked : x.asked = .create bound) (hanswer : x.answer = some id) :
    x.accepted s = x.create s bound id := by
  rw [accepted,hasked,hanswer]

theorem accepted_close {x : Net} {s : Sockets} {id : Int} (hasked : x.asked = .close id) :
    x.accepted s = x.close id := by
  rw [accepted,hasked]

theorem accepted_nothing {x : Net} {s : Sockets} (hasked : x.asked = .nothing) :
    x.accepted s = x := by
  cases x with
  | mk owner queue asked answer closed reused moved ledger =>
    obtain rfl : asked = .nothing := hasked
    rfl

end Net

inductive NetEvent : Net → Driver AtInterface → Net → Driver AtInterface → Prop
  | remoteClose (x : Net) (d : Driver AtInterface) {id : Int} : x.owner id ≠ none →
      NetEvent x d { x with
        owner := Function.update x.owner id none, queue := x.queue ++ [id] } d
  | deliver (x : Net) (d : Driver AtInterface) {id : Int} : id ∈ x.queue →
      NetEvent x d { x with
        queue := x.queue.erase id
        ledger := x.ledger.lose (d.iface.sockets.findSocket id) } ((Urc.uusocl id).handle d)

def netModem : Modem (sig AtInterface) Net where
  event := NetEvent
  allow
    | _, .recv .usocr, x, _, b => ∀ id, b = some id → x.owner id = none
    | _, _, _, _, _ => True
  next
    | _, .send c, x, _, _ => x.request c
    | _, .recv .usocr, x, _, b => { x with answer := b }
    | _, .recv .ok, x, d, b =>
        if b.isSome then x.accepted d.iface.sockets else { x with asked := .nothing }
    | _, _, x, _, _ => x

abbrev NetStation := Station (sig AtInterface) Net

inductive SocketCall where
  | socketOpen (proto : Protocol)
  | socketClose (x : Handle)
  | socketBind (x : Handle) (port : Nat)

def SocketCall.code : SocketCall → AtCode Unit
  | .socketOpen proto => void (Gsm.socketOpen proto)
  | .socketClose x => void (Gsm.socketClose x)
  | .socketBind x port => void (Gsm.socketBind x port)

namespace NetStation

def handle (w : NetStation) (y : Handle) : Int := (w.driver.iface.sockets y).modemHandle

structure Shrinks (w w' : NetStation) : Prop where
  handle : ∀ y, handle w' y = handle w y ∨ handle w' y = socketUnused
  owner : ∀ id, w'.modem.owner id = w.modem.owner id ∨ w'.modem.owner id = none
  asked : w'.modem.asked = w.modem.asked
  answer : w'.modem.answer = w.modem.answer
  closed : w'.modem.closed = w.modem.closed
  reused : w'.modem.reused = w.modem.reused
  moved : w'.modem.moved = w.modem.moved

theorem Shrinks.refl (w : NetStation) : Shrinks w w :=
  ⟨fun _ => .inl rfl,fun _ => .inl rfl,rfl,rfl,rfl,rfl,rfl⟩

theorem Shrinks.trans {u v w : NetStation} (h : Shrinks u v) (k : Shrinks v w) :
    Shrinks u w where
  handle y := by
    rcases k.handle y with hk | hk
    · rw [hk]
      exact h.handle y
    · exact .inr hk
  owner id := by
    rcases k.owner id with hk | hk
    · rw [hk]
      exact h.owner id
    · exact .inr hk
  asked := k.asked.trans h.asked
  answer := k.answer.trans h.answer
  closed := k.closed.trans h.closed
  reused := k.reused.trans h.reused
  moved := k.moved.trans h.moved

theorem event_shrinks {w w' : NetStation}
    (h : NetEvent w.modem w.driver w'.modem w'.driver) : Shrinks w w' := by
  obtain ⟨d,m⟩ := w
  obtain ⟨d',m'⟩ := w'
  cases h with
  | @remoteClose id _ =>
    refine ⟨fun _ => .inl rfl,fun id' => ?_,rfl,rfl,rfl,rfl,rfl⟩
    by_cases hid : id' = id
    · subst hid
      exact .inr (Function.update_self ..)
    · exact .inl (Function.update_of_ne hid ..)
  | deliver _ =>
    exact ⟨fun y => Sockets.clearFound_handle _ _ y,fun _ => .inl rfl,rfl,rfl,rfl,rfl,rfl⟩

theorem events_shrinks {w w' : NetStation} (h : netModem.Events w w') : Shrinks w w' := by
  induction h with
  | refl => exact Shrinks.refl w
  | tail _ huv ih => exact ih.trans (event_shrinks huv)

structure Agree (w : NetStation) : Prop where
  known : ∀ y, handle w y ≠ socketUnused →
    w.modem.owner (handle w y) ≠ none ∨ handle w y ∈ w.modem.queue
  unique : ∀ y z, handle w y ≠ socketUnused → handle w y = handle w z → y = z

theorem event_agree {w w' : NetStation} (hw : Agree w)
    (h : NetEvent w.modem w.driver w'.modem w'.driver) : Agree w' := by
  have hs := event_shrinks h
  have hback : ∀ y, handle w' y ≠ socketUnused → handle w' y = handle w y :=
    fun y hy => (hs.handle y).resolve_right hy
  refine ⟨fun y hy => ?_,fun y z hy hyz => ?_⟩
  · have hwy := hback y hy
    rw [hwy]
    rw [hwy] at hy
    obtain ⟨d,m⟩ := w
    obtain ⟨d',m'⟩ := w'
    cases h with
    | @remoteClose id _ =>
      by_cases hid : handle ⟨d,m⟩ y = id
      · right
        rw [hid]
        exact List.mem_append_right _ (List.mem_singleton.mpr rfl)
      · rcases hw.known y hy with hk | hk
        · left
          change Function.update m.owner id none (handle ⟨d,m⟩ y) ≠ none
          rw [Function.update_of_ne hid]
          exact hk
        · exact .inr (List.mem_append_left _ hk)
    | @deliver id hmem =>
      have hid : handle ⟨d,m⟩ y ≠ id := by
        intro hid
        have hclear := Sockets.clearFound_only hid (fun z hz =>
          (hw.unique y z hy (hid.trans hz.symm)).symm)
        exact hy (hwy.symm.trans hclear)
      exact (hw.known y hy).imp_right (fun hk => (List.mem_erase_of_ne hid).mpr hk)
  · have hz : handle w' z ≠ socketUnused := hyz ▸ hy
    have hwy := hback y hy
    refine hw.unique y z (hwy ▸ hy) ?_
    rw [← hwy,hyz,hback z hz]

theorem events_agree {w w' : NetStation} (hw : Agree w) (h : netModem.Events w w') :
    Agree w' := by
  induction h with
  | refl => exact hw
  | tail _ huv ih => exact event_agree ih huv

structure Clean (w : NetStation) : Prop where
  reused : w.modem.reused = false
  moved : w.modem.moved = false

def Sound (w : NetStation) : Prop := Clean w → Agree w

theorem Clean.shrunk {w w' : NetStation} (h : Clean w') (k : Shrinks w w') : Clean w :=
  ⟨k.reused.symm.trans h.reused,k.moved.symm.trans h.moved⟩

theorem Sound.events {w w' : NetStation} (h : Sound w) (k : netModem.Events w w') : Sound w' :=
  fun hc => events_agree (h (hc.shrunk (events_shrinks k))) k

theorem Agree.same {w w' : NetStation} (h : Agree w) (hh : ∀ y, handle w' y = handle w y)
    (ho : w'.modem.owner = w.modem.owner) (hq : w'.modem.queue = w.modem.queue) : Agree w' := by
  refine ⟨fun y hy => ?_,fun y z hy hyz => ?_⟩
  · rw [hh,ho,hq]
    exact h.known y (hh y ▸ hy)
  · rw [hh] at hy
    rw [hh,hh] at hyz
    exact h.unique y z hy hyz

theorem request_core (x : Net) (c : Cmd) :
    (x.request c).owner = x.owner ∧ (x.request c).queue = x.queue ∧
    (x.request c).closed = x.closed ∧ (x.request c).reused = x.reused ∧
    (x.request c).moved = x.moved := by
  unfold Net.request
  split <;> exact ⟨rfl,rfl,rfl,rfl,rfl⟩

theorem Sound.request {w : NetStation} (h : Sound w) (c : Cmd) :
    Sound { w with modem := w.modem.request c } := by
  obtain ⟨ho,hq,-,hr,hm⟩ := request_core w.modem c
  intro hc
  exact (h ⟨hr.symm.trans hc.reused,hm.symm.trans hc.moved⟩).same (fun _ => rfl) ho hq

theorem Sound.answered {w : NetStation} (h : Sound w) (b : Option Int) :
    Sound { w with modem := { w.modem with answer := b } } := by
  intro hc
  exact (h ⟨hc.reused,hc.moved⟩).same (fun _ => rfl) rfl rfl

theorem Sound.refused {w : NetStation} (h : Sound w) :
    Sound { w with modem := { w.modem with asked := .nothing } } := by
  intro hc
  exact (h ⟨hc.reused,hc.moved⟩).same (fun _ => rfl) rfl rfl

theorem handle_update (w : NetStation) (x y : Handle) (c : SockCtrl) (m : Net) :
    handle ⟨w.driver.onSockets (fun s => Function.update s x c),m⟩ y =
      if y = x then c.modemHandle else handle w y := by
  change (Function.update w.driver.iface.sockets x c y).modemHandle = _
  by_cases h : y = x
  · subst h
    rw [Function.update_self,if_pos rfl]
  · rw [Function.update_of_ne h,if_neg h]
    rfl

theorem handle_clear (w : NetStation) (x y : Handle) (m : Net) :
    handle ⟨w.driver.onSockets (fun s => s.clearSocket x),m⟩ y =
      if y = x then socketUnused else handle w y := handle_update w x y .cleared m

theorem handle_opened (w : NetStation) (x y : Handle) (id : Int) (m : Net) :
    handle ⟨w.driver.onSockets (fun s => Function.update (s.clearSocket x) x
      { SockCtrl.cleared with modemHandle := id }),m⟩ y = if y = x then id else handle w y := by
  have hclear : (fun s : Sockets => Function.update (s.clearSocket x) x
      { SockCtrl.cleared with modemHandle := id }) =
      fun s => Function.update s x { SockCtrl.cleared with modemHandle := id } := by
    funext s
    exact Function.update_idem ..
  rw [hclear,handle_update]

theorem heard_nothing {u : NetStation} (hasked : u.modem.asked = .nothing) (ok : Option Unit) :
    netModem.next (.recv .ok) u.modem u.driver ok = u.modem := by
  have hrefused : ({ u.modem with asked := .nothing } : Net) = u.modem := by
    rw [← hasked]
  change (if ok.isSome then u.modem.accepted u.driver.iface.sockets else
    { u.modem with asked := .nothing }) = u.modem
  rw [Net.accepted_nothing hasked,hrefused,ite_self]

theorem Agree.unique_filled {w w' : NetStation} {x : Handle} {id : Int} (h : Agree w)
    (hh : ∀ y, handle w' y = if y = x then id else handle w y)
    (hfree : id ≠ socketUnused → ∀ y, y ≠ x → handle w y ≠ id) (y z : Handle)
    (hy : handle w' y ≠ socketUnused) (hyz : handle w' y = handle w' z) : y = z := by
  rw [hh] at hy
  rw [hh,hh] at hyz
  rcases eq_or_ne y x with hyx | hyx
  · rcases eq_or_ne z x with hzx | hzx
    · rw [hyx,hzx]
    · rw [if_pos hyx] at hy
      rw [if_pos hyx,if_neg hzx] at hyz
      exact absurd hyz.symm (hfree hy z hzx)
  · rw [if_neg hyx] at hy
    rw [if_neg hyx] at hyz
    rcases eq_or_ne z x with hzx | hzx
    · rw [if_pos hzx] at hyz
      exact absurd hyz (hfree (hyz ▸ hy) y hyx)
    · rw [if_neg hzx] at hyz
      exact h.unique y z hy hyz

theorem Agree.opened {w : NetStation} (h : Agree w) {x : Handle} {id : Int} {n : Nat}
    (hfree : ∀ y, handle w y ≠ id) {w' : NetStation}
    (hh : ∀ y, handle w' y = if y = x then id else handle w y)
    (ho : w'.modem.owner = Function.update w.modem.owner id (some n))
    (hq : w'.modem.queue = w.modem.queue) : Agree w' := by
  refine ⟨fun y hy => ?_,fun y z hy hyz => ?_⟩
  · rw [hh,ho,hq]
    split
    · left
      rw [Function.update_self]
      rintro ⟨⟩
    · rename_i hyx
      rw [Function.update_of_ne (hfree y)]
      rw [hh,if_neg hyx] at hy
      exact h.known y hy
  · exact h.unique_filled hh (fun _ y _ => hfree y) y z hy hyz

theorem openReply_sound {w : NetStation} (x : Handle) (hw : Sound w)
    (hasked : w.modem.asked = .create false) :
    wp netModem.spec (openReply x) (fun _ => Sound) w := by
  simp only [openReply,wp_bind,Modem.wp_recv,Modem.wp_recvOk,wp_elim,wp_ite,Modem.wp_modify,
    wp_pure]
  intro v r hv _
  have hsv := (hw.events hv).answered r
  cases r with
  | none => exact hsv
  | some id =>
    rw [Option.elim_some]
    split
    · intro u ok hu _
      have hs := events_shrinks hu
      have hsu := hsv.events hu
      cases ok with
      | none => exact hsu.refused
      | some _ =>
        have hanswer : u.modem.answer = some id := hs.answer
        have hcreate : u.modem.asked = .create false :=
          (hs.asked.trans (events_shrinks hv).asked).trans hasked
        change Sound ⟨_,u.modem.accepted u.driver.iface.sockets⟩
        rw [Net.accepted_create hcreate hanswer]
        intro hc
        have hreused : (u.modem.reused || (!false &&
            decide (∃ y, (u.driver.iface.sockets y).modemHandle = id))) = false := hc.reused
        have hmoved : (u.modem.moved || (false && _)) = false := hc.moved
        rw [Bool.or_eq_false_iff] at hreused hmoved
        have hfree : ∀ y, handle u y ≠ id := by
          intro y hy
          exact of_decide_eq_false hreused.2 ⟨y,hy⟩
        exact @Agree.opened u (hsu ⟨hreused.1,hmoved.1⟩) x id u.modem.ledger.actor hfree _
          (fun y => handle_opened u x y id _) rfl rfl
    · exact hsv

theorem openWith_sound {w : NetStation} (x : Handle) (proto : Int) (hw : Sound w) :
    wp netModem.spec (openWith x proto) (fun _ => Sound) w := by
  simp only [openWith,wp_bind,Modem.wp_send,wp_ite,wp_pure]
  intro b _
  have hs := hw.request (.usocr proto none)
  split
  · exact openReply_sound x hs rfl
  · exact hs

theorem socketOpen_sound {w : NetStation} (proto : Protocol) (hw : Sound w) :
    wp netModem.spec (Gsm.socketOpen proto) (fun _ => Sound) w := by
  simp only [Gsm.socketOpen,Modem.wp_locked,wp_bind,wp_get,wp_elim,wp_pure]
  intro v hv
  have hsv := hw.events hv
  cases v.driver.iface.sockets.findSocket socketUnused with
  | none => exact hsv
  | some x =>
    rw [Option.elim_some]
    cases proto with
    | udp => exact openWith_sound x 17 hsv
    | tcp => exact openWith_sound x 6 hsv
    | other => exact hsv

structure Later (w w' : NetStation) : Prop where
  handle : ∀ y, handle w' y = handle w y ∨ handle w' y = socketUnused
  clean : Clean w' → Clean w

theorem Shrinks.later {w w' : NetStation} (h : Shrinks w w') : Later w w' :=
  ⟨h.handle,fun hc => hc.shrunk h⟩

theorem Later.trans {u v w : NetStation} (h : Later u v) (k : Later v w) : Later u w where
  handle y := by
    rcases k.handle y with hk | hk
    · rw [hk]
      exact h.handle y
    · exact .inr hk
  clean hc := h.clean (k.clean hc)

theorem request_later (w : NetStation) (c : Cmd) :
    Later w { w with modem := w.modem.request c } := by
  obtain ⟨-,-,-,hr,hm⟩ := request_core w.modem c
  exact ⟨fun _ => .inl rfl,fun hc => ⟨hr.symm.trans hc.reused,hm.symm.trans hc.moved⟩⟩

def cleared (x : Handle) (w : NetStation) : NetStation :=
  ⟨w.driver.onSockets (fun s => s.clearSocket x),w.modem⟩

theorem Agree.closed {w u : NetStation} {x : Handle} (hw : Agree w) (hu : Agree u)
    (h : Later w u) :
    Agree (cleared x ⟨u.driver,u.modem.close (handle w x)⟩) := by
  have hh : ∀ y, handle (cleared x ⟨u.driver,u.modem.close (handle w x)⟩) y =
      if y = x then socketUnused else handle u y := fun y => handle_clear u x y _
  have hother : ∀ y, handle (cleared x ⟨u.driver,u.modem.close (handle w x)⟩) y ≠ socketUnused →
      y ≠ x ∧ handle (cleared x ⟨u.driver,u.modem.close (handle w x)⟩) y = handle u y ∧
      handle u y ≠ socketUnused := by
    intro y hy
    rw [hh] at hy ⊢
    by_cases hyx : y = x
    · rw [if_pos hyx] at hy
      exact absurd rfl hy
    · rw [if_neg hyx] at hy ⊢
      exact ⟨hyx,rfl,hy⟩
  refine ⟨fun y hy => ?_,fun y z hy hyz => ?_⟩
  · obtain ⟨hyx,he,hne⟩ := hother y hy
    rw [he]
    have hwu : handle u y = handle w y := (h.handle y).resolve_right hne
    have hid : handle u y ≠ handle w x := by
      intro hid
      exact hyx (hw.unique y x (hwu ▸ hne) (hwu.symm.trans hid))
    refine (hu.known y hne).imp_left (fun hk => ?_)
    change Function.update u.modem.owner (handle w x) none (handle u y) ≠ none
    rw [Function.update_of_ne hid]
    exact hk
  · obtain ⟨-,he,hne⟩ := hother y hy
    obtain ⟨-,hz,-⟩ := hother z (hyz ▸ hy)
    exact hu.unique y z hne (he.symm.trans (hyz.trans hz))

structure Closing (x : Handle) (w : NetStation) (ok : Bool) (w' : NetStation) : Prop where
  later : Later w w'
  closed : ok = true → w'.modem.closed = handle w x ∧ Sound (cleared x w')
  refused : ok = false → Sound w'

theorem closeExchange_closing {w : NetStation} (x : Handle) (hw : Sound w) :
    wp netModem.spec (closeExchange x) (Closing x w) w := by
  simp only [closeExchange,wp_bind,wp_get,Modem.wp_exchange,Modem.wp_recvOk]
  intro b _
  have hreq := hw.request (.usocl (handle w x))
  have hlater := request_later w (.usocl (handle w x))
  split
  · intro u ok hu _
    have hs := events_shrinks hu
    have hl := hlater.trans hs.later
    have hsu := hreq.events hu
    cases ok with
    | none => exact ⟨⟨hl.handle,fun hc => hl.clean ⟨hc.reused,hc.moved⟩⟩,by rintro ⟨⟩,
        fun _ => hsu.refused⟩
    | some _ =>
      have hasked : u.modem.asked = .close (handle w x) := hs.asked
      change Closing x w true ⟨_,u.modem.accepted u.driver.iface.sockets⟩
      rw [Net.accepted_close hasked]
      refine ⟨⟨hl.handle,fun hc => hl.clean ⟨hc.reused,hc.moved⟩⟩,fun _ => ⟨rfl,?_⟩,by rintro ⟨⟩⟩
      intro hc
      have hcu : Clean u := ⟨hc.reused,hc.moved⟩
      exact (hw (hl.clean hcu)).closed (hsu hcu) hl
  · exact ⟨hlater,by rintro ⟨⟩,fun _ => hreq⟩

theorem socketClose_sound {w : NetStation} (x : Handle) (hw : Sound w) :
    wp netModem.spec (Gsm.socketClose x) (fun _ => Sound) w := by
  simp only [Gsm.socketClose,Modem.wp_locked,wp_bind,wp_ite,Modem.wp_modify,wp_pure]
  intro v hv
  refine wp_mono netModem.mono (fun ok u hu => ?_) (closeExchange_closing x (hw.events hv))
  cases ok with
  | false => exact hu.refused rfl
  | true => exact (hu.closed rfl).2

structure Vacant (x : Handle) (h : Int) (w : NetStation) : Prop where
  sound : Sound w
  closed : w.modem.closed = h
  free : Clean w → h ≠ socketUnused → ∀ y, y ≠ x → handle w y ≠ h

theorem Vacant.later {x : Handle} {h : Int} {w w' : NetStation} (hw : Vacant x h w)
    (hl : Later w w') (hs : Sound w') (hc : w'.modem.closed = w.modem.closed) : Vacant x h w' := by
  refine ⟨hs,hc.trans hw.closed,fun hclean hne y hyx hy => ?_⟩
  refine hw.free (hl.clean hclean) hne y hyx ?_
  rcases hl.handle y with hk | hk
  · rw [← hk,hy]
  · exact absurd (hy.symm.trans hk) hne

theorem Vacant.events {x : Handle} {h : Int} {w w' : NetStation} (hw : Vacant x h w)
    (hev : netModem.Events w w') : Vacant x h w' :=
  hw.later (events_shrinks hev).later (hw.sound.events hev) (events_shrinks hev).closed

theorem Vacant.filled {x : Handle} {u : NetStation} {saved : SockCtrl} {id : Int}
    (hu : Vacant x saved.modemHandle u) :
    Sound ⟨u.driver.onSockets (fun s => Function.update s x saved),
      u.modem.create u.driver.iface.sockets true id⟩ := by
  have hh : ∀ m y, handle ⟨u.driver.onSockets (fun s => Function.update s x saved),m⟩ y =
      if y = x then saved.modemHandle else handle u y := fun m y => handle_update u x y saved m
  intro hc
  have hreused : (u.modem.reused || (!true && _)) = false := hc.reused
  have hmoved : (u.modem.moved || (true && decide (id ≠ u.modem.closed ∧
      u.modem.closed ≠ socketUnused ∧ u.modem.closed ∉ u.modem.queue))) = false := hc.moved
  rw [Bool.or_eq_false_iff] at hreused hmoved
  have hcu : Clean u := ⟨hreused.1,hmoved.1⟩
  have hsame := of_decide_eq_false hmoved.2
  rw [hu.closed] at hsame
  have hau := hu.sound hcu
  refine ⟨fun y hy => ?_,fun y z hy hyz => ?_⟩
  · rw [hh] at hy ⊢
    change Function.update u.modem.owner id (some u.modem.ledger.actor) _ ≠ none ∨
      _ ∈ u.modem.queue
    split
    · rename_i hyx
      rw [if_pos hyx] at hy
      by_cases hid : saved.modemHandle = id
      · rw [hid,Function.update_self]
        exact .inl (by rintro ⟨⟩)
      · right
        by_contra hq
        exact hsame ⟨fun h => hid h.symm,hy,hq⟩
    · rename_i hyx
      rw [if_neg hyx] at hy
      by_cases hid : handle u y = id
      · rw [hid,Function.update_self]
        exact .inl (by rintro ⟨⟩)
      · rw [Function.update_of_ne hid]
        exact hau.known y hy
  · exact hau.unique_filled (hh _) (hu.free hcu) y z hy hyz

theorem reopen_sound {w : NetStation} (x : Handle) (saved : SockCtrl) (proto : Int) (port : Nat)
    (hw : Vacant x saved.modemHandle w) :
    wp netModem.spec (reopen x saved proto port) (fun _ => Sound) w := by
  simp only [reopen,wp_bind,Modem.wp_ask,Modem.wp_recv,Modem.wp_recvOk,wp_elim,wp_ite,
    Modem.wp_modify,wp_pure]
  intro b _
  have hreq := hw.later (request_later w (.usocr proto (some port)))
    (hw.sound.request (.usocr proto (some port))) rfl
  split
  · intro v r hv _
    have hvv := hreq.events hv
    have hanswered : Vacant x saved.modemHandle { v with modem := { v.modem with answer := r } } :=
      hvv.later ⟨fun _ => .inl rfl,fun hc => ⟨hc.reused,hc.moved⟩⟩ (hvv.sound.answered r) rfl
    cases r with
    | none => exact hanswered.sound
    | some id =>
      rw [Option.elim_some]
      split
      · intro u ok hu _
        have hs := events_shrinks hu
        have huu := hanswered.events hu
        cases ok with
        | none => exact huu.sound.refused
        | some _ =>
          have hanswer : u.modem.answer = some id := hs.answer
          have hcreate : u.modem.asked = .create true :=
            hs.asked.trans (events_shrinks hv).asked
          change Sound ⟨_,u.modem.accepted u.driver.iface.sockets⟩
          rw [Net.accepted_create hcreate hanswer]
          exact huu.filled
      · exact hanswered.sound
  · exact hreq.sound

theorem socketBind_sound {w : NetStation} (x : Handle) (port : Nat) (hw : Sound w) :
    wp netModem.spec (Gsm.socketBind x port) (fun _ => Sound) w := by
  simp only [Gsm.socketBind,Modem.wp_locked,wp_bind,wp_get,Modem.wp_ask,Modem.wp_recv,
    Modem.wp_recvOk,wp_elim,wp_ite,Modem.wp_modify,wp_pure]
  intro v₀ hv₀ b _
  have hs₀ := (hw.events hv₀).request (.usoctl (handle v₀ x))
  split
  · intro v r hv _
    have hsv := hs₀.events hv
    cases r with
    | none => exact hsv
    | some proto =>
      rw [Option.elim_some]
      intro u ok hu _
      have hsu := hsv.events hu
      have hasked : u.modem.asked = .nothing :=
        (events_shrinks hu).asked.trans (events_shrinks hv).asked
      rw [heard_nothing hasked ok]
      split
      · refine wp_mono netModem.mono (fun done t ht => ?_) (closeExchange_closing x hsu)
        cases done with
        | false => exact ht.refused rfl
        | true =>
          obtain ⟨hclosed,hsound⟩ := ht.closed rfl
          refine reopen_sound x _ proto port ⟨hsound,hclosed,fun hc hne y hyx hy => ?_⟩
          have hcu : Clean u := ht.later.clean ⟨hc.reused,hc.moved⟩
          have hty : handle t y = handle u x := by
            have hcl := handle_clear t x y t.modem
            rw [if_neg hyx] at hcl
            exact hcl.symm.trans hy
          rcases ht.later.handle y with hk | hk
          · exact hyx ((hsu hcu).unique y x (by rw [← hk,hty]; exact hne) (hk.symm.trans hty))
          · exact hne (hty.symm.trans hk)
      · exact hsu
  · exact hs₀

abbrev Runs (start w : NetStation) : Prop :=
  netModem.Reached SocketCall.code (fun _ _ => True) start w

def start (baud : Int) : NetStation := ⟨⟨.initial baud,.initial⟩,.empty⟩

theorem start_agree (baud : Int) : Agree (start baud) :=
  ⟨fun _ h => absurd rfl h,fun _ _ h => absurd rfl h⟩

theorem call_sound {w : NetStation} (o : SocketCall) (hw : Sound w) :
    wp netModem.spec o.code (fun _ => Sound) w := by
  cases o with
  | socketOpen proto =>
    simp only [SocketCall.code,Modem.wp_void]
    exact socketOpen_sound proto hw
  | socketClose x =>
    simp only [SocketCall.code,Modem.wp_void]
    exact socketClose_sound x hw
  | socketBind x port =>
    simp only [SocketCall.code,Modem.wp_void]
    exact socketBind_sound x port hw

theorem table_agrees {baud : Int} {w : NetStation} (h : Runs (start baud) w)
    (hr : w.modem.reused = false) (hm : w.modem.moved = false) :
    (∀ y, handle w y ≠ socketUnused →
      w.modem.owner (handle w y) ≠ none ∨ handle w y ∈ w.modem.queue) ∧
    ∀ y z, handle w y ≠ socketUnused → handle w y = handle w z → y = z := by
  have hs : Sound w := by
    refine h.keeps (fun _ => start_agree baud) (fun u o hu _ => call_sound o hu) ?_
    intro u v hu huv
    exact hu.events (.single huv)
  have hw := hs ⟨hr,hm⟩
  exact ⟨hw.known,hw.unique⟩

def allotting (choose : Net → Int) : Modem.Peer (sig AtInterface) Net where
  send _ _ := true
  recv
    | _, .ok, w => some (some (), w)
    | _, .usoctl, w => some (some 17, w)
    | _, .usocr, w =>
        if w.modem.owner (choose w.modem) = none then some (some (choose w.modem), w) else none
    | _, _, _ => none
  ask _ _ _ := none

theorem allotting_fair (choose : Net → Int) : (allotting choose).Fair netModem where
  send _ _ := trivial
  recv := by
    intro β p w b v h
    cases p
    case ok => cases h; exact ⟨.refl,trivial⟩
    case usoctl => cases h; exact ⟨.refl,trivial⟩
    case usocr =>
      obtain ⟨ho,hs⟩ := Option.ite_none_right_eq_some.mp h
      obtain ⟨rfl,rfl⟩ := Prod.mk.inj (Option.some.inj hs)
      exact ⟨.refl,fun id hid => Option.some.inj hid ▸ ho⟩
    all_goals cases h
  ask _ _ _ _ h := by cases h

def lowest (x : Net) : Int := if x.owner 0 = none then 0 else 1

def counting (x : Net) : Int := if x.closed = 0 then 1 else 0

def severed (id : Int) (w : NetStation) : NetStation :=
  ⟨w.driver,{ w.modem with
    owner := Function.update w.modem.owner id none
    queue := w.modem.queue ++ [id] }⟩

def dropped (id : Int) (w : NetStation) : NetStation :=
  ⟨(Urc.uusocl id).handle w.driver,{ (severed id w).modem with
    queue := (w.modem.queue ++ [id]).erase id
    ledger := w.modem.ledger.lose (w.driver.iface.sockets.findSocket id) }⟩

inductive Deed where
  | call (o : SocketCall)
  | drop (id : Int)

def played (choose : Net → Int) : List Deed → NetStation → Option NetStation
  | [], w => some w
  | .call o :: l, w => (o.code.run (netModem.machine.play (allotting choose).script) 0 w).bind
      (fun r => played choose l r.2)
  | .drop id :: l, w =>
      if w.modem.owner id = none then none else played choose l (dropped id w)

theorem dropped_events {id : Int} {w : NetStation} (h : w.modem.owner id ≠ none) :
    netModem.Events w (dropped id w) := by
  have hclosed : netModem.Events w (severed id w) := .single (.remoteClose _ _ h)
  exact hclosed.tail (.deliver (severed id w).modem w.driver
    (List.mem_append_right _ (List.mem_singleton.mpr rfl)))

theorem played_runs {choose : Net → Int} {l : List Deed} {u v w : NetStation} (hw : Runs u w)
    (hp : played choose l w = some v) : Runs u v := by
  induction l generalizing w with
  | nil =>
    obtain rfl : w = v := Option.some.inj hp
    exact hw
  | cons a l ih =>
    cases a with
    | call o =>
      obtain ⟨r,hr,hp⟩ := Option.bind_eq_some_iff.mp hp
      exact ih (.call o hw trivial ((allotting_fair choose).runs hr)) hp
    | drop id =>
      obtain ⟨h,hp⟩ := Option.ite_none_left_eq_some.mp hp
      exact ih (Modem.events_keep (dropped_events h) hw (fun _ _ => .event)) hp

def mixed : List Deed :=
  [.call (.socketOpen .udp),.call (.socketOpen .tcp),.call (.socketBind 1 5000),.drop 0,
    .call (.socketOpen .udp),.call (.socketClose 0)]

theorem table_agrees_opened : ∃ w : NetStation, Runs (start 115200) w ∧
    played lowest mixed (start 115200) = some w ∧ handle w 0 = socketUnused ∧ handle w 1 = 1 ∧
    (∀ y, handle w y ≠ socketUnused →
      w.modem.owner (handle w y) ≠ none ∨ handle w y ∈ w.modem.queue) ∧
    ∀ y z, handle w y ≠ socketUnused → handle w y = handle w z → y = z := by
  have hrun : (played lowest mixed (start 115200)).map
      (fun w => (handle w 0, handle w 1, w.modem.reused, w.modem.moved)) =
      some (socketUnused, 1, false, false) := by decide +kernel
  obtain ⟨w,hw,he⟩ := Option.map_eq_some_iff.mp hrun
  simp only [Prod.mk.injEq] at he
  obtain ⟨hfirst,hsecond,hreused,hmoved⟩ := he
  have hr : Runs (start 115200) w := played_runs .start hw
  exact ⟨w,hr,hw,hfirst,hsecond,table_agrees hr hreused hmoved⟩

theorem bind_restores_stale : ¬ ∀ w : NetStation, Runs (start 115200) w →
    (∀ y, handle w y ≠ socketUnused →
      w.modem.owner (handle w y) ≠ none ∨ handle w y ∈ w.modem.queue) ∧
    ∀ y z, handle w y ≠ socketUnused → handle w y = handle w z → y = z := by
  intro hall
  have hrun : (played counting [.call (.socketOpen .udp),.call (.socketBind 0 5000)]
      (start 115200)).map (fun w => (handle w 0, w.modem.owner 0, w.modem.queue)) =
      some (0, none, []) := by decide
  obtain ⟨w,hw,he⟩ := Option.map_eq_some_iff.mp hrun
  simp only [Prod.mk.injEq] at he
  obtain ⟨hslot,howner,hqueue⟩ := he
  rcases (hall w (played_runs .start hw)).1 0 (by rw [hslot]; decide) with hk | hk
  · rw [hslot] at hk
    exact hk howner
  · rw [hqueue] at hk
    cases hk

end NetStation

end UbloxCellular.Gsm
