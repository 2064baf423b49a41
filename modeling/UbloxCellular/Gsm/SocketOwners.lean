import UbloxCellular.Gsm.SocketTable

namespace UbloxCellular.Gsm
open Interaction Code

namespace Ledger

def enter (l : Ledger) : Ledger :=
  { l with actor := l.serial, serial := l.serial + 1, acting := [] }

def act (l : Ledger) (p : Handle × Nat) : Ledger := { l with actor := p.2, acting := [p] }

def grant (l : Ledger) (x : Option Handle) : Ledger :=
  { l with held := x.elim l.held (fun x => (x, l.actor) :: l.held) }

def release (l : Ledger) (p : Handle × Nat) : Ledger :=
  { l with held := l.held.erase p, vacated := l.vacated.filter (· ≠ p) }

def kept (l : Ledger) : Ledger := { l with vacated := [] }

theorem kept_eq {α : Type} {l l' : Ledger} (h : l'.kept = l.kept) (f : Ledger → α)
    (hf : ∀ l : Ledger, f l.kept = f l) : f l' = f l :=
  (hf l').symm.trans ((congrArg f h).trans (hf l))

end Ledger

namespace NetStation

def onLedger (f : Ledger → Ledger) (w : NetStation) : NetStation :=
  { w with modem := { w.modem with ledger := f w.modem.ledger } }

inductive Owned (start : NetStation) : NetStation → Prop
  | start : Owned start start
  | opened {w w' : NetStation} {r : Int × Option Handle} (proto : Protocol) : Owned start w →
      netModem.Runs (Gsm.socketOpen proto) (onLedger .enter w) r w' →
      Owned start (onLedger (fun l => l.grant r.2) w')
  | closed {w w' : NetStation} {r : Int} {x : Handle} {n : Nat} : Owned start w →
      (x, n) ∈ w.modem.ledger.held →
      netModem.Runs (Gsm.socketClose x) (onLedger (fun l => l.act (x, n)) w) r w' →
      Owned start (onLedger (fun l => l.release (x, n)) w')
  | bound {w w' : NetStation} {r : Int} {x : Handle} {n : Nat} (port : Nat) : Owned start w →
      (x, n) ∈ w.modem.ledger.held →
      netModem.Runs (Gsm.socketBind x port) (onLedger (fun l => l.act (x, n)) w) r w' →
      Owned start w'
  | event {w w' : NetStation} : Owned start w →
      NetEvent w.modem w.driver w'.modem w'.driver → Owned start w'

structure Unshared (w : NetStation) : Prop where
  overtaken : w.modem.ledger.overtaken = false
  stolen : w.modem.ledger.stolen = false

structure Proper (w : NetStation) : Prop where
  distinct : (w.modem.ledger.held.map Prod.fst).Nodup
  vacated : ∀ p ∈ w.modem.ledger.held, handle w p.1 = socketUnused → p ∈ w.modem.ledger.vacated
  owner : ∀ p ∈ w.modem.ledger.held, ∀ n, w.modem.owner (handle w p.1) = some n → n = p.2
  unused : w.modem.owner socketUnused = none
  crossed : w.modem.ledger.crossed = false

def Guarded (w : NetStation) : Prop := Unshared w → Proper w

structure Tame (w w' : NetStation) : Prop where
  handle : ∀ y, handle w' y = handle w y ∨ handle w' y = socketUnused
  owner : ∀ id, w'.modem.owner id = w.modem.owner id ∨ w'.modem.owner id = none
  closed : w'.modem.closed = w.modem.closed
  kept : w'.modem.ledger.kept = w.modem.ledger.kept
  vacated : ∀ p ∈ w.modem.ledger.vacated, p ∈ w'.modem.ledger.vacated
  noted : ∀ p ∈ w.modem.ledger.held, NetStation.handle w' p.1 = socketUnused →
    NetStation.handle w p.1 = socketUnused ∨ p ∈ w'.modem.ledger.vacated

theorem Tame.held {w w' : NetStation} (k : Tame w w') :
    w'.modem.ledger.held = w.modem.ledger.held := Ledger.kept_eq k.kept _ (fun _ => rfl)

theorem Tame.actor {w w' : NetStation} (k : Tame w w') :
    w'.modem.ledger.actor = w.modem.ledger.actor := Ledger.kept_eq k.kept _ (fun _ => rfl)

theorem Tame.acting {w w' : NetStation} (k : Tame w w') :
    w'.modem.ledger.acting = w.modem.ledger.acting := Ledger.kept_eq k.kept _ (fun _ => rfl)

theorem Tame.exposed {w w' : NetStation} (k : Tame w w') :
    w'.modem.ledger.exposed = w.modem.ledger.exposed := Ledger.kept_eq k.kept _ (fun _ => rfl)

theorem Unshared.tame {w w' : NetStation} (h : Unshared w') (k : Tame w w') : Unshared w :=
  ⟨(Ledger.kept_eq k.kept _ (fun _ => rfl)).symm.trans h.overtaken,
    (Ledger.kept_eq k.kept _ (fun _ => rfl)).symm.trans h.stolen⟩

theorem tame_same {w : NetStation} {m : Net} (ho : m.owner = w.modem.owner)
    (hc : m.closed = w.modem.closed) (hl : m.ledger = w.modem.ledger) :
    Tame w { w with modem := m } :=
  ⟨fun _ => .inl rfl,fun id => .inl (congrFun ho id),hc,congrArg Ledger.kept hl,
    fun _ hp => hl ▸ hp,fun _ _ h => .inl h⟩

theorem Tame.trans {u v w : NetStation} (h : Tame u v) (k : Tame v w) : Tame u w where
  handle y := by
    rcases k.handle y with hk | hk
    · rw [hk]
      exact h.handle y
    · exact .inr hk
  owner id := by
    rcases k.owner id with hk | hk
    · rw [hk]
      exact h.owner id
    · exact .inr hk
  closed := k.closed.trans h.closed
  kept := k.kept.trans h.kept
  vacated p hp := k.vacated p (h.vacated p hp)
  noted p hp hw := by
    rcases k.noted p (h.held ▸ hp) hw with hv | hv
    · exact (h.noted p hp hv).imp_right (k.vacated p)
    · exact .inr hv

theorem lose_noted {w : NetStation} {id : Int} {p : Handle × Nat}
    (hp : p ∈ w.modem.ledger.held)
    (hc : (w.driver.iface.sockets.clearFound id p.1).modemHandle = socketUnused) :
    handle w p.1 = socketUnused ∨
      p ∈ (w.modem.ledger.lose (w.driver.iface.sockets.findSocket id)).vacated := by
  rw [Sockets.clearFound] at hc
  cases hf : w.driver.iface.sockets.findSocket id with
  | none =>
    rw [hf] at hc
    exact .inl hc
  | some x =>
    rw [hf,Option.elim_some,Sockets.clearSocket_handle] at hc
    split at hc
    · rename_i hx
      right
      exact List.mem_append_left _ (List.mem_filter.mpr ⟨hp,decide_eq_true (congrArg some hx.symm)⟩)
    · exact .inl hc

theorem event_tame {w w' : NetStation} (h : NetEvent w.modem w.driver w'.modem w'.driver) :
    Tame w w' := by
  obtain ⟨hh,ho,-,-,hc,-,-⟩ := event_shrinks h
  obtain ⟨d,m⟩ := w
  obtain ⟨d',m'⟩ := w'
  cases h with
  | remoteClose _ => exact ⟨hh,ho,hc,rfl,fun _ hp => hp,fun _ _ hn => .inl hn⟩
  | deliver _ =>
    exact ⟨hh,ho,hc,rfl,fun _ hp => List.mem_append_right _ hp,
      fun _ hp hn => @lose_noted ⟨d,m⟩ _ _ hp hn⟩

theorem events_tame {w w' : NetStation} (h : netModem.Events w w') : Tame w w' :=
  Modem.events_keep (P := Tame w) h (tame_same rfl rfl rfl) (fun _ _ hu huv =>
    hu.trans (event_tame huv))

theorem Tame.owned {w w' : NetStation} (h : Tame w w') (hu : w.modem.owner socketUnused = none)
    {y : Handle} {n : Nat} (hn : w'.modem.owner (NetStation.handle w' y) = some n) :
    w.modem.owner (NetStation.handle w y) = some n := by
  have hback : ∀ {id}, w'.modem.owner id = some n → w.modem.owner id = some n := by
    intro id hid
    rcases h.owner id with ho | ho
    · rw [← ho]
      exact hid
    · rw [ho] at hid
      cases hid
  have hw := hback hn
  rcases h.handle y with hh | hh
  · rw [← hh]
    exact hw
  · rw [hh,hu] at hw
    cases hw

theorem Proper.tame {w w' : NetStation} (h : Proper w) (k : Tame w w') : Proper w' where
  distinct := by
    rw [k.held]
    exact h.distinct
  vacated p hp hunused := by
    rw [k.held] at hp
    rcases k.noted p hp hunused with hn | hn
    · exact k.vacated p (h.vacated p hp hn)
    · exact hn
  owner p hp n hn := by
    rw [k.held] at hp
    exact h.owner p hp n (k.owned h.unused hn)
  unused := by
    rcases k.owner socketUnused with ho | ho
    · rw [ho]
      exact h.unused
    · exact ho
  crossed := (Ledger.kept_eq k.kept _ (fun _ => rfl)).trans h.crossed

theorem Guarded.tame {w w' : NetStation} (h : Guarded w) (k : Tame w w') : Guarded w' :=
  fun hu => (h (hu.tame k)).tame k

theorem Guarded.events {w w' : NetStation} (h : Guarded w) (k : netModem.Events w w') :
    Guarded w' := h.tame (events_tame k)

theorem bind_tame (w : NetStation) (proto : Int) (port : Nat) :
    Tame w { w with modem := w.modem.request (.usocr proto (some port)) } := tame_same rfl rfl rfl

theorem Guarded.exposed {w : NetStation} (h : Guarded w) (proto : Int) :
    Guarded { w with modem := w.modem.request (.usocr proto none) } := by
  intro hu
  have hw := h ⟨hu.overtaken,hu.stolen⟩
  exact ⟨hw.distinct,hw.vacated,hw.owner,hw.unused,hw.crossed⟩

theorem Proper.address {w : NetStation} {x : Handle} (h : Proper w)
    (hx : (x, w.modem.ledger.actor) ∈ w.modem.ledger.held) :
    w.modem.ledger.address (w.modem.owner (handle w x)) = w.modem.ledger := by
  have hc : (w.modem.owner (handle w x)).any (fun n => n ≠ w.modem.ledger.actor) = false := by
    cases ho : w.modem.owner (handle w x) with
    | none => rfl
    | some n =>
      have hn : n = w.modem.ledger.actor := h.owner _ hx n ho
      simp [hn]
  rw [Ledger.address]
  rw [hc,Bool.or_false]

theorem Guarded.addressed {w : NetStation} {x : Handle} {m : Net} (h : Guarded w)
    (hx : (x, w.modem.ledger.actor) ∈ w.modem.ledger.held) (ho : m.owner = w.modem.owner)
    (hc : m.closed = w.modem.closed)
    (hl : m.ledger = w.modem.ledger.address (w.modem.owner (handle w x))) :
    Guarded { w with modem := m } := by
  intro hu
  have hr : m.ledger.overtaken = w.modem.ledger.overtaken := by rw [hl]; rfl
  have hs : m.ledger.stolen = w.modem.ledger.stolen := by rw [hl]; rfl
  have hw : Proper w := h ⟨hr.symm.trans hu.overtaken,hs.symm.trans hu.stolen⟩
  exact hw.tame (tame_same ho hc (hl.trans (hw.address hx)))

theorem refused_tame (w : NetStation) :
    Tame w { w with modem := { w.modem with asked := .nothing } } := tame_same rfl rfl rfl

theorem answered_tame (w : NetStation) (b : Option Int) :
    Tame w { w with modem := { w.modem with answer := b } } := tame_same rfl rfl rfl

theorem Unshared.before {l : Ledger} {s : Sockets} {bound : Bool} {id : Int} (closed : Int)
    (hr : (l.created s bound closed id).overtaken = false)
    (hs : (l.created s bound closed id).stolen = false) :
    (l.overtaken = false ∧ (bound = false → l.exposed = false)) ∧
    l.stolen = false ∧ ∀ p ∈ l.held, (s p.1).modemHandle ≠ id := by
  have hr' : (l.overtaken || !bound && l.exposed) = false := hr
  have hs' : (l.stolen || l.held.any (fun p => (s p.1).modemHandle = id)) = false := hs
  rw [Bool.or_eq_false_iff] at hr' hs'
  refine ⟨⟨hr'.1,fun hb => ?_⟩,hs'.1,fun p hp hc => ?_⟩
  · have hnone := hr'.2
    rwa [hb,Bool.not_false,Bool.true_and] at hnone
  · have := List.any_eq_false.mp hs'.2 p hp
    exact this (decide_eq_true hc)

theorem Proper.filled {u w' : NetStation} {x : Handle} {id : Int} (hu : Proper u)
    (hid : id ≠ socketUnused) (hfree : ∀ p ∈ u.modem.ledger.held, handle u p.1 ≠ id)
    (hother : ∀ y, y ≠ x → handle w' y = handle u y)
    (ho : w'.modem.owner = Function.update u.modem.owner id (some u.modem.ledger.actor))
    (hheld : ∀ p ∈ w'.modem.ledger.held, p ∈ u.modem.ledger.held ∧ p.1 ≠ x ∨
      p = (x, u.modem.ledger.actor))
    (hx : handle w' x = id ∨ u.modem.owner (handle w' x) = none)
    (hd : (w'.modem.ledger.held.map Prod.fst).Nodup)
    (hnoted : ∀ p ∈ u.modem.ledger.held, p.1 ≠ x → p ∈ u.modem.ledger.vacated →
      p ∈ w'.modem.ledger.vacated)
    (hself : handle w' x = socketUnused →
      (x, u.modem.ledger.actor) ∈ w'.modem.ledger.vacated)
    (hc : w'.modem.ledger.crossed = u.modem.ledger.crossed) : Proper w' where
  distinct := hd
  vacated p hp hunused := by
    rcases hheld p hp with ⟨hpu,hpx⟩ | rfl
    · rw [hother p.1 hpx] at hunused
      exact hnoted p hpu hpx (hu.vacated p hpu hunused)
    · exact hself hunused
  owner p hp n hn := by
    rw [ho] at hn
    rcases hheld p hp with ⟨hpu,hpx⟩ | rfl
    · rw [hother p.1 hpx,Function.update_of_ne (hfree p hpu)] at hn
      exact hu.owner p hpu n hn
    · by_cases hxid : handle w' x = id
      · rw [hxid,Function.update_self] at hn
        exact (Option.some.inj hn).symm
      · rw [Function.update_of_ne hxid,hx.resolve_left hxid] at hn
        cases hn
  unused := by
    rw [ho,Function.update_of_ne hid.symm]
    exact hu.unused
  crossed := hc.trans hu.crossed

structure Choosing (x : Handle) (w : NetStation) : Prop where
  guarded : Guarded w
  apart : Unshared w → w.modem.ledger.exposed = false → ∀ p ∈ w.modem.ledger.held, p.1 ≠ x

theorem Choosing.tame {x : Handle} {w w' : NetStation} (h : Choosing x w) (k : Tame w w') :
    Choosing x w' := by
  refine ⟨h.guarded.tame k,fun hu he p hp => ?_⟩
  rw [k.held] at hp
  exact h.apart (hu.tame k) (k.exposed.symm.trans he) p hp

theorem Choosing.events {x : Handle} {w w' : NetStation} (h : Choosing x w)
    (k : netModem.Events w w') : Choosing x w' := h.tame (events_tame k)

theorem Choosing.start {x : Handle} {w : NetStation} (h : Guarded w)
    (hx : w.driver.iface.sockets.findSocket socketUnused = some x) (proto : Int) :
    Choosing x { w with modem := w.modem.request (.usocr proto none) } := by
  refine ⟨h.exposed proto,fun hu he p hp hpx => ?_⟩
  have hw := h ⟨hu.overtaken,hu.stolen⟩
  have hunused : handle w p.1 = socketUnused := by
    rw [hpx]
    exact Sockets.findSocket_handle hx
  have hnone : w.modem.ledger.vacated.isEmpty = true := (Bool.not_eq_false' _).mp he
  have hvacated := hw.vacated p hp hunused
  rw [List.isEmpty_iff.mp hnone] at hvacated
  cases hvacated

theorem Choosing.granted {u : NetStation} {x : Handle} {id : Int} (h : Choosing x u)
    (hid : id ≠ socketUnused) :
    Guarded (onLedger (fun l => l.grant (some x))
      ⟨u.driver.onSockets (fun s => Function.update (s.clearSocket x) x
        { SockCtrl.cleared with modemHandle := id }),
        u.modem.create u.driver.iface.sockets false id⟩) := by
  intro hc
  obtain ⟨⟨hr,hexposed⟩,hst,hfree⟩ := Unshared.before u.modem.closed hc.overtaken hc.stolen
  have hne := h.apart ⟨hr,hst⟩ (hexposed rfl)
  have hpu := h.guarded ⟨hr,hst⟩
  have hh := fun y => handle_opened u x y id u.modem
  apply hpu.filled hid hfree
  · intro y hy
    exact (hh y).trans (if_neg hy)
  · rfl
  · intro p hp
    rcases List.mem_cons.mp hp with hp | hp
    · exact .inr hp
    · exact .inl ⟨hp,hne p hp⟩
  · exact .inl ((hh x).trans (if_pos rfl))
  · refine List.nodup_cons.mpr ⟨fun hmem => ?_,hpu.distinct⟩
    obtain ⟨p,hp,hpx⟩ := List.mem_map.mp hmem
    exact hne p hp hpx
  · exact fun _ _ _ hp => hp
  · intro hunused
    exact absurd (((hh x).trans (if_pos rfl)).symm.trans hunused) hid
  · rfl

theorem openReply_guarded {w : NetStation} (x : Handle) (hw : Choosing x w)
    (hasked : w.modem.asked = .create false) :
    wp netModem.spec (openReply x)
      (fun r w' => Guarded (onLedger (fun l => l.grant r.2) w')) w := by
  simp only [openReply,wp_bind,Modem.wp_recv,Modem.wp_recvOk,wp_elim,wp_ite,Modem.wp_modify,
    wp_pure]
  intro v r hv _
  have hcv := (hw.events hv).tame (answered_tame v r)
  cases r with
  | none => exact hcv.guarded
  | some id =>
    rw [Option.elim_some]
    split
    · rename_i hid
      intro u ok hu _
      have hs := events_shrinks hu
      have hcu := hcv.events hu
      cases ok with
      | none => exact hcu.guarded.tame (refused_tame u)
      | some _ =>
        have hanswer : u.modem.answer = some id := hs.answer
        have hcreate : u.modem.asked = .create false :=
          (hs.asked.trans (events_shrinks hv).asked).trans hasked
        change Guarded (onLedger _ ⟨_,u.modem.accepted u.driver.iface.sockets⟩)
        rw [Net.accepted_create hcreate hanswer]
        exact hcu.granted hid
    · exact hcv.guarded

theorem openWith_guarded {w : NetStation} {x : Handle} (proto : Int) (hw : Guarded w)
    (hx : w.driver.iface.sockets.findSocket socketUnused = some x) :
    wp netModem.spec (openWith x proto)
      (fun r w' => Guarded (onLedger (fun l => l.grant r.2) w')) w := by
  simp only [openWith,wp_bind,Modem.wp_send,wp_ite,wp_pure]
  intro b _
  have hs := Choosing.start hw hx proto
  split
  · exact openReply_guarded x hs rfl
  · exact hs.guarded

theorem socketOpen_guarded {w : NetStation} (proto : Protocol) (hw : Guarded w) :
    wp netModem.spec (Gsm.socketOpen proto)
      (fun r w' => Guarded (onLedger (fun l => l.grant r.2) w')) w := by
  simp only [Gsm.socketOpen,Modem.wp_locked,wp_bind,wp_get,wp_elim,wp_pure]
  intro v hv
  have hgv := hw.events hv
  cases hx : v.driver.iface.sockets.findSocket socketUnused with
  | none => exact hgv
  | some x =>
    rw [Option.elim_some]
    cases proto with
    | udp => exact openWith_guarded 17 hgv hx
    | tcp => exact openWith_guarded 6 hgv hx
    | other => exact hgv

structure Acting (x : Handle) (w : NetStation) : Prop where
  guarded : Guarded w
  held : (x, w.modem.ledger.actor) ∈ w.modem.ledger.held
  acting : w.modem.ledger.acting = [(x, w.modem.ledger.actor)]

theorem Acting.tame {x : Handle} {w w' : NetStation} (h : Acting x w) (k : Tame w w') :
    Acting x w' := by
  refine ⟨h.guarded.tame k,?_,?_⟩
  · rw [k.actor,k.held]
    exact h.held
  · rw [k.acting,k.actor]
    exact h.acting

theorem Acting.events {x : Handle} {w w' : NetStation} (h : Acting x w)
    (k : netModem.Events w w') : Acting x w' := h.tame (events_tame k)

structure Emptied (x : Handle) (id : Int) (w : NetStation) : Prop where
  acting : Acting x w
  gone : w.modem.owner id = none
  closed : w.modem.closed = id
  noted : (x, w.modem.ledger.actor) ∈ w.modem.ledger.vacated

theorem Emptied.tame {x : Handle} {id : Int} {w w' : NetStation} (h : Emptied x id w)
    (k : Tame w w') : Emptied x id w' := by
  refine ⟨h.acting.tame k,?_,k.closed.trans h.closed,?_⟩
  · rcases k.owner id with ho | ho
    · exact ho.trans h.gone
    · exact ho
  · rw [k.actor]
    exact k.vacated _ h.noted

theorem Acting.emptied {x : Handle} {u : NetStation} (h : Acting x u) (id : Int) :
    Emptied x id (cleared x ⟨u.driver,u.modem.close id⟩) := by
  have hh : ∀ y, handle (cleared x ⟨u.driver,u.modem.close id⟩) y =
      if y = x then socketUnused else handle u y := fun y => handle_clear u x y _
  have hnoted : (x, u.modem.ledger.actor) ∈ u.modem.ledger.vacate.vacated := by
    rw [Ledger.vacate,h.acting]
    exact List.mem_cons_self
  have howner : ∀ {i n}, Function.update u.modem.owner id none i = some n →
      u.modem.owner i = some n := by
    intro i n hi
    by_cases hid : i = id
    · rw [hid,Function.update_self] at hi
      cases hi
    · rwa [Function.update_of_ne hid] at hi
  refine ⟨⟨fun hu => ?_,h.held,h.acting⟩,Function.update_self ..,rfl,hnoted⟩
  have hp := h.guarded ⟨hu.overtaken,hu.stolen⟩
  have hunused : Function.update u.modem.owner id none socketUnused = none := by
    by_cases hid : socketUnused = id
    · rw [hid]
      exact Function.update_self ..
    · rw [Function.update_of_ne hid]
      exact hp.unused
  refine ⟨hp.distinct,fun p hpu hcleared => ?_,fun p hpu n hn => ?_,hunused,hp.crossed⟩
  · rw [hh] at hcleared
    rcases eq_or_ne p.1 x with hpx | hpx
    · obtain rfl : p = (x, u.modem.ledger.actor) :=
        List.inj_on_of_nodup_map hp.distinct hpu h.held hpx
      exact hnoted
    · rw [if_neg hpx] at hcleared
      exact List.mem_append_right _ (hp.vacated p hpu hcleared)
  · rw [hh] at hn
    rcases eq_or_ne p.1 x with hpx | hpx
    · rw [if_pos hpx] at hn
      exact absurd (hunused.symm.trans hn) nofun
    · rw [if_neg hpx] at hn
      exact hp.owner p hpu n (howner hn)

structure Shutting (x : Handle) (w : NetStation) (ok : Bool) (w' : NetStation) : Prop where
  closed : ok = true → Emptied x (handle w x) (cleared x w')
  refused : ok = false → Acting x w'

theorem closeExchange_shutting {w : NetStation} {x : Handle} (hw : Acting x w) :
    wp netModem.spec (closeExchange x) (Shutting x w) w := by
  simp only [closeExchange,wp_bind,wp_get,Modem.wp_exchange,Modem.wp_recvOk]
  intro b _
  have hreq : Acting x { w with modem := w.modem.request (.usocl (handle w x)) } :=
    ⟨hw.guarded.addressed hw.held rfl rfl rfl,hw.held,hw.acting⟩
  split
  · intro u ok hu _
    have hau := hreq.events hu
    cases ok with
    | none => exact ⟨by rintro ⟨⟩,fun _ => hau.tame (refused_tame u)⟩
    | some _ =>
      have hasked : u.modem.asked = .close (handle w x) := (events_shrinks hu).asked
      change Shutting x w true ⟨_,u.modem.accepted u.driver.iface.sockets⟩
      rw [Net.accepted_close hasked]
      exact ⟨fun _ => hau.emptied _,by rintro ⟨⟩⟩
  · exact ⟨by rintro ⟨⟩,fun _ => hreq⟩

theorem socketClose_acting {w : NetStation} {x : Handle} (hw : Acting x w) :
    wp netModem.spec (Gsm.socketClose x) (fun _ => Acting x) w := by
  simp only [Gsm.socketClose,Modem.wp_locked,wp_bind,wp_ite,Modem.wp_modify,wp_pure]
  intro v hv
  refine wp_mono netModem.mono (fun ok u hu => ?_) (closeExchange_shutting (hw.events hv))
  cases ok with
  | false => exact hu.refused rfl
  | true => exact (hu.closed rfl).acting

theorem Emptied.rebound {u : NetStation} {x : Handle} {saved : SockCtrl} {id : Int}
    (h : Emptied x saved.modemHandle u) (hid : id ≠ socketUnused) :
    Guarded ⟨u.driver.onSockets (fun s => Function.update s x saved),
      u.modem.create u.driver.iface.sockets true id⟩ := by
  intro hc
  obtain ⟨⟨hr,-⟩,hst,hfree⟩ := Unshared.before u.modem.closed hc.overtaken hc.stolen
  have hpu := h.acting.guarded ⟨hr,hst⟩
  have hh := fun y => handle_update u x y saved u.modem
  have hx : handle ⟨u.driver.onSockets (fun s => Function.update s x saved),u.modem⟩ x =
      saved.modemHandle := (hh x).trans (if_pos rfl)
  apply hpu.filled hid hfree
  · intro y hy
    exact (hh y).trans (if_neg hy)
  · rfl
  · intro p hp
    rcases eq_or_ne p.1 x with hpx | hpx
    · right
      exact List.inj_on_of_nodup_map hpu.distinct hp h.acting.held hpx
    · exact .inl ⟨hp,hpx⟩
  · exact .inr ((congrArg u.modem.owner hx).trans h.gone)
  · exact hpu.distinct
  · intro p _ hpx hp
    have hmem : p ∈ if true && decide (u.modem.closed ≠ socketUnused) then
        u.modem.ledger.vacated.filter (fun p => p ∉ u.modem.ledger.acting)
      else u.modem.ledger.vacated := by
      split
      · refine List.mem_filter.mpr ⟨hp,decide_eq_true (fun hacting => hpx ?_)⟩
        rw [h.acting.acting,List.mem_singleton] at hacting
        rw [hacting]
      · exact hp
    exact hmem
  · intro hunused
    have hclosed : u.modem.closed = socketUnused := h.closed.trans (hx.symm.trans hunused)
    have hmem : (x, u.modem.ledger.actor) ∈ if true && decide (u.modem.closed ≠ socketUnused) then
        u.modem.ledger.vacated.filter (fun p => p ∉ u.modem.ledger.acting)
      else u.modem.ledger.vacated := by
      rw [hclosed]
      exact h.noted
    exact hmem
  · rfl

theorem reopen_guarded {w : NetStation} {x : Handle} (saved : SockCtrl) (proto : Int)
    (port : Nat) (hw : Emptied x saved.modemHandle w) :
    wp netModem.spec (reopen x saved proto port) (fun _ => Guarded) w := by
  simp only [reopen,wp_bind,Modem.wp_ask,Modem.wp_recv,Modem.wp_recvOk,wp_elim,wp_ite,
    Modem.wp_modify,wp_pure]
  intro b _
  have hreq := hw.tame (bind_tame w proto port)
  split
  · intro v r hv _
    have hav := (hreq.tame (events_tame hv)).tame (answered_tame v r)
    cases r with
    | none => exact hav.acting.guarded
    | some id =>
      rw [Option.elim_some]
      split
      · rename_i hid
        intro u ok hu _
        have hs := events_shrinks hu
        have hau := hav.tame (events_tame hu)
        cases ok with
        | none => exact hau.acting.guarded.tame (refused_tame u)
        | some _ =>
          have hanswer : u.modem.answer = some id := hs.answer
          have hcreate : u.modem.asked = .create true := hs.asked.trans (events_shrinks hv).asked
          change Guarded ⟨_,u.modem.accepted u.driver.iface.sockets⟩
          rw [Net.accepted_create hcreate hanswer]
          exact hau.rebound hid
      · exact hav.acting.guarded
  · exact hreq.acting.guarded

theorem socketBind_guarded {w : NetStation} {x : Handle} (port : Nat) (hw : Acting x w) :
    wp netModem.spec (Gsm.socketBind x port) (fun _ => Guarded) w := by
  simp only [Gsm.socketBind,Modem.wp_locked,wp_bind,wp_get,Modem.wp_ask,Modem.wp_recv,
    Modem.wp_recvOk,wp_elim,wp_ite,Modem.wp_modify,wp_pure]
  intro v₀ hv₀ b _
  have ha := hw.events hv₀
  have hreq : Acting x { v₀ with modem := v₀.modem.request (.usoctl (handle v₀ x)) } :=
    ⟨ha.guarded.addressed ha.held rfl rfl rfl,ha.held,ha.acting⟩
  split
  · intro v r hv _
    have hav := hreq.events hv
    cases r with
    | none => exact hav.guarded
    | some proto =>
      rw [Option.elim_some]
      intro u ok hu _
      have hau := hav.events hu
      have hasked : u.modem.asked = .nothing :=
        (events_shrinks hu).asked.trans (events_shrinks hv).asked
      rw [heard_nothing hasked ok]
      split
      · refine wp_mono netModem.mono (fun done t ht => ?_) (closeExchange_shutting hau)
        cases done with
        | false => exact (ht.refused rfl).guarded
        | true => exact reopen_guarded _ proto port (ht.closed rfl)
      · exact hau.guarded
  · exact hreq.guarded

theorem Guarded.release {w : NetStation} (h : Guarded w) (p : Handle × Nat) :
    Guarded (onLedger (fun l => l.release p) w) := by
  intro hu
  have hw := h ⟨hu.overtaken,hu.stolen⟩
  have hheld : w.modem.ledger.held.Nodup := hw.distinct.of_map _
  refine ⟨hw.distinct.sublist (List.Sublist.map _ List.erase_sublist),fun q hq hunused => ?_,
    fun q hq => hw.owner q (List.mem_of_mem_erase hq),hw.unused,hw.crossed⟩
  obtain ⟨hne,hq⟩ := hheld.mem_erase_iff.mp hq
  exact List.mem_filter.mpr ⟨hw.vacated q hq hunused,decide_eq_true hne⟩

theorem Guarded.enter {w : NetStation} (h : Guarded w) : Guarded (onLedger .enter w) := fun hu =>
  have hp := h ⟨hu.overtaken,hu.stolen⟩
  ⟨hp.distinct,hp.vacated,hp.owner,hp.unused,hp.crossed⟩

theorem Guarded.act {w : NetStation} {x : Handle} {n : Nat} (h : Guarded w)
    (hx : (x, n) ∈ w.modem.ledger.held) : Acting x (onLedger (fun l => l.act (x, n)) w) :=
  ⟨fun hu =>
    have hp := h ⟨hu.overtaken,hu.stolen⟩
    ⟨hp.distinct,hp.vacated,hp.owner,hp.unused,hp.crossed⟩,hx,rfl⟩

theorem owned_guarded {start w : NetStation} (hstart : Guarded start) (h : Owned start w) :
    Guarded w := by
  induction h with
  | start => exact hstart
  | opened proto _ hr ih => exact Modem.sound (socketOpen_guarded proto ih.enter) hr
  | closed _ hx hr ih => exact (Modem.sound (socketClose_acting (ih.act hx)) hr).guarded.release _
  | bound port _ hx hr ih => exact Modem.sound (socketBind_guarded port (ih.act hx)) hr
  | event _ he ih => exact ih.events (.single he)

theorem handles_distinct {baud : Int} {w : NetStation} (h : Owned (start baud) w)
    (ho : w.modem.ledger.overtaken = false) (hs : w.modem.ledger.stolen = false) :
    (w.modem.ledger.held.map Prod.fst).Nodup ∧ w.modem.ledger.crossed = false := by
  have hstart : Guarded (start baud) := fun _ =>
    ⟨.nil,by rintro p ⟨⟩,by rintro p ⟨⟩,rfl,rfl⟩
  have hw := owned_guarded hstart h ⟨ho,hs⟩
  exact ⟨hw.distinct,hw.crossed⟩

inductive Dealing where
  | openUdp
  | close (x : Handle) (n : Nat)
  | bind (x : Handle) (n : Nat)
  | drop (id : Int)

def dealt : List Dealing → NetStation → Option NetStation
  | [], w => some w
  | .openUdp :: l, w =>
    ((Gsm.socketOpen .udp).run (netModem.machine.play (allotting lowest).script) 0
      (onLedger .enter w)).bind (fun r => dealt l (onLedger (fun l => l.grant r.1.2) r.2))
  | .close x n :: l, w =>
    if (x, n) ∈ w.modem.ledger.held then
      ((Gsm.socketClose x).run (netModem.machine.play (allotting lowest).script) 0
        (onLedger (fun l => l.act (x, n)) w)).bind
          (fun r => dealt l (onLedger (fun l => l.release (x, n)) r.2))
    else none
  | .bind x n :: l, w =>
    if (x, n) ∈ w.modem.ledger.held then
      ((Gsm.socketBind x 5000).run (netModem.machine.play (allotting lowest).script) 0
        (onLedger (fun l => l.act (x, n)) w)).bind (fun r => dealt l r.2)
    else none
  | .drop id :: l, w => if w.modem.owner id = none then none else dealt l (dropped id w)

theorem dealt_owned {l : List Dealing} {u v w : NetStation} (hw : Owned u w)
    (hd : dealt l w = some v) : Owned u v := by
  induction l generalizing w with
  | nil =>
    obtain rfl : w = v := Option.some.inj hd
    exact hw
  | cons a l ih =>
    cases a with
    | openUdp =>
      obtain ⟨r,hr,hd⟩ := Option.bind_eq_some_iff.mp hd
      exact ih (.opened .udp hw ((allotting_fair lowest).runs hr)) hd
    | close x n =>
      obtain ⟨hx,hd⟩ := Option.ite_none_right_eq_some.mp hd
      obtain ⟨r,hr,hd⟩ := Option.bind_eq_some_iff.mp hd
      exact ih (.closed hw hx ((allotting_fair lowest).runs hr)) hd
    | bind x n =>
      obtain ⟨hx,hd⟩ := Option.ite_none_right_eq_some.mp hd
      obtain ⟨r,hr,hd⟩ := Option.bind_eq_some_iff.mp hd
      exact ih (.bound 5000 hw hx ((allotting_fair lowest).runs hr)) hd
    | drop id =>
      obtain ⟨h,hd⟩ := Option.ite_none_left_eq_some.mp hd
      exact ih (Modem.events_keep (dropped_events h) hw (fun _ _ => .event)) hd

def orderly : List Dealing :=
  [.openUdp,.openUdp,.bind 1 1,.drop 0,.close 0 0,.openUdp]

theorem handles_distinct_two : ∃ w : NetStation, Owned (start 115200) w ∧
    dealt orderly (start 115200) = some w ∧ w.modem.ledger.held = [(0, 2),(1, 1)] ∧
    (w.modem.ledger.held.map Prod.fst).Nodup ∧ w.modem.ledger.crossed = false := by
  have hrun : (dealt orderly (start 115200)).map (fun w => (w.modem.ledger.held,
      w.modem.ledger.overtaken, w.modem.ledger.stolen)) =
      some ([(0, 2),(1, 1)], false, false) := by decide +kernel
  obtain ⟨w,hw,he⟩ := Option.map_eq_some_iff.mp hrun
  simp only [Prod.mk.injEq] at he
  obtain ⟨hheld,hovertaken,hstolen⟩ := he
  have hr : Owned (start 115200) w := dealt_owned .start hw
  exact ⟨w,hr,hw,hheld,handles_distinct hr hovertaken hstolen⟩

theorem handle_granted_twice : ¬ ∀ w : NetStation, Owned (start 115200) w →
    (w.modem.ledger.held.map Prod.fst).Nodup := by
  intro hall
  have hrun : (dealt [.openUdp,.drop 0,.openUdp] (start 115200)).map
      (fun w => w.modem.ledger.held) = some [(0, 1), (0, 0)] := by decide
  obtain ⟨w,hw,hheld⟩ := Option.map_eq_some_iff.mp hrun
  have hdistinct := hall w (dealt_owned .start hw)
  rw [hheld] at hdistinct
  exact absurd hdistinct (by decide)

end NetStation

end UbloxCellular.Gsm
