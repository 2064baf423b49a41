import UbloxCellular.Driver.Modem
import UbloxCellular.N2xx.Interface

namespace UbloxCellular.N2xx
open Interaction Code

@[simp] theorem wp_get {X : Type} {M : Modem sig X} {w : Station sig X}
    (Q : Driver → Station sig X → Prop) :
    @wp (Locked (Eff sig)) _ M.spec Driver get Q w ↔ Q w.driver w := @Modem.wp_get sig X M w Q

inductive Phase where
  | idle
  | asked (k : Nat)
  | missed
  | answered (k r : Nat) (failed : Bool)
  deriving DecidableEq, Repr

-- The datagrams that one socket of the modem holds, the +NSONMI still on the wire, the bytes
-- announced to the driver and returned by AT+NSORF so far, and how far the present AT+NSORF is.
structure Mailbox where
  queue : List Nat
  urcs : List Nat
  announced : Nat
  returned : Nat
  phase : Phase
  uneven : Bool
  flooded : Bool
  deriving DecidableEq, Repr

def takeFirst (r : Nat) : List Nat → List Nat
  | [] => []
  | n :: rest => if n ≤ r then rest else (n - r) :: rest

namespace Mailbox

def opened : Mailbox := ⟨[],[],0,0,.idle,false,false⟩

def Clean (m : Mailbox) : Prop := m.uneven = false ∧ m.flooded = false

def arrive (m : Mailbox) (n : Nat) : Mailbox :=
  { m with queue := m.queue ++ [n], urcs := m.urcs ++ [n] }

def deliver (m : Mailbox) (n : Nat) (rest : List Nat) : Mailbox :=
  { m with
    urcs := rest
    announced := m.announced + n
    flooded := m.flooded || decide (m.returned + 2 ^ 32 ≤ m.announced + n) }

def ask (m : Mailbox) (k : Nat) (sent : Bool) : Mailbox :=
  { m with phase := if sent then .asked k else .idle, uneven := m.uneven || !sent }

def header (m : Mailbox) (reply : Option Nat) : Mailbox :=
  match m.phase with
  | .asked k => reply.elim { m with phase := .missed } (fun r =>
      { m with queue := takeFirst r m.queue, returned := m.returned + r,
               phase := .answered k r false })
  | _ => m

def remaining (m : Mailbox) (ok : Bool) : Mailbox :=
  match m.phase with
  | .answered k r _ => { m with phase := .answered k r !ok }
  | _ => m

def finish (m : Mailbox) (ok : Bool) : Mailbox :=
  match m.phase with
  | .idle => m
  | .asked _ => { m with phase := .idle }
  | .missed => { m with phase := .idle, uneven := m.uneven || ok }
  | .answered k r failed =>
    { m with phase := .idle
             uneven := m.uneven || decide (r ≠ if !failed && ok then k else 0) }

end Mailbox

inductive MailEvent (id : Int) : Mailbox → Driver → Mailbox → Driver → Prop
  | arrive (m : Mailbox) (d : Driver) (n : Nat) : MailEvent id m d (m.arrive n) d
  | deliver (m : Mailbox) (d : Driver) {n : Nat} {rest : List Nat} : m.urcs = n :: rest →
      MailEvent id m d (m.deliver n rest) ((Urc.nsonmi id n).handle d)
  | other (m : Mailbox) (d : Driver) (h n : Int) : h ≠ id →
      MailEvent id m d m ((Urc.nsonmi h n).handle d)

def mailModem (id : Int) : Modem sig Mailbox where
  event := MailEvent id
  allow
    | _, .recv .nsorf, m, _, b => ∀ k, m.phase = .asked k → ∀ r, b = some r →
        ∃ n rest, m.queue = n :: rest ∧ 0 ≤ r.2.2.2 ∧ r.2.2.2 ≤ min k n
    | _, _, _, _, _ => True
  next
    | _, .send (.nsorf h k), m, _, b => if h = id then m.ask k.toNat b else m
    | _, .recv .nsorf, m, _, b => m.header (b.map (fun r => r.2.2.2.toNat))
    | _, .recv .remaining, m, _, b => m.remaining b.isSome
    | _, .recv .ok, m, _, b => m.finish b.isSome
    | _, _, m, _, _ => m

abbrev MailStation := Station sig Mailbox

namespace MailStation

variable {id : Int} {x : Handle}

def slot (x : Handle) (w : MailStation) : SockCtrl := w.driver.iface.sockets x

def Owns (id : Int) (x : Handle) (s : Sockets) : Prop := ∀ y, (s y).modemHandle = id ↔ y = x

theorem Owns.sole {s : Sockets} (h : Owns id x s) : s.Sole id x := h

theorem Owns.announced {s : Sockets} (h : Owns id x s) (a n : Int) :
    Owns id x (announced a n s) := by
  rw [N2xx.announced]
  cases s.findSocket a with
  | none => exact h
  | some y => exact h.sole.setPending y _

theorem Owns.announced_self {s : Sockets} (h : Owns id x s) (n : Int) :
    (N2xx.announced id n s x).pending = addU (s x).pending (toUnsigned n) := by
  rw [N2xx.announced,h.sole.find,Option.elim_some,Sockets.setPending_pending,if_pos rfl]

theorem Owns.announced_other {s : Sockets} (h : Owns id x s) {a : Int} (ha : a ≠ id) (n : Int) :
    (N2xx.announced a n s x).pending = (s x).pending := by
  rw [N2xx.announced]
  cases hf : s.findSocket a with
  | none => rfl
  | some y =>
    rw [Option.elim_some,Sockets.setPending_pending,if_neg (h.sole.find_other ha hf).symm]

-- What the slot's counter must be while spent of the bytes returned are still to be
-- subtracted from it; due of the bytes announced are known to cover that subtraction.
structure Ledger (spent due : Nat) (m : Mailbox) (pending : Nat) : Prop where
  pending : pending = (m.announced + spent - m.returned) % 2 ^ 32
  due : m.returned + due ≤ m.announced + spent
  bound : m.announced < m.returned + 2 ^ 32

theorem Ledger.deliver {spent due n pending : Nat} {m : Mailbox} {rest : List Nat}
    (h : Ledger spent due m pending) (hn : (m.deliver n rest).flooded = false) :
    Ledger spent due (m.deliver n rest) (addU pending (toUnsigned n)) := by
  have hlt : ¬ m.returned + 2 ^ 32 ≤ m.announced + n :=
    of_decide_eq_false (Bool.or_eq_false_iff.mp hn).2
  have hp := h.pending
  have hd := h.due
  have hsum : (m.deliver n rest).announced = m.announced + n := rfl
  have hret : (m.deliver n rest).returned = m.returned := rfl
  constructor
  · rw [hsum,hret,hp]
    rw [addU,toUnsigned]
    omega
  · rw [hsum,hret]
    omega
  · rw [hsum,hret]
    omega

theorem Ledger.subtract {k pending : Nat} {m : Mailbox} (h : Ledger k k m pending) :
    Ledger 0 0 m (subU pending k) := by
  have hp := h.pending
  have hd := h.due
  refine ⟨?_,by omega,h.bound⟩
  rw [hp]
  rw [subU]
  omega

theorem Ledger.settled {pending : Nat} {m : Mailbox} (h : Ledger 0 0 m pending) :
    pending + m.returned = m.announced := by
  have hp := h.pending
  have hd := h.due
  have hb := h.bound
  omega

structure Balanced (id : Int) (x : Handle) (phase : Phase) (spent due : Nat)
    (w : MailStation) : Prop where
  owns : Owns id x w.driver.iface.sockets
  phase : w.modem.phase = phase
  total : w.modem.announced + w.modem.urcs.sum = w.modem.returned + w.modem.queue.sum
  ledger : w.modem.Clean → Ledger spent due w.modem (slot x w).pending

section Events
variable {m : Mailbox} {d : Driver} {phase : Phase} {spent due : Nat}

theorem Balanced.arrive (h : Balanced id x phase spent due ⟨d,m⟩) (n : Nat) :
    Balanced id x phase spent due ⟨d,m.arrive n⟩ := by
  refine ⟨h.owns,h.phase,?_,fun hc => ?_⟩
  · have ht : m.announced + m.urcs.sum = m.returned + m.queue.sum := h.total
    change m.announced + (m.urcs ++ [n]).sum = m.returned + (m.queue ++ [n]).sum
    rw [List.sum_append,List.sum_append]
    omega
  · have hl := h.ledger hc
    exact ⟨hl.pending,hl.due,hl.bound⟩

theorem Balanced.deliver (h : Balanced id x phase spent due ⟨d,m⟩) {n : Nat} {rest : List Nat}
    (hu : m.urcs = n :: rest) :
    Balanced id x phase spent due ⟨(Urc.nsonmi id n).handle d,m.deliver n rest⟩ := by
  refine ⟨h.owns.announced _ _,h.phase,?_,fun hc => ?_⟩
  · have ht : m.announced + m.urcs.sum = m.returned + m.queue.sum := h.total
    rw [hu,List.sum_cons] at ht
    change m.announced + n + rest.sum = m.returned + m.queue.sum
    omega
  · have hflood : m.flooded = false := (Bool.or_eq_false_iff.mp hc.2).1
    have hp : (slot x ⟨(Urc.nsonmi id n).handle d,m.deliver n rest⟩).pending =
        addU (d.iface.sockets x).pending (toUnsigned n) := h.owns.announced_self n
    rw [hp]
    exact (h.ledger ⟨hc.1,hflood⟩).deliver hc.2

theorem Balanced.other (h : Balanced id x phase spent due ⟨d,m⟩) {a : Int} (ha : a ≠ id)
    (n : Int) : Balanced id x phase spent due ⟨(Urc.nsonmi a n).handle d,m⟩ := by
  refine ⟨h.owns.announced _ _,h.phase,h.total,fun hc => ?_⟩
  have hp : (slot x ⟨(Urc.nsonmi a n).handle d,m⟩).pending = (d.iface.sockets x).pending :=
    h.owns.announced_other ha n
  rw [hp]
  exact h.ledger hc

end Events

theorem event_balanced {u v : MailStation} {phase : Phase} {spent due : Nat}
    (h : Balanced id x phase spent due u) (he : MailEvent id u.modem u.driver v.modem v.driver) :
    Balanced id x phase spent due v := by
  obtain ⟨d,m⟩ := u
  obtain ⟨d',m'⟩ := v
  cases he with
  | arrive n => exact h.arrive n
  | deliver hu => exact h.deliver hu
  | other a n ha => exact h.other ha n

theorem events_balanced {u v : MailStation} {phase : Phase} {spent due : Nat}
    (h : Balanced id x phase spent due u) (he : (mailModem id).Events u v) :
    Balanced id x phase spent due v :=
  Modem.events_keep he h (fun _ _ hu huv => event_balanced hu huv)

theorem takeFirst_sum {n r : Nat} {rest : List Nat} (h : r ≤ n) :
    r + (takeFirst r (n :: rest)).sum = (n :: rest).sum := by
  change r + (if n ≤ r then rest else (n - r) :: rest).sum = _
  split
  · rw [List.sum_cons]
    omega
  · rw [List.sum_cons,List.sum_cons]
    omega

section Exchange
variable {w : MailStation} {k r : Nat} {failed : Bool}

theorem Balanced.due_zero {phase : Phase} (h : Balanced id x phase 0 k w) :
    Balanced id x phase 0 0 w := by
  refine ⟨h.owns,h.phase,h.total,fun hc => ⟨(h.ledger hc).pending,?_,(h.ledger hc).bound⟩⟩
  have := (h.ledger hc).due
  omega

theorem Balanced.ask (h : Balanced id x .idle 0 k w) :
    Balanced id x (.asked k) 0 k { w with modem := w.modem.ask k true } := by
  refine ⟨h.owns,rfl,h.total,fun hc => ?_⟩
  have hl := h.ledger ⟨(Bool.or_eq_false_iff.mp hc.1).1,hc.2⟩
  exact ⟨hl.pending,hl.due,hl.bound⟩

theorem Balanced.unsent (h : Balanced id x .idle 0 k w) (spent due : Nat) :
    Balanced id x .idle spent due { w with modem := w.modem.ask k false } :=
  ⟨h.owns,rfl,h.total,fun hc => absurd (Bool.or_eq_false_iff.mp hc.1).2 (by rintro ⟨⟩)⟩

theorem Balanced.header_none (h : Balanced id x (.asked k) 0 k w) :
    Balanced id x .missed 0 0 { w with modem := w.modem.header none } := by
  have hm : w.modem.header none = { w.modem with phase := .missed } := by
    rw [Mailbox.header,h.phase]
    rfl
  rw [hm]
  refine ⟨h.owns,rfl,h.total,fun hc => ?_⟩
  have hl := h.due_zero.ledger hc
  exact ⟨hl.pending,hl.due,hl.bound⟩

theorem Balanced.header_some {n : Nat} {rest : List Nat} (h : Balanced id x (.asked k) 0 k w)
    (hq : w.modem.queue = n :: rest) (hr : r ≤ n) :
    Balanced id x (.answered k r false) r k { w with modem := w.modem.header (some r) } := by
  have hm : w.modem.header (some r) = { w.modem with
      queue := takeFirst r w.modem.queue, returned := w.modem.returned + r,
      phase := .answered k r false } := by
    rw [Mailbox.header,h.phase]
    rfl
  rw [hm]
  refine ⟨h.owns,rfl,?_,fun hc => ?_⟩
  · have ht := h.total
    have hs : r + (takeFirst r (n :: rest)).sum = (n :: rest).sum := takeFirst_sum hr
    rw [hq] at ht
    change w.modem.announced + w.modem.urcs.sum =
      w.modem.returned + r + (takeFirst r w.modem.queue).sum
    rw [hq]
    omega
  · have hl := h.ledger hc
    have hd := hl.due
    have hb := hl.bound
    refine ⟨?_,?_,?_⟩
    · change _ = (w.modem.announced + r - (w.modem.returned + r)) % 2 ^ 32
      rw [Nat.add_sub_add_right]
      exact hl.pending
    · change w.modem.returned + r + k ≤ w.modem.announced + r
      omega
    · change w.modem.announced < w.modem.returned + r + 2 ^ 32
      omega

theorem Balanced.remaining (h : Balanced id x (.answered k r failed) r k w) (ok : Bool) :
    Balanced id x (.answered k r !ok) r k { w with modem := w.modem.remaining ok } := by
  have hm : w.modem.remaining ok = { w.modem with phase := .answered k r !ok } := by
    rw [Mailbox.remaining,h.phase]
  rw [hm]
  refine ⟨h.owns,rfl,h.total,fun hc => ?_⟩
  exact ⟨(h.ledger hc).pending,(h.ledger hc).due,(h.ledger hc).bound⟩

def owed (k : Nat) (size : Int) : Nat := if 0 ≤ size then k else 0

theorem Balanced.finish_missed (h : Balanced id x .missed 0 0 w) (ok : Bool) {size : Int}
    (hs : ok = false → size < 0) :
    Balanced id x .idle (owed k size) (owed k size) { w with modem := w.modem.finish ok } := by
  have hm : w.modem.finish ok = { w.modem with
      phase := .idle, uneven := w.modem.uneven || ok } := by
    rw [Mailbox.finish,h.phase]
  rw [hm]
  refine ⟨h.owns,rfl,h.total,fun hc => ?_⟩
  obtain ⟨heven,hok⟩ := Bool.or_eq_false_iff.mp hc.1
  have hz : owed k size = 0 := if_neg (Int.not_le.mpr (hs hok))
  rw [hz]
  have hl := h.ledger ⟨heven,hc.2⟩
  exact ⟨hl.pending,hl.due,hl.bound⟩

theorem Balanced.finish_answered (h : Balanced id x (.answered k r failed) r k w) (ok : Bool)
    {size : Int} (hs : if !failed && ok then 0 ≤ size else size < 0) :
    Balanced id x .idle (owed k size) (owed k size) { w with modem := w.modem.finish ok } := by
  have hm : w.modem.finish ok = { w.modem with
      phase := .idle
      uneven := w.modem.uneven || decide (r ≠ if !failed && ok then k else 0) } := by
    rw [Mailbox.finish,h.phase]
  rw [hm]
  refine ⟨h.owns,rfl,h.total,fun hc => ?_⟩
  obtain ⟨heven,hr⟩ := Bool.or_eq_false_iff.mp hc.1
  have hr := Decidable.not_not.mp (of_decide_eq_false hr)
  have howed : owed k size = r := by
    rw [owed]
    split at hs
    · rename_i hgood
      rw [if_pos hs,hr,if_pos hgood]
    · rename_i hbad
      rw [if_neg (Int.not_le.mpr hs),hr,if_neg hbad]
  rw [howed]
  have hl := h.ledger ⟨heven,hc.2⟩
  refine ⟨hl.pending,?_,hl.bound⟩
  have hd := hl.due
  have hk : r ≤ k := by
    rw [← howed]
    rw [owed]
    split
    · exact Nat.le_refl k
    · exact Nat.zero_le k
  exact Nat.le_trans (Nat.add_le_add_left hk _) hd

end Exchange

section Receive
variable {w : MailStation} {k r : Nat}

theorem receiveBody_answered {reply : Int × String × Int × Int}
    (h : Balanced id x (.answered k r false) r k w) (hr : reply.2.2.2 = r) :
    wp (mailModem id).spec (receiveBody reply) (fun got v => ∃ failed : Bool,
      Balanced id x (.answered k r failed) r k v ∧
      if failed then got.size < 0 else 0 ≤ got.size) w := by
  have hsize : 0 ≤ reply.2.2.2 := hr ▸ Int.natCast_nonneg r
  simp only [receiveBody,wp_bind,wp_ite,wp_pure]
  rw [Modem.wp_asks rfl]
  intro _ _
  rw [Modem.wp_asks rfl]
  intro read _
  split
  · rw [Modem.wp_inside rfl]
    intro tail
    rw [Modem.wp_recv]
    intro v b hv _
    have hv' : Balanced id x (.answered k r false) r k v := events_balanced h hv
    refine ⟨!b.isSome,hv'.remaining b.isSome,?_⟩
    cases b with
    | none => exact (by decide : NsapiError.deviceError < 0)
    | some rest => exact hsize
  · exact ⟨false,h,hsize⟩

theorem receiveReply_balanced (size : Int) (h : Balanced id x (.asked k) 0 k w) :
    wp (mailModem id).spec (receiveReply size) (fun got v =>
      Balanced id x .idle (owed k got.size) (owed k got.size) v) w := by
  simp only [receiveReply,wp_bind,wp_ite,wp_pure,Modem.wp_recv,Modem.wp_recvOk]
  intro v b hv hb
  have hv' : Balanced id x (.asked k) 0 k v := events_balanced h hv
  cases b with
  | none =>
    intro u ok hu _
    have hu' : Balanced id x .missed 0 0 u := events_balanced hv'.header_none hu
    cases ok with
    | none => exact hu'.finish_missed false (fun _ => (by decide : NsapiError.deviceError < 0))
    | some _ => exact hu'.finish_missed true (by rintro ⟨⟩)
  | some reply =>
    obtain ⟨n,rest,hq,hpos,hle⟩ := hb k hv'.phase reply rfl
    have hr : reply.2.2.2 = (reply.2.2.2.toNat : Int) := (Int.toNat_of_nonneg hpos).symm
    have hn : reply.2.2.2.toNat ≤ n := by omega
    refine wp_mono (mailModem id).mono (fun got u hu => ?_)
      (receiveBody_answered (hv'.header_some hq hn) hr)
    obtain ⟨failed,hu,hgot⟩ := hu
    intro t ok ht _
    have ht' := events_balanced hu ht
    cases ok with
    | none =>
      refine ht'.finish_answered false ?_
      rw [Bool.and_false]
      exact (by decide : NsapiError.deviceError < 0)
    | some _ =>
      refine ht'.finish_answered true ?_
      cases failed with
      | false => exact hgot
      | true => exact hgot

theorem receivefrom_balanced (h : Balanced id x .idle 0 k w) :
    wp (mailModem id).spec (receivefrom id k) (fun got v =>
      Balanced id x .idle (owed k got.size) (owed k got.size) v) w := by
  have hzero : Balanced id x .idle 0 0 w := h.due_zero
  simp only [receivefrom,wp_bind,wp_ite,wp_pure]
  split
  · exact hzero
  rw [Modem.wp_asks rfl]
  intro enough _
  split
  · rw [Modem.wp_inside rfl]
    intro size
    rw [Modem.wp_locked]
    intro v hv
    have hv' : Balanced id x .idle 0 k v := events_balanced h hv
    rw [wp_bind,Modem.wp_send]
    intro sent _
    have hnext : (mailModem id).next (.send (.nsorf id k)) v.modem v.driver sent =
        v.modem.ask k sent := if_pos rfl
    rw [hnext,wp_ite]
    cases sent with
    | false => exact hv'.unsent _ _
    | true => exact receiveReply_balanced size hv'.ask
  · exact hzero

def elsewhere (id : Int) (x : Handle) : (mailModem id).Kept where
  pre := Balanced id x .idle 0 0
  rel u v := Balanced id x .idle 0 0 u → Balanced id x .idle 0 0 v
  refl _ h := h
  trans _ _ _ h k hu := k (h hu)
  keep _ _ h hu := h hu
  event _ _ _ he hu := event_balanced hu he

instance elsewhere_recv {β : Type} (p : Pat β) :
    (elsewhere id x).frame.Keeps (recv p : N2xxCode (Option β)) := by
  refine Modem.Kept.keeps_act rfl (fun w b hw _ => ?_)
  have hi : w.modem.phase = .idle := hw.phase
  have hm : (mailModem id).next (.recv p) w.modem w.driver b = w.modem := by
    cases p with
    | nsorf =>
      change w.modem.header _ = _
      rw [Mailbox.header,hi]
    | remaining =>
      change w.modem.remaining _ = _
      rw [Mailbox.remaining,hi]
    | ok =>
      change w.modem.finish _ = _
      rw [Mailbox.finish,hi]
    | _ => rfl
  rw [hm]
  exact (elsewhere id x).refl w

instance elsewhere_inside {β : Type} {e : Eff sig β} [h : Fact (e.inside = true)] :
    (elsewhere id x).frame.Keeps (act e) :=
  ⟨fun w _ => (Modem.wp_inside h.out _).mpr (fun _ => (elsewhere id x).refl w)⟩

instance elsewhere_asks {β : Type} {e : Eff sig β} [h : Fact (e.asks = true)] :
    (elsewhere id x).frame.Keeps (act e) := by
  refine ⟨fun w _ => (Modem.wp_asks h.out _).mpr (fun b _ => ?_)⟩
  have hm : (mailModem id).next e w.modem w.driver b = w.modem := by
    have ha := h.out
    cases e <;> first | rfl | cases ha
  rw [hm]
  exact (elsewhere id x).refl w

instance elsewhere_body (reply : Int × String × Int × Int) :
    (elsewhere id x).frame.Keeps (receiveBody reply) := by
  rw [receiveBody]
  infer_instance

theorem receivefrom_elsewhere {h : Int} (hh : h ≠ id) (n : Nat) :
    (elsewhere id x).frame.Keeps (receivefrom h n) := by
  have hlock : (elsewhere id x).frame.Keeps lock := Modem.Kept.keeps_lock
  have hunlock : (elsewhere id x).frame.Keeps unlock := Modem.Kept.keeps_unlock
  have hsend : (elsewhere id x).frame.Keeps (send (.nsorf h n) : N2xxCode Bool) := by
    refine Modem.Kept.keeps_act rfl (fun w b _ _ => ?_)
    have hm : (mailModem id).next (.send (.nsorf h n)) w.modem w.driver b = w.modem := if_neg hh
    rw [hm]
    exact (elsewhere id x).refl w
  have hreply : ∀ size, (elsewhere id x).frame.Keeps (receiveReply size) := by
    intro size
    rw [receiveReply]
    infer_instance
  simp only [receivefrom]
  infer_instance

theorem Balanced.cover (h : Balanced id x .idle 0 0 w) (hk : k ≤ (slot x w).pending) :
    Balanced id x .idle 0 k w := by
  refine ⟨h.owns,h.phase,h.total,fun hc => ?_⟩
  have hl := h.ledger hc
  have hs := hl.settled
  refine ⟨hl.pending,?_,hl.bound⟩
  omega

theorem Balanced.subtract (h : Balanced id x .idle k k w) :
    Balanced id x .idle 0 0 { w with driver := w.driver.onSockets (fun s =>
      s.setPending x (subU (s x).pending k)) } := by
  refine ⟨h.owns.sole.setPending _ _,h.phase,h.total,fun hc => ?_⟩
  have hp : (slot x { w with driver := w.driver.onSockets (fun s =>
      s.setPending x (subU (s x).pending k)) }).pending = subU (slot x w).pending k :=
    (Sockets.setPending_pending _ x x _).trans (if_pos rfl)
  rw [hp]
  exact (h.ledger hc).subtract

theorem Balanced.subtract_other (h : Balanced id x .idle 0 0 w) {y : Handle} (hy : y ≠ x)
    (n : Nat) : Balanced id x .idle 0 0 { w with driver := w.driver.onSockets (fun s =>
      s.setPending y (subU (s y).pending n)) } := by
  refine ⟨h.owns.sole.setPending _ _,h.phase,h.total,fun hc => ?_⟩
  have hp : (slot x { w with driver := w.driver.onSockets (fun s =>
      s.setPending y (subU (s y).pending n)) }).pending = (slot x w).pending :=
    (Sockets.setPending_pending _ x y _).trans (if_neg (Ne.symm hy))
  rw [hp]
  exact h.ledger hc

theorem recvBlock_balanced {y : Handle} (s : RecvState) (h : Balanced id x .idle 0 0 w)
    (hk : k ≤ (slot y w).pending) :
    wp (mailModem id).spec (recvBlock y (slot y w).modemHandle k s)
      (fun _ v => Balanced id x .idle 0 0 v) w := by
  simp only [recvBlock,wp_bind,wp_ite,wp_pure]
  rw [Modem.wp_asks rfl]
  intro enough _
  split
  · rcases eq_or_ne y x with rfl | hy
    · have hid : (slot y w).modemHandle = id := (h.owns y).mpr rfl
      rw [hid]
      refine wp_mono (mailModem id).mono (fun got v hv => ?_) (receivefrom_balanced (h.cover hk))
      split
      · rename_i hpos
        have howed : owed k got.size = k := if_pos hpos
        rw [howed] at hv
        rw [Modem.wp_inside rfl]
        intro rest
        rw [Modem.wp_modify]
        exact hv.subtract
      · rename_i hneg
        have howed : owed k got.size = 0 := if_neg hneg
        rw [howed] at hv
        exact hv
    · have hid : (slot y w).modemHandle ≠ id := fun he => hy ((h.owns y).mp he)
      have hkeep := (receivefrom_elsewhere (x := x) hid k).run w h
      refine wp_mono (mailModem id).mono (fun got v hv => ?_) hkeep
      have hv' : Balanced id x .idle 0 0 v := hv h
      split
      · rw [Modem.wp_inside rfl]
        intro rest
        rw [Modem.wp_modify]
        exact hv'.subtract_other hy k
      · exact hv'
  · exact h

theorem recvWait_balanced (s : RecvState) (h : Balanced id x .idle 0 0 w) :
    wp (mailModem id).spec (recvWait s) (fun _ v => Balanced id x .idle 0 0 v) w := by
  simp only [recvWait,recvUnnatural,wp_bind,wp_ite,wp_pure]
  rw [Modem.wp_asks rfl]
  intro ms _
  split
  · rw [Modem.wp_recv]
    intro v b hv _
    exact events_balanced h hv
  · exact h

theorem recvIteration_balanced (t : Int) (y : Handle) (s : RecvState)
    (h : Balanced id x .idle 0 0 w) :
    wp (mailModem id).spec (recvIteration t y s) (fun _ v => Balanced id x .idle 0 0 v) w := by
  simp only [recvIteration,wp_bind,wp_ite,wp_elim,wp_pure,Modem.wp_lock,Modem.wp_unlock,
    Modem.wp_atSetTimeout,wp_get]
  intro v hv
  have hv' : Balanced id x .idle 0 0 v := events_balanced h hv
  split
  · refine wp_mono (mailModem id).mono (fun r u hu => ?_)
      (recvBlock_balanced s hv' (Nat.min_le_left _ _))
    cases r <;> exact hu
  · exact recvWait_balanced s hv'

theorem socketRecvfrom_balanced (y : Handle) (size : UInt32) (h : Balanced id x .idle 0 0 w) :
    wp (mailModem id).spec (socketRecvfrom y size) (fun _ v => Balanced id x .idle 0 0 v) w := by
  simp only [socketRecvfrom,recvLoop,wp_bind,wp_pure,Modem.wp_atTimeout]
  intro t
  rw [Modem.wp_inside rfl]
  intro _
  refine wp_iterate (fun _ v => Balanced id x .idle 0 0 v) h (fun s v hv => ?_)
  rw [wp_ite]
  split
  · refine wp_mono (mailModem id).mono (fun r u hu => ?_) (recvIteration_balanced t y s hv)
    cases r <;> exact hu
  · exact hv

end Receive

abbrev Receiving (id : Int) (start w : MailStation) : Prop :=
  (mailModem id).Reached (fun o : Handle × UInt32 => void (socketRecvfrom o.1 o.2))
    (fun _ _ => True) start w

theorem pending_conserved {d : Driver} {w : MailStation} (ho : Owns id x d.iface.sockets)
    (hz : (d.iface.sockets x).pending = 0) (h : Receiving id ⟨d,.opened⟩ w)
    (hc : w.modem.Clean) :
    (slot x w).pending + w.modem.returned = w.modem.announced ∧
    ((slot x w).pending = 0 → w.modem.queue.sum = w.modem.urcs.sum) := by
  have hstart : Balanced id x .idle 0 0 ⟨d,.opened⟩ := by
    refine ⟨ho,rfl,rfl,fun _ => ⟨hz,Nat.le_refl _,?_⟩⟩
    exact (by decide : 0 < 0 + 2 ^ 32)
  have hw : Balanced id x .idle 0 0 w := by
    refine h.keeps hstart (fun u o hu _ => ?_) (fun u v hu he => event_balanced hu he)
    simp only [Modem.wp_void]
    exact socketRecvfrom_balanced o.1 o.2 hu
  have hsettled := (hw.ledger hc).settled
  have htotal := hw.total
  refine ⟨hsettled,fun hp => ?_⟩
  omega

def reply (m : Mailbox) : Option (Int × String × Int × Int) :=
  match m.phase, m.queue with
  | .asked k, n :: _ => some (0, "10.0.0.2", 7, (min k n : Nat))
  | _, _ => none

def prompt : Modem.Peer sig Mailbox where
  send _ _ := true
  recv
    | _, .nsorf, w => some (reply w.modem, w)
    | _, .remaining, w => some (some "0", w)
    | _, .ok, w => some (some (), w)
    | _, _, _ => none
  ask
    | _, .read _ size, _ => some (size, [])
    | _, .malloc _ _, _ => some true
    | _, .setIpAddress _, _ => some true
    | _, _, _ => none

theorem prompt_fair : prompt.Fair (mailModem id) where
  send _ _ := trivial
  recv := by
    intro β p w b v h
    cases p
    case nsorf =>
      cases h
      refine ⟨.refl,fun k hk r hr => ?_⟩
      rw [reply,hk] at hr
      cases hq : w.modem.queue with
      | nil =>
        rw [hq] at hr
        cases hr
      | cons n rest =>
        rw [hq] at hr
        cases hr
        exact ⟨n,rest,rfl,Int.natCast_nonneg _,Int.le_refl _⟩
    all_goals cases h
    all_goals exact ⟨.refl,trivial⟩
  ask := by
    intro β e w b h
    cases e <;> trivial

def listening : Driver := Driver.initial.onSockets (fun s =>
  Function.update s 0 { SockCtrl.cleared with modemHandle := 0 })

def start : MailStation := ⟨listening,.opened⟩

theorem listening_owns : Owns 0 0 listening.iface.sockets := by
  rw [Owns]
  decide

def told (n : Nat) (w : MailStation) : MailStation :=
  ⟨(Urc.nsonmi 0 n).handle w.driver,(w.modem.arrive n).deliver n []⟩

theorem told_receiving {w : MailStation} (h : Receiving 0 start w) (hu : w.modem.urcs = [])
    (n : Nat) : Receiving 0 start (told n w) := by
  have harrive : Receiving 0 start ⟨w.driver,w.modem.arrive n⟩ := .event h (.arrive _ _ n)
  refine .event harrive (.deliver _ _ ?_)
  change w.modem.urcs ++ [n] = [n]
  rw [hu,List.nil_append]

abbrev played (size : UInt32) (w : MailStation) : Option (Unit × MailStation) :=
  (void (socketRecvfrom 0 size)).run ((mailModem 0).machine.play prompt.script) 3 w

theorem pending_conserved_one : ∃ w : MailStation, Receiving 0 start w ∧ w.modem.Clean ∧
    (slot 0 w).pending = 7 ∧ w.modem.returned = 10 ∧ w.modem.announced = 17 ∧
    (slot 0 w).pending + w.modem.returned = w.modem.announced ∧
    ((slot 0 w).pending = 0 → w.modem.queue.sum = w.modem.urcs.sum) := by
  have hrun : (played 100 (told 10 start)).map (fun r =>
      (r.2.modem.urcs, (told 7 r.2).modem.uneven, (told 7 r.2).modem.flooded,
        (slot 0 (told 7 r.2)).pending, (told 7 r.2).modem.returned,
        (told 7 r.2).modem.announced)) = some ([], false, false, 7, 10, 17) := by decide
  obtain ⟨r,hr,he⟩ := Option.map_eq_some_iff.mp hrun
  simp only [Prod.mk.injEq] at he
  obtain ⟨hurcs,huneven,hflooded,hpending,hreturned,hannounced⟩ := he
  have hread : Receiving 0 start r.2 :=
    .call (0, 100) (told_receiving .start rfl 10) trivial (prompt_fair.runs hr)
  have hw : Receiving 0 start (told 7 r.2) := told_receiving hread hurcs 7
  exact ⟨told 7 r.2,hw,⟨huneven,hflooded⟩,hpending,hreturned,hannounced,
    pending_conserved listening_owns rfl hw ⟨huneven,hflooded⟩⟩

theorem pending_overdrawn : ¬ ∀ w : MailStation, Receiving 0 start w →
    (slot 0 w).pending + w.modem.returned = w.modem.announced ∧
    ((slot 0 w).pending = 0 → w.modem.queue.sum = w.modem.urcs.sum) := by
  intro hall
  have hrun : (played 100 (told 20 (told 10 start))).map (fun r =>
      ((slot 0 r.2).pending, r.2.modem.announced, r.2.modem.returned)) = some (0, 30, 10) := by
    decide
  obtain ⟨r,hr,he⟩ := Option.map_eq_some_iff.mp hrun
  simp only [Prod.mk.injEq] at he
  obtain ⟨hpending,hannounced,hreturned⟩ := he
  have hten : Receiving 0 start (told 10 start) := told_receiving .start rfl 10
  have hw : Receiving 0 start r.2 :=
    .call (0, 100) (told_receiving hten rfl 20) trivial (prompt_fair.runs hr)
  have hsum := (hall r.2 hw).1
  rw [hpending,hannounced,hreturned] at hsum
  cases hsum

end MailStation

end UbloxCellular.N2xx
