import UbloxCellular.Driver.Modem
import UbloxCellular.Hex.Codec
import UbloxCellular.N2xx.Interface

namespace UbloxCellular.N2xx
open Interaction Code

structure Header where
  id : Int
  ip : String
  port : Int
  size : Int32
  deriving DecidableEq, Repr

-- What one AT+NSORF meets: the memory for its data, the value its variable size starts with and
-- the modem's reply piece by piece.
structure Transcript where
  enough : Bool
  size : Int32
  sent : Bool
  header : Option Header
  digits : List UInt8
  remaining : Bool
  ok : Bool
  deriving DecidableEq, Repr

namespace Transcript

variable (t : Transcript)

def read (size : Int) : Int × List UInt8 :=
  if (t.digits.length : Int) < size then (-1, t.digits)
  else (max 0 size, t.digits.take size.toNat)

def modem : Modem sig Bool where
  event u d v e := v = u ∧ ∃ urc : Urc, e = urc.handle d
  allow
    | _, .malloc .hexRead _, _, _, b => b = t.enough
    | _, .send (.nsorf _ _), _, _, b => b = t.sent
    | _, .recv .nsorf, _, _, b => b = t.header.map (fun h => (h.id, h.ip, h.port, h.size.toInt))
    | _, .read _ size, _, _, b => b = t.read size
    | _, .recv .remaining, _, _, b => b.isSome = t.remaining
    | _, .recv .ok, _, _, b => b.isSome = t.ok
    | _, _, _, _, _ => True
  next
    | _, .send (.nsorf _ _), _, _, _ => true
    | _, _, asked, _, _ => asked

def handler : Handler (Locked (Eff sig)) (Station sig Bool) := fun β e w b w' =>
  t.modem.machine.handler e w b w' ∧
  ∀ h : β = Int, (h ▸ e : Locked (Eff sig) Int) = .act (.uninit Int) → (h ▸ b : Int) = t.size.toInt

def full (h : Header) : Bool :=
  decide (0 ≤ twice h.size.toInt ∧ twice h.size.toInt ≤ (t.digits.length : Int))

def decoded (h : Header) (tail : List UInt8) : List UInt8 :=
  if t.full h then (hexToBin (t.digits.take (twice h.size.toInt).toNat ++ tail) h.size.toInt).2
  else []

def body (h : Header) (tail : List UInt8) : Received where
  size := if t.full h && !t.remaining then NsapiError.deviceError else h.size.toInt
  buf := t.decoded h tail
  address := some (h.ip, h.port)

def heard (tail : List UInt8) : Received :=
  t.header.elim ⟨t.size.toInt,[],none⟩ (fun h => t.body h tail)

def received (tail : List UInt8) : Received :=
  if t.enough then
    if t.sent then
      if t.ok then t.heard tail else { t.heard tail with size := NsapiError.deviceError }
    else ⟨t.size.toInt,[],none⟩
  else ⟨NsapiError.noMemory,[],none⟩

variable {t} {α : Type} {w : Station sig Bool}

theorem wp_modem {p : N2xxCode α} {Q : α → Station sig Bool → Prop}
    (h : wp t.modem.spec p Q w) : wp t.handler.spec p Q w :=
  Handler.wp_within (fun _ _ _ _ _ hx => hx.1) h

theorem wp_size {Q : Int → Station sig Bool → Prop} (h : Q t.size.toInt w) :
    wp t.handler.spec (act (.uninit Int)) Q w := by
  rintro b w' ⟨hx,hb⟩
  obtain rfl : b = t.size.toInt := hb rfl rfl
  have hkeep : wp t.modem.spec (act (.uninit Int)) (fun _ v => v = w) w :=
    (Modem.wp_inside rfl _).mpr (fun _ => rfl)
  obtain rfl : w' = w := hkeep _ _ hx
  exact h

theorem twice_even (n : Int) : twice n ≠ -1 := by
  rw [twice,toSigned,toUnsigned]
  split <;> omega

theorem read_full (h : Header) : (t.read (twice h.size.toInt)).1 = twice h.size.toInt ↔
    t.full h = true := by
  have hodd : twice h.size.toInt ≠ -1 := twice_even _
  rw [read,full,decide_eq_true_iff]
  split <;> omega

theorem read_length (size : Int) :
    (t.read size).2.length = min t.digits.length size.toNat := by
  rw [read]
  split
  · change t.digits.length = _
    omega
  · rw [List.length_take,Nat.min_comm]

theorem read_stored {h : Header} (hf : t.full h = true) :
    (t.read (twice h.size.toInt)).2 = t.digits.take (twice h.size.toInt).toNat := by
  obtain ⟨_,hle⟩ := of_decide_eq_true hf
  rw [read,if_neg (by omega)]

theorem events_asked {v : Station sig Bool} (h : t.modem.Events w v) : v.modem = w.modem :=
  Modem.events_keep (P := fun u => u.modem = w.modem) h rfl (fun _ _ hu huv => huv.1.trans hu)

theorem receiveBody_spec (h : Header) :
    wp t.handler.spec (receiveBody (h.id, h.ip, h.port, h.size.toInt)) (fun got v =>
      (∃ tail, got = t.body h tail) ∧ v.modem = w.modem) w := by
  simp only [receiveBody,wp_bind]
  apply wp_modem
  rw [Modem.wp_asks rfl]
  intro _ _
  apply wp_modem
  rw [Modem.wp_asks rfl]
  rintro read (rfl : read = t.read _)
  rw [wp_ite]
  split
  · rename_i hread
    have hfull : t.full h = true := (read_full h).mp hread
    rw [wp_bind]
    apply wp_modem
    rw [Modem.wp_inside rfl]
    intro tail
    rw [wp_bind]
    apply wp_modem
    rw [Modem.wp_recv]
    rintro v b hv (hb : b.isSome = t.remaining)
    refine ⟨⟨tail,?_⟩,events_asked hv⟩
    rw [read_stored hfull,body,decoded,if_pos hfull,hfull,← hb]
    cases b <;> rfl
  · rename_i hread
    have hfull : t.full h = false := eq_false_of_ne_true (fun hf => hread ((read_full h).mpr hf))
    refine ⟨⟨[],?_⟩,rfl⟩
    rw [body,decoded,hfull]
    rfl

theorem recvOk_spec {Q : Bool → Station sig Bool → Prop}
    (h : ∀ v, v.modem = w.modem → Q t.ok v) : wp t.handler.spec recvOk Q w := by
  apply wp_modem
  rw [Modem.wp_recvOk]
  rintro v b hv (hb : b.isSome = t.ok)
  rw [hb]
  exact h _ (events_asked hv)

theorem receiveReply_spec : wp t.handler.spec (receiveReply t.size.toInt) (fun got v =>
    (∃ tail, got = if t.ok then t.heard tail
      else { t.heard tail with size := NsapiError.deviceError }) ∧ v.modem = w.modem) w := by
  have hfinish : ∀ tail v, v.modem = w.modem → wp t.handler.spec recvOk (fun ok u =>
      wp t.handler.spec (if ok then pure (t.heard tail)
        else pure { t.heard tail with size := NsapiError.deviceError }) (fun got u =>
        (∃ tail, got = if t.ok then t.heard tail
          else { t.heard tail with size := NsapiError.deviceError }) ∧ u.modem = w.modem) u) v := by
    intro tail v hv
    refine recvOk_spec (fun u hu => ?_)
    rw [wp_ite,wp_pure,wp_pure]
    split
    · exact ⟨⟨tail,rfl⟩,hu.trans hv⟩
    · exact ⟨⟨tail,rfl⟩,hu.trans hv⟩
  simp only [receiveReply,wp_bind]
  apply wp_modem
  rw [Modem.wp_recv]
  rintro v b hv (rfl : b = t.header.map _)
  have hvw := events_asked hv
  cases hh : t.header with
  | none =>
    have hheard : t.heard [] = ⟨t.size.toInt,[],none⟩ := by rw [heard,hh,Option.elim_none]
    rw [Option.map_none,Option.elim_none,wp_pure,← hheard]
    exact hfinish [] _ hvw
  | some h =>
    refine wp_mono t.handler.spec_mono (fun got u hgot => ?_) (receiveBody_spec h)
    obtain ⟨⟨tail,rfl⟩,hu⟩ := hgot
    have hheard : t.heard tail = t.body h tail := by rw [heard,hh,Option.elim_some]
    rw [← hheard]
    exact hfinish tail u (hu.trans hvw)

theorem receivefrom_spec (id : Int) {length : Nat} (hl : length ≤ maxReadSize) :
    wp t.handler.spec (receivefrom id length) (fun got v =>
      (∃ tail, got = t.received tail) ∧ v.modem = (t.enough || w.modem)) w := by
  rw [receivefrom,if_neg (Nat.not_lt.mpr hl),wp_bind]
  apply wp_modem
  rw [Modem.wp_asks rfl]
  rintro enough (rfl : enough = t.enough)
  rw [wp_ite]
  split
  · rename_i henough
    rw [wp_bind]
    refine wp_size ?_
    rw [locked,wp_bind]
    apply wp_modem
    rw [Modem.wp_lock]
    intro v hv
    rw [wp_bind,wp_bind]
    apply wp_modem
    rw [Modem.wp_send]
    rintro sent (rfl : sent = t.sent)
    have hunlock : ∀ got u, (∃ tail, got = t.received tail) → u.modem = true →
        wp t.handler.spec (unlock >>= fun _ => pure got) (fun got u =>
          (∃ tail, got = t.received tail) ∧ u.modem = (t.enough || w.modem)) u := by
      intro got u hgot hu
      rw [wp_bind]
      apply wp_modem
      rw [Modem.wp_unlock,wp_pure]
      exact ⟨hgot,by rw [hu,henough,Bool.true_or]⟩
    rw [wp_ite]
    split
    · rename_i hsent
      refine wp_mono t.handler.spec_mono (fun got u hgot => ?_) receiveReply_spec
      obtain ⟨⟨tail,rfl⟩,hu⟩ := hgot
      refine hunlock _ u ⟨tail,?_⟩ hu
      rw [received,if_pos henough,if_pos hsent]
    · rename_i hsent
      refine hunlock _ _ ⟨[],?_⟩ rfl
      rw [received,if_pos henough,if_neg hsent]
  · rename_i henough
    rw [wp_pure]
    refine ⟨⟨[],?_⟩,?_⟩
    · rw [received,if_neg henough]
    · rw [eq_false_of_ne_true henough]
      rfl

variable (t) in
def peer : Modem.Peer sig Bool where
  send
    | .nsorf _ _, _ => t.sent
    | _, _ => false
  recv
    | _, .nsorf, w => some (t.header.map (fun h => (h.id, h.ip, h.port, h.size.toInt)), w)
    | _, .remaining, w => some (if t.remaining then some "0" else none, w)
    | _, .ok, w => some (if t.ok then some () else none, w)
    | _, _, _ => none
  ask
    | _, .malloc .hexRead _, _ => some t.enough
    | _, .malloc _ _, _ => some true
    | _, .read _ size, _ => some (t.read size)
    | _, .setIpAddress _, _ => some true
    | _, _, _ => none

theorem peer_fair : t.peer.Fair t.modem where
  send := by
    intro c w
    cases c <;> first | rfl | trivial
  recv := by
    intro β p w b v h
    cases p
    case nsorf =>
      cases h
      exact ⟨.refl,rfl⟩
    case remaining =>
      cases h
      refine ⟨.refl,?_⟩
      change (if t.remaining then some "0" else none).isSome = t.remaining
      cases t.remaining <;> rfl
    case ok =>
      cases h
      refine ⟨.refl,?_⟩
      change (if t.ok then some () else none).isSome = t.ok
      cases t.ok <;> rfl
    all_goals cases h
  ask := by
    intro β e w b h
    cases e with
    | malloc buffer size => cases buffer <;> cases h <;> trivial
    | read buf size =>
      cases h
      rfl
    | _ => trivial

theorem runs (ht : t.size = 0) {p : N2xxCode α} {n : Nat} {a : α} {w' : Station sig Bool}
    (h : p.run (t.modem.machine.play t.peer.script) n w = some (a, w')) :
    Exec t.handler p w a w' := by
  refine run_exec id (fun β e u b v he => ⟨Machine.play_handler peer_fair.follows he,?_⟩) h
  rintro rfl (rfl : e = _)
  cases he
  rw [ht]
  rfl

theorem runs_result (ht : t.size = 0) {p : N2xxCode α} {n : Nat} {a : α} {asked : Bool}
    (h : (p.run (t.modem.machine.play t.peer.script) n w).map (fun r => (r.1, r.2.modem)) =
      some (a, asked)) : ∃ w', Exec t.handler p w a w' ∧ w'.modem = asked := by
  obtain ⟨⟨b,w'⟩,hr,he⟩ := Option.map_eq_some_iff.mp h
  cases he
  exact ⟨w',runs ht hr,rfl⟩

end Transcript

end UbloxCellular.N2xx
