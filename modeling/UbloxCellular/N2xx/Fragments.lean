import Mathlib.Algebra.BigOperators.Intervals
import Mathlib.Tactic.SplitIfs
import UbloxCellular.Driver.Halting
import UbloxCellular.Driver.Modem
import UbloxCellular.N2xx.Interface

namespace UbloxCellular.N2xx
open Interaction Code

-- What the block of one AT+NSOSTF meets: its memory, the line and the count that the modem reports.
structure Reply where
  enough : Bool
  sent : Bool
  count : Option Int32
  deriving DecidableEq, Repr

def Reply.value (r : Reply) : Int :=
  if r.enough then
    if r.sent then r.count.elim NsapiError.deviceError Int32.toInt else NsapiError.deviceError
  else NsapiError.noMemory

theorem Reply.value_lt (r : Reply) : r.value < 2 ^ 31 := by
  have herror : NsapiError.deviceError < 2 ^ 31 ∧ NsapiError.noMemory < 2 ^ 31 := by decide
  rw [Reply.value]
  split_ifs
  · cases r.count with
    | none => exact herror.1
    | some n => exact Int32.toInt_lt n
  · exact herror.1
  · exact herror.2

abbrev Replies := Nat → Reply

-- The modem takes the first digits of a block, as many as it reports bytes.
structure Uplink where
  turn : Nat
  block : List Char
  accepted : List Char
  deriving DecidableEq, Repr

namespace Uplink

def idle : Uplink := ⟨0,[],[]⟩

def load (u : Uplink) (hex : List Char) : Uplink := { u with block := hex }

def accept (u : Uplink) (sent : Int) : Uplink :=
  { u with turn := u.turn + 1, accepted := u.accepted ++ u.block.take (2 * sent.toNat) }

end Uplink

theorem hex_digits (l : List UInt8) : (binToHex l).toList =
    l.flatMap (fun byte => [hexDigit (byte.toNat / 16),hexDigit (byte.toNat % 16)]) :=
  String.toList_ofList

theorem hex_append (l m : List UInt8) :
    (binToHex (l ++ m)).toList = (binToHex l).toList ++ (binToHex m).toList := by
  rw [hex_digits,hex_digits,hex_digits,List.flatMap_append]

theorem hex_length (l : List UInt8) : (binToHex l).toList.length = 2 * l.length := by
  induction l with
  | nil => rfl
  | cons byte l ih =>
    have hbyte : (binToHex [byte]).toList.length = 2 := by rw [hex_digits]; rfl
    rw [← List.singleton_append,hex_append,List.length_append,ih,List.length_append,
      List.length_singleton,hbyte]
    omega

theorem hex_take (l : List UInt8) (n : Nat) :
    (binToHex l).toList.take (2 * n) = (binToHex (l.take n)).toList := by
  rcases Nat.le_total n l.length with hn | hn
  · have hsplit : (binToHex l).toList =
        (binToHex (l.take n)).toList ++ (binToHex (l.drop n)).toList := by
      rw [← hex_append,List.take_append_drop]
    rw [hsplit,List.take_left']
    rw [hex_length,List.length_take,Nat.min_eq_left hn]
  · rw [List.take_of_length_le hn,List.take_of_length_le]
    rw [hex_length]
    omega

theorem Uplink.accept_hex (u : Uplink) (l : List UInt8) (sent : Int) :
    ((u.load (binToHex l).toList).accept sent).accepted =
      u.accepted ++ (binToHex (l.take sent.toNat)).toList := by
  rw [← hex_take]
  rfl

namespace Replies

def modem (replies : Replies) : Modem sig Uplink where
  event u d v e := v = u ∧ ∃ urc : Urc, e = urc.handle d
  allow
    | _, .malloc .hexWrite _, u, _, b => b = (replies u.turn).enough
    | _, .send (.nsostf _ _ _ _ _), u, _, b => b = (replies u.turn).sent
    | _, .recv .nsostf, u, _, b => b.map Prod.snd = (replies u.turn).count.map Int32.toInt
    | _, _, _, _, _ => True
  next
    | _, .send (.nsostf _ _ _ _ hex), u, _, _ => u.load hex.toList
    | _, .recv .nsostf, u, _, b => b.elim u (fun r => u.accept r.2)
    | _, _, u, _, _ => u

def total (replies : Replies) (m : Nat) : Int := ∑ j ∈ Finset.range m, (replies j).value

variable {replies : Replies} {w : Station sig Uplink}

theorem events_uplink {v : Station sig Uplink} (h : replies.modem.Events w v) :
    v.modem = w.modem :=
  Modem.events_keep (P := fun u => u.modem = w.modem) h rfl (fun _ _ hu huv => huv.1.trans hu)

theorem sendto_spec (x : Handle) (ip : String) (port : Nat) (buf : List UInt8) (size : Nat) :
    wp replies.modem.spec (sendto x ip port buf size) (fun sent v =>
      sent = (replies w.modem.turn).value ∧
      (0 ≤ sent → v.modem = (w.modem.load (binToHex (buf.take size)).toList).accept sent)) w := by
  simp only [sendto,wp_bind,wp_ite,wp_pure]
  rw [Modem.wp_asks rfl]
  rintro enough (rfl : enough = (replies w.modem.turn).enough)
  split
  · rename_i henough
    rw [Modem.wp_locked]
    intro v hv
    have hvw : v.modem = w.modem := events_uplink hv
    rw [wp_bind]
    refine (Modem.wp_get (M := replies.modem) _).mpr ?_
    rw [wp_bind,Modem.wp_ask]
    rintro sent (rfl : sent = (replies v.modem.turn).sent)
    rw [hvw]
    split
    · rename_i hsent
      rw [Modem.wp_recv]
      rintro u b hu (hb : b.map Prod.snd = _)
      have huw : u.modem = w.modem.load (binToHex (buf.take size)).toList := events_uplink hu
      have hturn : u.modem.turn = w.modem.turn := by rw [huw,Uplink.load]
      rw [hturn] at hb
      have hvalue : (replies w.modem.turn).value =
          (b.map Prod.snd).elim NsapiError.deviceError id := by
        rw [Reply.value,if_pos henough,if_pos hsent,hb]
        cases (replies w.modem.turn).count <;> rfl
      rw [hvalue]
      cases b with
      | none => exact ⟨rfl,fun h => absurd h (by decide)⟩
      | some reply =>
        rw [Option.elim_some,wp_bind,Modem.wp_recvOk]
        intro t ok ht _
        have htu : t.modem = u.modem.accept reply.2 := events_uplink ht
        refine ⟨rfl,fun _ => ?_⟩
        rw [← huw]
        exact htu
    · rename_i hunsent
      have hvalue : (replies w.modem.turn).value = NsapiError.deviceError := by
        rw [Reply.value,if_pos henough,if_neg hunsent]
      rw [hvalue]
      exact ⟨rfl,fun h => absurd h (by decide)⟩
  · rename_i hpoor
    have hvalue : (replies w.modem.turn).value = NsapiError.noMemory := if_neg hpoor
    rw [hvalue]
    exact ⟨rfl,fun h => absurd h (by decide)⟩

theorem sendBlock_spec (x : Handle) (ip : String) (port : Nat) (data : List UInt8)
    {s : SendState} (hs : 0 < s.count) :
    wp replies.modem.spec (sendBlock x ip port data s) (fun r v =>
      if (replies w.modem.turn).value < 0 then r = .inr { s with failed := true }
      else r = .inl (s.next (replies w.modem.turn).value) ∧
        v.modem = (w.modem.load (binToHex ((data.drop s.buf).take s.size)).toList).accept
          (replies w.modem.turn).value) w := by
  rw [sendBlock,if_pos hs]
  refine wp_seq replies.modem.mono (sendto_spec x ip port _ _) (fun sent v hsent => ?_)
  obtain ⟨rfl,haccept⟩ := hsent
  split
  · rw [wp_pure]
  · rename_i hpos
    rw [wp_pure]
    exact ⟨rfl,haccept (Int.not_lt.mp hpos)⟩

theorem total_succ (m : Nat) : replies.total (m + 1) = replies.total m + (replies m).value :=
  Finset.sum_range_succ _ m

theorem total_le {m k : Nat} (h : ∀ j < m, 0 ≤ (replies j).value) (hk : k ≤ m) :
    replies.total k ≤ replies.total m := by
  induction m with
  | zero =>
    obtain rfl : k = 0 := Nat.le_zero.mp hk
    exact Int.le_refl _
  | succ m ih =>
    rcases Nat.lt_or_eq_of_le hk with hlt | rfl
    · have hm : 0 ≤ (replies m).value := h m (Nat.lt_succ_self m)
      have hle := ih (fun j hj => h j (Nat.lt_succ_of_lt hj)) (Nat.le_of_lt_succ hlt)
      rw [total_succ]
      omega
    · exact Int.le_refl _

structure Ending (replies : Replies) (size m : Nat) : Prop where
  sound : ∀ j < m, 0 ≤ (replies j).value
  last : (replies m).value < 0 ∧ replies.total m < size ∨
    replies.total m = size ∧ ∀ j < m, (replies j).value ≤ maxWriteSize

def Settles (replies : Replies) (size : Nat) : Prop := ∃ m, Ending replies size m

structure Led (replies : Replies) (data : List UInt8) (s : SendState) (u : Uplink) : Prop where
  going : s.failed = false
  sound : ∀ j < u.turn, 0 ≤ (replies j).value
  buf : (s.buf : Int) = replies.total u.turn
  count : s.buf + s.count = data.length
  size : s.size = min maxWriteSize s.count
  taken : u.accepted.length ≤ 2 * s.buf
  whole : (∀ j < u.turn, (replies j).value ≤ maxWriteSize) →
    u.accepted = (binToHex (data.take s.buf)).toList
  skipped : (∃ j < u.turn, maxWriteSize < (replies j).value) → u.accepted.length < 2 * s.buf

variable {data : List UInt8} {s : SendState} {u : Uplink}

theorem size_min (s : SendState) : s.size = min s.blk s.count := by
  rw [SendState.size]
  split <;> omega

theorem Led.start : Led replies data (.start data.length) .idle where
  going := rfl
  sound := by rintro j ⟨⟩
  buf := rfl
  count := Nat.zero_add _
  size := size_min _
  taken := Nat.zero_le _
  whole _ := rfl
  skipped := by rintro ⟨j,⟨⟩,-⟩

theorem Led.next (h : Led replies data s u) (hd : data.length < 2 ^ 31)
    (hpos : 0 ≤ (replies u.turn).value) (hle : (replies u.turn).value ≤ s.count) :
    Led replies data (s.next (replies u.turn).value)
      ((u.load (binToHex ((data.drop s.buf).take s.size)).toList).accept
        (replies u.turn).value) := by
  have hcount := h.count
  have hsize := h.size
  have htaken := h.taken
  have hmax : maxWriteSize = 512 := rfl
  generalize hr : (replies u.turn).value = r at *
  have hsub : subU s.count (toUnsigned r) = s.count - r.toNat := by
    have hcast : toUnsigned r = r.toNat := by
      rw [toUnsigned]
      omega
    rw [hcast,subU_of_le (by omega) (by omega)]
  have haccepted : ((u.load (binToHex ((data.drop s.buf).take s.size)).toList).accept r).accepted =
      u.accepted ++ (binToHex ((data.drop s.buf).take (min r.toNat s.size))).toList := by
    rw [Uplink.accept_hex,List.take_take]
  have hlength : (binToHex ((data.drop s.buf).take (min r.toNat s.size))).toList.length ≤
      2 * min r.toNat s.size := by
    rw [hex_length,List.length_take]
    omega
  refine ⟨h.going,?_,?_,?_,?_,?_,?_,?_⟩
  · intro j hj
    rcases Nat.lt_succ_iff_lt_or_eq.mp hj with hlt | rfl
    · exact h.sound j hlt
    · exact hr.symm ▸ hpos
  · have hbuf := h.buf
    change ((s.buf + r.toNat : Nat) : Int) = replies.total (u.turn + 1)
    rw [total_succ,hr]
    omega
  · change s.buf + r.toNat + subU s.count (toUnsigned r) = data.length
    rw [hsub]
    omega
  · rw [size_min]
    change min s.size (subU s.count (toUnsigned r)) =
      min maxWriteSize (subU s.count (toUnsigned r))
    rw [hsub]
    omega
  · change _ ≤ 2 * (s.buf + r.toNat)
    rw [haccepted,List.length_append]
    omega
  · intro hall
    have hold : u.accepted = (binToHex (data.take s.buf)).toList :=
      h.whole (fun j hj => hall j (Nat.lt_succ_of_lt hj))
    have hblock : r ≤ maxWriteSize := hr ▸ hall u.turn (Nat.lt_succ_self _)
    have hmin : min r.toNat s.size = r.toNat := by omega
    change _ = (binToHex (data.take (s.buf + r.toNat))).toList
    rw [haccepted,hold,hmin,List.take_add,hex_append]
  · rintro ⟨j,hj,hover⟩
    change _ < 2 * (s.buf + r.toNat)
    rw [haccepted,List.length_append]
    rcases Nat.lt_succ_iff_lt_or_eq.mp hj with hlt | rfl
    · have hold : u.accepted.length < 2 * s.buf := h.skipped ⟨j,hlt,hover⟩
      omega
    · have hbig : maxWriteSize < r := hr ▸ hover
      omega

abbrev sends (replies : Replies) : Handler (Locked (Eff sig)) (Station sig Uplink) :=
  replies.modem.machine.handler

structure Accounted (replies : Replies) (x : Handle) (ip : String) (port : Nat)
    (data : List UInt8) (w : Station sig Uplink) : Prop where
  ends : Halts replies.sends (socketSendto x ip port data) w
  inside : ∀ s v, Rounds replies.sends (sendBlock x ip port data) (.start data.length, w) (s, v) →
    0 < s.count → s.buf + s.size ≤ data.length
  exact : ∀ sent v, Exec replies.sends (socketSendto x ip port data) w sent v → 0 ≤ sent →
    sent = data.length ∧ v.modem.accepted = (binToHex data).toList

instance halting_get : Halting replies.sends (get : N2xxCode Driver) := Halting.halting_perform _

instance halting_sendto (x : Handle) (ip : String) (port size : Nat) (buf : List UInt8) :
    Halting replies.sends (sendto x ip port buf size) := by
  simp only [sendto]
  infer_instance

instance halting_sendBlock (x : Handle) (ip : String) (port : Nat) (data : List UInt8)
    (s : SendState) : Halting replies.sends (sendBlock x ip port data s) := by
  simp only [sendBlock]
  infer_instance

section Ending
variable {m : Nat} {x : Handle} {ip : String} {port : Nat}

theorem Ending.step (he : Ending replies data.length m) (h : Led replies data s u)
    (hm : u.turn ≤ m) (hc : 0 < s.count) : (replies u.turn).value < 0 ∨
      u.turn < m ∧ 0 ≤ (replies u.turn).value ∧ (replies u.turn).value ≤ s.count := by
  have hcount := h.count
  have hbuf := h.buf
  rcases Nat.lt_or_eq_of_le hm with hlt | rfl
  · right
    have hle := total_le he.sound (Nat.succ_le_of_lt hlt)
    rw [total_succ,← hbuf] at hle
    have hsize : replies.total m ≤ data.length := by
      rcases he.last with ⟨_,h⟩ | ⟨h,_⟩ <;> omega
    exact ⟨hlt,he.sound _ hlt,by omega⟩
  · left
    rcases he.last with ⟨hneg,_⟩ | ⟨htotal,_⟩
    · exact hneg
    · omega

theorem sendBlock_done (h : ¬ 0 < s.count) : sendBlock x ip port data s = pure (.inr s) := if_neg h

theorem Ending.block (he : Ending replies data.length m) (hd : data.length < 2 ^ 31)
    (h : Led replies data s w.modem) (hm : w.modem.turn ≤ m) :
    wp replies.modem.spec (sendBlock x ip port data s) (fun r v => r.elim
      (fun s => Led replies data s v.modem ∧ v.modem.turn ≤ m ∧ w.modem.turn < v.modem.turn)
      (fun c => c.failed = true ∨ c = s ∧ s.count = 0 ∧ v.modem = w.modem)) w := by
  by_cases hc : 0 < s.count
  · refine wp_mono replies.modem.mono (fun r v hr => ?_) (sendBlock_spec x ip port data hc)
    rcases he.step h hm hc with hneg | ⟨hlt,hpos,hle⟩
    · rw [if_pos hneg] at hr
      subst hr
      exact .inl rfl
    · rw [if_neg (Int.not_lt.mpr hpos)] at hr
      obtain ⟨rfl,hv⟩ := hr
      have hturn : v.modem.turn = w.modem.turn + 1 := by rw [hv]; rfl
      refine ⟨?_,by omega,by omega⟩
      rw [hv]
      exact h.next hd hpos hle
  · rw [sendBlock_done hc,wp_pure]
    exact .inr ⟨rfl,by omega,rfl⟩

theorem Ending.sent (he : Ending replies data.length m) (h : Led replies data s u)
    (hm : u.turn ≤ m) (hc : s.count = 0) : u.accepted = (binToHex data).toList := by
  have hcount := h.count
  have hbuf := h.buf
  have hle := total_le he.sound hm
  rcases he.last with ⟨_,hshort⟩ | ⟨_,hblocks⟩
  · omega
  · rw [h.whole (fun j hj => hblocks j (Nat.lt_of_lt_of_le hj hm)),List.take_of_length_le]
    omega

theorem Ending.exact (he : Ending replies data.length m) (hd : data.length < 2 ^ 31)
    (hw : w.modem = .idle) : wp replies.modem.spec (socketSendto x ip port data) (fun sent v =>
      0 ≤ sent → sent = data.length ∧ v.modem.accepted = (binToHex data).toList) w := by
  simp only [socketSendto,sendLoop,wp_bind,wp_pure]
  refine wp_iterate (fun s v => Led replies data s v.modem ∧ v.modem.turn ≤ m) ?_ ?_
  · rw [hw]
    exact ⟨.start,Nat.zero_le _⟩
  · rintro s v ⟨hs,hm⟩
    refine wp_mono replies.modem.mono (fun r v' hr => ?_) (he.block hd hs hm)
    cases r with
    | inl s' => exact ⟨hr.1,hr.2.1⟩
    | inr c =>
      intro hpos
      rcases hr with hfailed | ⟨rfl,hc,hv⟩
      · rw [hfailed,if_pos rfl] at hpos
        exact absurd hpos (by decide)
      · rw [hs.going,if_neg Bool.false_ne_true,hc,subU_of_le (Nat.zero_le _) (by omega),
          toSigned_of_lt (by omega),hv]
        exact ⟨rfl,he.sent hs hm hc⟩

theorem Ending.ends (he : Ending replies data.length m) (hd : data.length < 2 ^ 31)
    (hw : w.modem = .idle) : Halts replies.sends (socketSendto x ip port data) w := by
  refine Halts.bind (p := sendLoop x ip port data) ?_ (fun a w' _ => .ret _ w')
  refine Halts.iterate (measure (fun p : SendState × Station sig Uplink =>
    m - p.2.modem.turn)).wf (fun s v => Led replies data s v.modem ∧ v.modem.turn ≤ m) ?_
    (fun s v _ => Halting.run v) ?_
  · rw [hw]
    exact ⟨.start,Nat.zero_le _⟩
  · rintro s v ⟨hs,hm⟩
    refine wp_mono replies.modem.mono (fun r v' hr => ?_) (he.block hd hs hm)
    rintro s' rfl
    obtain ⟨hs',hm',hlt⟩ := hr
    refine ⟨⟨hs',hm'⟩,?_⟩
    change m - v'.modem.turn < m - v.modem.turn
    omega

theorem Ending.accounted (he : Ending replies data.length m) (hd : data.length < 2 ^ 31)
    (hw : w.modem = .idle) : Accounted replies x ip port data w where
  ends := he.ends hd hw
  inside s v hrounds hc := by
    have hled : Led replies data s v.modem ∧ v.modem.turn ≤ m := by
      refine rounds_keep hrounds (fun s v => Led replies data s v.modem ∧ v.modem.turn ≤ m) ?_ ?_
      · rw [hw]
        exact ⟨.start,Nat.zero_le _⟩
      · rintro s v ⟨hs,hm⟩
        refine wp_mono replies.modem.mono (fun r v' hr => ?_) (he.block hd hs hm)
        rintro s' rfl
        exact ⟨hr.1,hr.2.1⟩
    have hcount := hled.1.count
    have hsize := hled.1.size
    omega
  exact sent v hx := wp_sound (he.exact hd hw) hx

end Ending

section Settles
variable {x : Handle} {ip : String} {port : Nat}

theorem sends_total ⦃β : Type⦄ (e : Locked (Eff sig) β) (w : Station sig Uplink) :
    ∃ b w', replies.sends e w b w' := by
  refine Modem.answers (fun β e u d => ?_) e w
  cases e with
  | malloc b size => cases b <;> first | exact ⟨_,rfl⟩ | exact ⟨true,trivial⟩
  | send c => cases c <;> first | exact ⟨_,rfl⟩ | exact ⟨true,trivial⟩
  | recv p =>
    cases p with
    | nsostf =>
      refine ⟨(replies u.turn).count.map (fun n => (0, n.toInt)),?_⟩
      exact Option.map_map _ _ _
    | _ => exact ⟨none,trivial⟩
  | get => exact ⟨d,trivial⟩
  | _ => exact ⟨default,trivial⟩

theorem sendBlock_runs (x : Handle) (ip : String) (port : Nat) (data : List UInt8)
    (s : SendState) (w : Station sig Uplink) :
    ∃ r v, Exec replies.sends (sendBlock x ip port data s) w r v :=
  Halts.ends sends_total (Halting.run w)

theorem Accounted.left (h : Accounted replies x ip port data w) (hd : data.length < 2 ^ 31)
    {v v' : Station sig Uplink} {sent : Int} (hled : Led replies data s v.modem)
    (hlt : sent < 2 ^ 31) (hpos : 0 ≤ sent)
    (hrounds : Rounds replies.sends (sendBlock x ip port data) (.start data.length, w)
      (s.next sent, v')) : sent ≤ s.count := by
  have hcount : s.buf + s.count = data.length := hled.count
  by_contra hover
  -- The counter wraps, so the loop goes on behind the end of the data.
  have hwrap : 0 < subU s.count (toUnsigned sent) := by
    rw [subU,toUnsigned]
    omega
  have hinside : s.buf + sent.toNat + _ ≤ data.length := h.inside _ _ hrounds hwrap
  omega

theorem Accounted.blocks (h : Accounted replies x ip port data w) (hd : data.length < 2 ^ 31)
    {v : Station sig Uplink} (hled : Led replies data s v.modem) (hc : s.count = 0)
    (hrounds : Rounds replies.sends (sendBlock x ip port data) (.start data.length, w) (s, v)) :
    ∀ j < v.modem.turn, (replies j).value ≤ maxWriteSize := by
  intro j hj
  have hcount : s.buf + s.count = data.length := hled.count
  have hgoing : s.failed = false := hled.going
  have hx : Exec replies.sends (sendBlock x ip port data s) v (.inr s) v := by
    rw [sendBlock_done (by omega)]
    exact .ret _ v
  have hrun : Exec replies.sends (socketSendto x ip port data) w
      (if s.failed then NsapiError.deviceError else toSigned (subU data.length s.count)) v :=
    exec_rounds hrounds (.done hx (.ret _ v))
  rw [hgoing,if_neg Bool.false_ne_true,hc,subU_of_le (Nat.zero_le _) (by omega),
    toSigned_of_lt (by omega)] at hrun
  obtain ⟨-,haccepted⟩ := h.exact _ v hrun (Int.natCast_nonneg _)
  have hlength : v.modem.accepted.length = 2 * data.length := by rw [haccepted,hex_length]
  by_contra hskip
  have hless : v.modem.accepted.length < 2 * s.buf := hled.skipped ⟨j,hj,Int.not_le.mp hskip⟩
  omega

theorem Accounted.settles (h : Accounted replies x ip port data w) (hd : data.length < 2 ^ 31)
    {p : SendState × Station sig Uplink}
    (hacc : Acc (fun v u => Round replies.sends (sendBlock x ip port data) u v) p)
    (hrounds : Rounds replies.sends (sendBlock x ip port data) (.start data.length, w) p)
    (hled : Led replies data p.1 p.2.modem) : replies.Settles data.length := by
  induction hacc with
  | intro p _ ih =>
    obtain ⟨s,v⟩ := p
    have hcount : s.buf + s.count = data.length := hled.count
    have hbuf : (s.buf : Int) = replies.total v.modem.turn := hled.buf
    by_cases hc : 0 < s.count
    · obtain ⟨r,v',hx⟩ := sendBlock_runs x ip port data s v
      have hr := wp_sound (sendBlock_spec x ip port data hc) hx
      rcases Int.lt_or_le (replies v.modem.turn).value 0 with hneg | hpos
      · exact ⟨v.modem.turn,hled.sound,.inl ⟨hneg,by omega⟩⟩
      · rw [if_neg (Int.not_lt.mpr hpos)] at hr
        obtain ⟨rfl,hv⟩ := hr
        have hround : Round replies.sends (sendBlock x ip port data) (s, v)
            (s.next (replies v.modem.turn).value, v') := hx
        have hle := h.left hd hled (Reply.value_lt _) hpos (hrounds.tail hround)
        refine ih (_, v') hround (hrounds.tail hround) ?_
        change Led replies data _ v'.modem
        rw [hv]
        exact hled.next hd hpos hle
    · have hzero : s.count = 0 := by omega
      exact ⟨v.modem.turn,hled.sound,.inr ⟨by omega,h.blocks hd hled hzero hrounds⟩⟩

theorem accounted_settles (hd : data.length < 2 ^ 31) (hw : w.modem = .idle)
    (h : Accounted replies x ip port data w) : replies.Settles data.length := by
  refine h.settles hd h.ends.acc .refl ?_
  rw [hw]
  exact .start

end Settles

theorem sends_exactly_iff {x : Handle} {ip : String} {port : Nat} (hd : data.length < 2 ^ 31)
    (hw : w.modem = .idle) :
    Accounted replies x ip port data w ↔ replies.Settles data.length :=
  ⟨accounted_settles hd hw,fun ⟨_,he⟩ => he.accounted hd hw⟩

def reporting (n : Int32) : Replies := fun _ => ⟨true,true,some n⟩

def uplink : Station sig Uplink := ⟨Driver.initial,.idle⟩

def halves : Replies := fun j => ⟨true,true,some (if j = 0 then 512 else 88)⟩

theorem sends_exactly_blocks :
    Accounted halves 0 "10.0.0.2" 7 (List.replicate 600 0xa5) uplink := by
  have hlength : (List.replicate 600 (0xa5 : UInt8)).length = 600 := List.length_replicate
  have htotal : halves.total 2 = (List.replicate 600 (0xa5 : UInt8)).length := by
    rw [hlength]
    decide
  exact (sends_exactly_iff (by rw [hlength]; decide) rfl).mpr
    ⟨2,by decide,.inr ⟨htotal,by decide⟩⟩

theorem sends_forever : ¬ ∀ (replies : Replies) (x : Handle) (ip : String) (port : Nat)
    (data : List UInt8) (d : Driver), data.length < 2 ^ 31 →
    Accounted replies x ip port data ⟨d,.idle⟩ := by
  intro hall
  have hzero : ∀ m, (reporting 0).total m = 0 := fun m => Finset.sum_eq_zero (fun _ _ => rfl)
  obtain ⟨m,he⟩ := accounted_settles (by decide) rfl
    (hall (reporting 0) 0 "10.0.0.2" 7 [1] Driver.initial (by decide))
  rcases he.last with ⟨hneg,-⟩ | ⟨htotal,-⟩
  · exact absurd hneg (by decide : ¬ (0 : Int) < 0)
  · rw [hzero] at htotal
    cases htotal

end Replies

end UbloxCellular.N2xx
