import UbloxCellular.N2xx.Fragments
import UbloxCellular.N2xx.HexCodec
import UbloxCellular.N2xx.Pending
import UbloxCellular.N2xx.Received

namespace UbloxCellular.N2xx
open Interaction Code MailStation

inductive Fetch where
  | idle
  | asked (k : Nat)
  | reply (bytes : List UInt8)
  deriving DecidableEq, Repr

-- An echo server at the other end: what it was sent and has not sent back, the datagrams that are
-- back at the modem, the +NSONMI still on the wire, the data of the present AT+NSOSTF and all the
-- bytes that the modem has taken.
structure Path where
  air : List (List UInt8)
  queue : List (List UInt8)
  urcs : List Nat
  letter : List UInt8
  fetch : Fetch
  taken : List UInt8
  deriving DecidableEq, Repr

namespace Path

def empty : Path := ⟨[],[],[],[],.idle,[]⟩

def flight (m : Path) : List (List UInt8) := m.queue ++ m.air

def back (m : Path) (d : List UInt8) (rest : List (List UInt8)) : Path :=
  { m with air := rest, queue := m.queue ++ [d], urcs := m.urcs ++ [d.length] }

def load (m : Path) (hex : String) : Path :=
  { m with letter := (Hex.decode (hex.toList.map Char.toUInt8)).getD [] }

def accept (m : Path) : Path := { m with air := m.air ++ [m.letter], taken := m.taken ++ m.letter }

def ask (m : Path) (k : Nat) : Path := { m with fetch := .asked k }

def header (m : Path) : Path :=
  match m.fetch, m.queue with
  | .asked k, d :: rest => { m with
      queue := if d.length ≤ k then rest else d.drop k :: rest
      fetch := .reply (d.take k) }
  | _, _ => m

end Path

inductive PathEvent (id : Int) : Path → Driver → Path → Driver → Prop
  | back (m : Path) (d : Driver) {l : List UInt8} {rest : List (List UInt8)} : m.air = l :: rest →
      PathEvent id m d (m.back l rest) d
  | deliver (m : Path) (d : Driver) {n : Nat} {rest : List Nat} : m.urcs = n :: rest →
      PathEvent id m d { m with urcs := rest } ((Urc.nsonmi id n).handle d)
  | other (m : Path) (d : Driver) (h n : Int) : h ≠ id →
      PathEvent id m d m ((Urc.nsonmi h n).handle d)
  | registration (m : Path) (d : Driver) (status : Int) :
      PathEvent id m d m ((Urc.cereg status).handle d)

-- The modem takes a datagram whole or not at all, and nothing of an AT+NSORF is lost.
def echoModem (id : Int) : Modem sig Path where
  event := PathEvent id
  allow
    | _, .send (.nsorf _ _), _, _, b => b = true
    | _, .recv .nsostf, m, _, b => ∀ r, b = some r → r.2 = m.letter.length
    | _, .recv .nsorf, m, _, b => ∀ k, m.fetch = .asked k →
        b.map (fun r => r.2.2.2) = m.queue.head?.map (fun d => (min k d.length : Int))
    | _, .read _ size, m, _, b => ∀ l, m.fetch = .reply l → size = 2 * l.length →
        b.1 = size ∧ Hex.decode b.2 = some l
    | _, .recv .remaining, _, _, b => b.isSome
    | _, .recv .ok, m, _, b => m.fetch = .idle ∨ b.isSome
    | _, _, _, _, _ => True
  next
    | _, .send (.nsostf _ _ _ _ hex), m, _, b => if b then m.load hex else m
    | _, .recv .nsostf, m, _, b => if b.isSome then m.accept else m
    | _, .send (.nsorf h k), m, _, _ => if h = id then m.ask k.toNat else m
    | _, .recv .nsorf, m, _, b => if b.isSome then m.header else m
    | _, .recv .ok, m, _, _ => { m with fetch := .idle }
    | _, _, m, _, _ => m

def Packed : List (List UInt8) → Prop
  | [] => True
  | [d] => 0 < d.length ∧ d.length ≤ maxReadSize
  | d :: e :: rest => d.length = maxReadSize ∧ Packed (e :: rest)

def Full (l : List (List UInt8)) : Prop := ∀ d ∈ l, d.length = maxReadSize

theorem packed_snoc {l : List (List UInt8)} {d : List UInt8} (h : Full l) (hpos : 0 < d.length)
    (hmax : d.length ≤ maxReadSize) : Packed (l ++ [d]) := by
  induction l with
  | nil => exact ⟨hpos,hmax⟩
  | cons e l ih =>
    have hl := ih (fun c hc => h c (List.mem_cons_of_mem e hc))
    have he : e.length = maxReadSize := h e List.mem_cons_self
    cases l with
    | nil => exact ⟨he,hl⟩
    | cons c l => exact ⟨he,hl⟩

theorem packed_tail {d : List UInt8} {l : List (List UInt8)} (h : Packed (d :: l)) : Packed l := by
  cases l with
  | nil => trivial
  | cons e l => exact h.2

theorem packed_head {d : List UInt8} {l : List (List UInt8)} (h : Packed (d :: l)) :
    0 < d.length ∧ d.length ≤ maxReadSize ∧ (l = [] ∨ d.length = maxReadSize) := by
  cases l with
  | nil => exact ⟨h.1,h.2,.inl rfl⟩
  | cons e l =>
    have hd : d.length = maxReadSize := h.1
    exact ⟨by rw [hd]; decide,Nat.le_of_eq hd,.inr hd⟩

abbrev EchoStation := Station sig Path

namespace EchoStation

variable {id : Int} {x : Handle} {fetch : Fetch} {held : List (List UInt8)} {u v w : EchoStation}

def slot (x : Handle) (w : EchoStation) : SockCtrl := w.driver.iface.sockets x

def Counted (queue : List (List UInt8)) (urcs : List Nat) (pending : Nat) : Prop :=
  ∃ known fresh, queue = known ++ fresh ∧ pending = known.flatten.length ∧
    urcs = fresh.map List.length

structure Settled (id : Int) (x : Handle) (fetch : Fetch) (held : List (List UInt8))
    (w : EchoStation) : Prop where
  owns : Owns id x w.driver.iface.sockets
  fetch : w.modem.fetch = fetch
  packed : Packed (held ++ w.modem.flight)
  room : (held ++ w.modem.flight).flatten.length < 2 ^ 31
  counted : Counted (held ++ w.modem.queue) w.modem.urcs (slot x w).pending

structure Still (x : Handle) (u v : EchoStation) : Prop where
  flight : v.modem.flight = u.modem.flight
  taken : v.modem.taken = u.modem.taken
  queue : u.modem.queue <+: v.modem.queue
  pending : (slot x u).pending ≤ (slot x v).pending

theorem Still.refl (x : Handle) (w : EchoStation) : Still x w w :=
  ⟨rfl,rfl,List.prefix_refl _,Nat.le_refl _⟩

theorem Still.trans (h : Still x u v) (k : Still x v w) : Still x u w :=
  ⟨k.flight.trans h.flight,k.taken.trans h.taken,h.queue.trans k.queue,h.pending.trans k.pending⟩

theorem Counted.arrive {queue : List (List UInt8)} {urcs : List Nat} {pending : Nat}
    (h : Counted queue urcs pending) (d : List UInt8) :
    Counted (queue ++ [d]) (urcs ++ [d.length]) pending := by
  obtain ⟨known,fresh,rfl,hp,rfl⟩ := h
  exact ⟨known,fresh ++ [d],List.append_assoc _ _ _,hp,by rw [List.map_append]; rfl⟩

theorem Counted.deliver {queue : List (List UInt8)} {n pending : Nat} {rest : List Nat}
    (h : Counted queue (n :: rest) pending) (hroom : queue.flatten.length < 2 ^ 31) :
    Counted queue rest (addU pending (toUnsigned n)) ∧
      pending ≤ addU pending (toUnsigned n) := by
  obtain ⟨known,fresh,rfl,rfl,hu⟩ := h
  cases fresh with
  | nil => cases hu
  | cons d fresh =>
    rw [List.map_cons,List.cons.injEq] at hu
    obtain ⟨rfl,rfl⟩ := hu
    rw [List.flatten_append,List.length_append,List.flatten_cons,List.length_append] at hroom
    have hsum : addU known.flatten.length (toUnsigned d.length) =
        known.flatten.length + d.length := by
      rw [addU,toUnsigned]
      omega
    rw [hsum]
    refine ⟨⟨known ++ [d],fresh,by rw [List.append_assoc]; rfl,?_,rfl⟩,Nat.le_add_right _ _⟩
    rw [List.flatten_append,List.length_append,List.flatten_singleton]

theorem Settled.queue_room (h : Settled id x fetch held w) :
    (held ++ w.modem.queue).flatten.length < 2 ^ 31 := by
  have hroom := h.room
  rw [Path.flight,← List.append_assoc,List.flatten_append,List.length_append] at hroom
  omega

theorem Path.back_flight {m : Path} {l : List UInt8} {rest : List (List UInt8)}
    (h : m.air = l :: rest) : (m.back l rest).flight = m.flight := by
  change m.queue ++ [l] ++ rest = m.queue ++ m.air
  rw [h,List.append_assoc]
  rfl

theorem event_settled (h : Settled id x fetch held u)
    (he : PathEvent id u.modem u.driver v.modem v.driver) :
    Settled id x fetch held v ∧ Still x u v := by
  obtain ⟨d,m⟩ := u
  obtain ⟨d',m'⟩ := v
  have hsame : ∀ s : Sockets, Owns id x s → (s x).pending = (d.iface.sockets x).pending →
      s = d'.iface.sockets → m' = m → Settled id x fetch held ⟨d',m'⟩ ∧ Still x ⟨d,m⟩ ⟨d',m'⟩ := by
    rintro _ hs hp rfl rfl
    have hslot : (slot x ⟨d',m'⟩).pending = (slot x ⟨d,m'⟩).pending := hp
    refine ⟨⟨hs,h.fetch,h.packed,h.room,?_⟩,⟨rfl,rfl,List.prefix_refl _,Nat.le_of_eq hslot.symm⟩⟩
    rw [hslot]
    exact h.counted
  cases he with
  | @back l rest hair =>
    have hflight : (m.back l rest).flight = m.flight := Path.back_flight hair
    have hpacked : Packed (held ++ (m.back l rest).flight) := by
      rw [hflight]
      exact h.packed
    have hroom : (held ++ (m.back l rest).flight).flatten.length < 2 ^ 31 := by
      rw [hflight]
      exact h.room
    have hcounted := h.counted.arrive l
    rw [List.append_assoc] at hcounted
    exact ⟨⟨h.owns,h.fetch,hpacked,hroom,hcounted⟩,⟨hflight,rfl,List.prefix_append _ _,Nat.le_refl _⟩⟩
  | @deliver n rest hu =>
    have hc : Counted (held ++ m.queue) m.urcs (d.iface.sockets x).pending := h.counted
    rw [hu] at hc
    have hp : (announced id n d.iface.sockets x).pending =
        addU (d.iface.sockets x).pending (toUnsigned n) := h.owns.announced_self n
    obtain ⟨hcounted,hmore⟩ := hc.deliver h.queue_room
    rw [← hp] at hcounted hmore
    exact ⟨⟨h.owns.announced _ _,h.fetch,h.packed,h.room,hcounted⟩,
      ⟨rfl,rfl,List.prefix_refl _,hmore⟩⟩
  | other a n ha => exact hsame _ (h.owns.announced a n) (h.owns.announced_other ha n) rfl rfl
  | registration status => exact hsame _ h.owns rfl rfl rfl

theorem events_settled (h : Settled id x fetch held u) (he : (echoModem id).Events u v) :
    Settled id x fetch held v ∧ Still x u v :=
  Modem.events_keep (P := fun v => Settled id x fetch held v ∧ Still x u v) he ⟨h,.refl x u⟩
    (fun _ _ hu huv => ⟨(event_settled hu.1 huv).1,hu.2.trans (event_settled hu.1 huv).2⟩)

theorem events_letter (he : (echoModem id).Events u v) : v.modem.letter = u.modem.letter := by
  refine Modem.events_keep (P := fun v => v.modem.letter = u.modem.letter) he rfl
    (fun s t hs hst => ?_)
  rw [← hs]
  obtain ⟨d,m⟩ := s
  obtain ⟨d',m'⟩ := t
  cases hst <;> rfl

section Send
variable {buf : List UInt8} {size : Nat}

theorem payload (l : List UInt8) :
    (Hex.decode ((binToHex l).toList.map Char.toUInt8)).getD [] = l := by
  rw [binToHex_encode,Hex.decode_encode,Option.getD_some]

theorem Settled.load (h : Settled id x fetch held w) (hex : String) :
    Settled id x fetch held { w with modem := w.modem.load hex } :=
  ⟨h.owns,h.fetch,h.packed,h.room,h.counted⟩

theorem Settled.finish (h : Settled id x fetch held w) :
    Settled id x .idle held { w with modem := { w.modem with fetch := .idle } } :=
  ⟨h.owns,rfl,h.packed,h.room,h.counted⟩

theorem accept_flight (m : Path) : m.accept.flight = m.flight ++ [m.letter] :=
  (List.append_assoc _ _ _).symm

theorem Settled.accept (h : Settled id x fetch [] w) (hfull : Full w.modem.flight)
    (hpos : 0 < w.modem.letter.length) (hmax : w.modem.letter.length ≤ maxReadSize)
    (hroom : w.modem.flight.flatten.length + w.modem.letter.length < 2 ^ 31) :
    Settled id x fetch [] { w with modem := w.modem.accept } := by
  refine ⟨h.owns,h.fetch,?_,?_,h.counted⟩
  · rw [accept_flight]
    exact packed_snoc hfull hpos hmax
  · rw [accept_flight,List.nil_append,List.flatten_append,List.length_append,
      List.flatten_singleton]
    exact hroom

structure Posted (w v : EchoStation) (block : List UInt8) : Prop where
  flight : v.modem.flight = w.modem.flight ++ [block]
  taken : v.modem.taken = w.modem.taken ++ block

theorem Still.posted {block : List UInt8} (h : Still x u v) (k : Posted v w block) :
    Posted u w block := by
  refine ⟨k.flight.trans ?_,k.taken.trans ?_⟩
  · rw [h.flight]
  · rw [h.taken]

theorem Posted.still {block : List UInt8} (h : Posted u v block) (k : Still x v w) :
    Posted u w block := ⟨k.flight.trans h.flight,k.taken.trans h.taken⟩

theorem sendto_posted (ip : String) (port : Nat) (h : Settled id x .idle [] w)
    (hfull : Full w.modem.flight) (hpos : 0 < size) (hlen : size ≤ buf.length)
    (hmax : size ≤ maxReadSize) (hroom : w.modem.flight.flatten.length + size < 2 ^ 31) :
    wp (echoModem id).spec (sendto x ip port buf size) (fun sent v => Settled id x .idle [] v ∧
      (sent < 0 ∧ Still x w v ∨ sent = size ∧ Posted w v (buf.take size))) w := by
  have hblock : (buf.take size).length = size := by
    rw [List.length_take,Nat.min_eq_left hlen]
  simp only [sendto,wp_bind,wp_ite,wp_pure]
  rw [Modem.wp_asks rfl]
  intro enough _
  split
  · rw [Modem.wp_locked]
    intro v hv
    obtain ⟨hsv,hstill⟩ := events_settled h hv
    rw [wp_bind,wp_get,wp_bind,Modem.wp_ask]
    intro sent _
    cases sent with
    | false =>
      rw [if_neg Bool.false_ne_true]
      exact ⟨hsv,.inl ⟨by decide,hstill⟩⟩
    | true =>
      rw [if_pos rfl,Modem.wp_recv]
      intro u b hu hb
      obtain ⟨hsu,hstill'⟩ := events_settled (hsv.load (binToHex (buf.take size))) hu
      have hwu : Still x w u :=
        hstill.trans ⟨hstill'.flight,hstill'.taken,hstill'.queue,hstill'.pending⟩
      have hletter : u.modem.letter = buf.take size := (events_letter hu).trans (payload _)
      cases b with
      | none => exact ⟨hsu,.inl ⟨by decide,hwu⟩⟩
      | some reply =>
        have hcount : reply.2 = size := by
          have hr : reply.2 = u.modem.letter.length := hb reply rfl
          rw [hr,hletter,hblock]
        have hsettled : Settled id x .idle [] { u with modem := u.modem.accept } := by
          refine hsu.accept (hwu.flight ▸ hfull) ?_ ?_ ?_
          · rw [hletter,hblock]
            exact hpos
          · rw [hletter,hblock]
            exact hmax
          · rw [hletter,hblock,hwu.flight]
            exact hroom
        have hposted : Posted u { u with modem := u.modem.accept } (buf.take size) := by
          rw [← hletter]
          exact ⟨accept_flight _,rfl⟩
        rw [Option.elim_some,wp_bind,Modem.wp_recvOk]
        intro t ok ht _
        obtain ⟨hst,hstill''⟩ := events_settled hsettled ht
        exact ⟨hst.finish,.inr ⟨hcount,
          hwu.posted (hposted.still ⟨hstill''.flight,hstill''.taken,hstill''.queue,hstill''.pending⟩)⟩⟩
  · exact ⟨h,.inl ⟨by decide,.refl x w⟩⟩

variable {data : List UInt8} {s : SendState}

structure Sending (id : Int) (x : Handle) (w : EchoStation) (data : List UInt8) (s : SendState)
    (v : EchoStation) : Prop where
  settled : Settled id x .idle [] v
  going : s.failed = false
  count : s.buf + s.count = data.length
  size : s.size = min maxWriteSize s.count
  flight : v.modem.flight.flatten = w.modem.flight.flatten ++ data.take s.buf
  taken : v.modem.taken = w.modem.taken ++ data.take s.buf
  full : 0 < s.count → Full v.modem.flight

structure Clear (w : EchoStation) (data : List UInt8) : Prop where
  full : Full w.modem.flight
  room : w.modem.flight.flatten.length + data.length < 2 ^ 31

theorem Sending.start (h : Settled id x .idle [] w) (hc : Clear w data) :
    Sending id x w data (.start data.length) w where
  settled := h
  going := rfl
  count := Nat.zero_add _
  size := Replies.size_min _
  flight := (List.append_nil _).symm
  taken := (List.append_nil _).symm
  full _ := hc.full

theorem Sending.room (h : Sending id x w data s v) (hc : Clear w data) :
    v.modem.flight.flatten.length + s.size < 2 ^ 31 := by
  have hroom := hc.room
  have hcount := h.count
  have hsize := h.size
  rw [h.flight,List.length_append,List.length_take]
  omega

theorem Sending.next (h : Sending id x w data s v) (hc : Clear w data) (hpos : 0 < s.count)
    (hu : Settled id x .idle [] u) (hposted : Posted v u ((data.drop s.buf).take s.size)) :
    Sending id x w data (s.next s.size) u := by
  have hroom := hc.room
  have hcount := h.count
  have hsize := h.size
  have hmax : maxWriteSize = 512 := rfl
  have hleft : (s.next s.size).count = s.count - s.size := by
    change subU s.count (toUnsigned s.size) = _
    have hcast : toUnsigned (s.size : Int) = s.size := by
      rw [toUnsigned]
      omega
    rw [hcast,subU_of_le (by omega) (by omega)]
  have hbuf : (s.next s.size).buf = s.buf + s.size := rfl
  refine ⟨hu,h.going,?_,?_,?_,?_,fun hmore => ?_⟩
  · rw [hleft,hbuf]
    omega
  · rw [Replies.size_min,hleft]
    change min s.size _ = _
    omega
  · rw [hposted.flight,List.flatten_append,List.flatten_singleton,h.flight,List.append_assoc,
      hbuf,List.take_add]
  · rw [hposted.taken,h.taken,List.append_assoc,hbuf,List.take_add]
  · rw [hleft] at hmore
    have hblock : ((data.drop s.buf).take s.size).length = maxReadSize := by
      rw [List.length_take,List.length_drop]
      change _ = 512
      omega
    intro d hd
    rw [hposted.flight] at hd
    rcases List.mem_append.mp hd with hold | hnew
    · exact h.full hpos d hold
    · rw [List.mem_singleton.mp hnew]
      exact hblock

structure Sent (id : Int) (x : Handle) (w : EchoStation) (data : List UInt8) (n : Int)
    (v : EchoStation) : Prop where
  settled : Settled id x .idle [] v
  part : ∃ k, v.modem.flight.flatten = w.modem.flight.flatten ++ data.take k ∧
    v.modem.taken = w.modem.taken ++ data.take k ∧ (0 ≤ n → n = data.length ∧ k = data.length)

theorem sendBlock_sending (ip : String) (port : Nat) (h : Sending id x w data s v)
    (hc : Clear w data) :
    wp (echoModem id).spec (sendBlock x ip port data s) (fun r u => r.elim
      (fun s => Sending id x w data s u)
      (fun c => Sent id x w data (if c.failed then NsapiError.deviceError
        else toSigned (subU data.length c.count)) u)) v := by
  have hcount := h.count
  have hsize := h.size
  have hmax : maxWriteSize = 512 := rfl
  by_cases hpos : 0 < s.count
  · rw [sendBlock,if_pos hpos]
    have hlen : s.size ≤ (data.drop s.buf).length := by
      rw [List.length_drop]
      omega
    have hblock := sendto_posted (x := x) ip port h.settled (h.full hpos) (by omega) hlen
      (by rw [hsize]; exact Nat.min_le_left _ _) (h.room hc)
    refine wp_seq (echoModem id).mono hblock (fun sent u hu => ?_)
    obtain ⟨hsettled,⟨hneg,hstill⟩ | ⟨rfl,hposted⟩⟩ := hu
    · rw [if_pos hneg,wp_pure]
      refine ⟨hsettled,s.buf,?_,?_,
        fun hn => absurd hn (by decide : ¬ (0 : Int) ≤ NsapiError.deviceError)⟩
      · rw [hstill.flight,h.flight]
      · rw [hstill.taken,h.taken]
    · rw [if_neg (Int.not_lt.mpr (Int.natCast_nonneg _)),wp_pure]
      exact h.next hc hpos hsettled hposted
  · rw [Replies.sendBlock_done hpos,wp_pure]
    have hzero : s.count = 0 := by omega
    have hroom := hc.room
    refine ⟨h.settled,s.buf,h.flight,h.taken,fun _ => ⟨?_,by omega⟩⟩
    rw [h.going,if_neg Bool.false_ne_true,hzero,subU_of_le (Nat.zero_le _) (by omega),
      toSigned_of_lt (by omega)]
    rfl

theorem socketSendto_sent (ip : String) (port : Nat) (h : Settled id x .idle [] w)
    (hc : Clear w data) :
    wp (echoModem id).spec (socketSendto x ip port data) (Sent id x w data) w := by
  simp only [socketSendto,sendLoop,wp_bind,wp_pure]
  refine wp_iterate (fun s v => Sending id x w data s v) (.start h hc) (fun s v hs => ?_)
  refine wp_mono (echoModem id).mono (fun r u hr => ?_) (sendBlock_sending ip port hs hc)
  cases r <;> exact hr

end Send

section Receive
variable {d : List UInt8} {rest : List (List UInt8)}

theorem Settled.oldest (h : Settled id x .idle [] w) (hp : 0 < (slot x w).pending) :
    ∃ d rest, w.modem.queue = d :: rest ∧ d.length = min (slot x w).pending maxReadSize := by
  obtain ⟨known,fresh,hqueue,hpending,-⟩ := h.counted
  rw [List.nil_append] at hqueue
  cases known with
  | nil =>
    rw [hpending] at hp
    cases hp
  | cons d known =>
    refine ⟨d,known ++ fresh,hqueue,?_⟩
    have hflight : w.modem.flight = d :: (known ++ fresh ++ w.modem.air) := by
      rw [Path.flight,hqueue]
      rfl
    have hpacked := h.packed
    rw [List.nil_append,hflight] at hpacked
    obtain ⟨-,hmax,hlast⟩ := packed_head hpacked
    rw [hpending,List.flatten_cons,List.length_append]
    rcases hlast with hnil | hfull
    · have hknown : known = [] :=
        (List.append_eq_nil_iff.mp (List.append_eq_nil_iff.mp hnil).1).1
      rw [hknown]
      exact (Nat.min_eq_left hmax).symm
    · omega

theorem Settled.ask (h : Settled id x .idle [] w) (k : Nat) :
    Settled id x (.asked k) [] { w with modem := w.modem.ask k } :=
  ⟨h.owns,rfl,h.packed,h.room,h.counted⟩

theorem header_whole {m : Path} (hf : m.fetch = .asked d.length) (hq : m.queue = d :: rest) :
    m.header = { m with queue := rest, fetch := .reply d } := by
  rw [Path.header,hf,hq]
  change { m with
    queue := if d.length ≤ d.length then rest else d.drop d.length :: rest
    fetch := .reply (d.take d.length) } = _
  rw [if_pos (Nat.le_refl _),List.take_length]

theorem Settled.header (h : Settled id x (.asked d.length) [] w) (hq : w.modem.queue = d :: rest) :
    Settled id x (.reply d) [d] { w with modem := w.modem.header } ∧
    w.modem.flight = d :: w.modem.header.flight := by
  have hflight : w.modem.flight = d :: (rest ++ w.modem.air) := by
    rw [Path.flight,hq]
    rfl
  have hpacked := h.packed
  have hroom := h.room
  have hcounted := h.counted
  rw [List.nil_append,hflight] at hpacked hroom
  rw [List.nil_append,hq] at hcounted
  rw [header_whole h.fetch hq]
  exact ⟨⟨h.owns,rfl,hpacked,hroom,hcounted⟩,hflight⟩

structure Fetched (x : Handle) (w v : EchoStation) (d : List UInt8) : Prop where
  flight : w.modem.flight = d :: v.modem.flight
  taken : v.modem.taken = w.modem.taken
  pending : (slot x w).pending ≤ (slot x v).pending

theorem Fetched.still (h : Fetched x u v d) (k : Still x v w) : Fetched x u w d :=
  ⟨k.flight ▸ h.flight,k.taken.trans h.taken,h.pending.trans k.pending⟩

theorem Still.fetched (h : Still x u v) (k : Fetched x v w d) : Fetched x u w d :=
  ⟨h.flight.symm.trans k.flight,k.taken.trans h.taken,h.pending.trans k.pending⟩

theorem receiveBody_whole {reply : Int × String × Int × Int}
    (h : Settled id x (.reply d) [d] w) (hr : reply.2.2.2 = d.length) :
    wp (echoModem id).spec (receiveBody reply) (fun got v =>
      (got.size = d.length ∧ got.buf = d) ∧ Settled id x (.reply d) [d] v ∧ Still x w v) w := by
  have hsmall : d.length < 2 ^ 30 := by
    have hmax := (packed_head h.packed).2.1
    have hval : maxReadSize = 512 := rfl
    omega
  have htwice : twice reply.2.2.2 = 2 * d.length := by
    rw [hr,twice,toSigned,toUnsigned]
    split <;> omega
  simp only [receiveBody,wp_bind,wp_ite,wp_pure]
  rw [Modem.wp_asks rfl]
  intro _ _
  rw [Modem.wp_asks rfl]
  intro read hread
  obtain ⟨hfull,hdecode⟩ := hread d h.fetch htwice
  rw [if_pos hfull,Modem.wp_inside rfl]
  intro tail
  rw [Modem.wp_recv]
  intro v b hv hb
  obtain ⟨hsv,hstill⟩ := events_settled h hv
  have hsome : b.isSome = true := hb
  rw [if_pos hsome,hr]
  exact ⟨⟨rfl,hexToBin_decode hdecode tail⟩,hsv,hstill⟩

theorem receiveReply_whole (size : Int) (h : Settled id x (.asked d.length) [] w)
    (hq : w.modem.queue = d :: rest) :
    wp (echoModem id).spec (receiveReply size) (fun got v =>
      (got.size = d.length ∧ got.buf = d) ∧ Settled id x .idle [d] v ∧ Fetched x w v d) w := by
  simp only [receiveReply,wp_bind,wp_ite,wp_pure,Modem.wp_recv,Modem.wp_recvOk]
  intro v b hv hb
  obtain ⟨hsv,hstill⟩ := events_settled h hv
  obtain ⟨more,hmore⟩ := hstill.queue
  have hqueue : v.modem.queue = d :: (rest ++ more) := by
    rw [← hmore,hq]
    rfl
  have hsize := hb d.length hsv.fetch
  rw [hqueue,List.head?_cons,Option.map_some,Int.min_self] at hsize
  obtain ⟨reply,rfl,hreply⟩ := Option.map_eq_some_iff.mp hsize
  obtain ⟨hread,hflight⟩ := hsv.header hqueue
  have htaken : v.modem.header.taken = v.modem.taken := by rw [header_whole hsv.fetch hqueue]
  have hfetched : Fetched x v { v with modem := v.modem.header } d :=
    ⟨hflight,htaken,Nat.le_refl _⟩
  refine wp_mono (echoModem id).mono (fun got u hu => ?_) (receiveBody_whole hread hreply)
  obtain ⟨hgot,hsu,hstill'⟩ := hu
  intro t ok ht hok
  obtain ⟨hst,hstill''⟩ := events_settled hsu ht
  have hsome : ok.isSome = true := by
    refine hok.resolve_left (fun hidle => ?_)
    rw [hst.fetch] at hidle
    cases hidle
  rw [if_pos hsome]
  refine ⟨hgot,hst.finish,hstill.fetched ((hfetched.still hstill').still ?_)⟩
  exact ⟨hstill''.flight,hstill''.taken,hstill''.queue,hstill''.pending⟩

theorem receivefrom_whole (h : Settled id x .idle [] w) (hq : w.modem.queue = d :: rest) :
    wp (echoModem id).spec (receivefrom id d.length) (fun got v =>
      (got.size < 0 ∧ Settled id x .idle [] v ∧ Still x w v) ∨
      ((got.size = d.length ∧ got.buf = d) ∧ Settled id x .idle [d] v ∧ Fetched x w v d)) w := by
  simp only [receivefrom,wp_bind,wp_ite,wp_pure]
  split
  · exact .inl ⟨by decide,h,.refl x w⟩
  rw [Modem.wp_asks rfl]
  intro enough _
  split
  · rw [Modem.wp_inside rfl]
    intro size
    rw [Modem.wp_locked]
    intro v hv
    obtain ⟨hsv,hstill⟩ := events_settled h hv
    obtain ⟨more,hmore⟩ := hstill.queue
    have hqueue : v.modem.queue = d :: (rest ++ more) := by
      rw [← hmore,hq]
      rfl
    rw [wp_bind,Modem.wp_send]
    intro sent hsent
    have hsent : sent = true := hsent
    have hnext : (echoModem id).next (.send (.nsorf id d.length)) v.modem v.driver sent =
        v.modem.ask d.length := if_pos rfl
    rw [hnext,hsent,wp_ite,if_pos rfl]
    refine wp_mono (echoModem id).mono (fun got u hu => .inr ?_)
      (receiveReply_whole size (hsv.ask d.length) hqueue)
    obtain ⟨hgot,hsu,hfetched⟩ := hu
    exact ⟨hgot,hsu,hstill.fetched ⟨hfetched.flight,hfetched.taken,hfetched.pending⟩⟩
  · exact .inl ⟨by decide,h,.refl x w⟩

theorem Counted.subtract {queue : List (List UInt8)} {urcs : List Nat} {pending : Nat}
    (h : Counted (d :: queue) urcs pending) (hd : d.length ≤ pending) (hpos : 0 < d.length)
    (hroom : (d :: queue).flatten.length < 2 ^ 31) :
    Counted queue urcs (subU pending d.length) := by
  obtain ⟨known,fresh,hqueue,rfl,hurcs⟩ := h
  cases known with
  | nil => exact absurd hd (Nat.not_le.mpr hpos)
  | cons e known =>
    rw [List.cons_append,List.cons.injEq] at hqueue
    obtain ⟨rfl,rfl⟩ := hqueue
    rw [List.flatten_cons,List.flatten_append,List.length_append,List.length_append] at hroom
    refine ⟨known,fresh,rfl,?_,hurcs⟩
    rw [List.flatten_cons,List.length_append,subU_of_le (by omega) (by omega)]
    omega

theorem Settled.subtract (h : Settled id x .idle [d] w) (hd : d.length ≤ (slot x w).pending) :
    Settled id x .idle [] { w with driver := w.driver.onSockets (fun s =>
      s.setPending x (subU (s x).pending d.length)) } := by
  have hroom := h.room
  have hpending : (slot x { w with driver := w.driver.onSockets (fun s =>
      s.setPending x (subU (s x).pending d.length)) }).pending =
      subU (slot x w).pending d.length := (Sockets.setPending_pending _ x x _).trans (if_pos rfl)
  rw [List.singleton_append,List.flatten_cons,List.length_append] at hroom
  refine ⟨h.owns.sole.setPending _ _,h.fetch,packed_tail h.packed,?_,?_⟩
  · rw [List.nil_append]
    change w.modem.flight.flatten.length < 2 ^ 31
    omega
  · rw [hpending]
    exact h.counted.subtract hd (packed_head h.packed).1 h.queue_room

structure Heard (id : Int) (x : Handle) (w : EchoStation) (n : Int) (bytes : List UInt8)
    (v : EchoStation) : Prop where
  settled : Settled id x .idle [] v
  taken : v.modem.taken = w.modem.taken
  news : n ≤ 0 ∧ v.modem.flight = w.modem.flight ∨
    n = bytes.length ∧ 0 < n ∧ w.modem.flight = bytes :: v.modem.flight

variable {s : RecvState}

structure Waiting (id : Int) (x : Handle) (w : EchoStation) (s : RecvState) (v : EchoStation) :
    Prop where
  going : s.success = true
  count : s.count = 0
  data : s.data = []
  settled : Settled id x .idle [] v
  still : Still x w v

theorem Waiting.idle (h : Waiting id x w s v) : Heard id x w s.result s.data v := by
  have hresult : s.result = 0 := by
    rw [RecvState.result,if_pos h.going,h.count]
    rfl
  rw [hresult]
  exact ⟨h.settled,h.still.taken,.inl ⟨Int.le_refl _,h.still.flight⟩⟩

theorem Waiting.fails (h : Waiting id x w s v) (hv : Settled id x .idle [] u)
    (hstill : Still x v u) {error : Int} (he : error < 0) {address : Option (String × Int)} :
    Heard id x w { s.fail error with address := address }.result
      { s.fail error with address := address }.data u := by
  have hall := h.still.trans hstill
  refine ⟨hv,hall.taken,.inl ⟨?_,hall.flight⟩⟩
  change error ≤ 0
  omega

theorem Waiting.store (h : Waiting id x w s v) {got : Received} {tail : List UInt8}
    (hgot : got.size = d.length ∧ got.buf = d) (hu : Settled id x .idle [d] u)
    (hf : Fetched x v u d) (hd : d.length ≤ (slot x u).pending) :
    Heard id x w (s.store got tail).result (s.store got tail).data { u with
      driver := u.driver.onSockets (fun s => s.setPending x (subU (s x).pending d.length)) } := by
  obtain ⟨hpos,hmax,-⟩ := packed_head hu.packed
  have hval : maxReadSize = 512 := rfl
  have hcount : addU s.count (toUnsigned got.size) = d.length := by
    rw [h.count,hgot.1,addU,toUnsigned]
    omega
  have hresult : (s.store got tail).result = d.length := by
    have hgoing : (s.store got tail).success = true := h.going
    rw [RecvState.result,if_pos hgoing]
    change toSigned (addU s.count (toUnsigned got.size)) = _
    rw [hcount,toSigned_of_lt (by omega)]
  have hdata : (s.store got tail).data = d := by
    rw [RecvState.store,h.data,hgot.1,hgot.2,List.nil_append]
    exact List.take_left' rfl
  rw [hresult,hdata]
  refine ⟨hu.subtract hd,hf.taken.trans h.still.taken,.inr ⟨rfl,by omega,?_⟩⟩
  exact h.still.flight.symm.trans hf.flight

theorem recvBlock_heard (h : Waiting id x w s v) (hp : 0 < (slot x v).pending) :
    wp (echoModem id).spec
      (recvBlock x (slot x v).modemHandle (min (slot x v).pending maxReadSize) s) (fun r u =>
        r.elim (Heard id x w NsapiError.noMemory s.data u) (fun s =>
          ¬ (s.success = true ∧ 0 < s.size) ∧ Heard id x w s.result s.data u)) v := by
  obtain ⟨d,rest,hqueue,hlength⟩ := h.settled.oldest hp
  have hid : (slot x v).modemHandle = id := (h.settled.owns x).mpr rfl
  rw [hid,← hlength]
  simp only [recvBlock,wp_bind,wp_ite,wp_pure]
  rw [Modem.wp_asks rfl]
  intro enough _
  split
  · refine wp_mono (echoModem id).mono (fun got u hu => ?_)
      (receivefrom_whole h.settled hqueue)
    rcases hu with ⟨hneg,hsu,hstill⟩ | ⟨hgot,hsu,hfetched⟩
    · rw [if_neg (Int.not_le.mpr hneg)]
      exact ⟨fun hs => Bool.false_ne_true hs.1,h.fails hsu hstill hneg⟩
    · have hcovered : d.length ≤ (slot x u).pending := by
        refine Nat.le_trans ?_ hfetched.pending
        rw [hlength]
        exact Nat.min_le_left _ _
      rw [if_pos (by rw [hgot.1]; exact Int.natCast_nonneg _),Modem.wp_inside rfl]
      intro tail
      rw [Modem.wp_modify]
      exact ⟨fun hs => absurd hs.2 (Nat.lt_irrefl 0),h.store hgot hsu hfetched hcovered⟩
  · exact ⟨h.settled,h.still.taken,.inl ⟨by decide,h.still.flight⟩⟩

theorem recvIteration_heard (t : Int) (h : Waiting id x w s v) :
    wp (echoModem id).spec (recvIteration t x s) (fun r u => r.elim
      (fun s => Waiting id x w s u ∨
        ¬ (s.success = true ∧ 0 < s.size) ∧ Heard id x w s.result s.data u)
      (fun c => Heard id x w c.result c.data u)) v := by
  simp only [recvIteration,wp_bind,wp_ite,wp_elim,wp_pure,Modem.wp_lock,Modem.wp_unlock,
    Modem.wp_atSetTimeout,wp_get]
  intro u hu
  obtain ⟨hsu,hstill⟩ := events_settled h.settled hu
  have hwait : Waiting id x w s u := ⟨h.going,h.count,h.data,hsu,h.still.trans hstill⟩
  split
  · rename_i hblk
    have hpending : 0 < (slot x u).pending := Nat.lt_of_lt_of_le hblk (Nat.min_le_left _ _)
    refine wp_mono (echoModem id).mono (fun r z hr => ?_) (recvBlock_heard hwait hpending)
    cases r with
    | none => exact hr
    | some s' => exact .inr hr
  · simp only [recvWait,recvUnnatural,wp_bind,wp_ite,wp_pure]
    rw [Modem.wp_asks rfl]
    intro ms _
    split
    · rw [Modem.wp_recv]
      intro z b hz _
      obtain ⟨hsz,hstill'⟩ := events_settled hsu hz
      exact .inl ⟨h.going,h.count,h.data,hsz,hwait.still.trans hstill'⟩
    · refine .inr ⟨fun hs => Bool.false_ne_true hs.1,?_⟩
      exact hwait.fails hsu (.refl x u) (by decide)

theorem socketRecvfrom_heard (size : UInt32) (h : Settled id x .idle [] w) :
    wp (echoModem id).spec (socketRecvfrom x size) (fun r v => Heard id x w r.1 r.2.1 v) w := by
  simp only [socketRecvfrom,recvLoop,wp_bind,wp_pure,Modem.wp_atTimeout]
  intro t
  rw [Modem.wp_inside rfl]
  intro _
  refine wp_iterate (fun s v => Waiting id x w s v ∨
    ¬ (s.success = true ∧ 0 < s.size) ∧ Heard id x w s.result s.data v)
    (.inl ⟨rfl,rfl,rfl,h,.refl x w⟩) (fun s v hs => ?_)
  rw [wp_ite]
  split
  · rename_i hmore
    rcases hs with hwait | ⟨hdone,-⟩
    · refine wp_mono (echoModem id).mono (fun r u hr => ?_) (recvIteration_heard t hwait)
      cases r <;> exact hr
    · exact absurd hmore hdone
  · rcases hs with hwait | ⟨-,hheard⟩
    · exact hwait.idle
    · exact hheard

end Receive

inductive Talk (id : Int) (x : Handle) (start : EchoStation) : List UInt8 → EchoStation → Prop
  | start : Talk id x start [] start
  | send {heard : List UInt8} {u v : EchoStation} (ip : String) (port : Nat) (data : List UInt8)
      {n : Int} : Talk id x start heard u → Clear u data →
      (echoModem id).Runs (socketSendto x ip port data) u n v → Talk id x start heard v
  | receive {heard : List UInt8} {u v : EchoStation} (size : UInt32) {n : Int}
      {bytes : List UInt8} {address : Option (String × Int)} : Talk id x start heard u →
      (echoModem id).Runs (socketRecvfrom x size) u (n, bytes, address) v →
      Talk id x start (heard ++ bytes.take n.toNat) v
  | event {heard : List UInt8} {u v : EchoStation} : Talk id x start heard u →
      PathEvent id u.modem u.driver v.modem v.driver → Talk id x start heard v

theorem Talk.conserves {start : EchoStation} {heard : List UInt8}
    (h : Talk id x start heard w) (hs : Settled id x .idle [] start)
    (hempty : start.modem.flight = [] ∧ start.modem.taken = []) :
    Settled id x .idle [] w ∧ heard ++ w.modem.flight.flatten = w.modem.taken := by
  induction h with
  | start =>
    rw [hempty.1,hempty.2]
    exact ⟨hs,rfl⟩
  | send ip port data _ hc hr ih =>
    obtain ⟨hsettled,k,hflight,htaken,-⟩ := Modem.sound (socketSendto_sent ip port ih.1 hc) hr
    refine ⟨hsettled,?_⟩
    rw [hflight,htaken,← ih.2,List.append_assoc]
  | @receive heard u v size n bytes address _ hr ih =>
    obtain ⟨hsettled,htaken,hnews⟩ := Modem.sound (socketRecvfrom_heard size ih.1) hr
    refine ⟨hsettled,?_⟩
    rw [htaken,← ih.2]
    rcases hnews with ⟨hn,hflight⟩ | ⟨hn,-,hflight⟩
    · have hzero : n.toNat = 0 := Int.toNat_of_nonpos hn
      rw [hzero,List.take_zero,List.append_nil,hflight]
    · have hlength : n = bytes.length := hn
      rw [hlength,Int.toNat_natCast,List.take_length,hflight,List.flatten_cons,List.append_assoc]
  | event _ he ih =>
    obtain ⟨hsettled,hstill⟩ := event_settled ih.1 he
    refine ⟨hsettled,?_⟩
    rw [hstill.flight,hstill.taken]
    exact ih.2

def opened (d : Driver) : EchoStation := ⟨d,.empty⟩

theorem opened_settled {d : Driver} (ho : Owns id x d.iface.sockets)
    (hp : (d.iface.sockets x).pending = 0) : Settled id x .idle [] (opened d) where
  owns := ho
  fetch := rfl
  packed := trivial
  room := (by decide : 0 < 2 ^ 31)
  counted := ⟨[],[],rfl,hp,rfl⟩

theorem echo_returns {d : Driver} {heard : List UInt8} (ho : Owns id x d.iface.sockets)
    (hp : (d.iface.sockets x).pending = 0) (hw : Talk id x (opened d) heard w) :
    heard ++ w.modem.flight.flatten = w.modem.taken ∧
    (∀ ip port data n v, Clear w data →
      (echoModem id).Runs (socketSendto x ip port data) w n v → 0 ≤ n →
        n = data.length ∧ v.modem.taken = w.modem.taken ++ data) ∧
    ∀ size n bytes address v,
      (echoModem id).Runs (socketRecvfrom x size) w (n, bytes, address) v → 0 < n →
        n = bytes.length ∧ w.modem.flight = bytes :: v.modem.flight := by
  obtain ⟨hsettled,hall⟩ := hw.conserves (opened_settled ho hp) ⟨rfl,rfl⟩
  refine ⟨hall,fun ip port data n v hc hr hn => ?_,fun size n bytes address v hr hn => ?_⟩
  · obtain ⟨-,k,-,htaken,hexact⟩ := Modem.sound (socketSendto_sent ip port hsettled hc) hr
    obtain ⟨hlength,rfl⟩ := hexact hn
    rw [List.take_length] at htaken
    exact ⟨hlength,htaken⟩
  · obtain ⟨-,-,hnews⟩ := Modem.sound (socketRecvfrom_heard size hsettled) hr
    rcases hnews with ⟨hnone,-⟩ | ⟨hlength,-,hflight⟩
    · exact absurd hn (Int.not_lt.mpr hnone)
    · exact ⟨hlength,hflight⟩

def bounce (w : EchoStation) : EchoStation :=
  match w.modem.air, w.modem.urcs with
  | d :: rest, [] => ⟨(Urc.nsonmi id d.length).handle w.driver,
      { w.modem.back d rest with urcs := [] }⟩
  | _, _ => w

theorem bounce_events (w : EchoStation) : (echoModem id).Events w (@bounce id w) := by
  obtain ⟨d,m⟩ := w
  rw [bounce]
  split
  · rename_i l rest hair hurcs
    have hair : m.air = l :: rest := hair
    have hurcs : m.urcs = [] := hurcs
    have hnext : (m.back l rest).urcs = [l.length] := by
      change m.urcs ++ [l.length] = _
      rw [hurcs]
      rfl
    let v : EchoStation := ⟨d,m.back l rest⟩
    have hback : (echoModem id).Events ⟨d,m⟩ v := .single (.back m d hair)
    exact .tail hback (.deliver (m.back l rest) d hnext)
  · exact .refl

def parrot (id : Int) : Modem.Peer sig Path where
  send _ _ := true
  recv
    | _, .nsostf, w => some (some (0, w.modem.letter.length), w)
    | _, .nsorf, w => some (match w.modem.fetch with
        | .asked k => w.modem.queue.head?.map (fun d => (0, "10.0.0.2", 7, min (k : Int) d.length))
        | _ => none, w)
    | _, .unnatural, w => some (some (), @bounce id w)
    | _, .remaining, w => some (some "0", w)
    | _, .ok, w => some (some (), w)
    | _, _, _ => none
  ask
    | _, .read _ size, w => some (size, match w.modem.fetch with
        | .reply l => Hex.encode l
        | _ => [])
    | _, .timerReadMs, _ => some 0
    | _, .malloc _ _, _ => some true
    | _, .setIpAddress _, _ => some true
    | _, _, _ => none

theorem parrot_fair : (parrot id).Fair (echoModem id) where
  send c w := by
    cases c <;> first | rfl | trivial
  recv := by
    intro β p w b v h
    cases p <;> cases h
    case unnatural => exact ⟨bounce_events w,trivial⟩
    case nsostf => exact ⟨.refl,fun r hr => by cases hr; rfl⟩
    case nsorf =>
      refine ⟨.refl,fun k hk => ?_⟩
      rw [hk,Option.map_map]
      rfl
    case remaining => exact ⟨.refl,rfl⟩
    case ok => exact ⟨.refl,.inr rfl⟩
  ask := by
    intro β e w b h
    cases e with
    | read buf size =>
      cases h
      intro l hl _
      rw [hl]
      exact ⟨rfl,Hex.decode_encode l⟩
    | _ => trivial

def echoed (data : List UInt8) (w : EchoStation) : Option (List UInt8 × EchoStation) :=
  ((socketSendto 0 "10.0.0.2" 7 data).run ((echoModem 0).machine.play (parrot 0).script) 3 w).bind
    (fun r => ((socketRecvfrom 0 100).run ((echoModem 0).machine.play (parrot 0).script) 5 r.2).map
      (fun q => (q.1.2.1.take q.1.1.toNat, q.2)))

theorem echoed_talk {start u v : EchoStation} {heard data bytes : List UInt8}
    (h : Talk 0 0 start heard u) (hc : Clear u data) (hrun : echoed data u = some (bytes, v)) :
    Talk 0 0 start (heard ++ bytes) v := by
  obtain ⟨⟨sent,w⟩,hsend,hrest⟩ := Option.bind_eq_some_iff.mp hrun
  obtain ⟨⟨⟨n,got,address⟩,x⟩,hrecv,he⟩ := Option.map_eq_some_iff.mp hrest
  simp only [Prod.mk.injEq] at he
  obtain ⟨rfl,rfl⟩ := he
  exact .receive 100 (.send "10.0.0.2" 7 data h hc (parrot_fair.runs hsend))
    (parrot_fair.runs hrecv)

theorem clear_empty {w : EchoStation} (h : w.modem.flight = []) {data : List UInt8}
    (hd : data.length < 2 ^ 31) : Clear w data := by
  refine ⟨?_,?_⟩
  · rw [h]
    exact fun d hd => nomatch hd
  · rw [h]
    exact (Nat.zero_add _).trans_lt hd

theorem echo_returns_hello : ∃ w, Talk 0 0 (opened listening) [0xca,0xfe,0x01,0x02,0x03] w ∧
    w.modem.flight = [] ∧
    [0xca,0xfe,0x01,0x02,0x03] ++ w.modem.flight.flatten = w.modem.taken := by
  have hrun : (echoed [0xca,0xfe,0x01] (opened listening)).bind (fun r =>
      (echoed [0x02,0x03] r.2).map (fun q => (r.1, r.2.modem.flight, q.1, q.2.modem.flight))) =
      some ([0xca,0xfe,0x01], [], [0x02,0x03], []) := by decide +kernel
  obtain ⟨⟨first,u⟩,hfirst,hrest⟩ := Option.bind_eq_some_iff.mp hrun
  obtain ⟨⟨second,w⟩,hsecond,he⟩ := Option.map_eq_some_iff.mp hrest
  simp only [Prod.mk.injEq] at he
  obtain ⟨rfl,hempty,rfl,hflight⟩ := he
  have htalk : Talk 0 0 (opened listening) [0xca,0xfe,0x01,0x02,0x03] w :=
    echoed_talk (echoed_talk .start (clear_empty rfl (by decide)) hfirst)
      (clear_empty hempty (by decide)) hsecond
  exact ⟨w,htalk,hflight,(echo_returns listening_owns rfl htalk).1⟩

end EchoStation

end UbloxCellular.N2xx
