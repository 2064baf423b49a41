import UbloxCellular.Gsm.ReceiveLoop

namespace UbloxCellular.Gsm
open Interaction Code

-- The modem's side of one socket. An announcement is fresh until more data arrives: then its count
-- is no longer all that is unread.
structure Notice where
  count : Nat
  fresh : Bool
  deriving DecidableEq, Repr

-- One subtraction from a socket's pending count: the count it found, how much the request asked
-- for, the last announcement the driver has been given, the bytes handed over since then, and the
-- bytes of this reply.
structure Taking where
  pending : Nat
  asked : Nat
  heard : Notice
  taken : Nat
  bytes : Nat
  deriving DecidableEq, Repr

structure Feed where
  unread : Nat
  flying : List Notice
  asked : Option Nat
  heard : Notice
  taken : Nat
  takings : List Taking
  deriving DecidableEq, Repr

namespace Feed

def opened : Feed := ⟨0,[],none,⟨0,true⟩,0,[]⟩

def arrive (f : Feed) (n : Nat) : Feed :=
  { f with unread := f.unread + n, flying := f.flying.map (fun m => ⟨m.count,false⟩),
           heard := ⟨f.heard.count,false⟩ }

def announce (f : Feed) : Feed := { f with flying := f.flying ++ [⟨f.unread,true⟩] }

def deliver (f : Feed) (m : Notice) (rest : List Notice) : Feed :=
  { f with flying := rest, heard := m, taken := 0 }

def ask (f : Feed) (k : Option Nat) : Feed := { f with asked := k }

def answer (f : Feed) (pending n : Nat) : Feed :=
  f.asked.elim f (fun k =>
    { f with unread := f.unread - n, taken := f.taken + n,
             takings := f.takings ++ [⟨pending,k,f.heard,f.taken,n⟩] })

end Feed

def dataUrcs (socket : Int) (n : Int) : List Urc := [.uusord socket n,.uusorf socket n]

inductive FeedEvent (id : Int) : Feed → Driver AtInterface → Feed → Driver AtInterface → Prop
  | arrive (f : Feed) (d : Driver AtInterface) (n : Nat) : 0 < n → f.unread + n < 2 ^ 31 →
      FeedEvent id f d (f.arrive n) d
  | announce (f : Feed) (d : Driver AtInterface) : FeedEvent id f d f.announce d
  | deliver (f : Feed) (d : Driver AtInterface) (u : Urc) (m : Notice) (rest : List Notice) :
      f.flying = m :: rest → u ∈ dataUrcs id m.count →
      FeedEvent id f d (f.deliver m rest) (u.handle d)
  | other (f : Feed) (d : Driver AtInterface) (u : Urc) (a n : Int) : a ≠ id →
      u ∈ dataUrcs a n → FeedEvent id f d f (u.handle d)

-- The socket with handle id, which slot x holds. A request for it is answered with no more bytes
-- than were asked for and than are unread; what the other sockets are given is arbitrary.
def feedModem (id : Int) (x : Handle) : Modem (sig AtInterface) Feed where
  event := FeedEvent id
  allow
    | _, .recv .usord, f, _, b => ∀ k ∈ f.asked, ∀ n ∈ b, n ≤ k ∧ n ≤ f.unread
    | _, .recv .usorf, f, _, b => ∀ k ∈ f.asked, ∀ r ∈ b, r.2.2 ≤ k ∧ r.2.2 ≤ f.unread
    | _, _, _, _, _ => True
  next
    | _, .send (.usord h k), f, _, _ => f.ask (if h = id then some k else none)
    | _, .send (.usorf h k), f, _, _ => f.ask (if h = id then some k else none)
    | _, .recv .usord, f, d, b => b.elim f (f.answer (d.iface.sockets x).pending)
    | _, .recv .usorf, f, d, b =>
        b.elim f (fun r => f.answer (d.iface.sockets x).pending r.2.2)
    | _, _, f, _, _ => f

abbrev FeedStation := Station (sig AtInterface) Feed

namespace FeedStation

variable {id : Int} {x y : Handle} {w : FeedStation}

def Kept (takings : List Taking) : Prop := ∀ t ∈ takings, t.bytes ≤ t.pending

def Announced (t : Taking) : Prop := t.heard.fresh = true ∨ t.asked + t.taken ≤ t.heard.count

structure Even (f : Feed) (pending : Nat) : Prop where
  count : pending + f.taken = f.heard.count
  fresh : f.heard.fresh = true → f.unread ≤ pending

structure Level (f : Feed) (pending : Nat) : Prop where
  unread : f.unread < 2 ^ 31
  heard : f.heard.count < 2 ^ 31
  flying : ∀ m ∈ f.flying, m.count < 2 ^ 31 ∧ (m.fresh = true → f.unread ≤ m.count)
  kept : (∀ t ∈ f.takings, Announced t) → Kept f.takings ∧ Even f pending

namespace Level

variable {f : Feed} {pending : Nat}

theorem opened : Level .opened 0 where
  unread := by decide
  heard := by decide
  flying := by rintro m ⟨⟩
  kept _ := ⟨by rintro t ⟨⟩,rfl,fun _ => Nat.le_refl 0⟩

theorem arrive (h : Level f pending) {n : Nat} (hn : f.unread + n < 2 ^ 31) :
    Level (f.arrive n) pending := by
  refine ⟨hn,h.heard,fun m hm => ?_,fun hall => ?_⟩
  · obtain ⟨m,hmem,rfl⟩ := List.mem_map.mp hm
    exact ⟨(h.flying m hmem).1,fun hfresh => absurd hfresh Bool.false_ne_true⟩
  · obtain ⟨hkept,heven⟩ := h.kept hall
    exact ⟨hkept,heven.count,fun hfresh => absurd hfresh Bool.false_ne_true⟩

theorem announce (h : Level f pending) : Level f.announce pending := by
  refine ⟨h.unread,h.heard,fun m hm => ?_,fun hall => ?_⟩
  · rcases List.mem_append.mp hm with hm | hm
    · exact h.flying m hm
    · rw [List.mem_singleton.mp hm]
      exact ⟨h.unread,fun _ => Nat.le_refl _⟩
  · obtain ⟨hkept,heven⟩ := h.kept hall
    exact ⟨hkept,heven.count,heven.fresh⟩

theorem deliver (h : Level f pending) {m : Notice} {rest : List Notice}
    (hm : f.flying = m :: rest) : Level (f.deliver m rest) (toUnsigned m.count) := by
  have hflying : ∀ l ∈ m :: rest, l.count < 2 ^ 31 ∧ (l.fresh = true → f.unread ≤ l.count) :=
    hm ▸ h.flying
  obtain ⟨hsmall,hfresh⟩ := hflying m List.mem_cons_self
  have hcount : toUnsigned m.count = m.count := toUnsigned_natCast (by omega)
  refine ⟨h.unread,hsmall,fun l hl => hflying l (List.mem_cons_of_mem m hl),fun hall => ?_⟩
  rw [hcount]
  exact ⟨(h.kept hall).1,rfl,hfresh⟩

theorem ask (h : Level f pending) (k : Option Nat) : Level (f.ask k) pending := by
  refine ⟨h.unread,h.heard,h.flying,fun hall => ?_⟩
  obtain ⟨hkept,heven⟩ := h.kept hall
  exact ⟨hkept,heven.count,heven.fresh⟩

theorem elsewhere (h : Level f pending) (hf : f.asked = none) (n : Nat) :
    Level (f.answer pending n) pending := by
  rw [Feed.answer,hf]
  exact h

theorem within {k n : Nat} (heven : Even f pending) (hk : n ≤ k) (hn : n ≤ f.unread)
    (ht : Announced ⟨pending,k,f.heard,f.taken,n⟩) : n ≤ pending := by
  have hcount := heven.count
  rcases ht with hfresh | hasked
  · exact hn.trans (heven.fresh hfresh)
  · have hasked : k + f.taken ≤ f.heard.count := hasked
    omega

theorem answer (h : Level f pending) {k n : Nat} (hf : f.asked = some k) (hk : n ≤ k)
    (hn : n ≤ f.unread) : Level (f.answer pending n) (subU pending n) := by
  have hunread := h.unread
  have hheard := h.heard
  rw [Feed.answer,hf,Option.elim_some]
  refine ⟨Nat.lt_of_le_of_lt (Nat.sub_le _ _) hunread,hheard,fun m hm => ?_,fun hall => ?_⟩
  · obtain ⟨hsmall,hfresh⟩ := h.flying m hm
    exact ⟨hsmall,fun hm => (Nat.sub_le _ _).trans (hfresh hm)⟩
  · obtain ⟨hbefore,hlast⟩ := List.forall_mem_append.mp hall
    rw [List.forall_mem_singleton] at hlast
    obtain ⟨hkept,heven⟩ := h.kept hbefore
    have hcount := heven.count
    have hwithin : n ≤ pending := within heven hk hn hlast
    have hsub : subU pending n = pending - n := subU_of_le hwithin (by omega)
    refine ⟨List.forall_mem_append.mpr ⟨hkept,List.forall_mem_singleton.mpr hwithin⟩,?_,?_⟩
    · change subU pending n + (f.taken + n) = f.heard.count
      rw [hsub]
      omega
    · intro hfresh
      rw [hsub]
      exact Nat.sub_le_sub_right (heven.fresh hfresh) n

end Level

structure Tracked (id : Int) (x : Handle) (w : FeedStation) : Prop where
  sole : w.driver.iface.sockets.Sole id x
  level : Level w.modem (w.driver.iface.sockets x).pending

theorem urc_sockets {u : Urc} {a n : Int} (h : u ∈ dataUrcs a n) (d : Driver AtInterface) :
    (u.handle d).iface.sockets = pendingUrc a n d.iface.sockets := by
  rcases List.mem_cons.mp h with rfl | h
  · rfl
  · rw [List.mem_singleton.mp h]
    rfl

theorem event_tracked {u v : FeedStation} (h : Tracked id x u)
    (he : FeedEvent id u.modem u.driver v.modem v.driver) : Tracked id x v := by
  obtain ⟨d,f⟩ := u
  obtain ⟨d',f'⟩ := v
  cases he with
  | arrive n _ hn => exact ⟨h.sole,h.level.arrive hn⟩
  | announce => exact ⟨h.sole,h.level.announce⟩
  | deliver u m rest hf hu =>
    have hs : (u.handle d).iface.sockets =
        d.iface.sockets.setPending x (toUnsigned m.count) := by
      rw [urc_sockets hu,pendingUrc,h.sole.find,Option.elim_some]
    refine ⟨?_,?_⟩
    · change (u.handle d).iface.sockets.Sole id x
      rw [hs]
      exact h.sole.setPending x _
    · change Level _ ((u.handle d).iface.sockets x).pending
      rw [hs,Sockets.setPending_pending,if_pos rfl]
      exact h.level.deliver hf
  | other u a n ha hu =>
    have hs : (u.handle d).iface.sockets = pendingUrc a n d.iface.sockets := urc_sockets hu d
    have hlevel : Level f (d.iface.sockets x).pending := h.level
    have hsole : d.iface.sockets.Sole id x := h.sole
    refine ⟨?_,?_⟩
    · change (u.handle d).iface.sockets.Sole id x
      intro z
      rw [hs,pendingUrc_handle]
      exact hsole z
    · change Level f ((u.handle d).iface.sockets x).pending
      rw [hs,pendingUrc]
      cases hf : d.iface.sockets.findSocket a with
      | none => exact hlevel
      | some y =>
        rw [Option.elim_some,Sockets.setPending_pending,if_neg (hsole.find_other ha hf).symm]
        exact hlevel

theorem events_tracked {u v : FeedStation} (h : Tracked id x u)
    (he : (feedModem id x).Events u v) : Tracked id x v :=
  Modem.events_keep he h (fun _ _ => event_tracked)

theorem events_asked {u v : FeedStation} (he : (feedModem id x).Events u v) :
    v.modem.asked = u.modem.asked := by
  refine Modem.events_keep (P := fun t => t.modem.asked = u.modem.asked) he rfl ?_
  rintro ⟨d,f⟩ ⟨d',f'⟩ hs hst
  cases hst <;> exact hs

theorem Tracked.ask (h : Tracked id x w) (k : Option Nat) :
    Tracked id x { w with modem := w.modem.ask k } := ⟨h.sole,h.level.ask k⟩

theorem Tracked.asked (h : Tracked id x w) (y : Handle) (k : Nat) :
    (if (w.driver.iface.sockets y).modemHandle = id then some k else none) =
      if y = x then some k else none := by
  by_cases hy : y = x
  · rw [if_pos ((h.sole y).mpr hy),if_pos hy]
  · rw [if_neg (fun hid => hy ((h.sole y).mp hid)),if_neg hy]

theorem Tracked.subtract (h : Tracked id x w) {k n : Nat}
    (hasked : w.modem.asked = if y = x then some k else none)
    (hn : ∀ k ∈ w.modem.asked, n ≤ k ∧ n ≤ w.modem.unread) : Tracked id x
      ⟨w.driver.onSockets (fun s => s.setPending y (subU (s y).pending n)),
        w.modem.answer (w.driver.iface.sockets x).pending n⟩ := by
  refine ⟨h.sole.setPending y _,?_⟩
  change Level _ (w.driver.iface.sockets.setPending y _ x).pending
  rw [Sockets.setPending_pending]
  split
  · rename_i hxy
    subst hxy
    have hsome : w.modem.asked = some k := hasked.trans (if_pos rfl)
    obtain ⟨hk,hunread⟩ := hn k hsome
    exact h.level.answer hsome hk hunread
  · rename_i hxy
    exact h.level.elsewhere (hasked.trans (if_neg (fun hyx => hxy hyx.symm))) n

theorem recvBlock_tracked (s : RecvState) (h : Tracked id x w) :
    wp (feedModem id x).spec (recvBlock y s) (fun _ v => Tracked id x v) w := by
  simp only [recvBlock,subPending,Modem.wp_ask,wp_bind,wp_get,wp_elim,wp_pure,Modem.wp_modify,
    Modem.wp_recvOk]
  intro sent _
  have hasked := h.asked y (min maxReadSize s.size)
  have hask := h.ask (if (w.driver.iface.sockets y).modemHandle = id then
    some (min maxReadSize s.size) else none)
  split
  · rw [Modem.wp_recv]
    intro v r hv hallow
    have htracked : Tracked id x v := events_tracked hask hv
    have hkeep : v.modem.asked = _ := (events_asked hv).trans hasked
    cases r with
    | none => exact htracked
    | some n =>
      have hsub := htracked.subtract hkeep (fun k hk => hallow k hk n rfl)
      rw [Option.elim_some,Modem.wp_asks rfl]
      intro b _ u _ hu _
      exact events_tracked hsub hu
  · exact hask

theorem recvfromBlock_tracked (s : RecvState) (h : Tracked id x w) :
    wp (feedModem id x).spec (recvfromBlock y s) (fun _ v => Tracked id x v) w := by
  simp only [recvfromBlock,subPending,Modem.wp_ask,wp_bind,wp_get,wp_elim,wp_pure,
    Modem.wp_modify,Modem.wp_recvOk,wp_ite]
  intro sent _
  have hasked := h.asked y (min maxReadSize s.size)
  have hask := h.ask (if (w.driver.iface.sockets y).modemHandle = id then
    some (min maxReadSize s.size) else none)
  split
  · rw [Modem.wp_recv]
    intro v r hv hallow
    have htracked : Tracked id x v := events_tracked hask hv
    have hkeep : v.modem.asked = _ := (events_asked hv).trans hasked
    cases r with
    | none => exact htracked
    | some reply =>
      have hsub := htracked.subtract hkeep (fun k hk => hallow k hk reply rfl)
      rw [Option.elim_some,Modem.wp_asks rfl]
      intro b _
      split
      · rw [Modem.wp_asks rfl]
        exact fun _ _ u _ hu _ => events_tracked hsub hu
      · exact fun u _ hu _ => events_tracked hsub hu
  · exact hask

theorem recvWait_tracked (s : RecvState) (h : Tracked id x w) :
    wp (feedModem id x).spec (recvWait s) (fun _ v => Tracked id x v) w := by
  rw [wp_recvWait]
  intro ms _
  split
  · rw [Modem.wp_recv]
    exact fun v _ hv _ => events_tracked h hv
  · exact h

theorem recvLoop_tracked {block : Handle → RecvState → AtCode RecvState} {size : UInt32}
    (h : Tracked id x w) (hblock : ∀ (s : RecvState) (u : FeedStation), Tracked id x u →
      wp (feedModem id x).spec (block y s) (fun _ v => Tracked id x v) u) :
    wp (feedModem id x).spec (recvLoop block y size) (fun _ v => Tracked id x v) w :=
  wp_mono (feedModem id x).mono (fun _ _ h => h.1)
    (wp_recvLoop (fun _ u => Tracked id x u) h (fun _ _ _ => events_tracked)
      (fun s u hu _ => hblock s u hu) (fun s _ hu _ => recvWait_tracked s hu))

end FeedStation

inductive Receive where
  | recv (x : Handle) (size : UInt32)
  | recvfrom (x : Handle) (size : UInt32)
  deriving DecidableEq

def Receive.code : Receive → AtCode Unit
  | .recv x size => void (socketRecv x size)
  | .recvfrom x size => void (socketRecvfrom x size)

namespace FeedStation

variable {id : Int} {x : Handle} {w : FeedStation}

abbrev Received (id : Int) (x : Handle) (d : Driver AtInterface) (w : FeedStation) : Prop :=
  (feedModem id x).Reached Receive.code (fun _ _ => True) ⟨d,.opened⟩ w

theorem receive_tracked (o : Receive) (h : Tracked id x w) :
    wp (feedModem id x).spec o.code (fun _ v => Tracked id x v) w := by
  cases o with
  | recv y size =>
    simp only [Receive.code,Modem.wp_void,socketRecv,wp_bind,wp_pure]
    exact recvLoop_tracked h (fun s _ hu => recvBlock_tracked s hu)
  | recvfrom y size =>
    simp only [Receive.code,Modem.wp_void,socketRecvfrom,wp_bind,wp_pure]
    exact recvLoop_tracked h (fun s _ hu => recvfromBlock_tracked s hu)

theorem pending_kept {d : Driver AtInterface} (hd : d.iface.sockets.Sole id x)
    (hz : (d.iface.sockets x).pending = 0) (h : Received id x d w)
    (hall : ∀ t ∈ w.modem.takings, Announced t) : Kept w.modem.takings := by
  have hstart : Tracked id x ⟨d,.opened⟩ := by
    refine ⟨hd,?_⟩
    rw [hz]
    exact .opened
  have htracked : Tracked id x w := h.keeps hstart (fun u o hu _ => receive_tracked o hu)
    (fun u v hu he => event_tracked hu he)
  exact (htracked.level.kept hall).1

def generous : Modem.Peer (sig AtInterface) Feed where
  send _ _ := true
  recv
    | _, .usord, w => some (w.modem.asked.map (fun k => min k w.modem.unread), w)
    | _, .ok, w => some (some (), w)
    | _, _, _ => none
  ask
    | _, .read _ size, _ => some (size, List.replicate size.toNat 7)
    | _, .timerReadMs, _ => some socketTimeout
    | _, _, _ => none

theorem generous_fair : generous.Fair (feedModem id x) where
  send _ _ := trivial
  recv := by
    intro β p w b v h
    cases p <;> cases h
    case usord =>
      refine ⟨.refl,fun k hk n hn => ?_⟩
      rw [Option.mem_def.mp hk] at hn
      rw [← Option.some.inj (Option.mem_def.mp hn)]
      exact ⟨Nat.min_le_left _ _,Nat.min_le_right _ _⟩
    case ok => exact ⟨.refl,trivial⟩
  ask := by
    intro β e w b h
    cases e <;> trivial

def listening : Driver AtInterface := announced.onSockets (fun s => s.setPending 0 0)

theorem listening_sole : listening.iface.sockets.Sole 0 0 := by
  rw [Sockets.Sole]
  decide

def aware : FeedStation :=
  ⟨(Urc.uusord 0 4).handle listening,(Feed.opened.arrive 4).announce.deliver ⟨4,true⟩ []⟩

theorem aware_received : Received 0 0 listening aware := by
  have harrive : Received 0 0 listening ⟨listening,Feed.opened.arrive 4⟩ :=
    .event .start (.arrive _ _ 4 (by decide) (by decide))
  have hannounce : Received 0 0 listening ⟨listening,(Feed.opened.arrive 4).announce⟩ :=
    .event harrive (.announce _ _)
  exact .event hannounce (.deliver (Feed.opened.arrive 4).announce listening (.uusord 0 4)
    ⟨4,true⟩ [] rfl List.mem_cons_self)

def more (w : FeedStation) : FeedStation := ⟨w.driver,w.modem.arrive 3⟩

theorem more_received (h : Received 0 0 listening w) (hn : w.modem.unread + 3 < 2 ^ 31) :
    Received 0 0 listening (more w) := .event h (.arrive _ _ 3 (by decide) hn)

def taken (size : UInt32) (w : FeedStation) : Option FeedStation :=
  ((Receive.recv 0 size).code.run ((feedModem 0 0).machine.play generous.script) 3 w).map Prod.snd

theorem taken_received {size : UInt32} {v : FeedStation} (h : Received 0 0 listening w)
    (hrun : taken size w = some v) : Received 0 0 listening v := by
  obtain ⟨⟨⟨⟩,u⟩,hr,rfl⟩ := Option.map_eq_some_iff.mp hrun
  exact .call (.recv 0 size) h trivial (generous_fair.runs hr)

theorem pending_kept_late : ∃ w : FeedStation, Received 0 0 listening w ∧
    w.modem.takings = [⟨4,3,⟨4,true⟩,0,3⟩,⟨1,1,⟨4,false⟩,3,1⟩] ∧ Kept w.modem.takings := by
  obtain ⟨w,hw,htakings⟩ := Option.map_eq_some_iff.mp
    (by decide : ((taken 3 aware).bind (fun v => taken 1 (more v))).map (fun w =>
      w.modem.takings) = some [⟨4,3,⟨4,true⟩,0,3⟩,⟨1,1,⟨4,false⟩,3,1⟩])
  obtain ⟨v,hv,hw⟩ := Option.bind_eq_some_iff.mp hw
  have hleft : v.modem.unread = 1 := by
    have hmap : (taken 3 aware).map (fun v => v.modem.unread) = some 1 := by decide
    rw [hv] at hmap
    exact Option.some.inj hmap
  have hreceived : Received 0 0 listening w :=
    taken_received (more_received (taken_received aware_received hv) (by rw [hleft]; decide)) hw
  have hall : ∀ t ∈ w.modem.takings, Announced t := by
    rw [htakings]
    rintro t (_ | ⟨_,_ | ⟨_,⟨⟩⟩⟩)
    · exact .inl rfl
    · exact .inr (by decide)
  exact ⟨w,hreceived,htakings,pending_kept listening_sole rfl hreceived hall⟩

theorem pending_wraps : ¬ ∀ w : FeedStation, Received 0 0 listening w → Kept w.modem.takings := by
  intro hall
  obtain ⟨w,hw,htakings⟩ := Option.map_eq_some_iff.mp
    (by decide : (taken 5 (more aware)).map (fun w => w.modem.takings) =
      some [⟨4,5,⟨4,false⟩,0,5⟩])
  have hkept := hall w (taken_received (more_received aware_received (by decide)) hw)
  rw [htakings] at hkept
  exact absurd (hkept ⟨4,5,⟨4,false⟩,0,5⟩ List.mem_cons_self) (by decide)

end FeedStation

end UbloxCellular.Gsm
