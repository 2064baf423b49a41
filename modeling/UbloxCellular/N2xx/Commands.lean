import UbloxCellular.N2xx.Fragments

namespace UbloxCellular.N2xx
open Interaction Code

-- AT_PARSER_BUFFER_SIZE, from MBED_CONF_UBLOX_CELL_GEN_DRV_AT_PARSER_BUFFER_SIZE or 0 if that
-- is not defined.
def atParserBufferSize (conf : Nat) : Nat := if conf ≠ 0 then conf else 256

-- With its terminator.
def Cmd.formatted (c : Cmd) : Nat := c.text.length + 1

def nsostfHeader (id : Int) (ip : String) (port size : Nat) : Nat :=
  19 + (toString id).length + ip.length + (toString port).length + (toString size).length

def nsostfLength (id : Int) (ip : String) (port size : Nat) : Nat :=
  nsostfHeader id ip port size + 2 * size

theorem decimal_mono {m n : Nat} (h : m ≤ n) : (toString m).length ≤ (toString n).length := by
  have hlength (k : Nat) : (toString k).length = (Nat.toDigits 10 k).length := by
    rw [Nat.toString_eq_repr,← String.length_toList,Nat.toList_repr]
  rw [hlength,hlength,Nat.length_toDigits_le_iff (by decide) Nat.length_toDigits_pos]
  exact h.trans_lt ((Nat.length_toDigits_le_iff (by decide) Nat.length_toDigits_pos).mp le_rfl)

theorem nsostfLength_mono (id : Int) (ip : String) (port : Nat) {m n : Nat} (h : m ≤ n) :
    nsostfLength id ip port m ≤ nsostfLength id ip port n := by
  have hdecimal := decimal_mono h
  unfold nsostfLength nsostfHeader
  omega

theorem nsostf_text (id : Int) (ip : String) (port : Nat) (size : Int) (hex : String) :
    (Cmd.nsostf id ip port size hex).text = "AT+NSOSTF=" ++ toString id ++ "," ++ ip ++ "," ++
      toString port ++ ",0x0," ++ toString size ++ "," ++ hex := rfl

theorem nsostf_formatted (id : Int) (ip : String) (port size : Nat) (buf : List UInt8) :
    (Cmd.nsostf id ip port size (binToHex buf)).formatted =
      nsostfHeader id ip port size + 2 * buf.length := by
  have hhex : (binToHex buf).length = 2 * buf.length := by
    rw [← String.length_toList,hex_length]
  have hsize : toString (size : Int) = toString size := rfl
  have hcommand : "AT+NSOSTF=".length = 10 := rfl
  have hcomma : ",".length = 1 := rfl
  have hflag : ",0x0,".length = 5 := rfl
  rw [Cmd.formatted,nsostf_text,hsize,nsostfHeader]
  simp only [String.length_append,hhex,hcommand,hcomma,hflag]
  omega

theorem sendto_formatted (id : Int) (ip : String) (port size : Nat) (buf : List UInt8) :
    (Cmd.nsostf id ip port size (binToHex (buf.take size))).formatted ≤
      nsostfLength id ip port size := by
  rw [nsostf_formatted,nsostfLength,List.length_take]
  omega

theorem SendState.size_min (s : SendState) : s.size = min s.count s.blk := by
  by_cases h : s.count < s.blk
  · rw [SendState.size,if_pos h,Nat.min_eq_left h.le]
  · rw [SendState.size,if_neg h,Nat.min_eq_right (Nat.le_of_not_lt h)]

theorem SendState.next_size (s : SendState) (sent : Int) : (s.next sent).size ≤ s.size := by
  rw [SendState.size_min]
  exact Nat.min_le_right _ _

def commandModem : Modem sig (List Cmd) where
  event x d y e := y = x ∧ ∃ urc : Urc, e = urc.handle d
  allow _ _ _ _ _ := True
  next
    | _, .send c, x, _, _ => c :: x
    | _, _, x, _, _ => x

abbrev CommandStation := Station sig (List Cmd)

namespace CommandStation

variable {x : Handle} {id : Int} {limit : Nat} {w : CommandStation}

theorem announced_handle (s : Sockets) (socket length : Int) (x : Handle) :
    (announced socket length s x).modemHandle = (s x).modemHandle := by
  rw [announced]
  cases s.findSocket socket with
  | none => rfl
  | some y => exact Sockets.setPending_handle s x y _

def same (x : Handle) : commandModem.Kept where
  pre _ := True
  rel u v := (v.driver.iface.sockets x).modemHandle = (u.driver.iface.sockets x).modemHandle ∧
    v.modem = u.modem
  refl _ := ⟨rfl,rfl⟩
  trans _ _ _ h k := ⟨k.1.trans h.1,k.2.trans h.2⟩
  keep _ _ _ _ := trivial
  event u v _ h := by
    obtain ⟨hm,urc,hd⟩ := h
    refine ⟨?_,hm⟩
    rw [hd]
    cases urc with
    | cereg status => rfl
    | nsonmi socket length => exact announced_handle _ _ _ x

instance (p : Pat β) : (same x).frame.Keeps (recv p : N2xxCode (Option β)) :=
  Modem.Kept.keeps_act rfl (fun _ _ _ _ => ⟨rfl,rfl⟩)

structure Fitting (x : Handle) (id : Int) (limit : Nat) (w : CommandStation) : Prop where
  handle : (w.driver.iface.sockets x).modemHandle = id
  fit : ∀ c ∈ w.modem, c.formatted ≤ limit

theorem fitting (x : Handle) (id : Int) (limit : Nat) : (same x).Stable (Fitting x id limit) where
  pre _ _ := trivial
  rel u v hu h := by
    refine ⟨h.1.trans hu.handle,?_⟩
    rw [h.2]
    exact hu.fit

theorem sendto_fitting {ip : String} {port size : Nat} (buf : List UInt8)
    (hw : Fitting x id limit w) (hsize : nsostfLength id ip port size ≤ limit) :
    wp commandModem.spec (sendto x ip port buf size) (fun _ => Fitting x id limit) w := by
  simp only [sendto,wp_bind,wp_ite,wp_pure]
  rw [Modem.wp_asks rfl]
  intro enough _
  split
  · rw [Modem.wp_locked]
    intro v hv
    obtain ⟨hid,hfit⟩ := (fitting x id limit).events hv hw
    rw [wp_bind]
    refine (Modem.wp_get (M := commandModem) _).mpr ?_
    rw [wp_bind,Modem.wp_ask]
    intro sent _
    have hsent : Fitting x id limit { v with
        modem := .nsostf (v.driver.iface.sockets x).modemHandle ip port size
          (binToHex (buf.take size)) :: v.modem } := by
      refine ⟨hid,List.forall_mem_cons.mpr ⟨?_,hfit⟩⟩
      rw [hid]
      exact (sendto_formatted id ip port size buf).trans hsize
    split
    · refine wp_mono commandModem.mono (fun r u hu => ?_) ((fitting x id limit).run hsent)
      cases r with
      | none => exact hu
      | some reply =>
        rw [Option.elim_some]
        exact wp_seq commandModem.mono ((fitting x id limit).run hu) (fun _ _ h => h)
    · exact hsent
  · exact hw

theorem socketSendto_fitting {ip : String} {port : Nat} {data : List UInt8}
    (hw : Fitting x id limit w)
    (hfit : data = [] ∨ nsostfLength id ip port (min data.length maxWriteSize) ≤ limit) :
    wp commandModem.spec (socketSendto x ip port data) (fun _ => Fitting x id limit) w := by
  rw [socketSendto,wp_bind,sendLoop]
  refine wp_iterate (fun s v => Fitting x id limit v ∧
    (0 < s.count → nsostfLength id ip port s.size ≤ limit)) ⟨hw,?_⟩ ?_
  · intro hcount
    rw [SendState.size_min]
    refine hfit.resolve_left (fun hnil => ?_)
    rw [hnil] at hcount
    exact Nat.lt_irrefl 0 hcount
  · rintro s v ⟨hv,hs⟩
    rw [sendBlock,wp_ite]
    split
    · rename_i hcount
      refine wp_seq commandModem.mono (sendto_fitting _ hv (hs hcount)) (fun sent u hu => ?_)
      rw [wp_ite]
      split
      · exact hu
      · exact ⟨hu,fun _ => (nsostfLength_mono id ip port (s.next_size sent)).trans (hs hcount)⟩
    · exact hv

def unplugged : Modem.Peer sig (List Cmd) where
  send _ _ := false
  recv _ _ _ := none
  ask
    | _, .malloc _ _, _ => some true
    | _, _, _ => none

theorem unplugged_fair : unplugged.Fair commandModem where
  send _ _ := trivial
  recv := by rintro _ _ _ _ _ ⟨⟩
  ask _ _ _ _ _ := trivial

def first (x : Handle) (ip : String) (port : Nat) (data : List UInt8) (d : Driver) : Cmd :=
  .nsostf (d.iface.sockets x).modemHandle ip port (SendState.start data.length).size
    (binToHex (data.take (SendState.start data.length).size))

theorem first_sent (x : Handle) (ip : String) (port : Nat) {data : List UInt8} (d : Driver)
    (hdata : data ≠ []) : ∃ r, commandModem.Runs (socketSendto x ip port data) ⟨d,[]⟩ r
      ⟨d,[first x ip port data d]⟩ := by
  cases data with
  | nil => exact absurd rfl hdata
  | cons a l =>
    have hrun : (socketSendto x ip port (a :: l)).run
        (commandModem.machine.play unplugged.script) 1 ⟨d,[]⟩ =
        some (NsapiError.deviceError, ⟨d,[first x ip port (a :: l) d]⟩) := rfl
    exact ⟨_,unplugged_fair.runs hrun⟩

theorem first_formatted (x : Handle) (ip : String) (port : Nat) (data : List UInt8) (d : Driver) :
    (first x ip port data d).formatted = nsostfLength (d.iface.sockets x).modemHandle ip port
      (min data.length maxWriteSize) := by
  have hsize : (SendState.start data.length).size = min data.length maxWriteSize :=
    SendState.size_min _
  rw [first,hsize,nsostf_formatted,nsostfLength,List.length_take,
    Nat.min_eq_left (Nat.min_le_left data.length maxWriteSize)]

theorem commands_fit_iff (conf : Nat) (x : Handle) (ip : String) (port : Nat)
    (data : List UInt8) (d : Driver) :
    (∀ r w, commandModem.Runs (socketSendto x ip port data) ⟨d,[]⟩ r w →
      ∀ c ∈ w.modem, c.formatted ≤ atParserBufferSize conf) ↔
    data = [] ∨ nsostfLength (d.iface.sockets x).modemHandle ip port
      (min data.length maxWriteSize) ≤ atParserBufferSize conf := by
  constructor
  · intro h
    by_cases hdata : data = []
    · exact .inl hdata
    · obtain ⟨r,hx⟩ := first_sent x ip port d hdata
      refine .inr ?_
      rw [← first_formatted x ip port data d]
      exact h r _ hx _ (List.mem_singleton_self _)
  · intro hfit r w hx
    have hw : Fitting x (d.iface.sockets x).modemHandle (atParserBufferSize conf) ⟨d,[]⟩ :=
      ⟨rfl,fun c hc => absurd hc List.not_mem_nil⟩
    exact (Modem.sound (socketSendto_fitting hw hfit) hx).fit

def opened : Driver := Driver.initial.onSockets (fun s =>
  Function.update s 0 { SockCtrl.cleared with modemHandle := 0 })

theorem command_overflows : ¬ ∀ (conf : Nat) (x : Handle) (ip : String) (port : Nat)
    (data : List UInt8) (d : Driver) (r : Int) (w : CommandStation),
    commandModem.Runs (socketSendto x ip port data) ⟨d,[]⟩ r w →
      ∀ c ∈ w.modem, c.formatted ≤ atParserBufferSize conf := by
  intro hall
  have hdata : List.replicate 128 (65 : UInt8) ≠ [] := List.cons_ne_nil _ _
  obtain ⟨r,hx⟩ := first_sent 0 "10.0.0.1" 7 opened hdata
  have hfit := hall 0 0 "10.0.0.1" 7 (List.replicate 128 65) opened r _ hx _
    (List.mem_singleton_self _)
  rw [first_formatted,nsostfLength,List.length_replicate] at hfit
  have hsize : min 128 maxWriteSize = 128 := rfl
  have hbuffer : atParserBufferSize 0 = 256 := rfl
  rw [hsize,hbuffer,nsostfHeader] at hfit
  omega

end CommandStation

end UbloxCellular.N2xx
