import UbloxCellular.Gsm.Interface
import UbloxCellular.Gsm.ReadLine
import UbloxCellular.N2xx.Cereg

namespace UbloxCellular.Gsm
open Memory N2xx
open N2xx.CeregLine (printed_ne_nil printed_short comma_ahead)

-- What getc() gives of a stream, and -1 once there is nothing left of it.
def feed (s : List UInt8) (i : Nat) : Int := s[i]?.elim (-1) (fun b => b.toNat)

def bytes (l : List Char) : List UInt8 := l.map (fun c => UInt8.ofNat c.toNat)

def scanned (buf : Cells UInt8) (size : Nat) : List Char :=
  ((buf.read 0 size).takeWhile (fun b => b ≠ 0)).map (fun b => Char.ofNat b.toNat)

-- A handler reads the rest of its line into a buffer of its own, and leaves the stream behind it.
def urc (size : Nat) (decode : List Char → Option Urc) (buf : Cells UInt8) (s : List UInt8)
    (d : Driver AtInterface) : Driver AtInterface × List UInt8 :=
  let r := readAtToChar (feed s) buf size 0x0a
  (if 0 < r.count then (decode (scanned r.buf size)).elim d (fun u => u.handle d) else d,
    s.drop r.taken)

def scanPair (event : Int → Int → Urc) (t : List Char) : Option Urc :=
  match sscanf [.lit ':',.space,.int,.lit ',',.int] t with
  | [.int a,.int b] => some (event a b)
  | _ => none

def scanOne (event : Int → Urc) (t : List Char) : Option Urc :=
  match sscanf [.lit ':',.space,.int] t with
  | [.int a] => some (event a)
  | _ => none

-- The first number of the longer format is %*d, which is scanned and not stored.
def scanStatus (event : Int → Urc) (t : List Char) : Option Urc :=
  match sscanf [.lit ':',.space,.int,.lit ',',.int] t with
  | [_,.int status] => some (event status)
  | _ => scanOne event t

def uusordUrc := urc 32 (scanPair .uusord)
def uusorfUrc := urc 32 (scanPair .uusorf)
def uusoclUrc := urc 32 (scanOne .uusocl)
def uupsddUrc := urc 32 (scanOne .uupsdd)
def cregUrc := urc 10 (scanStatus .creg)
def cgregUrc := urc 10 (scanStatus .cgreg)
def ceregUrc := urc 10 (scanStatus .cereg)

def decimal (n : Int32) : List Char := N2xx.printed n.toInt

-- A status as it stands in a result code of its own or, after the mode, in the answer to a query;
-- the line has to fit in the ten bytes that the handlers have for it.
structure Registration where
  mode : Option Int32
  status : Int32
  short : (mode.elim [] (fun n => decimal n ++ [','])).length + (decimal status).length ≤ 6

inductive UrcLine where
  | uusord (socket length : Int32)
  | uusorf (socket length : Int32)
  | uusocl (socket : Int32)
  | uupsdd (socket : Int32)
  | creg (r : Registration)
  | cgreg (r : Registration)
  | cereg (r : Registration)

namespace Registration

def fields (r : Registration) : List Char :=
  r.mode.elim [] (fun n => decimal n ++ [',']) ++ decimal r.status

end Registration

namespace UrcLine

def name : UrcLine → String
  | uusord _ _ => "+UUSORD"
  | uusorf _ _ => "+UUSORF"
  | uusocl _ => "+UUSOCL"
  | uupsdd _ => "+UUPSDD"
  | creg _ => "+CREG"
  | cgreg _ => "+CGREG"
  | cereg _ => "+CEREG"

def fields : UrcLine → List Char
  | uusord socket length => decimal socket ++ ',' :: decimal length
  | uusorf socket length => decimal socket ++ ',' :: decimal length
  | uusocl socket => decimal socket
  | uupsdd socket => decimal socket
  | creg r => r.fields
  | cgreg r => r.fields
  | cereg r => r.fields

def event : UrcLine → Urc
  | uusord socket length => .uusord socket.toInt length.toInt
  | uusorf socket length => .uusorf socket.toInt length.toInt
  | uusocl socket => .uusocl socket.toInt
  | uupsdd socket => .uupsdd socket.toInt
  | creg r => .creg r.status.toInt
  | cgreg r => .cgreg r.status.toInt
  | cereg r => .cereg r.status.toInt

def body (x : UrcLine) : List Char := ':' :: ' ' :: x.fields

def text (x : UrcLine) : List Char := x.name.toList ++ x.body ++ ['\r','\n']

def handler : UrcLine → Cells UInt8 → List UInt8 → Driver AtInterface →
    Driver AtInterface × List UInt8
  | uusord _ _ => uusordUrc
  | uusorf _ _ => uusorfUrc
  | uusocl _ => uusoclUrc
  | uupsdd _ => uupsddUrc
  | creg _ => cregUrc
  | cgreg _ => cgregUrc
  | cereg _ => ceregUrc

end UrcLine

-- The parser calls a handler once it has read its name.
def listen (buf : Cells UInt8) : List UrcLine → List UInt8 → Driver AtInterface →
    Driver AtInterface × List UInt8
  | [], s, d => (d, s)
  | x :: xs, s, d =>
    let r := x.handler buf (s.drop x.name.toList.length) d
    listen buf xs r.2 r.1

section Stream
variable {l rest : List UInt8}

theorem feed_before {i : Nat} (h : i < l.length) : feed (l ++ rest) i = l[i].toNat := by
  rw [feed,List.getElem?_append_left h,List.getElem?_eq_getElem h]
  rfl

theorem feed_after (i : Nat) : feed (l ++ rest) (l.length + i) = feed rest i := by
  rw [feed,List.getElem?_append_right (Nat.le_add_right _ _),Nat.add_sub_cancel_left]
  rfl

theorem byte_toNat (b : UInt8) : UInt8.ofInt (b.toNat : Int) = b := by
  rw [UInt8.ofInt]
  norm_cast
  rw [Nat.mod_eq_of_lt b.toNat_lt]
  exact UInt8.ofNat_toNat

theorem bytesRead_feed : bytesRead (feed (l ++ rest)) l.length = l := by
  refine List.ext_getElem (bytesRead_length _ _) (fun i hi hi' => ?_)
  simp only [bytesRead,List.getElem_map,List.getElem_range,feed_before hi']
  exact byte_toNat _

theorem readAtToChar_whole {size : Nat} (buf : Cells UInt8) (hl : ∀ b ∈ l, b ≠ 0x0a)
    (hroom : l.length + 2 ≤ size) :
    (readAtToChar (feed (l ++ [0x0d,0x0a] ++ rest)) buf size 0x0a).count = l.length ∧
    (readAtToChar (feed (l ++ [0x0d,0x0a] ++ rest)) buf size 0x0a).taken = l.length + 2 ∧
    Cells.Written buf 0 (l ++ 0 :: [0])
      (readAtToChar (feed (l ++ [0x0d,0x0a] ++ rest)) buf size 0x0a).buf := by
  have hgoes : ∀ i < l.length + 1, Goes 0x0a (feed (l ++ [0x0d,0x0a] ++ rest) i) := by
    intro i hi
    rw [List.append_assoc]
    rcases Nat.lt_or_ge i l.length with hlt | hge
    · rw [feed_before hlt]
      refine ⟨Int.natCast_nonneg _,fun h => hl _ (List.getElem_mem hlt) ?_⟩
      exact UInt8.toNat_inj.mp (Int.natCast_inj.mp h)
    · obtain rfl : i = l.length + 0 := by omega
      have hreturn : feed ([0x0d,0x0a] ++ rest) 0 = 13 := rfl
      rw [feed_after,hreturn]
      exact ⟨by decide,by decide⟩
  have hstops : ¬ Goes 0x0a (feed (l ++ [0x0d,0x0a] ++ rest) (l.length + 1)) := by
    rw [List.append_assoc,feed_after]
    exact fun h => h.2 rfl
  have hsize : 1 ≤ (size : Int) := by omega
  have hline : (0x0a : UInt8) ≠ 0 := by decide
  obtain ⟨n,hs,hn⟩ := readLoop_consumed (feed (l ++ [0x0d,0x0a] ++ rest)) buf hsize hline
  have htaken : n = l.length + 1 := by
    have hroom' := hn.room
    rcases Nat.lt_trichotomy n (l.length + 1) with hlt | heq | hgt
    · rcases hn.last with hlast | hlast
      · omega
      · exact absurd (hgoes n hlt) hlast
    · exact heq
    · exact absurd (hn.before (l.length + 1) hgt) hstops
  subst htaken
  have hread : bytesRead (feed (l ++ [0x0d,0x0a] ++ rest)) (l.length + 1 + 1) =
      l ++ [0x0d,0x0a] := by
    have h := @bytesRead_feed (l ++ [0x0d,0x0a]) rest
    rwa [List.length_append] at h
  have hended := hs.written.set (k := l.length + 1) (by simp) 0
  have hset : (l ++ [0x0d,0x0a]).set (l.length + 1) 0 = l ++ [0x0d] ++ [0] := by
    rw [List.set_append_right _ _ (Nat.le_succ _),Nat.succ_sub (Nat.le_refl _),Nat.sub_self,
      List.append_assoc]
    rfl
  rw [hread,hset,Int.zero_add] at hended
  have hcount : (l.length + 1 + 1 : Nat) - (1 : Int) = (l.length + 1 : Nat) := by omega
  have hreturn := (last_cell hended 0x0d).mpr List.getLast?_concat
  rw [List.length_append,List.length_singleton] at hreturn
  have hback : ((l.length + 1 : Nat) : Int) - 1 = l.length := by omega
  rw [readAtToChar,if_pos (by omega)]
  simp only [hs.count,hs.taken,hcount]
  rw [if_pos ⟨hreturn.1,trivial,hreturn.2⟩,hback]
  exact ⟨rfl,rfl,written_chopped hended⟩

end Stream

section Characters

def Inked (c : Char) : Prop := 10 < c.toNat ∧ c.toNat < 128

theorem inked_digit {c : Char} (h : c.isDigit = true) : Inked c := by
  obtain ⟨hlo,hhi⟩ := digit_bounds h
  exact ⟨by omega,by omega⟩

theorem decimal_inked (n : Int32) : ∀ c ∈ decimal n, Inked c := by
  intro c hc
  obtain hd | ⟨-,rfl⟩ := mem_printed hc
  · exact inked_digit hd
  · exact ⟨by decide,by decide⟩

theorem byte_inked {c : Char} (h : Inked c) : (UInt8.ofNat c.toNat).toNat = c.toNat :=
  Nat.mod_eq_of_lt (Nat.lt_trans h.2 (by decide))

theorem scanned_bytes {t : List Char} (ht : ∀ c ∈ t, Inked c) {buf b : Cells UInt8} {size : Nat}
    (hb : Cells.Written buf 0 (bytes t ++ 0 :: [0]) b) (hsize : t.length + 2 ≤ size) :
    scanned b size = t := by
  have hread : b.read 0 (t.length + 2) = bytes t ++ 0 :: [0] := by
    have h := hb.read
    rwa [List.length_append,bytes,List.length_map] at h
  have hmore : b.read 0 size = bytes t ++ 0 :: ([0] ++ b.read (t.length + 2 : Nat)
      (size - (t.length + 2))) := by
    have hsum : size = (t.length + 2) + (size - (t.length + 2)) := by omega
    rw [hsum,Cells.read,List.range_add,List.map_append,List.map_map]
    change b.read 0 (t.length + 2) ++ _ = _
    rw [hread,List.append_assoc,List.cons_append,Nat.add_sub_cancel_left]
    simp only [Cells.read,Function.comp_def,Int.natCast_add,Int.zero_add]
  have hink : ∀ x ∈ bytes t, decide (x ≠ 0) = true := by
    intro x hx
    obtain ⟨c,hc,rfl⟩ := List.mem_map.mp hx
    refine decide_eq_true (fun h => ?_)
    have hzero := congrArg UInt8.toNat h
    rw [byte_inked (ht c hc)] at hzero
    exact absurd (ht c hc).1 (by rw [hzero]; decide)
  rw [scanned,hmore,List.takeWhile_append_of_pos hink,List.takeWhile_cons_of_neg (by decide),
    List.append_nil,bytes,List.map_map]
  refine (List.map_congr_left (fun c hc => ?_)).trans (List.map_id t)
  change Char.ofNat (UInt8.ofNat c.toNat).toNat = c
  rw [byte_inked (ht c hc)]
  exact Char.ofNat_toNat c

theorem urc_line {size : Nat} {decode : List Char → Option Urc} {t : List Char} {u : Urc}
    (ht : ∀ c ∈ t, Inked c) (hne : t ≠ []) (hsize : t.length + 2 ≤ size)
    (hdecode : decode t = some u) (buf : Cells UInt8) (rest : List UInt8)
    (d : Driver AtInterface) :
    urc size decode buf (bytes t ++ [0x0d,0x0a] ++ rest) d = (u.handle d, rest) := by
  have hlength : (bytes t).length = t.length := List.length_map _
  have hline : ∀ b ∈ bytes t, b ≠ 0x0a := by
    intro b hb h
    obtain ⟨c,hc,rfl⟩ := List.mem_map.mp hb
    have hten := congrArg UInt8.toNat h
    rw [byte_inked (ht c hc)] at hten
    exact absurd (ht c hc).1 (by rw [hten]; decide)
  obtain ⟨hcount,htaken,hw⟩ := @readAtToChar_whole _ rest _ buf hline (hlength ▸ hsize)
  have hpos : 0 < (t.length : Int) := Int.natCast_pos.mpr (List.length_pos_iff.mpr hne)
  rw [urc,hcount,htaken,scanned_bytes ht hw hsize,hdecode,hlength,if_pos hpos,Option.elim_some]
  refine congrArg (Prod.mk _) ?_
  rw [← hlength]
  exact List.drop_left' (by rw [List.length_append]; rfl)

end Characters

section Numbers

theorem sscanf_led (ds : List Directive) (n : Int32) (rest : List Char) :
    sscanf (.lit ':' :: .space :: ds) (':' :: ' ' :: (decimal n ++ rest)) =
      sscanf ds (decimal n ++ rest) := by
  have hspace : (' ' :: (decimal n ++ rest)).dropWhile isSpace = decimal n ++ rest := by
    rw [List.dropWhile_cons_of_pos (by decide)]
    obtain ⟨c,t,hc⟩ := List.exists_cons_of_ne_nil (printed_ne_nil n.toInt)
    have hmem : c ∈ N2xx.printed n.toInt := by
      rw [hc]
      exact List.mem_cons_self
    rw [decimal,hc,List.cons_append]
    refine List.dropWhile_cons_of_neg (fun h => ?_)
    obtain hd | ⟨-,rfl⟩ := mem_printed hmem
    · exact absurd ((digit_not_space hd).symm.trans h) Bool.false_ne_true
    · exact absurd h (by decide)
  rw [sscanf]
  exact (if_pos rfl).trans (congrArg (sscanf ds) hspace)

theorem sscanf_last (n : Int32) : sscanf [.int] (decimal n) = [.int n.toInt] := by
  have h := @scanInt_printed n.toInt [] nofun
  rw [List.append_nil] at h
  rw [sscanf,decimal,h]
  rfl

theorem sscanf_next (ds : List Directive) (n : Int32) (rest : List Char) :
    sscanf (.int :: .lit ',' :: ds) (decimal n ++ ',' :: rest) = .int n.toInt :: sscanf ds rest := by
  rw [sscanf,decimal,scanInt_printed n.toInt (comma_ahead rest)]
  exact congrArg (List.cons _) (sscanf_comma ds rest)

theorem sscanf_lone (n : Int32) : sscanf [.int,.lit ',',.int] (decimal n) = [.int n.toInt] := by
  have h := @scanInt_printed n.toInt [] nofun
  rw [List.append_nil] at h
  rw [sscanf,decimal,h]
  rfl

theorem scanOne_body (event : Int → Urc) (n : Int32) :
    scanOne event (':' :: ' ' :: decimal n) = some (event n.toInt) := by
  have hled := sscanf_led [.int] n []
  rw [List.append_nil,sscanf_last] at hled
  rw [scanOne,hled]

theorem scanPair_body (event : Int → Int → Urc) (a b : Int32) :
    scanPair event (':' :: ' ' :: (decimal a ++ ',' :: decimal b)) =
      some (event a.toInt b.toInt) := by
  rw [scanPair,sscanf_led,sscanf_next,sscanf_last]

theorem scanStatus_body (event : Int → Urc) (r : Registration) :
    scanStatus event (':' :: ' ' :: r.fields) = some (event r.status.toInt) := by
  obtain ⟨mode,status,-⟩ := r
  cases mode with
  | none =>
    have hled := sscanf_led [.int,.lit ',',.int] status []
    rw [List.append_nil,sscanf_lone] at hled
    have hone := scanOne_body event status
    rw [scanStatus]
    change (match sscanf _ (':' :: ' ' :: decimal status) with
      | [_,.int status] => some (event status)
      | _ => scanOne event (':' :: ' ' :: decimal status)) = _
    rw [hled]
    exact hone
  | some n =>
    have hfields : (Registration.mk (some n) status ‹_›).fields =
        decimal n ++ ',' :: decimal status := by
      simp [Registration.fields]
    rw [hfields,scanStatus,sscanf_led,sscanf_next,sscanf_last]

end Numbers

namespace UrcLine

theorem body_inked (x : UrcLine) : ∀ c ∈ x.body, Inked c := by
  have hpair (a b : Int32) : ∀ c ∈ decimal a ++ ',' :: decimal b, Inked c := by
    intro c hc
    rcases List.mem_append.mp hc with h | h
    · exact decimal_inked a c h
    · rcases List.mem_cons.mp h with rfl | h
      · exact ⟨by decide,by decide⟩
      · exact decimal_inked b c h
  have hstatus (r : Registration) : ∀ c ∈ r.fields, Inked c := by
    obtain ⟨mode,status,-⟩ := r
    cases mode with
    | none => exact decimal_inked status
    | some n =>
      have h := hpair n status
      simpa [Registration.fields] using h
  have hfields : ∀ c ∈ x.fields, Inked c := by
    cases x with
    | uusord a b => exact hpair a b
    | uusorf a b => exact hpair a b
    | uusocl a => exact decimal_inked a
    | uupsdd a => exact decimal_inked a
    | creg r => exact hstatus r
    | cgreg r => exact hstatus r
    | cereg r => exact hstatus r
  intro c hc
  rcases List.mem_cons.mp hc with rfl | hc
  · exact ⟨by decide,by decide⟩
  · rcases List.mem_cons.mp hc with rfl | hc
    · exact ⟨by decide,by decide⟩
    · exact hfields c hc

theorem handler_line (x : UrcLine) (buf : Cells UInt8) (rest : List UInt8)
    (d : Driver AtInterface) :
    x.handler buf (bytes (x.body ++ ['\r','\n']) ++ rest) d = (x.event.handle d, rest) := by
  have hbytes : bytes (x.body ++ ['\r','\n']) = bytes x.body ++ [0x0d,0x0a] := by
    rw [bytes,List.map_append]
    rfl
  have hink := x.body_inked
  have hne : x.body ≠ [] := List.cons_ne_nil _ _
  have hone (n : Int32) : (':' :: ' ' :: decimal n).length + 2 ≤ 32 := by
    have := printed_short n
    simp only [List.length_cons,decimal]
    omega
  have hpair (a b : Int32) : (':' :: ' ' :: (decimal a ++ ',' :: decimal b)).length + 2 ≤ 32 := by
    have := printed_short a
    have := printed_short b
    simp only [List.length_cons,List.length_append,decimal]
    omega
  have hstatus (r : Registration) : (':' :: ' ' :: r.fields).length + 2 ≤ 10 := by
    have := r.short
    simp only [List.length_cons,Registration.fields,List.length_append]
    omega
  rw [hbytes]
  cases x with
  | uusord a b => exact urc_line hink hne (hpair a b) (scanPair_body _ a b) buf rest d
  | uusorf a b => exact urc_line hink hne (hpair a b) (scanPair_body _ a b) buf rest d
  | uusocl a => exact urc_line hink hne (hone a) (scanOne_body _ a) buf rest d
  | uupsdd a => exact urc_line hink hne (hone a) (scanOne_body _ a) buf rest d
  | creg r => exact urc_line hink hne (hstatus r) (scanStatus_body _ r) buf rest d
  | cgreg r => exact urc_line hink hne (hstatus r) (scanStatus_body _ r) buf rest d
  | cereg r => exact urc_line hink hne (hstatus r) (scanStatus_body _ r) buf rest d

end UrcLine

theorem urcs_heard (buf : Cells UInt8) (l : List UrcLine) (rest : List UInt8)
    (d : Driver AtInterface) :
    listen buf l (bytes (l.flatMap UrcLine.text) ++ rest) d =
      (l.foldl (fun d x => x.event.handle d) d, rest) := by
  induction l generalizing d with
  | nil => rfl
  | cons x l ih =>
    have hstream : (bytes ((x :: l).flatMap UrcLine.text) ++ rest).drop x.name.toList.length =
        bytes (x.body ++ ['\r','\n']) ++ (bytes (l.flatMap UrcLine.text) ++ rest) := by
      rw [List.flatMap_cons,UrcLine.text,bytes,List.map_append,List.append_assoc x.name.toList,
        List.map_append,List.append_assoc,List.append_assoc]
      refine (List.drop_left' (List.length_map _)).trans ?_
      rfl
    rw [listen,hstream,x.handler_line]
    exact ih (x.event.handle d)

end UbloxCellular.Gsm
