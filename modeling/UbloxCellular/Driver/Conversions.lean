import UbloxCellular.Gsm.State
import UbloxCellular.N2xx.Cereg
import UbloxCellular.Scanf.Format

namespace UbloxCellular
open Scanf N2xx

def cReader : Reader where
  blank := isSpace
  number s :=
    match scanInt s with
    | .value _ rest => some rest
    | _ => none

abbrev lits (s : String) : List Item := literal cReader s

def notQuote : CharSet := ⟨true,['"']⟩
def notNewline : CharSet := ⟨true,['\n']⟩
def notComma : CharSet := ⟨true,[',']⟩

structure Conversion where
  before : List Item
  width : Nat
  chars : CharSet
  room : Nat
  behind : List Item

namespace Conversion

def format (c : Conversion) : List Item :=
  c.before ++ .set (some c.width) c.chars (some c.room) :: c.behind

def Short (c : Conversion) (line : List Char) : Prop :=
  Shorter cReader c.before c.chars c.room line

def plain (c : Conversion) : Bool := c.before.all Item.plain && c.behind.all Item.plain

theorem fits_iff {c : Conversion} (h : c.plain = true) (line : List Char) :
    Fits cReader c.format line ↔ (c.room ≤ c.width → c.Short line) := by
  rw [plain,Bool.and_eq_true] at h
  have hbefore : Fits cReader c.before line := fits_plain h.1 line
  rw [format]
  by_cases hroom : c.room ≤ c.width
  · rw [fits_wide (fun w hw => Option.some.inj hw ▸ hroom) h.2,and_iff_right hbefore]
    exact ⟨fun h _ => h,fun h => h hroom⟩
  · rw [fits_narrow (Nat.lt_of_not_le hroom) h.2]
    exact iff_of_true hbefore (fun hle => absurd hle hroom)

theorem text_format {before behind : List Item} {width room : Nat} {k : CharSet} {p q : String}
    (hp : Scanf.text before ++ ['%'] = p.toList)
    (hq : '[' :: ((if k.negated then ['^'] else []) ++ k.chars ++ [']']) ++ Scanf.text behind =
      q.toList) :
    Scanf.text (format ⟨before,width,k,room,behind⟩) = (p ++ toString width ++ q).toList := by
  rw [format,text_append,text_cons,Item.text,String.toList_append,String.toList_append,← hp,← hq]
  simp [Scanf.star]

end Conversion

-- The string conversions, by the functions that they are in; that of CEREG_URC stands apart.
inductive Site where
  | activateProfileReuseExternal
  | socketRecvfrom
  | gethostbyname
  | getIpAddress
  | receivefromN2xx
  | receivefromRemainingN2xx
  | getIpAddressN2xx
  | getIccid
  | getImsi
  | getImei
  | getMeid
  | setSms
  | setDeviceIdentity
  | initialiseSimCard
  | cgmiN2xx
  | cgmmN2xx
  | cgmrN2xx
  | cgsnN2xx
  | getIccidN2xx
  | getImsiN2xx
  | getImeiN2xx
  | getMeidN2xx
  | setSmsN2xx
  | getCsconN2xx
  | getCsqN2xx
  | setDeviceIdentityN2xx
  deriving DecidableEq, Repr

namespace Site

-- The parameter is NSAPI_IP_SIZE.
def text (ipSize : Nat) : Site → String
  | .activateProfileReuseExternal => Gsm.Pat.cgdcont.format ipSize
  | .socketRecvfrom => Gsm.Pat.usorf.format ipSize
  | .gethostbyname => Gsm.Pat.udnsrn.format ipSize
  | .getIpAddress => Gsm.Pat.upsndIp.format ipSize
  | .receivefromN2xx => N2xx.Pat.nsorf.format
  | .receivefromRemainingN2xx => N2xx.Pat.remaining.format
  | .getIpAddressN2xx => N2xx.Pat.cgpaddr.format
  | .getIccid => Gsm.Pat.ccid.format ipSize
  | .getImsi => Gsm.Pat.cimi.format ipSize
  | .getImei => Gsm.Pat.cgsn.format ipSize
  | .getMeid => Gsm.Pat.gsn.format ipSize
  | .setSms => Gsm.Pat.csca.format ipSize
  | .setDeviceIdentity => Gsm.Pat.ati.format ipSize
  | .initialiseSimCard => Gsm.Pat.cpin.format ipSize
  | .cgmiN2xx => N2xx.Pat.line.format
  | .cgmmN2xx => N2xx.Pat.line.format
  | .cgmrN2xx => N2xx.Pat.line.format
  | .cgsnN2xx => N2xx.Pat.cgsn.format
  | .getIccidN2xx => N2xx.Pat.nccid.format
  | .getImsiN2xx => N2xx.Pat.line.format
  | .getImeiN2xx => N2xx.Pat.cgsn.format
  | .getMeidN2xx => "%18[^\n]\nOK\n"
  | .setSmsN2xx => "+CSCA: \"%31[^\"]\""
  | .getCsconN2xx => N2xx.Pat.cscon.format
  | .getCsqN2xx => N2xx.Pat.csq.format
  | .setDeviceIdentityN2xx => N2xx.Pat.identity.format

def lineAfter (prefixed : String) (width room : Nat) (behind : String) : Conversion :=
  ⟨lits prefixed,width,notNewline,room,lits behind⟩

def conversion (ipSize : Nat) : Site → Conversion
  | .activateProfileReuseExternal =>
    ⟨lits "+CGDCONT: " ++ [.int true] ++ lits ",\"IP\",\"" ++ [.set none notQuote none] ++
      lits "\",\"",ipSize,notQuote,ipSize,lits "\"," ++ [.int false] ++ lits "," ++ [.int false] ++
      lits "," ++ [.int false] ++ lits "," ++ [.int false] ++ lits "," ++ [.int false] ++ lits "," ++
      [.int false]⟩
  | .socketRecvfrom =>
    ⟨lits "+USORF: " ++ [.int false] ++ lits ",\"",ipSize,notQuote,ipSize,
      lits "\"," ++ [.int true] ++ lits "," ++ [.int true] ++ lits ",\""⟩
  | .gethostbyname => ⟨lits "+UDNSRN: \"",ipSize,notQuote,ipSize,lits "\""⟩
  | .getIpAddress => ⟨lits "+UPSND: 0,0,\"",ipSize,notQuote,ipSize,lits "\""⟩
  | .receivefromN2xx =>
    ⟨[.int true] ++ lits ",",15,notComma,ipSize,
      lits "," ++ [.int true] ++ lits "," ++ [.int true] ++ lits ","⟩
  | .receivefromRemainingN2xx => lineAfter "," 3 4 "\n"
  | .getIpAddressN2xx =>
    ⟨lits "+CGPADDR:" ++ [.int true] ++ lits ",",15,notNewline,ipSize,lits "\n"⟩
  | .getIccid => lineAfter "+CCID: " 20 (20 + 1) "\nOK\n"
  | .getImsi => lineAfter "" 15 (15 + 1) "\nOK\n"
  | .getImei => lineAfter "" 15 (15 + 1) "\nOK\n"
  | .getMeid => lineAfter "" 18 (18 + 1) "\nOK\n"
  | .setSms => ⟨lits "+CSCA: \"",31,notQuote,32,lits "\""⟩
  | .setDeviceIdentity => lineAfter "" 19 20 "\nOK\n"
  | .initialiseSimCard => lineAfter "+CPIN: " 15 16 "\n"
  | .cgmiN2xx => lineAfter "" 32 (32 + 1) "\n"
  | .cgmmN2xx => lineAfter "" 32 (32 + 1) "\n"
  | .cgmrN2xx => lineAfter "" 32 (32 + 1) "\n"
  | .cgsnN2xx => lineAfter "+CGSN:" 32 (32 + 1) "\n"
  | .getIccidN2xx => lineAfter "+NCCID:" 32 (20 + 1) "\n"
  | .getImsiN2xx => lineAfter "" 32 (15 + 1) "\n"
  | .getImeiN2xx => lineAfter "+CGSN:" 32 (15 + 1) "\n"
  | .getMeidN2xx => lineAfter "" 18 (18 + 1) "\nOK\n"
  | .setSmsN2xx => ⟨lits "+CSCA: \"",31,notQuote,32,lits "\""⟩
  | .getCsconN2xx => lineAfter "+CSCON:" 3 (3 + 1) "\n"
  | .getCsqN2xx => lineAfter "+CSQ:" 5 (5 + 1) "\n"
  | .setDeviceIdentityN2xx => lineAfter "" 19 20 "\n"

theorem conversion_text (ipSize : Nat) (site : Site) :
    Scanf.text (site.conversion ipSize).format = (site.text ipSize).toList := by
  have hzero : Scanf.text (site.conversion 0).format = (site.text 0).toList := by
    cases site <;> decide +kernel
  cases site with
  | activateProfileReuseExternal =>
    exact Conversion.text_format (by decide +kernel) (by decide +kernel)
  | socketRecvfrom => exact Conversion.text_format (by decide +kernel) (by decide +kernel)
  | gethostbyname => exact Conversion.text_format (by decide +kernel) (by decide +kernel)
  | getIpAddress => exact Conversion.text_format (by decide +kernel) (by decide +kernel)
  | _ => exact hzero

def Fits (ipSize : Nat) (line : List Char) (site : Site) : Prop :=
  Scanf.Fits cReader (site.conversion ipSize).format line

def Short (ipSize : Nat) (line : List Char) (site : Site) : Prop :=
  (site.conversion ipSize).Short line

def tight (ipSize : Nat) : Site → Bool
  | .activateProfileReuseExternal => true
  | .socketRecvfrom => true
  | .gethostbyname => true
  | .getIpAddress => true
  | .receivefromN2xx => decide (ipSize ≤ 15)
  | .getIpAddressN2xx => decide (ipSize ≤ 15)
  | .getIccidN2xx => true
  | .getImsiN2xx => true
  | .getImeiN2xx => true
  | _ => false

theorem tight_iff (ipSize : Nat) (site : Site) :
    site.tight ipSize = true ↔ (site.conversion ipSize).room ≤ (site.conversion ipSize).width := by
  cases site <;> simp [tight,conversion,lineAfter]

theorem conversion_plain (ipSize : Nat) (site : Site) : (site.conversion ipSize).plain = true := by
  cases site <;> rfl

theorem fits_iff (ipSize : Nat) (line : List Char) (site : Site) :
    site.Fits ipSize line ↔ (site.tight ipSize = true → site.Short ipSize line) := by
  rw [Fits,Conversion.fits_iff (conversion_plain ipSize site),tight_iff]
  rfl

end Site

section Cereg

-- Both strings that CEREG_URC reads go to arrays of four, char tac[4], ci[4].
def ceregItem : Directive → Item
  | .lit c => .lit c
  | .space => .space '\n'
  | .int => .int true
  | .set chars => .set none ⟨false,chars⟩ (some 4)

theorem takeWhile_has (chars s : List Char) :
    s.takeWhile (CharSet.has ⟨false,chars⟩) = s.takeWhile chars.contains := by
  congr 1
  funext c
  simp [CharSet.has]

theorem drop_run (p : Char → Bool) (s : List Char) :
    s.drop (s.takeWhile p).length = s.dropWhile p := by
  have h := @List.drop_left _ (s.takeWhile p) (s.dropWhile p)
  rwa [List.takeWhile_append_dropWhile] at h

theorem ceregItem_count (ds : List Directive) (s : List Char) :
    count cReader (ds.map ceregItem) s = (sscanf ds s).length := by
  fun_induction sscanf ds s with
  | case1 s => rfl
  | case2 ds c => rfl
  | case3 ds c rest ih =>
    rw [List.map_cons,count,← ih]
    simp [ceregItem,Item.take,Item.assigns]
  | case4 ds c c' rest h => simp [ceregItem,count,Item.take,h]
  | case5 ds s ih =>
    rw [List.map_cons,count,← ih]
    simp [ceregItem,Item.take,Item.assigns,cReader]
  | case6 ds s n rest h ih =>
    rw [List.map_cons,count,List.length_cons,← ih]
    simp [ceregItem,Item.take,Item.assigns,cReader,h,Nat.add_comm]
  | case7 ds s h =>
    have hnumber : cReader.number s = none := by
      dsimp only [cReader]
      split
      · exact absurd ‹_› (h _ _)
      · rfl
    simp [ceregItem,count,Item.take,hnumber]
  | case8 chars ds s h => simp [ceregItem,count,Item.take,takeWhile_has,h]
  | case9 chars ds s h ih =>
    rw [List.map_cons,count,List.length_cons,← ih]
    simp [ceregItem,Item.take,Item.assigns,takeWhile_has,h,cut,drop_run,Nat.add_comm]

theorem ceregItem_fits (ds : List Directive) (s : List Char) :
    Scanf.Fits cReader (ds.map ceregItem) s ↔ Contained (sscanf ds s) := by
  fun_induction sscanf ds s with
  | case1 s => exact iff_of_true (by rintro p ⟨⟩) (by rintro f ⟨⟩)
  | case2 ds c => exact iff_of_true (by rintro p ⟨⟩) (by rintro f ⟨⟩)
  | case3 ds c rest ih =>
    rw [← ih,List.map_cons,Scanf.Fits,stored]
    simp [ceregItem,Item.take,Scanf.Fits]
  | case4 ds c c' rest h =>
    rw [List.map_cons,Scanf.Fits,stored]
    exact iff_of_true (by simp [ceregItem,Item.take,h]) (by rintro f ⟨⟩)
  | case5 ds s ih =>
    rw [← ih,List.map_cons,Scanf.Fits,stored]
    simp [ceregItem,Item.take,Scanf.Fits,cReader]
  | case6 ds s n rest h ih =>
    rw [contained_int,← ih,List.map_cons,Scanf.Fits,stored]
    simp [ceregItem,Item.take,Scanf.Fits,cReader,h]
  | case7 ds s h =>
    have hnumber : cReader.number s = none := by
      dsimp only [cReader]
      split
      · exact absurd ‹_› (h _ _)
      · rfl
    rw [List.map_cons,Scanf.Fits,stored]
    exact iff_of_true (by simp [ceregItem,Item.take,hnumber]) (by rintro f ⟨⟩)
  | case8 chars ds s h =>
    rw [List.map_cons,Scanf.Fits,stored]
    exact iff_of_true (by simp [ceregItem,Item.take,takeWhile_has,h]) (by rintro f ⟨⟩)
  | case9 chars ds s h ih =>
    have hstored : stored cReader (ceregItem (.set chars) :: ds.map ceregItem) s =
        (s.takeWhile chars.contains,4) ::
          stored cReader (ds.map ceregItem) (s.dropWhile chars.contains) := by
      rw [stored]
      simp [ceregItem,Item.take,takeWhile_has,h,cut,drop_run]
    rw [contained_text,← ih,List.map_cons,Scanf.Fits,hstored,List.forall_mem_cons]
    exact and_congr_left' Nat.lt_succ_iff

def tacCi (before behind : List Directive) : List Directive :=
  before ++ .set hexSet :: .lit ',' :: .set hexSet :: .lit ',' :: behind

def ceregFive : List Directive :=
  tacCi [.lit ':',.int,.lit ',',.int,.lit ','] [.int,.space]

def ceregFour : List Directive :=
  tacCi [.lit ':',.int,.lit ','] [.int,.space,.lit (Char.ofNat 96)]

def ceregTwo : List Directive := [.lit ':',.int,.lit ',',.int,.space]

def ceregOne : List Directive := [.lit ':',.int,.space]

def ceregFormats : List (List Item × Nat) :=
  [(ceregFive.map ceregItem,5),(ceregFour.map ceregItem,4),(ceregTwo.map ceregItem,2),(ceregOne.map ceregItem,1)]

theorem ceregFormats_text : ceregFormats.map (fun f => Scanf.text f.1) =
    [":%d,%d,%[0123456789abcdef],%[0123456789abcdef],%d\n".toList,
      ":%d,%[0123456789abcdef],%[0123456789abcdef],%d\n".toList ++ [Char.ofNat 96],
      ":%d,%d\n".toList,":%d\n".toList] := by decide +kernel

def CeregFits (line : List Char) : Prop :=
  0 < (readAtToNewline 20 line).length →
    FitsInTurn cReader ceregFormats (readAtToNewline 20 line)

def TacCiShort (before : List Directive) (buf : List Char) : Prop :=
  Shorter cReader (before.map ceregItem) ⟨false,hexSet⟩ 4 buf ∧
    Shorter cReader ((before ++ [Directive.set hexSet,.lit ',']).map ceregItem) ⟨false,hexSet⟩ 4 buf

theorem tacCi_fits (before behind : List Directive)
    (hbefore : (before.map ceregItem).all Item.plain = true)
    (hbehind : (behind.map ceregItem).all Item.plain = true) (buf : List Char) :
    Scanf.Fits cReader ((tacCi before behind).map ceregItem) buf ↔ TacCiShort before buf := by
  have hsplit : (tacCi before behind).map ceregItem =
      (before ++ [Directive.set hexSet,.lit ',']).map ceregItem ++
        .set none ⟨false,hexSet⟩ (some 4) :: .lit ',' :: behind.map ceregItem := by
    simp [tacCi,ceregItem]
  have hfirst : (before ++ [Directive.set hexSet,.lit ',']).map ceregItem =
      before.map ceregItem ++ .set none ⟨false,hexSet⟩ (some 4) :: [.lit ','] := by
    simp [ceregItem]
  rw [hsplit,fits_wide (fun w hw => by cases hw) (by simpa [Item.plain] using hbehind),TacCiShort]
  refine and_congr_left (fun _ => ?_)
  rw [hfirst,fits_wide (fun w hw => by cases hw) rfl]
  exact and_iff_right (fits_plain hbefore buf)

-- The second format is tried only where the first one does not assign all five.
def CeregShort (line : List Char) : Prop :=
  TacCiShort [.lit ':',.int,.lit ',',.int,.lit ','] (readAtToNewline 20 line) ∧
    ((sscanf ceregFive (readAtToNewline 20 line)).length ≠ 5 →
      TacCiShort [.lit ':',.int,.lit ','] (readAtToNewline 20 line))

theorem tacCiShort_nil (before : List Directive) : TacCiShort (.lit ':' :: before) [] :=
  ⟨fun _ hrest => (by cases hrest),fun _ hrest => (by cases hrest)⟩

theorem ceregFits_iff (line : List Char) : CeregFits line ↔ CeregShort line := by
  rw [CeregFits,CeregShort]
  generalize readAtToNewline 20 line = buf
  have hfive := tacCi_fits [.lit ':',.int,.lit ',',.int,.lit ','] [.int,.space] rfl rfl buf
  have hfour := tacCi_fits [.lit ':',.int,.lit ','] [.int,.space,.lit (Char.ofNat 96)] rfl rfl buf
  have htwo : Scanf.Fits cReader (ceregTwo.map ceregItem) buf := fits_plain rfl buf
  have hone : Scanf.Fits cReader (ceregOne.map ceregItem) buf := fits_plain rfl buf
  have hturn : FitsInTurn cReader ceregFormats buf ↔
      Scanf.Fits cReader (ceregFive.map ceregItem) buf ∧
        ((sscanf ceregFive buf).length ≠ 5 → Scanf.Fits cReader (ceregFour.map ceregItem) buf) := by
    simp only [ceregFormats,FitsInTurn,ceregItem_count,htwo,hone,implies_true,and_true]
  rw [hturn,ceregFive,ceregFour,hfive,hfour]
  cases buf with
  | nil => exact ⟨fun _ => ⟨tacCiShort_nil _,fun _ => tacCiShort_nil _⟩,fun _ h => by cases h⟩
  | cons c buf => exact forall_prop_of_true (Nat.succ_pos _)

theorem ceregUrc_defined (line : List Char) (d : N2xx.Driver) :
    (ceregUrc line d).isSome = true ↔ CeregFits line := by
  rw [ceregUrc,CeregFits]
  generalize readAtToNewline 20 line = buf
  have hstatus : (ceregStatus buf).isSome = true ↔ FitsInTurn cReader ceregFormats buf := by
    simp only [ceregFormats,FitsInTurn,ceregItem_fits,ceregItem_count]
    rw [ceregStatus,attempt_isSome,attempt_isSome,attempt_isSome,attempt_isSome]
    simp only [Option.isSome_some]
    rfl
  split
  · rename_i hpos
    rw [Option.isSome_map,hstatus]
    exact ⟨fun h _ => h,fun h => h hpos⟩
  · rename_i hpos
    exact iff_of_true rfl (fun h => absurd h hpos)

end Cereg

theorem strings_fit_iff (ipSize : Nat) (line : List Char) :
    (∀ site : Site, site.Fits ipSize line ↔ (site.tight ipSize = true → site.Short ipSize line)) ∧
    (CeregFits line ↔ CeregShort line) :=
  ⟨Site.fits_iff ipSize line,ceregFits_iff line⟩

theorem strings_overflow :
    ¬ CeregFits ":2,1,1a2b,0123abcd,7\r\n".toList ∧
      ¬ Site.gethostbyname.Fits 40 "+UDNSRN: \"0000:0000:0000:0000:0000:ffff:10.1.10.10\"".toList := by
  constructor
  · intro h
    have hstored : stored cReader (ceregFive.map ceregItem)
        (readAtToNewline 20 ":2,1,1a2b,0123abcd,7\r\n".toList) =
          [("1a2b".toList,4),("0123abcd".toList,4)] := by decide +kernel
    have hfits := (h (by decide +kernel)).1 ("1a2b".toList,4) (by rw [hstored]; exact .head _)
    exact absurd hfits (by decide +kernel)
  · intro h
    have hstored : stored cReader (Site.gethostbyname.conversion 40).format
        "+UDNSRN: \"0000:0000:0000:0000:0000:ffff:10.1.10.10\"".toList =
          [("0000:0000:0000:0000:0000:ffff:10.1.10.10".toList,40)] := by decide +kernel
    have hfits := h _ (by rw [hstored]; exact .head _)
    exact absurd hfits (by decide +kernel)

end UbloxCellular
