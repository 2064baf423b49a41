import UbloxCellular.Driver.Effects
import UbloxCellular.Driver.Sockets
import UbloxCellular.Driver.Credentials

namespace UbloxCellular.Gsm

def atParserTimeout : Int := 8 * 1000
def maxWriteSize : Nat := 1024
def maxReadSize : Nat := 1024

inductive Cmd where
  | at
  | ati
  | ipr (baud : Int)
  | ate0Cmee
  | k0
  | c1
  | d0
  | cpwroff
  | ugpioc (gpio : Nat)
  | cpinQuery
  | cpin (pin : Option String)
  | ccid
  | cimi
  | cgsn
  | gsn
  | cmgf
  | cnmi
  | cgsms
  | cscaQuery
  | creg
  | cgreg
  | cereg
  | copsQuery
  | cops (mode : Nat)
  | cregQuery
  | cgregQuery
  | ceregQuery
  | clck (mode : Nat) (pin : Option String)
  | cpwd (oldPin newPin : Option String)
  | upsdApn (apn : String)
  | upsdUsername (username : String)
  | upsdPassword (password : String)
  | upsdDynamicIp
  | upsdAuth (protocol : Int)
  | upsdCid (cid : Int)
  | upsda (action : Nat)
  | cgdcontQuery
  | cgdcont (cid : Int) (apn : String)
  | uauthreq (cid auth : Int) (username password : String)
  | upsnd (tag : Nat)
  | usocr (proto : Int) (port : Option Nat)
  | usocl (id : Int)
  | usoctl (id : Int)
  | usoco (id : Int) (ip : String) (port : Nat)
  | usowr (id : Int) (len : Nat)
  | usost (id : Int) (ip : String) (port len : Nat)
  | usord (id : Int) (len : Nat)
  | usorf (id : Int) (len : Nat)
  | udnsrn (host : String)
  | atd
  | escape
  deriving DecidableEq, Repr

def printed (s : Option String) : String := s.getD "(null)"

def quoted (s : String) : String := "\"" ++ s ++ "\""

def Cmd.text : Cmd → String
  | .at => "AT"
  | .ati => "ATI"
  | .ipr baud => "AT+IPR=" ++ toString baud
  | .ate0Cmee => "ATE0;+CMEE=2"
  | .k0 => "AT&K0"
  | .c1 => "AT&C1"
  | .d0 => "AT&D0"
  | .cpwroff => "AT+CPWROFF"
  | .ugpioc gpio => "AT+UGPIOC=" ++ toString gpio ++ ",2"
  | .cpinQuery => "AT+CPIN?"
  | .cpin pin => "AT+CPIN=" ++ quoted (printed pin)
  | .ccid => "AT+CCID"
  | .cimi => "AT+CIMI"
  | .cgsn => "AT+CGSN"
  | .gsn => "AT+GSN"
  | .cmgf => "AT+CMGF=1"
  | .cnmi => "AT+CNMI=2,1"
  | .cgsms => "AT+CGSMS=1"
  | .cscaQuery => "AT+CSCA?"
  | .creg => "AT+CREG=1"
  | .cgreg => "AT+CGREG=1"
  | .cereg => "AT+CEREG=1"
  | .copsQuery => "AT+COPS?"
  | .cops mode => "AT+COPS=" ++ toString mode
  | .cregQuery => "AT+CREG?"
  | .cgregQuery => "AT+CGREG?"
  | .ceregQuery => "AT+CEREG?"
  | .clck mode pin => "AT+CLCK=\"SC\"," ++ toString mode ++ "," ++ quoted (printed pin)
  | .cpwd oldPin newPin =>
      "AT+CPWD=\"SC\"," ++ quoted (printed oldPin) ++ "," ++ quoted (printed newPin)
  | .upsdApn apn => "AT+UPSD=0,1," ++ quoted apn
  | .upsdUsername username => "AT+UPSD=0,2," ++ quoted username
  | .upsdPassword password => "AT+UPSD=0,3," ++ quoted password
  | .upsdDynamicIp => "AT+UPSD=0,7,\"0.0.0.0\""
  | .upsdAuth protocol => "AT+UPSD=0,6," ++ toString protocol
  | .upsdCid cid => "AT+UPSD=0,100," ++ toString cid
  | .upsda action => "AT+UPSDA=0," ++ toString action
  | .cgdcontQuery => "AT+CGDCONT?"
  | .cgdcont cid apn => "AT+CGDCONT=" ++ toString cid ++ ",\"IP\"," ++ quoted apn
  | .uauthreq cid auth username password => "AT+UAUTHREQ=" ++ toString cid ++ "," ++
      toString auth ++ "," ++ quoted username ++ "," ++ quoted password
  | .upsnd tag => "AT+UPSND=0," ++ toString tag
  | .usocr proto none => "AT+USOCR=" ++ toString proto
  | .usocr proto (some port) => "AT+USOCR=" ++ toString proto ++ "," ++ toString port
  | .usocl id => "AT+USOCL=" ++ toString id
  | .usoctl id => "AT+USOCTL=" ++ toString id ++ ",0"
  | .usoco id ip port =>
      "AT+USOCO=" ++ toString id ++ "," ++ quoted ip ++ "," ++ toString port
  | .usowr id len => "AT+USOWR=" ++ toString id ++ "," ++ toString len
  | .usost id ip port len => "AT+USOST=" ++ toString id ++ "," ++ quoted ip ++ "," ++
      toString port ++ "," ++ toString len
  | .usord id len => "AT+USORD=" ++ toString id ++ "," ++ toString len
  | .usorf id len => "AT+USORF=" ++ toString id ++ "," ++ toString len
  | .udnsrn host => "AT+UDNSRN=0," ++ quoted host
  | .atd => "ATD*99***1#"
  | .escape => "~+++"

inductive Pat : Type → Type where
  | ok : Pat Unit
  | unnatural : Pat Unit
  | prompt : Pat Unit
  | ati : Pat String
  | cpin : Pat String
  | ccid : Pat String
  | cimi : Pat String
  | cgsn : Pat String
  | gsn : Pat String
  | csca : Pat String
  | cops : Pat Int
  | copsAct : Pat Int
  | cgdcont : Pat (Int × String)
  | upsndStatus : Pat Int
  | upsndIp : Pat String
  | usocr : Pat Int
  | usoctl : Pat Int
  | usord : Pat Nat
  | usorf : Pat (String × Int × Nat)
  | udnsrn : Pat String
  | connect : Pat Unit
  | noCarrier : Pat Unit

def Pat.format (ipSize : Nat) : {β : Type} → Pat β → String
  | _, .ok => "OK"
  | _, .unnatural => "\x01"
  | _, .prompt => "@"
  | _, .ati => "%19[^\n]\nOK\n"
  | _, .cpin => "+CPIN: %15[^\n]\n"
  | _, .ccid => "+CCID: %20[^\n]\nOK\n"
  | _, .cimi => "%15[^\n]\nOK\n"
  | _, .cgsn => "%15[^\n]\nOK\n"
  | _, .gsn => "%18[^\n]\nOK\n"
  | _, .csca => "+CSCA: \"%31[^\"]\""
  | _, .cops => "+COPS: %d"
  | _, .copsAct => "+COPS: %*d,%*d,\"%*[^\"]\",%d\n"
  | _, .cgdcont => "+CGDCONT: %d,\"IP\",\"%*[^\"]\",\"%" ++ toString ipSize ++
      "[^\"]\",%*d,%*d,%*d,%*d,%*d,%*d"
  | _, .upsndStatus => "+UPSND: %*d,%*d,%d\n"
  | _, .upsndIp => "+UPSND: 0,0,\"%" ++ toString ipSize ++ "[^\"]\""
  | _, .usocr => "+USOCR: %d\n"
  | _, .usoctl => "+USOCTL: %*d,0,%d\n"
  | _, .usord => "+USORD: %*d,%d,\""
  | _, .usorf => "+USORF: %*d,\"%" ++ toString ipSize ++ "[^\"]\",%d,%d,\""
  | _, .udnsrn => "+UDNSRN: \"%" ++ toString ipSize ++ "[^\"]\""
  | _, .connect => "CONNECT"
  | _, .noCarrier => "NO CARRIER"

inductive DeviceType where
  | none
  | saraG35
  | lisaU2
  | lisaU203S
  | saraU2
  | leonG2
  | tobyL2
  | mpciL2
  deriving DecidableEq, Repr

-- The access technology and the registration statuses are enums, which the target keeps in a byte.
structure DeviceInfo where
  dev : DeviceType
  iccid : String
  imsi : String
  imei : String
  meid : String
  rat : UInt8
  regStatusCsd : UInt8
  regStatusPsd : UInt8
  regStatusEps : UInt8
  deriving DecidableEq, Repr

structure Base where
  devInfo : DeviceInfo
  pin : Option String
  baud : Int
  modemInitialised : Bool
  simPinCheckEnabled : Bool
  deriving DecidableEq, Repr

structure AtInterface where
  sockets : Sockets
  ip : Option String
  cred : Credentials
  auth : Security
  simPinCheckChangePending : Bool
  simPinCheckChangePendingEnabledValue : Bool
  simPinChangePending : Bool
  simPinChangePendingNewPinValue : Option String

structure Driver (I : Type) where
  base : Base
  iface : I

inductive Call where
  | init
  | simPinCheckEnable (enableNotDisable : Bool)
  | changeSimPin (pin : Option String)
  | nwkRegistration
  | attempt (apn username password : String) (auth : Security)
  deriving DecidableEq, Repr

abbrev sig (I : Type) : Sig where
  State := Driver I
  Cmd := Cmd
  Pat := Pat
  Call := Call
  ok := .ok
  unnatural := .unnatural

def Base.initial (baud : Int) : Base where
  devInfo := ⟨.none,"","","","",0,0,0,0⟩
  pin := none
  baud := baud
  modemInitialised := false
  simPinCheckEnabled := false

def AtInterface.initial : AtInterface where
  sockets := .initial
  ip := none
  cred := ⟨none,none,none⟩
  auth := .unknown
  simPinCheckChangePending := false
  simPinCheckChangePendingEnabledValue := false
  simPinChangePending := false
  simPinChangePendingNewPinValue := none

namespace Driver

variable {I : Type}

def onBase (f : Base → Base) (d : Driver I) : Driver I := { d with base := f d.base }

def onInfo (f : DeviceInfo → DeviceInfo) (d : Driver I) : Driver I :=
  d.onBase (fun b => { b with devInfo := f b.devInfo })

def onIface (f : I → I) (d : Driver I) : Driver I := { d with iface := f d.iface }

def onCred (f : Credentials → Credentials) (d : Driver AtInterface) : Driver AtInterface :=
  d.onIface (fun i => { i with cred := f i.cred })

def onSockets (f : Sockets → Sockets) (d : Driver AtInterface) : Driver AtInterface :=
  d.onIface (fun i => { i with sockets := f i.sockets })

end Driver

end UbloxCellular.Gsm
