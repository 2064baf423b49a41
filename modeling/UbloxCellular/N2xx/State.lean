import UbloxCellular.Driver.Effects
import UbloxCellular.Driver.Sockets
import UbloxCellular.Driver.Credentials

namespace UbloxCellular.N2xx

def atParserTimeout : Int := 8 * 1000
def maxWriteSize : Nat := 512
def maxReadSize : Nat := 512

inductive Cmd where
  | at
  | cmee
  | cgmi
  | cgmm
  | cgmr
  | cimi
  | nccid
  | cgsn (snt : Int)
  | cereg (n : Int)
  | ceregQuery
  | csconQuery
  | csq
  | copsPlmn (plmn : String)
  | cops (mode : Int)
  | copsQuery
  | cfun (mode : Int)
  | nrb
  | nconfig (name : String) (state : Bool)
  | nsocr (port : Int)
  | nsocl (id : Int)
  | nsostf (id : Int) (ip : String) (port : Nat) (size : Int) (hex : String)
  | nsorf (id length : Int)
  | cgpaddr
  | raw (cmd : String)
  deriving DecidableEq, Repr

def Cmd.text : Cmd → String
  | .at => "AT"
  | .cmee => "AT+CMEE=1"
  | .cgmi => "AT+CGMI"
  | .cgmm => "AT+CGMM"
  | .cgmr => "AT+CGMR"
  | .cimi => "AT+CIMI"
  | .nccid => "AT+NCCID"
  | .cgsn snt => "AT+CGSN=" ++ toString snt
  | .cereg n => "AT+CEREG=" ++ toString n
  | .ceregQuery => "AT+CEREG?"
  | .csconQuery => "AT+CSCON?"
  | .csq => "AT+CSQ"
  | .copsPlmn plmn => "AT+COPS=1,2,\"" ++ plmn ++ "\""
  | .cops mode => "AT+COPS=" ++ toString mode
  | .copsQuery => "AT+COPS?"
  | .cfun mode => "AT+CFUN=" ++ toString mode
  | .nrb => "AT+NRB"
  | .nconfig name state => "AT+NCONFIG=" ++ name ++ (if state then ",TRUE" else ",FALSE")
  | .nsocr port => "AT+NSOCR=DGRAM,17," ++ toString port
  | .nsocl id => "AT+NSOCL=" ++ toString id
  | .nsostf id ip port size hex => "AT+NSOSTF=" ++ toString id ++ "," ++ ip ++ "," ++
      toString port ++ ",0x0," ++ toString size ++ "," ++ hex
  | .nsorf id length => "AT+NSORF=" ++ toString id ++ "," ++ toString length
  | .cgpaddr => "AT+CGPADDR"
  | .raw cmd => cmd

inductive Pat : Type → Type where
  | ok : Pat Unit
  | unnatural : Pat Unit
  | line : Pat String
  | identity : Pat String
  | nccid : Pat String
  | cgsn : Pat String
  | cscon : Pat String
  | csq : Pat String
  | cops : Pat Int
  | nsocr : Pat Int
  | nsostf : Pat (Int × Int)
  | nsorf : Pat (Int × String × Int × Int)
  | remaining : Pat String
  | cgpaddr : Pat (Int × String)

def Pat.format : {β : Type} → Pat β → String
  | _, .ok => "OK"
  | _, .unnatural => "\x01"
  | _, .line => "%32[^\n]\n"
  | _, .identity => "%19[^\n]\n"
  | _, .nccid => "+NCCID:%32[^\n]\n"
  | _, .cgsn => "+CGSN:%32[^\n]\n"
  | _, .cscon => "+CSCON:%3[^\n]\n"
  | _, .csq => "+CSQ:%5[^\n]\n"
  | _, .cops => "+COPS: %d"
  | _, .nsocr => "%d\n"
  | _, .nsostf => "%d,%d\n"
  | _, .nsorf => "%d,%15[^,],%d,%d,"
  | _, .remaining => ",%3[^\n]\n"
  | _, .cgpaddr => "+CGPADDR:%d,%15[^\n]\n"

inductive DeviceType where
  | none
  | saraG35
  | lisaU2
  | lisaU203S
  | saraU2
  | leonG2
  | tobyL2
  | mpciL2
  | saraN2
  deriving DecidableEq, Repr

-- The registration statuses are enums, which the target keeps in a byte.
structure DeviceInfo where
  dev : DeviceType
  iccid : String
  imsi : String
  imei : String
  regStatusCsd : UInt8
  regStatusPsd : UInt8
  regStatusEps : UInt8
  deriving DecidableEq, Repr

structure SaraN2xxInfo where
  cgmm : String
  cgmi : String
  cgmr : String
  cgsn : String
  deriving DecidableEq, Repr

structure Base where
  devInfo : DeviceInfo
  saraN2xxInfo : SaraN2xxInfo
  pin : Option String
  modemInitialised : Bool
  deriving DecidableEq, Repr

structure AtInterface where
  sockets : Sockets
  localListenPort : Int
  ip : Option String
  cred : Credentials
  auth : Security

structure Driver where
  base : Base
  iface : AtInterface

abbrev sig : Sig where
  State := Driver
  Cmd := Cmd
  Pat := Pat
  Call := Empty
  ok := .ok
  unnatural := .unnatural

def Driver.initial : Driver where
  base :=
    { devInfo := ⟨.none,"","","",0,0,0⟩
      saraN2xxInfo := ⟨"","","",""⟩
      pin := none
      modemInitialised := false }
  iface :=
    { sockets := .initial
      localListenPort := 10000
      ip := none
      cred := ⟨none,none,none⟩
      auth := .unknown }

namespace Driver

def onBase (f : Base → Base) (d : Driver) : Driver := { d with base := f d.base }

def onInfo (f : DeviceInfo → DeviceInfo) (d : Driver) : Driver :=
  d.onBase (fun b => { b with devInfo := f b.devInfo })

def onSara (f : SaraN2xxInfo → SaraN2xxInfo) (d : Driver) : Driver :=
  d.onBase (fun b => { b with saraN2xxInfo := f b.saraN2xxInfo })

def onIface (f : AtInterface → AtInterface) (d : Driver) : Driver := { d with iface := f d.iface }

def onSockets (f : Sockets → Sockets) (d : Driver) : Driver :=
  d.onIface (fun i => { i with sockets := f i.sockets })

end Driver

end UbloxCellular.N2xx
