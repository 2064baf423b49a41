import UbloxCellular.Interaction.Part
import UbloxCellular.I2c.Bus

namespace UbloxCellular.App
open Interaction

-- What a factory of the mbed client library returned: NULL, or the object of that number.
abbrev Pointer := Option Nat

inductive Kind where
  | interface (serverAddress : String) (lifeTime listenPort : Nat)
  | security
  | device
  | firmware
  | server
  | object (id : String)
  deriving DecidableEq, Repr

inductive Resource where
  | m2mServerUri
  | securityMode
  | serverPublicKey
  | publicKey
  | secretkey
  | manufacturer
  | deviceType
  | modelNumber
  | serialNumber
  | hardwareVersion
  | firmwareVersion
  | softwareVersion
  | batteryLevel
  | batteryStatus
  | memoryFree
  | memoryTotal
  | packageName
  | packageVersion
  | shortServerID
  | lifetime
  deriving DecidableEq, Repr

inductive Value where
  | text (s : String)
  | number (n : Int)
  | certificate
  deriving DecidableEq, Repr

inductive Service where
  | setPlatformNetworkHandler
  | registerObject (security : Pointer) (objectList : List Pointer)
  | updateRegistration (security : Pointer) (lifetime : Nat)
  | unregisterObject (security : Pointer)
  deriving DecidableEq, Repr

structure MbedClientDevice where
  manufacturer : String
  type : String
  modelNumber : String
  serialNumber : String
  firmwareVersion : String
  softwareVersion : String
  hardwareVersion : String
  batteryLevel : Int
  batteryStatus : Int
  memoryFree : Int
  memoryTotal : Int
  deriving DecidableEq, Repr

structure MbedClient where
  interface : Pointer
  registerSecurity : Pointer
  bootstrapped : Bool
  error : Bool
  registered : Bool
  unregistered : Bool
  serverAddress : String
  device : MbedClientDevice
  deriving DecidableEq, Repr

def MbedClient.new (device : MbedClientDevice) : MbedClient where
  interface := none
  registerSecurity := none
  bootstrapped := false
  error := false
  registered := false
  unregistered := false
  serverAddress := ""
  device := device

inductive Callback where
  | bootstrapDone (serverObject : Pointer)
  | objectRegistered
  | objectUnregistered
  | registrationUpdated
  | error
  | valueUpdated
  deriving DecidableEq, Repr

def Callback.handle : Callback → MbedClient → MbedClient
  | .bootstrapDone serverObject, c =>
    if serverObject.isSome then { c with bootstrapped := true, error := false } else c
  | .objectRegistered, c => { c with registered := true, unregistered := false }
  | .objectUnregistered, c => { c with unregistered := true, registered := false }
  | .registrationUpdated, c => c
  | .error, c => { c with error := true }
  | .valueUpdated, c => c

-- The levels of the three outputs: a LED is lit by 0.
structure Leds where
  red : Bool
  green : Bool
  blue : Bool
  deriving DecidableEq, Repr

def Leds.on : Leds := ⟨false,true,false⟩
def Leds.off : Leds := ⟨true,false,true⟩

inductive Mark where
  | initialised (ready : Bool)
  | connected (error : Int)
  | disconnected (error : Int)
  | deinitialised
  deriving DecidableEq, Repr

inductive AppEff (E : Type → Type 1) : Type → Type 1 where
  | cellular {β : Type} (e : E β) : AppEff E β
  | gauge {β : Type} (e : I2c.Bus β) : AppEff E β
  | client : AppEff E MbedClient
  | setClient (f : MbedClient → MbedClient) : AppEff E Unit
  | create (k : Kind) : AppEff E Pointer
  | set (object : Pointer) (r : Resource) (v : Value) : AppEff E Unit
  | call (interface : Pointer) (s : Service) : AppEff E Unit
  | heapSize : AppEff E UInt32
  | buttonPressed : AppEff E Bool
  | leds (l : Leds) : AppEff E Unit
  | wait (ms : Nat) : AppEff E Unit
  | mark (m : Mark) : AppEff E Unit

abbrev AppCode (E : Type → Type 1) := Prog (AppEff E)

section Code
variable {E : Type → Type 1}

def client : AppCode E MbedClient := Prog.perform .client
def setClient (f : MbedClient → MbedClient) : AppCode E Unit := Prog.perform (.setClient f)
def create (k : Kind) : AppCode E Pointer := Prog.perform (.create k)
def call (interface : Pointer) (s : Service) : AppCode E Unit :=
  Prog.perform (.call interface s)
def mark (m : Mark) : AppCode E Unit := Prog.perform (.mark m)
def ledOn : AppCode E Unit := Prog.perform (.leds .on)
def ledOff : AppCode E Unit := Prog.perform (.leds .off)
def buttonPressed : AppCode E Bool := Prog.perform .buttonPressed
def wait (ms : Nat) : AppCode E Unit := Prog.perform (.wait ms)
def set (object : Pointer) (r : Resource) (v : Value) : AppCode E Unit :=
  Prog.perform (.set object r v)

def setAll (object : Pointer) : List (Resource × Value) → AppCode E Unit
  | [] => return ()
  | (r, v) :: rest => do
    set object r v
    setAll object rest

def createWith (k : Kind) (resources : List (Resource × Value)) : AppCode E Pointer := do
  let object ← create k
  if object.isSome then setAll object resources
  return object

def createInterface (serverAddress : String) : AppCode E Unit := do
  setClient (fun c => { c with serverAddress := serverAddress })
  let interface ← create (.interface serverAddress 100 0)
  setClient (fun c => { c with interface := interface })
  if interface.isSome then call interface .setPlatformNetworkHandler

def createRegisterObject : AppCode E Pointer := do
  let c ← client
  createWith .security [(.m2mServerUri, .text c.serverAddress), (.securityMode, .certificate),
    (.serverPublicKey, .certificate), (.publicKey, .certificate), (.secretkey, .certificate)]

def createDeviceObject : AppCode E Pointer := do
  let c ← client
  createWith .device [(.manufacturer, .text c.device.manufacturer),
    (.deviceType, .text c.device.type), (.modelNumber, .text c.device.modelNumber),
    (.serialNumber, .text c.device.serialNumber),
    (.hardwareVersion, .text c.device.hardwareVersion),
    (.firmwareVersion, .text c.device.firmwareVersion),
    (.softwareVersion, .text c.device.softwareVersion),
    (.batteryLevel, .number c.device.batteryLevel),
    (.batteryStatus, .number c.device.batteryStatus),
    (.memoryFree, .number c.device.memoryFree), (.memoryTotal, .number c.device.memoryTotal)]

def createFirmwareObject : AppCode E Pointer :=
  createWith .firmware [(.packageName, .text "PackageName"),
    (.packageVersion, .text "PackageVersion")]

def createServerObject : AppCode E Pointer :=
  createWith .server [(.shortServerID, .number 12), (.lifetime, .number 100)]

def registerSuccessful : AppCode E Bool := do
  let c ← client
  return c.registered

def testRegister (registerObject : Pointer) (objectList : List Pointer) : AppCode E Unit := do
  let c ← client
  if c.interface.isSome then call c.interface (.registerObject registerObject objectList)

def testUnregister : AppCode E Unit := do
  let c ← client
  if c.interface.isSome then call c.interface (.unregisterObject none)

-- The one call that does not look whether there is an interface.
def testUpdateRegister : AppCode E Unit := do
  let c ← client
  if c.registered then call c.interface (.updateRegistration c.registerSecurity 100)

def setRegisterObject (registerObject : Pointer) : AppCode E Unit :=
  setClient (fun c =>
    if c.registerSecurity = none then { c with registerSecurity := registerObject } else c)

end Code

end UbloxCellular.App
