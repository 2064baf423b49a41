import UbloxCellular.App.Client
import UbloxCellular.Gauge.Percentage

namespace UbloxCellular.App
open Interaction

structure InterfaceClass (E : Type → Type 1) where
  init : Option String → Prog E Bool
  setCredentials : Option String → Option String → Option String → Prog E Unit
  connect : Prog E Int
  disconnect : Prog E Int
  deinit : Prog E Unit

def device : MbedClientDevice where
  manufacturer := "ublox"
  type := "nbiot"
  modelNumber := "C030-N211-0-00"
  serialNumber := "0590"
  firmwareVersion := "1.1"
  softwareVersion := "1.2"
  hardwareVersion := "1.3"
  batteryLevel := 0
  batteryStatus := 0
  memoryFree := 0
  memoryTotal := 192000

-- What the build and the stack give main(): whether the board is a C030, and what is in the memory
-- that becomes the gauge's _address.
structure Board where
  targetUbloxC030 : Bool
  gAddress : I2c.Byte

section Code
variable {E : Type → Type 1} {α : Type}

def cellular (p : Prog E α) : AppCode E α := p.within (fun _ e => .cellular e)
def gauge (p : I2c.BusCode α) : AppCode E α := p.within (fun _ e => .gauge e)
def heapSize : AppCode E UInt32 := Prog.perform .heapSize

-- The first of the two readings is not used, nor is what malloc() returned.
def memoryFree : AppCode E Int := do
  let _ ← heapSize
  let currentSize ← heapSize
  return (192000 - currentSize).toInt32.toInt

def refresh (b : Board) (deviceObject : Pointer) : AppCode E Unit := do
  let level ← gauge (Gauge.batteryPercentage b.targetUbloxC030 b.gAddress)
  set deviceObject .batteryLevel (.number level)
  let free ← memoryFree
  set deviceObject .memoryFree (.number free)
  testUpdateRegister

structure Objects where
  registerObject : Pointer
  deviceObject : Pointer
  objectList : List Pointer

def online (b : Board) (o : Objects) : AppCode E Unit := do
  if ← registerSuccessful then refresh b o.deviceObject
  else testRegister o.registerObject o.objectList

def serve (b : Board) (o : Objects) (error : Int) : AppCode E Unit :=
  if error = 0 then online b o else ledOff

def round (interface : InterfaceClass E) (b : Board) (o : Objects) (_ : Unit) :
    AppCode E (Unit ⊕ Unit) := do
  if ← buttonPressed then return .inr ()
  else
    ledOn
    let error ← cellular interface.connect
    mark (.connected error)
    serve b o error
    ledOff
    wait 30000
    return .inl ()

def createObjects (ledObject tempObject : Pointer) : AppCode E Objects := do
  createInterface "coap://169.45.82.18:5684"
  let registerObject ← createRegisterObject
  let deviceObject ← createDeviceObject
  let firmwareObject ← createFirmwareObject
  let serverObject ← createServerObject
  setRegisterObject registerObject
  return ⟨registerObject,deviceObject,
    [deviceObject,firmwareObject,serverObject,ledObject,tempObject]⟩

def stop (interface : InterfaceClass E) : AppCode E Unit := do
  wait 500
  testUnregister
  let error ← cellular interface.disconnect
  mark (.disconnected error)
  cellular interface.deinit
  mark .deinitialised
  ledOff

def work (interface : InterfaceClass E) (b : Board) (ledObject tempObject : Pointer) :
    AppCode E Unit := do
  let o ← createObjects ledObject tempObject
  cellular (interface.setCredentials none none none)
  Prog.iterate (round interface b o) ()
  stop interface

def main (interface : InterfaceClass E) (b : Board) : AppCode E Unit := do
  ledOff
  let ledObject ← create (.object "3311")
  let tempObject ← create (.object "3303")
  let ready ← cellular (interface.init (some "0000"))
  mark (.initialised ready)
  if ready then work interface b ledObject tempObject else ledOff

end Code

end UbloxCellular.App
