import UbloxCellular.I2c.Bus
import UbloxCellular.Interaction.Session

namespace UbloxCellular.Gauge
open Interaction I2c

abbrev Word := BitVec 16

def lowByte (w : Word) : Byte := w.setWidth 8
def highByte (w : Word) : Byte := (w >>> 8).setWidth 8

structure BatteryGaugeBq27441 where
  gpI2c : Bool
  gAddress : Byte
  gSealCode : Word
  gReady : Bool
  gGaugeOn : Bool
  deriving DecidableEq, Repr

-- The sum runs over the block in order and wraps as a char does.
def computeChecksum (pData : Vector Byte 32) : Byte :=
  0xff - pData.toList.foldl (fun checkSum d => checkSum + d) 0

def memcpy (block : Vector Byte 32) (start : Nat) (pData : List Byte) : Vector Byte 32 :=
  .ofFn (fun i => if start ≤ i ∧ i < start + pData.length then pData.getD (i - start) 0
    else block[i])

-- The offset + length combination must not cross a 32-byte boundary.
def withinBlock (offset length : Int) : Bool :=
  length ≤ 32 && offset.tdiv 32 == (offset + length - 1).tdiv 32

def windowAddress (offset : Int) : Byte := BitVec.ofInt 8 (0x40 + offset.tmod 32)

namespace BatteryGaugeBq27441

def new (gAddress : Byte) : BatteryGaugeBq27441 := ⟨false,gAddress,0,false,false⟩

variable (g : BatteryGaugeBq27441)

def write (data : List Byte) : BusCode Bool := I2c.write g.gAddress data
def writeRepeated (data : List Byte) : BusCode Bool := I2c.writeRepeated g.gAddress data
def read (length : Nat) : BusCode (Option (Vector Byte length)) := I2c.read g.gAddress length
def control (word : Word) : BusCode Bool := g.write [0x00,lowByte word,highByte word]

def getTwoBytes (registerAddress : Byte) : BusCode (Option Word) :=
  if g.gpI2c then do
    if ← g.write [registerAddress] then
      return (← g.read 2).map (fun data => data[1] ++ data[0])
    else return none
  else return none

def controlStatus : BusCode (Option Word) := do
  if ← g.control 0x0000 then g.getTwoBytes 0x00 else return none

def isSealed : BusCode Bool := do
  return (← g.controlStatus).any (fun status => status.getLsbD 13)

def seal' : BusCode Bool := (g.control 0x0020).both do
  return (← g.controlStatus).any (fun status => status.getLsbD 13)

def unseal' (sealCode : Word) : BusCode Bool :=
  (g.control sealCode).both ((g.control sealCode).both do
    return (← g.controlStatus).any (fun status => !status.getLsbD 13))

def accessible (wasSealed : Bool) : BusCode Bool :=
  if wasSealed then g.unseal' g.gSealCode else pure true

def loadBlock (subClassId : Byte) (offset : Int) : BusCode (Option (Vector Byte 32)) := do
  if ← g.write [0x61,0x00] then
    if ← g.write [0x3e,subClassId] then
      if ← g.writeRepeated [0x3f,BitVec.ofInt 8 (offset.tdiv 32)] then
        (← g.read 32).elim (pure none) (fun block => do
          if ← g.writeRepeated [0x60] then
            return (← g.read 1).bind (fun sum =>
              if sum[0] = computeChecksum block then some block else none)
          else return none)
      else return none
    else return none
  else return none

def readBlock (subClassId : Byte) (offset length : Int) : BusCode (Option (List Byte)) := do
  (← g.loadBlock subClassId offset).elim (pure none) (fun _ => do
    if ← g.writeRepeated [windowAddress offset] then
      return (← g.read length.toNat).map Vector.toList
    else return none)

def readExtendedData (subClassId : Byte) (offset length : Int) (pData : Bool) :
    BusCode (Option (List Byte)) :=
  if g.gpI2c && pData && withinBlock offset length then do
    let wasSealed ← g.isSealed
    let opened ← g.accessible wasSealed
    let data ← (if opened then g.readBlock subClassId offset length else pure none)
    if wasSealed then
      if ← g.seal' then return data else return none
    else return data
  else return none

def pollFlags (unread : Word) (settled : Word → Bool) : BusCode Word :=
  Prog.upTo settled (fun _ => do
    let answer ← g.getTwoBytes 0x06
    wait 100
    return answer.getD unread) 200 unread

def enterConfig : BusCode Bool := (g.control 0x0013).both do
  return (← g.pollFlags 0x0000 (fun answer => answer.getLsbD 4)).getLsbD 4

def storeBlock (offset : Int) (data : List Byte) (block : Vector Byte 32) : BusCode Bool :=
  (g.write (windowAddress offset :: data)).both
    (g.write [0x60,computeChecksum (memcpy block (offset.tmod 32).toNat data)])

def leaveConfig (wasSealed : Bool) : BusCode Bool := (g.control 0x0042).both do
  let answer ← g.pollFlags 0xffff (fun answer => !answer.getLsbD 4)
  if answer.getLsbD 4 then return false
  else if wasSealed then do
    wait 4000
    return true
  else return true

def writeBlock (wasSealed : Bool) (subClassId : Byte) (offset : Int) (data : List Byte) :
    BusCode Bool :=
  g.enterConfig.both do
    (← g.loadBlock subClassId offset).elim (pure false) (fun block =>
      (g.storeBlock offset data block).both (g.leaveConfig wasSealed))

-- A write that succeeded is left to the exit from config update state to re-seal.
def writeExtendedData (subClassId : Byte) (offset length : Int) (pData : Option (List Byte)) :
    BusCode Bool :=
  if g.gpI2c && pData.isSome && withinBlock offset length then do
    let wasSealed ← g.isSealed
    let opened ← g.accessible wasSealed
    let success ← (if opened then
      g.writeBlock wasSealed subClassId offset ((pData.getD []).take length.toNat)
      else pure false)
    if !success && wasSealed then do
      let _ ← g.seal'
      return false
    else return success
  else return false

def makeAdcReading : BusCode Bool := do
  lock
  let success ← g.control 0x0012
  unlock
  wait 1000
  return success

def setHibernate : BusCode Bool := g.control 0x0011

def configure : BusCode (Option Bool) := do
  if ← g.control 0x0002 then
    if (← g.getTwoBytes 0x00) = some 0x0109 then
      if ← (g.writeExtendedData 82 31 1 (some [highByte 1000])).both
          ((g.writeExtendedData 82 32 1 (some [lowByte 1000])).both
            (g.writeExtendedData 68 9 2 (some [highByte 5000,lowByte 5000]))) then
        return some (← g.setHibernate)
      else return none
    else return none
  else return none

-- gReady and gGaugeOn are those of the object before, unless SET_HIBERNATE is reached.
def init (pI2c : Bool) (address : Byte) (sealCode : Word) : BusCode (Bool × BatteryGaugeBq27441) :=
  let g' := { g with gpI2c := pI2c, gAddress := address <<< 1, gSealCode := sealCode }
  if pI2c then do
    lock
    let ready := (← g'.configure).getD g.gReady
    unlock
    return (ready, { g' with gReady := ready })
  else return (g.gReady, g')

def guarded : Bool := g.gReady && g.gpI2c

def isGaugeEnabled : Bool := g.gGaugeOn

def sleepBit : Byte := 0x20

def setSleep (isSlow : Bool) : BusCode Bool := do
  (← g.readExtendedData 64 0 2 true).elim (pure false) (fun data =>
    if isSlow && !(data.getD 1 0).getLsbD 5 then
      g.writeExtendedData 64 0 2 (some [data.getD 0 0,data.getD 1 0 ||| sleepBit])
    else if !isSlow && (data.getD 1 0).getLsbD 5 then
      g.writeExtendedData 64 0 2 (some [data.getD 0 0,data.getD 1 0 &&& ~~~sleepBit])
    else pure true)

def enableGauge (isSlow : Bool) : BusCode (Bool × BatteryGaugeBq27441) :=
  if g.guarded then do
    lock
    if ← g.control 0x0012 then
      let success ← { g with gGaugeOn := true }.setSleep isSlow
      unlock
      return (success, { g with gGaugeOn := true })
    else
      unlock
      return (false, g)
  else return (false, g)

def disableGauge : BusCode (Bool × BatteryGaugeBq27441) :=
  if g.guarded then do
    lock
    let success ← g.setHibernate
    unlock
    return (success, if success then { g with gGaugeOn := false } else g)
  else return (false, g)

def hibernate : BusCode Unit :=
  if g.gGaugeOn then pure () else do
    let _ ← g.setHibernate
    return ()

def sleep (success : Bool) : BusCode Bool :=
  if g.gGaugeOn then pure success else do
    if ← g.setHibernate then return success else return false

def insertBit : Byte := 0x20

def disableBatteryDetect : BusCode Bool :=
  if g.guarded then do
    lock
    let data ← g.readExtendedData 64 0 2 true
    let success ← data.elim (pure false) (fun data =>
      if (data.getD 0 0).getLsbD 5 then
        (g.writeExtendedData 64 0 2 (some [data.getD 0 0 &&& ~~~insertBit,data.getD 1 0])).both
          (g.control 0x000c)
      else pure true)
    g.hibernate
    unlock
    return success
  else return false

def enableBatteryDetect : BusCode Bool :=
  if g.guarded then do
    lock
    let data ← g.readExtendedData 64 0 2 true
    let success ← data.elim (pure false) (fun data =>
      if !(data.getD 0 0).getLsbD 5 then
        g.writeExtendedData 64 0 2 (some [data.getD 0 0 ||| insertBit,data.getD 1 0])
      else pure true)
    g.hibernate
    unlock
    return success
  else return false

def recent : BusCode Bool := if g.gGaugeOn then pure true else g.makeAdcReading

def isBatteryDetected : BusCode Bool :=
  if g.guarded then do
    if ← g.recent then
      lock
      let data ← g.getTwoBytes 0x06
      g.hibernate
      unlock
      return data.any (fun flags => flags.getLsbD 3)
    else return false
  else return false

def reading (registerAddress : Byte) (unit : Word → Int) : BusCode (Bool × Option Int) :=
  if g.guarded then do
    if ← g.recent then
      lock
      let data ← g.getTwoBytes registerAddress
      let success ← g.sleep data.isSome
      unlock
      return (success, data.map unit)
    else return (false, none)
  else return (false, none)

def getTemperature : BusCode (Bool × Option Int) :=
  g.reading 0x02 (fun data => (data.toNat : Int) / 10 - 273)

def getVoltage : BusCode (Bool × Option Int) := g.reading 0x04 (fun data => data.toNat)

-- The current read is not used: what is stored is the initial 0.
def getCurrent : BusCode (Bool × Option Int) := g.reading 0x10 (fun _ => 0)

def getRemainingCapacity : BusCode (Bool × Option Int) := g.reading 0x0c (fun data => data.toNat)

-- The one getter that goes to sleep before its reading as well as after it.
def getRemainingPercentage : BusCode (Bool × Option Int) :=
  if g.guarded then do
    if ← g.recent then
      lock
      g.hibernate
      let data ← g.getTwoBytes 0x1c
      let success ← g.sleep data.isSome
      unlock
      return (success, data.map (fun data => (data.toNat : Int)))
    else return (false, none)
  else return (false, none)

def advancedGetConfig (subClassId : Byte) (offset length : Int) (pData : Bool) :
    BusCode (Bool × Option (List Byte)) :=
  if g.guarded && pData then do
    lock
    let data ← g.readExtendedData subClassId offset length pData
    let success ← g.sleep data.isSome
    unlock
    return (success, data)
  else return (false, none)

def advancedSetConfig (subClassId : Byte) (offset length : Int) (pData : Option (List Byte)) :
    BusCode Bool :=
  if g.guarded && pData.isSome then do
    lock
    let written ← g.writeExtendedData subClassId offset length pData
    let success ← g.sleep written
    unlock
    return success
  else return false

def advancedSendControlWord (controlWord : Word) (pDataReturned : Bool) :
    BusCode (Bool × Option Word) :=
  if g.guarded then do
    lock
    let sent ← g.control controlWord
    let data ← (if sent && pDataReturned then g.getTwoBytes 0x00 else pure none)
    unlock
    return (sent && (!pDataReturned || data.isSome), data)
  else return (false, none)

-- The one reading that does not return to sleep.
def advancedGet (address : Byte) : BusCode (Bool × Option Word) :=
  if g.guarded then do
    if ← g.recent then
      lock
      let value ← g.getTwoBytes address
      unlock
      return (value.isSome, value)
    else return (false, none)
  else return (false, none)

def advancedIsSealed : BusCode Bool :=
  if g.guarded then do
    lock
    let isSealed ← g.isSealed
    g.hibernate
    unlock
    return isSealed
  else return false

def advancedSeal : BusCode Bool :=
  if g.guarded then do
    lock
    let isSealed ← g.seal'
    let success ← g.sleep isSealed
    unlock
    return success
  else return false

-- With the top bit of Update Status set the chip reseals itself on the next reset.
def clearReseal : BusCode Bool := do
  (← g.readExtendedData 82 2 1 true).elim (pure false) (fun data =>
    if (data.getD 0 0).getLsbD 7 then
      g.writeExtendedData 82 2 1 (some [data.getD 0 0 &&& ~~~0x80])
    else pure true)

def advancedUnseal (sealCode : Word) : BusCode Bool :=
  if g.guarded then do
    lock
    let unsealed ← (g.unseal' sealCode).both g.clearReseal
    let success ← g.sleep unsealed
    unlock
    return success
  else return false

def resetUnsealed (wasSealed : Bool) : BusCode Bool := do
  let success ← g.control 0x0041
  if wasSealed then
    if ← g.seal' then return success else return false
  else return success

def advancedReset : BusCode Bool :=
  if g.guarded then do
    lock
    let wasSealed ← g.isSealed
    let opened ← g.accessible wasSealed
    let reset ← (if opened then g.resetUnsealed wasSealed else pure false)
    let success ← g.sleep reset
    unlock
    return success
  else return false

end BatteryGaugeBq27441

inductive Op where
  | init (pI2c : Bool) (address : Byte) (sealCode : Word)
  | enableGauge (isSlow : Bool)
  | disableGauge
  | disableBatteryDetect
  | enableBatteryDetect
  | isBatteryDetected
  | getTemperature
  | getVoltage
  | getCurrent
  | getRemainingCapacity
  | getRemainingPercentage
  | advancedGetConfig (subClassId : Byte) (offset length : Int) (pData : Bool)
  | advancedSetConfig (subClassId : Byte) (offset length : Int) (pData : Option (List Byte))
  | advancedSendControlWord (controlWord : Word) (pDataReturned : Bool)
  | advancedGet (address : Byte)
  | advancedIsSealed
  | advancedSeal
  | advancedUnseal (sealCode : Word)
  | advancedReset
  deriving DecidableEq, Repr

def BatteryGaugeBq27441.plain (g : BatteryGaugeBq27441) (p : BusCode Bool) :
    BusCode (Bool × BatteryGaugeBq27441) := do
  return (← p, g)

def BatteryGaugeBq27441.valued {α : Type} (g : BatteryGaugeBq27441) (p : BusCode (Bool × α)) :
    BusCode (Bool × BatteryGaugeBq27441) := do
  return ((← p).1, g)

def Op.code (o : Op) (g : BatteryGaugeBq27441) : BusCode (Bool × BatteryGaugeBq27441) :=
  match o with
  | .init pI2c address sealCode => g.init pI2c address sealCode
  | .enableGauge isSlow => g.enableGauge isSlow
  | .disableGauge => g.disableGauge
  | .disableBatteryDetect => g.plain g.disableBatteryDetect
  | .enableBatteryDetect => g.plain g.enableBatteryDetect
  | .isBatteryDetected => g.plain g.isBatteryDetected
  | .getTemperature => g.valued g.getTemperature
  | .getVoltage => g.valued g.getVoltage
  | .getCurrent => g.valued g.getCurrent
  | .getRemainingCapacity => g.valued g.getRemainingCapacity
  | .getRemainingPercentage => g.valued g.getRemainingPercentage
  | .advancedGetConfig subClassId offset length pData =>
      g.valued (g.advancedGetConfig subClassId offset length pData)
  | .advancedSetConfig subClassId offset length pData =>
      g.plain (g.advancedSetConfig subClassId offset length pData)
  | .advancedSendControlWord controlWord pDataReturned =>
      g.valued (g.advancedSendControlWord controlWord pDataReturned)
  | .advancedGet address => g.valued (g.advancedGet address)
  | .advancedIsSealed => g.plain g.advancedIsSealed
  | .advancedSeal => g.plain g.advancedSeal
  | .advancedUnseal sealCode => g.plain (g.advancedUnseal sealCode)
  | .advancedReset => g.plain g.advancedReset

def object : Object Bus Op BatteryGaugeBq27441 Bool := ⟨Op.code⟩

end UbloxCellular.Gauge
