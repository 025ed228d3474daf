import Mathlib.Tactic.Common
import Mathlib.Data.Option.Basic

/-!
# DaikinBridge.S21.Presentation

The S21 presentation layer (`src/s21/s21_presentation.{h,cpp}`): the byte codes
of operating modes and fan modes, the operation command, and the nine replies it
decodes.

Both code types are C++ enumerations over `uint8_t`. The reply decoder casts
whatever byte it receives to them (`static_cast<OperatingMode>(byte)`), so a
value of the type is *a byte*, of which only some are declared enumerators. The
model keeps that: a code is a structure around its byte, and the enumerators are
its named values.

A reply is decoded by indexing a byte vector without checking its length. The
monad `Decoder` has the three outcomes that gives: a read past the end of the
payload (`none`, undefined in the source), an error text for the callback, or a
value for it.
-/

namespace DaikinBridge.S21

/-- `enum class OperatingMode : uint8_t`. -/
structure OperatingMode where
  code : UInt8
  deriving DecidableEq, Repr

namespace OperatingMode

def autoCooling : OperatingMode := ⟨0x30⟩
def auto : OperatingMode := ⟨0x31⟩
def dry : OperatingMode := ⟨0x32⟩
def cool : OperatingMode := ⟨0x33⟩
def heat : OperatingMode := ⟨0x34⟩
def fanOnly : OperatingMode := ⟨0x36⟩
def autoHeating : OperatingMode := ⟨0x37⟩

end OperatingMode

/-- `enum class FanMode : uint8_t`. -/
structure FanMode where
  code : UInt8
  deriving DecidableEq, Repr

namespace FanMode

def low : FanMode := ⟨0x33⟩
def midLow : FanMode := ⟨0x34⟩
def medium : FanMode := ⟨0x35⟩
def midHigh : FanMode := ⟨0x36⟩
def high : FanMode := ⟨0x37⟩
def auto : FanMode := ⟨0x41⟩
def quiet : FanMode := ⟨0x42⟩

end FanMode

/-- The bytes of a payload or a frame. -/
abbrev Bytes := List UInt8

/-- Decoding a reply: `none` for a read past its end, and otherwise what the
callback is given, an error text or a value. -/
abbrev Decoder := ExceptT String Option

/-- `r[i]` on a byte vector. -/
def byteAt (r : Bytes) (i : Nat) : Decoder UInt8 := ExceptT.lift r[i]?

/-! ### Temperature bytes -/

/-- Setpoint (0.01 °C) to temperature byte: steps of 0.5 °C above `'@'` = 18 °C.
The quotient truncates towards zero and both narrowings wrap modulo 256. -/
def setPointToTempByte (setPoint : Int16) : UInt8 :=
  0x40 + UInt8.ofInt ((setPoint.toInt - 1800).tdiv 50)

/-- Temperature byte to setpoint (0.01 °C). -/
def tempByteToSetPoint (tempByte : UInt8) : Int16 :=
  Int16.ofInt (((tempByte.toNat : Int) - 0x40) * 50 + 1800)

theorem tdiv_bounds {n : Int} (hlo : -800 ≤ n) (hhi : n ≤ 1400) :
    -16 ≤ n.tdiv 50 ∧ n.tdiv 50 ≤ 28 := by
  have hsign : Int.sign 50 = 1 := rfl
  rw [Int.tdiv_eq_ediv, hsign]
  split <;> omega

/-- The byte a setpoint encodes to, as a number, within the accepted range:
below 18 °C the two wrap-arounds cancel. -/
theorem toNat_setPointToTempByte {sp : Int16} (hlo : 1000 ≤ sp.toInt) (hhi : sp.toInt ≤ 3200) :
    ((setPointToTempByte sp).toNat : Int) = 64 + (sp.toInt - 1800).tdiv 50 := by
  obtain ⟨hql, hqh⟩ := tdiv_bounds (n := sp.toInt - 1800) (by omega) (by omega)
  have h40 : (0x40 : UInt8).toNat = 64 := rfl
  rw [setPointToTempByte, UInt8.toNat_add, UInt8.ofInt, UInt8.toNat_ofNat', h40]
  omega

/-- Decoding an encoded setpoint truncates it towards 18 °C in steps of 0.5 °C. -/
theorem toInt_tempByte_roundtrip {sp : Int16} (hlo : 1000 ≤ sp.toInt) (hhi : sp.toInt ≤ 3200) :
    (tempByteToSetPoint (setPointToTempByte sp)).toInt = 1800 + 50 * (sp.toInt - 1800).tdiv 50 := by
  obtain ⟨hql, hqh⟩ := tdiv_bounds (n := sp.toInt - 1800) (by omega) (by omega)
  rw [tempByteToSetPoint, Int16.toInt_ofInt, toNat_setPointToTempByte hlo hhi,
    Int.bmod_eq_of_le (by simp [Int16.size]; omega) (by simp [Int16.size]; omega)]
  omega

/-- The accepted setpoints that survive the byte are the multiples of 0.5 °C. -/
theorem tempByte_roundtrip_iff {sp : Int16} (hlo : 1000 ≤ sp.toInt) (hhi : sp.toInt ≤ 3200) :
    tempByteToSetPoint (setPointToTempByte sp) = sp ↔ sp.toInt % 50 = 0 := by
  rw [← Int16.toInt_inj, toInt_tempByte_roundtrip hlo hhi, Int.tdiv_eq_ediv]
  split <;> omega

/-! ### Operation command and reply -/

/-- `S21Presentation::setOperation`: the D1 payload handed to the data link, or
the error the callback is given when the setpoint is rejected locally. -/
def setOperation (onOff : Bool) (mode : OperatingMode) (setPoint : Int16) (fanMode : FanMode) :
    Except String Bytes :=
  if setPoint.toInt < 1000 ∨ setPoint.toInt > 3200 then
    .error "setPoint out of range"
  else
    let power : UInt8 := if onOff then 0x31 else 0x30
    .ok [0x44, 0x31, power, mode.code, setPointToTempByte setPoint, fanMode.code]

/-- `validateResponseCode`: forwards a link error, and checks the first two bytes
of the response, reading the second only when the first one matches. -/
def validateResponseCode (response : Except String Bytes) (c0 c1 : UInt8) : Decoder Bytes := do
  let r ← ExceptT.mk (some response)
  if (← byteAt r 0) ≠ c0 then
    throw "unexpected response code"
  if (← byteAt r 1) ≠ c1 then
    throw "unexpected response code"
  return r

/-- The result of `getOperation`: on/off, mode, setpoint (0.01 °C) and fan mode. -/
structure GetOperationResult where
  onOff : Bool
  mode : OperatingMode
  setPoint : Int16
  fanMode : FanMode
  deriving DecidableEq, Repr

/-- `S21Presentation::getOperation`, from the response to F1 on. -/
def getOperation (response : Except String Bytes) : Decoder GetOperationResult := do
  let r ← validateResponseCode response 0x47 0x31
  let onOff := (← byteAt r 2) ≠ 0x30
  let mode : OperatingMode := ⟨← byteAt r 3⟩
  let setPoint := tempByteToSetPoint (← byteAt r 4)
  let fanMode : FanMode := ⟨← byteAt r 5⟩
  return { onOff, mode, setPoint, fanMode }

/-- What an accepted command is, and the range its setpoint is then in. -/
theorem setOperation_eq_ok {onOff : Bool} {mode : OperatingMode} {sp : Int16} {fan : FanMode}
    {payload : Bytes} (h : setOperation onOff mode sp fan = .ok payload) :
    (1000 ≤ sp.toInt ∧ sp.toInt ≤ 3200) ∧
      payload = [0x44, 0x31, if onOff then 0x31 else 0x30, mode.code,
        setPointToTempByte sp, fan.code] := by
  unfold setOperation at h
  split at h
  · exact absurd h (by simp)
  · exact ⟨by omega, (Except.ok.inj h).symm⟩

/-- Decoding a six-byte G1 payload. -/
theorem getOperation_g1 (b2 b3 b4 b5 : UInt8) :
    (getOperation (.ok [0x47, 0x31, b2, b3, b4, b5])).run =
      some (.ok { onOff := b2 ≠ 0x30, mode := ⟨b3⟩, setPoint := tempByteToSetPoint b4,
                  fanMode := ⟨b5⟩ }) := rfl

/-! ### Sensor replies -/

/-- `decodeReversedDigits`: three ASCII digits, units first, at `offset`. The bytes are
not checked to be digits. -/
def decodeReversedDigits (r : Bytes) (offset : Nat) : Decoder Int := do
  let d0 ← byteAt r offset
  let d1 ← byteAt r (offset + 1)
  let d2 ← byteAt r (offset + 2)
  return ((d0.toNat : Int) - 0x30) + ((d1.toNat : Int) - 0x30) * 10 +
    ((d2.toNat : Int) - 0x30) * 100

/-- `decodeSensorTemp`: digits in 0.1 °C and a sign byte, of which everything but `'+'`
is a minus; returns 0.01 °C. -/
def decodeSensorTemp (r : Bytes) (offset : Nat) : Decoder Int16 := do
  let val ← decodeReversedDigits r offset
  let positive := (← byteAt r (offset + 3)) = 0x2B
  return Int16.ofInt ((if positive then val else -val) * 10)

/-- `decodeHumidity`: the narrowing wraps modulo 256. -/
def decodeHumidity (r : Bytes) (offset : Nat) : Decoder UInt8 := do
  return UInt8.ofInt (← decodeReversedDigits r offset)

/-- `S21Presentation::getRoomTemperature`, from the response to RH on. -/
def getRoomTemperature (response : Except String Bytes) : Decoder Int16 := do
  let r ← validateResponseCode response 0x53 0x48
  decodeSensorTemp r 2

/-- `S21Presentation::getOutdoorTemperature`, from the response to Ra on. -/
def getOutdoorTemperature (response : Except String Bytes) : Decoder Int16 := do
  let r ← validateResponseCode response 0x53 0x61
  decodeSensorTemp r 2

/-- `S21Presentation::getHumidity`, from the response to Re on. -/
def getHumidity (response : Except String Bytes) : Decoder UInt8 := do
  let r ← validateResponseCode response 0x53 0x65
  decodeHumidity r 2

/-- The result of `getCoarseTemperatureAndHumidity`: indoor and outdoor temperature
(0.01 °C) and indoor humidity (%). -/
structure GetCoarseTemperatureAndHumidityResult where
  indoor : Int16
  outdoor : Int16
  humidity : UInt8
  deriving DecidableEq, Repr

/-- `S21Presentation::getCoarseTemperatureAndHumidity`, from the response to F9 on. The
temperatures are signed offsets in steps of 0.5 °C, and the humidity wraps modulo 256. -/
def getCoarseTemperatureAndHumidity (response : Except String Bytes) :
    Decoder GetCoarseTemperatureAndHumidityResult := do
  let r ← validateResponseCode response 0x47 0x39
  let indoor := Int16.ofInt ((Int8.ofInt (((← byteAt r 2).toNat : Int) - 0x80)).toInt * 50)
  let outdoor := Int16.ofInt ((Int8.ofInt (((← byteAt r 3).toNat : Int) - 0x80)).toInt * 50)
  let humidity := (← byteAt r 4) - 0x30
  return { indoor, outdoor, humidity }

/-! ### Fan mode, versions and unit state -/

/-- `S21Presentation::getFanMode`, from the response to RG on. -/
def getFanMode (response : Except String Bytes) : Decoder FanMode := do
  let r ← validateResponseCode response 0x53 0x47
  return ⟨← byteAt r 2⟩

/-- `decodeVersionDigit`: 0 for anything but a digit. -/
def decodeVersionDigit (b : UInt8) : UInt8 :=
  if b ≥ 0x30 ∧ b ≤ 0x39 then b - 0x30 else 0

/-- `S21Presentation::getProtocolVersion`, from the response to F8 on; major and minor. -/
def getProtocolVersion (response : Except String Bytes) : Decoder (UInt8 × UInt8) := do
  let r ← validateResponseCode response 0x47 0x38
  let minor := decodeVersionDigit (← byteAt r 2)
  let major := decodeVersionDigit (← byteAt r 3)
  return (major, minor)

/-- The digit of `decodeRzHexByte`: 0 for anything but a hexadecimal digit. -/
def hexNibble (b : UInt8) : UInt8 :=
  if b ≥ 0x30 ∧ b ≤ 0x39 then b - 0x30
  else if b ≥ 0x41 ∧ b ≤ 0x46 then b - 0x41 + 10
  else if b ≥ 0x61 ∧ b ≤ 0x66 then b - 0x61 + 10
  else 0

/-- `decodeRzHexByte`: two hexadecimal digits, low nibble first, at `offset`. -/
def decodeRzHexByte (r : Bytes) (offset : Nat) : Decoder UInt8 := do
  let lo ← byteAt r offset
  let hi ← byteAt r (offset + 1)
  return hexNibble lo ||| (hexNibble hi <<< 4)

/-- `S21Presentation::getExtendedProtocolVersion`, from the response to FY00 on. -/
def getExtendedProtocolVersion (response : Except String Bytes) : Decoder (UInt8 × UInt8) := do
  let r ← validateResponseCode response 0x47 0x59
  let minor := decodeVersionDigit (← byteAt r 4) + decodeVersionDigit (← byteAt r 5) * 10
  let major := decodeVersionDigit (← byteAt r 6) + decodeVersionDigit (← byteAt r 7) * 10
  return (major, minor)

/-- The result of `getUnitState`. -/
structure UnitState where
  powerful : Bool
  defrost : Bool
  refrigerantValveOpen : Bool
  online : Bool
  deriving DecidableEq, Repr

/-- `S21Presentation::getUnitState`, from the response to RzB2 on: the response code has
two more bytes, checked like the first two. -/
def getUnitState (response : Except String Bytes) : Decoder UnitState := do
  let r ← validateResponseCode response 0x53 0x7A
  if (← byteAt r 2) ≠ 0x42 then
    throw "unexpected response code"
  if (← byteAt r 3) ≠ 0x32 then
    throw "unexpected response code"
  let bits ← decodeRzHexByte r 4
  return {
    powerful := bits &&& 0x01 ≠ 0
    defrost := bits &&& 0x02 ≠ 0
    refrigerantValveOpen := bits &&& 0x04 ≠ 0
    online := bits &&& 0x08 ≠ 0 }

end DaikinBridge.S21
