import Mathlib.Algebra.Order.Ring.Int

/-!
# Usage values

The Usage Page and Usage values that the generated descriptors name (`src/hid/usages.hpp`).
-/

namespace LibaoaHid.Usage

def pageGenericDesktop : ℕ := 0x01
def pageSimulation : ℕ := 0x02
def pageGenericDeviceControls : ℕ := 0x06
def pageKeyboard : ℕ := 0x07
def pageButton : ℕ := 0x09
def pageConsumer : ℕ := 0x0C
def pageDigitizers : ℕ := 0x0D
def pageCameraControl : ℕ := 0x90

def pointer : ℕ := 0x01
def mouse : ℕ := 0x02
def gamepad : ℕ := 0x05
def keyboard : ℕ := 0x06
def x : ℕ := 0x30
def y : ℕ := 0x31
def z : ℕ := 0x32
def rx : ℕ := 0x33
def ry : ℕ := 0x34
def rz : ℕ := 0x35
def slider : ℕ := 0x36
def dial : ℕ := 0x37
def wheel : ℕ := 0x38
def hatSwitch : ℕ := 0x39
def dpadUp : ℕ := 0x90
def dpadDown : ℕ := 0x91
def dpadRight : ℕ := 0x92
def dpadLeft : ℕ := 0x93

def simulationRudder : ℕ := 0xBA
def simulationThrottle : ℕ := 0xBB
def simulationAccelerator : ℕ := 0xC4
def simulationBrake : ℕ := 0xC5
def simulationSteering : ℕ := 0xC8

def acPan : ℕ := 0x0238

def cameraAutoFocus : ℕ := 0x20
def cameraShutter : ℕ := 0x21

def digitizer : ℕ := 0x01
def pen : ℕ := 0x02
def touchScreen : ℕ := 0x04
def touchPad : ℕ := 0x05
def stylus : ℕ := 0x20
def finger : ℕ := 0x22
def tipPressure : ℕ := 0x30
def inRange : ℕ := 0x32
def invert : ℕ := 0x3C
def xTilt : ℕ := 0x3D
def yTilt : ℕ := 0x3E
def azimuth : ℕ := 0x3F
def twist : ℕ := 0x41
def tipSwitch : ℕ := 0x42
def barrelSwitch : ℕ := 0x44
def width : ℕ := 0x48
def height : ℕ := 0x49
def contactIdentifier : ℕ := 0x51
def contactCount : ℕ := 0x54
def contactCountMaximum : ℕ := 0x55
def scanTime : ℕ := 0x56
def secondaryBarrelSwitch : ℕ := 0x5A

def keyboardLeftControl : ℕ := 0xE0
def keyboardRightGui : ℕ := 0xE7

def backgroundNonuserControls : ℕ := 0x01
def batteryStrength : ℕ := 0x20

end LibaoaHid.Usage
