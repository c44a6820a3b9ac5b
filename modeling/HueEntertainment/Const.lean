import Mathlib.Data.Rat.Defs

/-! The constants of const.py that the modelled code reads. Seconds are exact rationals. -/

namespace HueEntertainment.Const

def httpModeAuto : String := "auto"
def httpModeStandalone : String := "standalone"
def httpModeHomeassistant : String := "homeassistant"
def defaultHttpMode : String := httpModeAuto

def defaultEntertainmentPort : Nat := 2100
def defaultApiPort : Nat := 80

def bridgeModelId : String := "BSB002"
def bridgeSwVersion : String := "1967054020"
def bridgeApiVersion : String := "1.67.0"

def huestreamHeader : List UInt8 := [72, 117, 101, 83, 116, 114, 101, 97, 109]
def huestreamHeaderSize : Nat := 52
def huestreamChannelSize : Nat := 7

def colorSpaceXy : Nat := 0x01

def cieTolerance : ℚ := 3 / 100
def brightnessTolerance : ℤ := 16

def frameWatchdogInterval : ℚ := 2
def frameTimeout : ℚ := 5
def restoreTransition : ℚ := 3 / 2
def restoreTimeout : ℚ := restoreTransition * 4
def classicDrainIdle : ℚ := 2
def defaultYieldSeconds : ℚ := 2
def linkButtonTimeout : ℚ := 60

end HueEntertainment.Const
