import Mathlib.Algebra.Order.Field.Rat
import Mathlib.Algebra.Order.Group.Abs
import Mathlib.Data.Rat.Floor
import MoonlightWeb.Streamer.Bindings

/-! The gamepads of the browser as the page reads them: how a pad is classified
by its id string, and the state that is sent for it. Numbers are rationals. -/
namespace MoonlightWeb.Client
open MoonlightWeb.Streamer

/-- One piece of a regular expression: one character, one or none, any number. -/
inductive Atom where
  | one (test : Char → Bool)
  | maybe (test : Char → Bool)
  | many (test : Char → Bool)

/-- The texts that can follow a run of characters, the shortest first. -/
def afterMany (test : Char → Bool) : List Char → List (List Char)
  | [] => [[]]
  | char :: rest => (if test char then afterMany test rest else []) ++ [char :: rest]

/-- What can be left of a text after a match at its start. -/
def leftovers : List Atom → List Char → List (List Char)
  | [], text => [text]
  | .one test :: more, char :: rest => if test char then leftovers more rest else []
  | .one _ :: _, [] => []
  | .maybe test :: more, text =>
    (match text with
      | char :: rest => if test char then leftovers more rest else []
      | [] => []) ++ leftovers more text
  | .many test :: more, text => (afterMany test text).flatMap (leftovers more)

def matchesIn (pattern : List Atom) (text : String) : Bool :=
  text.toList.tails.any fun start => !(leftovers pattern start).isEmpty

/-- A word of an expression that ignores case. -/
def word (text : String) : List Atom :=
  text.toList.map fun char => .one fun other => other.toLower == char.toLower

/-- `\s` of a JavaScript expression. -/
def isSpace (char : Char) : Bool :=
  let code := char.toNat
  (9 ≤ code && code ≤ 13) || code = 0x20 || code = 0xa0 || code = 0x1680 ||
    (0x2000 ≤ code && code ≤ 0x200a) || code = 0x2028 || code = 0x2029 || code = 0x202f ||
    code = 0x205f || code = 0x3000 || code = 0xfeff

/-- `.` of a JavaScript expression. -/
def inLine (char : Char) : Bool :=
  char.toNat ≠ 10 && char.toNat ≠ 13 && char.toNat ≠ 0x2028 && char.toNat ≠ 0x2029

def isHexDigit (char : Char) : Bool :=
  char.isDigit || ('a' ≤ char.toLower && char.toLower ≤ 'f')

def someSpace : List Atom := [.one isSpace, .many isSpace]

/-- `/VENDOR\s*:?\s*([0-9A-F]{4})/i`, up to the digits. -/
def vendorPattern : List Atom :=
  word "VENDOR" ++ [.many isSpace, .maybe (· == ':'), .many isSpace]

def getGamepadVendorId (id : String) : Option String :=
  let digits := id.toList.tails.flatMap fun start => leftovers vendorPattern start
  (digits.find? fun text => 4 ≤ text.length && (text.take 4).all isHexDigit).map fun text =>
    (String.ofList (text.take 4)).toUpper

/-- `/TESLA\s+VIRTUAL\s+GAMEPAD/i` -/
def teslaVirtualPattern : List Atom :=
  word "TESLA" ++ someSpace ++ word "VIRTUAL" ++ someSpace ++ word "GAMEPAD"

def isVirtualGamepad (id : String) : Bool := matchesIn teslaVirtualPattern id

/-- `/vendor\s*[: ]?…\s*.*product\s*[: ]?02d1/i` for a vendor. -/
def vendorProductPattern (vendor : String) : List Atom :=
  let separator := [Atom.many isSpace, .maybe fun char => char == ':' || char == ' ']
  word "vendor" ++ separator ++ word vendor ++ [.many isSpace, .many inLine] ++ word "product" ++
    separator ++ word "02d1"

/-- `/standard\s*gamepad\s*vendor\s*045a\s*product\s*02d1/i` -/
def standardGamepadPattern : List Atom :=
  let spaces := [Atom.many isSpace]
  word "standard" ++ spaces ++ word "gamepad" ++ spaces ++ word "vendor" ++ spaces ++ word "045a" ++
    spaces ++ word "product" ++ spaces ++ word "02d1"

structure GamepadIdFlags where
  isTeslaVirtual : Bool
  detectedNeedsTeslaSwap : Bool

def getGamepadIdFlags (id : String) : GamepadIdFlags where
  isTeslaVirtual := isVirtualGamepad id || matchesIn (vendorProductPattern "045e") id ||
    matchesIn (vendorProductPattern "045a") id
  detectedNeedsTeslaSwap :=
    matchesIn (vendorProductPattern "045a") id || matchesIn standardGamepadPattern id

structure ControllerConfig where
  invertXY : Bool
  invertAB : Bool
  deriving DecidableEq, Repr

/-- The triggers have no flag of their own. -/
def STANDARD_BUTTONS : List (Option (BitVec 32)) :=
  [some ControllerButtons.A, some ControllerButtons.B, some ControllerButtons.X,
    some ControllerButtons.Y, some ControllerButtons.LB, some ControllerButtons.RB, none, none,
    some ControllerButtons.BACK, some ControllerButtons.PLAY, some ControllerButtons.LS_CLK,
    some ControllerButtons.RS_CLK, some ControllerButtons.UP, some ControllerButtons.DOWN,
    some ControllerButtons.LEFT, some ControllerButtons.RIGHT, some ControllerButtons.SPECIAL]

def SUPPORTED_BUTTONS : BitVec 32 :=
  ControllerButtons.A ||| ControllerButtons.B ||| ControllerButtons.X ||| ControllerButtons.Y |||
    ControllerButtons.UP ||| ControllerButtons.DOWN ||| ControllerButtons.LEFT |||
    ControllerButtons.RIGHT ||| ControllerButtons.LB ||| ControllerButtons.RB |||
    ControllerButtons.PLAY ||| ControllerButtons.BACK ||| ControllerButtons.LS_CLK |||
    ControllerButtons.RS_CLK ||| ControllerButtons.SPECIAL

def convertStandardButton (buttonIndex : Nat) (config : ControllerConfig) : Option (BitVec 32) :=
  let button := (STANDARD_BUTTONS[buttonIndex]?).join
  let button :=
    if config.invertAB then
      if button = some ControllerButtons.A then some ControllerButtons.B
      else if button = some ControllerButtons.B then some ControllerButtons.A
      else button
    else button
  if config.invertXY then
    if button = some ControllerButtons.X then some ControllerButtons.Y
    else if button = some ControllerButtons.Y then some ControllerButtons.X
    else button
  else button

structure GamepadButton where
  pressed : Bool
  value : ℚ
  deriving DecidableEq

/-- A pad of `navigator.getGamepads()`; its index is its place in that array. -/
structure Gamepad where
  id : String
  timestamp : ℚ
  buttons : List GamepadButton
  axes : List ℚ
  deriving DecidableEq

structure GamepadState where
  buttonFlags : BitVec 32
  leftTrigger : ℚ
  rightTrigger : ℚ
  leftStickX : ℚ
  leftStickY : ℚ
  rightStickX : ℚ
  rightStickY : ℚ
  deriving DecidableEq

namespace GamepadState

def neutral : GamepadState := ⟨0, 0, 0, 0, 0, 0, 0⟩

def EPSILON : ℚ := 1 / 1000

def isNeutralGamepadState (state : GamepadState) : Bool :=
  state.buttonFlags = 0 && |state.leftTrigger| < EPSILON && |state.rightTrigger| < EPSILON &&
    |state.leftStickX| < EPSILON && |state.leftStickY| < EPSILON &&
    |state.rightStickX| < EPSILON && |state.rightStickY| < EPSILON

def areGamepadStatesEqual (state1 state2 : GamepadState) : Bool :=
  let compareFloats (f1 f2 : ℚ) : Bool := |f1 - f2| < EPSILON
  state1.buttonFlags = state2.buttonFlags &&
    compareFloats state1.leftTrigger state2.leftTrigger &&
    compareFloats state1.rightTrigger state2.rightTrigger &&
    compareFloats state1.leftStickX state2.leftStickX &&
    compareFloats state1.leftStickY state2.leftStickY &&
    compareFloats state1.rightStickX state2.rightStickX &&
    compareFloats state1.rightStickY state2.rightStickY

/-- The flags and the analog values in thousandths, which identify the state. -/
def buildGamepadStateSignature (state : GamepadState) : BitVec 32 × List ℤ :=
  let q (value : ℚ) : ℤ := ⌊value * 1000 + 1 / 2⌋
  (state.buttonFlags, [q state.leftTrigger, q state.rightTrigger, q state.leftStickX,
    q state.leftStickY, q state.rightStickX, q state.rightStickY])

theorem areGamepadStatesEqual_refl (state : GamepadState) :
    state.areGamepadStatesEqual state = true := by
  simp [areGamepadStatesEqual, EPSILON]

end GamepadState

def mapTeslaButton (needsTeslaSwap : Bool) (buttonId : Nat) : Nat :=
  if needsTeslaSwap then
    if buttonId = 0 then 1
    else if buttonId = 1 then 0
    else if buttonId = 2 then 3
    else if buttonId = 3 then 2
    else buttonId
  else buttonId

/-- The state of a pad. Tesla's virtual pads name their buttons by label, so
their face buttons are swapped, unless the user has said otherwise. -/
def extractGamepadState (teslaSwapOverride : Option Bool) (config : ControllerConfig)
    (gamepad : Gamepad) : GamepadState :=
  let flags := getGamepadIdFlags gamepad.id
  let needsTeslaSwap :=
    match flags.isTeslaVirtual, teslaSwapOverride with
    | true, some swap => swap
    | _, _ => flags.detectedNeedsTeslaSwap
  let flagOf (button : GamepadButton × Nat) : BitVec 32 :=
    match convertStandardButton (mapTeslaButton needsTeslaSwap button.2) config with
    | some flag => if button.1.pressed then flag else 0
    | none => 0
  { buttonFlags := gamepad.buttons.zipIdx.foldl (fun flags button => flags ||| flagOf button) 0
    leftTrigger := (gamepad.buttons[6]?.map GamepadButton.value).getD 0
    rightTrigger := (gamepad.buttons[7]?.map GamepadButton.value).getD 0
    leftStickX := gamepad.axes[0]?.getD 0
    leftStickY := gamepad.axes[1]?.getD 0
    rightStickX := gamepad.axes[2]?.getD 0
    rightStickY := gamepad.axes[3]?.getD 0 }

end MoonlightWeb.Client
