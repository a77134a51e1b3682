import MoonlightWeb.Client.Scroll

/-! Touches as mouse input. The first touch of a gesture is the primary one; holding
it and then moving it drags with the left button, a second finger scrolls and a
third asks for the keyboard. Distances are compared by their squares. -/
namespace MoonlightWeb.Client

inductive TouchMode where
  | touch | mouseRelative | pointAndDrag
  deriving DecidableEq, Repr

inductive TouchMouseAction where
  | default | scroll | screenKeyboard
  deriving DecidableEq, Repr

structure TouchConfig where
  touchMode : TouchMode
  mouseScrollMode : MouseScrollMode
  deriving DecidableEq

structure TrackedTouch where
  startTime : ℤ
  originX : ℚ
  originY : ℚ
  x : ℚ
  y : ℚ
  mouseClicked : Bool
  mouseMoved : Bool
  dragEligible : Bool
  deriving DecidableEq

/-- The touches of an event. The browser gives each finger its own identifier. -/
structure TouchList where
  touches : List Touch
  distinct : (touches.map Touch.identifier).Nodup
  deriving DecidableEq

structure TouchInput where
  config : TouchConfig
  streamerWidth : ℚ
  streamerHeight : ℚ
  mouseRemainderX : ℚ
  mouseRemainderY : ℚ
  scrollRemainder : ScrollRemainder
  touchTracker : OrderedMap ℤ TrackedTouch
  touchMouseAction : TouchMouseAction
  primaryTouch : Option ℤ
  touchGestureSuppressClick : Bool
  touchScrollCenter : Option (ℚ × ℚ)
  /-- Second clicks whose timer is running. -/
  delayedClicks : Nat
  /-- The visibility asked of the screen keyboard, the newest first. -/
  screenKeyboard : List Bool
  /-- The calls of the senders, the newest first. -/
  sent : List SendOperation
  deriving DecidableEq

def TOUCH_HIGH_RES_SCROLL_MULTIPLIER : ℚ := 3 / 5
def TOUCH_HIGH_RES_SCROLL_QUANTUM : ℕ+ := 120
def TOUCH_SCROLL_DELTA_CAP : ℚ := 12
def TOUCH_SCROLL_MULTIPLIER : ℚ := 3 / 20
def TOUCH_AS_CLICK_MAX_DISTANCE : ℚ := 48
def TOUCH_AS_CLICK_MIN_TIME_MS : ℤ := 100
def TOUCH_AS_CLICK_MAX_TIME_MS : ℤ := 700
def TOUCH_DRAG_HOLD_TIME_MS : ℤ := 350
def TOUCH_DRAG_START_DISTANCE : ℚ := 12
def TOUCHES_AS_KEYBOARD_DISTANCE : ℚ := 100
def LEFT : Nat := 1

namespace TrackedTouch

def start (now : ℤ) (touch : Touch) : TrackedTouch where
  startTime := now
  originX := touch.clientX
  originY := touch.clientY
  x := touch.clientX
  y := touch.clientY
  mouseMoved := false
  mouseClicked := false
  dragEligible := true

def calcTouchTime (touch : TrackedTouch) (now : ℤ) : ℤ := now - touch.startTime

/-- The square of `calcTouchOriginDistance`. -/
def originDistanceSquared (oldTouch : TrackedTouch) (touch : Touch) : ℚ :=
  (touch.clientX - oldTouch.originX) ^ 2 + (touch.clientY - oldTouch.originY) ^ 2

/-- Held long enough and moved far enough to begin a drag. -/
def startsDrag (oldTouch : TrackedTouch) (now : ℤ) (touch : Touch) : Prop :=
  oldTouch.dragEligible = true ∧ TOUCH_DRAG_HOLD_TIME_MS ≤ oldTouch.calcTouchTime now ∧
    TOUCH_DRAG_START_DISTANCE ^ 2 ≤ oldTouch.originDistanceSquared touch

instance (oldTouch : TrackedTouch) (now : ℤ) (touch : Touch) :
    Decidable (oldTouch.startsDrag now touch) :=
  inferInstanceAs (Decidable (_ ∧ _))

/-- Lifted near where it came down. -/
def isClick (oldTouch : TrackedTouch) (touch : Touch) : Prop :=
  oldTouch.originDistanceSquared touch ≤ TOUCH_AS_CLICK_MAX_DISTANCE ^ 2

instance (oldTouch : TrackedTouch) (touch : Touch) : Decidable (oldTouch.isClick touch) :=
  inferInstanceAs (Decidable (_ ≤ _))

end TrackedTouch

namespace TouchInput

def new (config : TouchConfig) : TouchInput where
  config
  streamerWidth := 0
  streamerHeight := 0
  mouseRemainderX := 0
  mouseRemainderY := 0
  scrollRemainder := ⟨0, 0⟩
  touchTracker := .empty
  touchMouseAction := .default
  primaryTouch := none
  touchGestureSuppressClick := false
  touchScrollCenter := none
  delayedClicks := 0
  screenKeyboard := []
  sent := []

def send (input : TouchInput) (operation : SendOperation) : TouchInput :=
  { input with sent := operation :: input.sent }

def sendMouseButton (input : TouchInput) (isDown : Bool) : TouchInput :=
  input.send (.mouseButton isDown LEFT)

def sendMousePositionClientCoordinates (input : TouchInput) (clientX clientY : ℚ) (rect : DOMRect) :
    TouchInput :=
  match calcNormalizedPosition clientX clientY rect with
  | none => input
  | some (x, y) => input.send (.mousePosition (x.map (· * 4096)) (y.map (· * 4096)) 4096 4096)

def sendMouseMoveClientCoordinates (input : TouchInput) (movementX movementY : ℚ) (rect : DOMRect) :
    TouchInput :=
  if rect.width ≤ 0 ∨ rect.height ≤ 0 then input
  else
    let x := movementX * input.streamerWidth / rect.width + input.mouseRemainderX
    let y := movementY * input.streamerHeight / rect.height + input.mouseRemainderY
    let dx := trunc x
    let dy := trunc y
    let input := { input with mouseRemainderX := x - dx, mouseRemainderY := y - dy }
    if dx ≠ 0 ∨ dy ≠ 0 then input.send (.mouseMove dx dy) else input

def click (input : TouchInput) : TouchInput := (input.sendMouseButton true).sendMouseButton false

/-- The second click of two waits for a timer. -/
def sendLeftClick (input : TouchInput) (twice : Bool) : TouchInput :=
  let input := input.click
  if twice then { input with delayedClicks := input.delayedClicks + 1 } else input

def setTouch (input : TouchInput) (identifier : ℤ) (touch : TrackedTouch) : TouchInput :=
  { input with touchTracker := input.touchTracker.set identifier touch }

def updateTouchTracker (now : ℤ) (input : TouchInput) (touch : Touch) : TouchInput :=
  match input.touchTracker.get touch.identifier with
  | none => input.setTouch touch.identifier (.start now touch)
  | some oldTouch =>
    input.setTouch touch.identifier { oldTouch with x := touch.clientX, y := touch.clientY }

def touchCount (input : TouchInput) : Nat := input.touchTracker.entries.length

def resetScrollRemainder (input : TouchInput) : TouchInput := { input with scrollRemainder := ⟨0, 0⟩ }

def claimPrimary (rect : DOMRect) (input : TouchInput) (touch : Touch) : TouchInput :=
  match input.primaryTouch with
  | some _ => input
  | none =>
    let input := { input with primaryTouch := some touch.identifier, touchMouseAction := .default }
    if input.config.touchMode = .pointAndDrag then
      input.sendMousePositionClientCoordinates touch.clientX touch.clientY rect
    else input

/-- Two fingers scroll, unless the first one drags. -/
def beginScroll (rect : DOMRect) (input : TouchInput) (primary : ℤ) : TouchInput :=
  match input.touchTracker.get primary with
  | none => input
  | some primaryTouch =>
    if primaryTouch.mouseClicked then input
    else
      let input := resetScrollRemainder
        { input with touchMouseAction := .scroll, touchGestureSuppressClick := true }
      if input.config.touchMode = .pointAndDrag then
        let middleX := (input.touchTracker.entries.map fun entry => entry.2.x).sum / 2
        let middleY := (input.touchTracker.entries.map fun entry => entry.2.y).sum / 2
        let input := { input with touchScrollCenter := some (middleX, middleY) }
        let input := input.setTouch primary { primaryTouch with mouseMoved := true }
        input.sendMousePositionClientCoordinates middleX middleY rect
      else input

/-- What the number of fingers makes of the gesture. -/
def chooseAction (rect : DOMRect) (input : TouchInput) : TouchInput :=
  match input.primaryTouch, decide (input.touchCount = 2) with
  | some primary, true => input.beginScroll rect primary
  | _, _ =>
    if input.touchCount = 3 then
      { input with
        touchMouseAction := .screenKeyboard
        touchGestureSuppressClick := true
        touchScrollCenter := none }
    else input

def sendTouches (type : Nat) (rect : DOMRect) (input : TouchInput) (changed : List Touch) :
    TouchInput :=
  changed.foldl (fun input touch => input.send (.touch type touch rect)) input

def onTouchStart (input : TouchInput) (now : ℤ) (changed : List Touch) (rect : DOMRect) :
    TouchInput :=
  let input :=
    if input.touchCount = 0 then { input with touchGestureSuppressClick := false } else input
  let input := changed.foldl (updateTouchTracker now) input
  if input.config.touchMode = .touch then input.sendTouches 0 rect changed
  else (changed.foldl (claimPrimary rect) input).chooseAction rect

def onTouchUpdate (input : TouchInput) (now : ℤ) (rect : DOMRect) : TouchInput :=
  if input.config.touchMode = .pointAndDrag then
    match input.primaryTouch.bind input.touchTracker.get with
    | none => input
    | some touch =>
      if input.touchMouseAction = .default ∧ touch.mouseMoved = false ∧
          TOUCH_AS_CLICK_MIN_TIME_MS ≤ touch.calcTouchTime now then
        input.sendMousePositionClientCoordinates touch.originX touch.originY rect
      else input
  else input

def calcTouchCenter : List Touch → Option (ℚ × ℚ)
  | [first, second] =>
    some ((first.clientX + second.clientX) / 2, (first.clientY + second.clientY) / 2)
  | _ => none

def scrollBy (input : TouchInput) (movementX movementY : ℚ) : TouchInput :=
  let cappedMovementX := max (-TOUCH_SCROLL_DELTA_CAP) (min TOUCH_SCROLL_DELTA_CAP movementX)
  let cappedMovementY := max (-TOUCH_SCROLL_DELTA_CAP) (min TOUCH_SCROLL_DELTA_CAP movementY)
  let accumulated :=
    if input.config.mouseScrollMode = .highres then
      sendAccumulatedScroll input.config.mouseScrollMode
        (-cappedMovementX * TOUCH_HIGH_RES_SCROLL_MULTIPLIER)
        (cappedMovementY * TOUCH_HIGH_RES_SCROLL_MULTIPLIER) TOUCH_HIGH_RES_SCROLL_QUANTUM
        input.scrollRemainder
    else
      sendAccumulatedScroll input.config.mouseScrollMode
        (-cappedMovementX * TOUCH_SCROLL_MULTIPLIER) (cappedMovementY * TOUCH_SCROLL_MULTIPLIER)
        ⟨1, Nat.one_pos⟩ input.scrollRemainder
  let input := { input with scrollRemainder := accumulated.1 }
  accumulated.2.elim input input.send

def scrollMove (input : TouchInput) (touches : List Touch) : TouchInput :=
  match calcTouchCenter touches with
  | none => input
  | some center =>
    let moved := { input with touchScrollCenter := some center }
    match input.touchScrollCenter with
    | none => moved
    | some before => moved.scrollBy (center.1 - before.1) (center.2 - before.2)

def dragMove (now : ℤ) (rect : DOMRect) (input : TouchInput) (touch : Touch)
    (oldTouch : TrackedTouch) : TouchInput :=
  if oldTouch.mouseClicked then
    input.sendMousePositionClientCoordinates touch.clientX touch.clientY rect
  else if oldTouch.startsDrag now touch then
    -- from where the finger came down, so that the host drags what is there
    let input := input.sendMousePositionClientCoordinates oldTouch.originX oldTouch.originY rect
    let input := input.sendMouseButton true
    let input := input.setTouch touch.identifier { oldTouch with mouseClicked := true, mouseMoved := true }
    input.sendMousePositionClientCoordinates touch.clientX touch.clientY rect
  else
    let input := input.sendMousePositionClientCoordinates touch.clientX touch.clientY rect
    let far := oldTouch.originDistanceSquared touch
    input.setTouch touch.identifier
      { oldTouch with
        dragEligible := oldTouch.dragEligible && !decide
          (oldTouch.calcTouchTime now < TOUCH_DRAG_HOLD_TIME_MS ∧ TOUCH_DRAG_START_DISTANCE ^ 2 ≤ far)
        mouseMoved := oldTouch.mouseMoved || decide (TOUCH_AS_CLICK_MAX_DISTANCE ^ 2 < far) }

def showKeyboard (input : TouchInput) (distanceY : ℚ) : TouchInput :=
  if distanceY < -TOUCHES_AS_KEYBOARD_DISTANCE then
    { input with screenKeyboard := true :: input.screenKeyboard }
  else if TOUCHES_AS_KEYBOARD_DISTANCE < distanceY then
    { input with screenKeyboard := false :: input.screenKeyboard }
  else input

def moveTouch (now : ℤ) (rect : DOMRect) (input : TouchInput) (touch : Touch) : TouchInput :=
  if input.primaryTouch ≠ some touch.identifier then input
  else
    match input.touchTracker.get touch.identifier with
    | none => input
    | some oldTouch =>
      match input.touchMouseAction with
      | .default =>
        if input.config.touchMode = .pointAndDrag then dragMove now rect input touch oldTouch
        else
          input.sendMouseMoveClientCoordinates (touch.clientX - oldTouch.x)
            (touch.clientY - oldTouch.y) rect
      | .screenKeyboard => input.showKeyboard (touch.clientY - oldTouch.originY)
      | .scroll => input

def onTouchMove (input : TouchInput) (now : ℤ) (touches changed : List Touch) (rect : DOMRect) :
    TouchInput :=
  let input :=
    if input.config.touchMode = .touch then input.sendTouches 1 rect changed
    else if input.touchMouseAction = .scroll then input.scrollMove touches
    else changed.foldl (moveTouch now rect) input
  changed.foldl (updateTouchTracker now) input

def endTouch (now : ℤ) (rect : DOMRect) (input : TouchInput) (touch : Touch) : TouchInput :=
  if input.primaryTouch ≠ some touch.identifier then input
  else
    let final (input : TouchInput) : TouchInput :=
      if input.config.touchMode = .pointAndDrag then
        input.sendMousePositionClientCoordinates touch.clientX touch.clientY rect
      else input
    let lifted := { input with primaryTouch := none }
    match input.touchTracker.get touch.identifier with
    | none => lifted
    | some oldTouch =>
      if oldTouch.mouseClicked then
        ((final lifted).sendMouseButton false).setTouch touch.identifier
          { oldTouch with mouseClicked := false }
      else if input.touchMouseAction = .default ∧ input.touchGestureSuppressClick = false ∧
          oldTouch.isClick touch then
        (final lifted).sendLeftClick (decide (TOUCH_AS_CLICK_MAX_TIME_MS < oldTouch.calcTouchTime now))
      else lifted

def forget (input : TouchInput) (touch : Touch) : TouchInput :=
  { input with touchTracker := input.touchTracker.delete touch.identifier }

/-- What is over when fingers were lifted. -/
def settle (input : TouchInput) : TouchInput :=
  let input :=
    if input.touchMouseAction = .scroll ∧ input.touchCount < 2 then
      resetScrollRemainder { input with touchMouseAction := .default, touchScrollCenter := none }
    else input
  if input.touchCount = 0 then { input with touchGestureSuppressClick := false } else input

def onTouchEnd (input : TouchInput) (now : ℤ) (changed : List Touch) (rect : DOMRect) :
    TouchInput :=
  let input :=
    if input.config.touchMode = .touch then input.sendTouches 2 rect changed
    else changed.foldl (endTouch now rect) input
  (changed.foldl forget input).settle

def releaseTouch (input : TouchInput) (entry : ℤ × TrackedTouch) : TouchInput :=
  if entry.2.mouseClicked then
    (input.sendMouseButton false).setTouch entry.1 { entry.2 with mouseClicked := false }
  else input

/-- Lets go of the button for every touch that holds it. -/
def releaseButtons (input : TouchInput) : TouchInput :=
  input.touchTracker.entries.foldl releaseTouch input

def resetTouchState (input : TouchInput) (releaseMouseButton : Bool) : TouchInput :=
  let input := if releaseMouseButton then input.releaseButtons else input
  resetScrollRemainder
    { input with
      touchTracker := .empty
      primaryTouch := none
      touchScrollCenter := none
      touchMouseAction := .default
      touchGestureSuppressClick := false }

def onTouchCancel (input : TouchInput) (changed : List Touch) (rect : DOMRect) : TouchInput :=
  let input :=
    if input.config.touchMode = .touch then input.sendTouches 2 rect changed
    else input.releaseButtons
  input.resetTouchState false

def setConfig (input : TouchInput) (config : TouchConfig) : TouchInput :=
  { input with config, primaryTouch := none, touchTracker := .empty }

end TouchInput

inductive TouchEvent where
  | touchStart (now : ℤ) (changed : TouchList) (rect : DOMRect)
  | touchUpdate (now : ℤ) (rect : DOMRect)
  | touchMove (now : ℤ) (touches changed : TouchList) (rect : DOMRect)
  | touchEnd (now : ℤ) (changed : TouchList) (rect : DOMRect)
  | touchCancel (changed : TouchList) (rect : DOMRect)
  | delayedClick
  | setConfig (config : TouchConfig)
  | streamStart (streamerWidth streamerHeight : ℚ)
  | resetTouchState
  deriving DecidableEq

/-- A timer fires only where one is running. -/
def TouchInput.step (input : TouchInput) : TouchEvent → Option TouchInput
  | .touchStart now changed rect => some (input.onTouchStart now changed.touches rect)
  | .touchUpdate now rect => some (input.onTouchUpdate now rect)
  | .touchMove now touches changed rect =>
    some (input.onTouchMove now touches.touches changed.touches rect)
  | .touchEnd now changed rect => some (input.onTouchEnd now changed.touches rect)
  | .touchCancel changed rect => some (input.onTouchCancel changed.touches rect)
  | .delayedClick =>
    match input.delayedClicks with
    | 0 => none
    | waiting + 1 => some { input.click with delayedClicks := waiting }
  | .setConfig config => some (input.setConfig config)
  | .streamStart streamerWidth streamerHeight => some { input with streamerWidth, streamerHeight }
  | .resetTouchState => some (input.resetTouchState true)

end MoonlightWeb.Client
