import MoonlightWeb.Client.Touch
import MoonlightWeb.Lib.Machine

/-! The left button under a touch gesture. Only the primary touch can hold it, and
most of what the handlers do neither presses nor releases it nor moves it to
another touch. -/
namespace MoonlightWeb.Client
open MoonlightWeb.Machine

def presses (sent : List SendOperation) : Nat := sent.count (.mouseButton true LEFT)

def releases (sent : List SendOperation) : Nat := sent.count (.mouseButton false LEFT)

namespace TouchInput

def clicked (input : TouchInput) (identifier : ℤ) : Bool :=
  (input.touchTracker.get identifier).any TrackedTouch.mouseClicked

/-- The primary touch is marked as holding the button. -/
def holding (input : TouchInput) : Bool := input.primaryTouch.any input.clicked

/-- Nothing happened to the button. -/
structure Quiet (before after : TouchInput) : Prop where
  presses : presses after.sent = presses before.sent
  releases : releases after.sent = releases before.sent
  primary : after.primaryTouch = before.primaryTouch
  clicked : ∀ identifier, after.clicked identifier = before.clicked identifier
  mode : after.config.touchMode = before.config.touchMode

theorem Quiet.refl (input : TouchInput) : Quiet input input := ⟨rfl, rfl, rfl, fun _ => rfl, rfl⟩

theorem Quiet.trans (first : Quiet before middle) (second : Quiet middle after) :
    Quiet before after where
  presses := second.presses.trans first.presses
  releases := second.releases.trans first.releases
  primary := second.primary.trans first.primary
  clicked identifier := (second.clicked identifier).trans (first.clicked identifier)
  mode := second.mode.trans first.mode

/-- The other fields say nothing about the button. -/
theorem quiet_of_same {before after : TouchInput} (sent : after.sent = before.sent)
    (primary : after.primaryTouch = before.primaryTouch)
    (tracker : after.touchTracker = before.touchTracker) (config : after.config = before.config) :
    Quiet before after where
  presses := by rw [sent]
  releases := by rw [sent]
  primary := primary
  clicked _ := by rw [clicked, tracker, clicked]
  mode := by rw [config]

theorem quiet_foldl {act : TouchInput → Touch → TouchInput}
    (quiet : ∀ input touch, Quiet input (act input touch)) (touches : List Touch)
    (input : TouchInput) : Quiet input (touches.foldl act input) := by
  induction touches generalizing input with
  | nil => exact .refl input
  | cons touch rest ih => exact (quiet input touch).trans (ih _)

theorem send_quiet (input : TouchInput) (other : ∀ isDown, operation ≠ .mouseButton isDown LEFT) :
    Quiet input (input.send operation) where
  presses := List.count_cons_of_ne (other true)
  releases := List.count_cons_of_ne (other false)
  primary := rfl
  clicked _ := rfl
  mode := rfl

theorem position_quiet (input : TouchInput) (clientX clientY : ℚ) (rect : DOMRect) :
    Quiet input (input.sendMousePositionClientCoordinates clientX clientY rect) := by
  unfold sendMousePositionClientCoordinates
  split
  · exact .refl input
  · exact send_quiet input fun _ same => by cases same

theorem move_quiet (input : TouchInput) (movementX movementY : ℚ) (rect : DOMRect) :
    Quiet input (input.sendMouseMoveClientCoordinates movementX movementY rect) := by
  unfold sendMouseMoveClientCoordinates
  split
  · exact .refl input
  · dsimp only
    have rest (x y : ℚ) : Quiet input { input with mouseRemainderX := x, mouseRemainderY := y } :=
      quiet_of_same rfl rfl rfl rfl
    split
    · exact (rest _ _).trans (send_quiet _ fun _ same => by cases same)
    · exact rest _ _

theorem clicked_setTouch (input : TouchInput) (identifier : ℤ) (touch : TrackedTouch) (probe : ℤ) :
    (input.setTouch identifier touch).clicked probe =
      if probe = identifier then touch.mouseClicked else input.clicked probe := by
  unfold clicked setTouch
  rw [OrderedMap.get_set]
  split <;> rfl

theorem clicked_of_get {input : TouchInput}
    (found : input.touchTracker.get identifier = some touch) :
    input.clicked identifier = touch.mouseClicked := by
  rw [clicked, found, Option.any_some]

theorem setTouch_quiet {input : TouchInput} (identifier : ℤ) (touch : TrackedTouch)
    (same : touch.mouseClicked = input.clicked identifier) :
    Quiet input (input.setTouch identifier touch) := by
  refine ⟨rfl, rfl, rfl, fun probe => ?_, rfl⟩
  rw [clicked_setTouch]
  split
  · rename_i equal
    rw [equal, same]
  · rfl

theorem update_quiet (now : ℤ) (input : TouchInput) (touch : Touch) :
    Quiet input (updateTouchTracker now input touch) := by
  unfold updateTouchTracker
  split
  · rename_i fresh
    refine setTouch_quiet _ _ ?_
    rw [clicked, fresh]
    rfl
  · rename_i oldTouch found
    exact setTouch_quiet _ _ (clicked_of_get found).symm

theorem sendTouches_quiet (type : Nat) (rect : DOMRect) (input : TouchInput) (changed : List Touch) :
    Quiet input (input.sendTouches type rect changed) :=
  quiet_foldl (fun input touch => send_quiet input fun _ same => by cases same) changed input

theorem beginScroll_quiet (rect : DOMRect) (input : TouchInput) (primary : ℤ) :
    Quiet input (input.beginScroll rect primary) := by
  unfold beginScroll
  split
  · exact .refl input
  · rename_i primaryTouch found
    split
    · exact .refl input
    · dsimp only
      split
      · refine .trans (.trans ?_ (setTouch_quiet primary _ ?_)) (position_quiet _ _ _ _)
        · exact quiet_of_same rfl rfl rfl rfl
        · exact (clicked_of_get found).symm
      · exact quiet_of_same rfl rfl rfl rfl

theorem chooseAction_quiet (rect : DOMRect) (input : TouchInput) :
    Quiet input (input.chooseAction rect) := by
  unfold chooseAction
  split
  · exact beginScroll_quiet rect input _
  · split
    · exact quiet_of_same rfl rfl rfl rfl
    · exact .refl input

theorem onTouchUpdate_quiet (input : TouchInput) (now : ℤ) (rect : DOMRect) :
    Quiet input (input.onTouchUpdate now rect) := by
  unfold onTouchUpdate
  split
  · split
    · exact .refl input
    · split
      · exact position_quiet input _ _ rect
      · exact .refl input
  · exact .refl input

theorem sendAccumulatedScroll_message (mode : MouseScrollMode) (deltaX deltaY : ℚ) (quantum : ℕ+)
    (kept : ScrollRemainder) (sends : (sendAccumulatedScroll mode deltaX deltaY quantum kept).2 =
      some operation) (isDown : Bool) : operation ≠ .mouseButton isDown LEFT := by
  unfold sendAccumulatedScroll at sends
  dsimp only at sends
  split at sends
  · cases sends
  · split at sends
    · cases sends
      simp
    · cases sends
      simp

theorem scrollBy_quiet (input : TouchInput) (movementX movementY : ℚ) :
    Quiet input (input.scrollBy movementX movementY) := by
  unfold scrollBy
  extract_lets cappedMovementX cappedMovementY accumulated moved
  have same : Quiet input moved := quiet_of_same rfl rfl rfl rfl
  cases sends : accumulated.2 with
  | none => exact same
  | some operation =>
    refine same.trans (send_quiet _ fun isDown => ?_)
    dsimp only [accumulated] at sends
    split at sends
    · exact sendAccumulatedScroll_message _ _ _ _ _ sends isDown
    · exact sendAccumulatedScroll_message _ _ _ _ _ sends isDown

theorem scrollMove_quiet (input : TouchInput) (touches : List Touch) :
    Quiet input (input.scrollMove touches) := by
  unfold scrollMove
  split
  · exact .refl input
  · dsimp only
    split
    · exact quiet_of_same rfl rfl rfl rfl
    · refine .trans ?_ (scrollBy_quiet _ _ _)
      exact quiet_of_same rfl rfl rfl rfl

theorem showKeyboard_quiet (input : TouchInput) (distanceY : ℚ) :
    Quiet input (input.showKeyboard distanceY) := by
  unfold showKeyboard
  split
  · exact quiet_of_same rfl rfl rfl rfl
  · split
    · exact quiet_of_same rfl rfl rfl rfl
    · exact .refl input

/-- Lifting a finger that does not hold the button. -/
theorem forget_quiet {input : TouchInput} (free : input.clicked touch.identifier = false) :
    Quiet input (input.forget touch) := by
  refine ⟨rfl, rfl, rfl, fun probe => ?_, rfl⟩
  unfold clicked forget
  rw [OrderedMap.get_delete]
  split
  · rename_i same
    rw [same, ← clicked, free]
    rfl
  · rfl

theorem settle_quiet (input : TouchInput) : Quiet input input.settle := by
  have first : Quiet input (if input.touchMouseAction = .scroll ∧ input.touchCount < 2 then
      resetScrollRemainder { input with touchMouseAction := .default, touchScrollCenter := none }
      else input) := by
    split
    · exact quiet_of_same rfl rfl rfl rfl
    · exact .refl input
  have last (middle : TouchInput) : Quiet middle (if middle.touchCount = 0 then
      { middle with touchGestureSuppressClick := false } else middle) := by
    split
    · exact quiet_of_same rfl rfl rfl rfl
    · exact .refl middle
  exact first.trans (last _)

section Primary
variable {act : TouchInput → Touch → TouchInput} {touches : List Touch}

private theorem foldl_others
    (idle : ∀ input touch, input.primaryTouch ≠ some touch.identifier → act input touch = input)
    {input : TouchInput} (others : ∀ touch ∈ touches, input.primaryTouch ≠ some touch.identifier) :
    touches.foldl act input = input := by
  induction touches with
  | nil => rfl
  | cons touch rest ih =>
    rw [List.foldl_cons, idle input touch (others touch (by simp))]
    exact ih fun other member => others other (by simp [member])

/-- A handler that only acts on the primary touch, and makes no other one primary,
acts at most once in an event. -/
theorem foldl_primary
    (idle : ∀ input touch, input.primaryTouch ≠ some touch.identifier → act input touch = input)
    (keeps : ∀ input touch, (act input touch).primaryTouch = input.primaryTouch ∨
      (act input touch).primaryTouch = none)
    (distinct : (touches.map Touch.identifier).Nodup) (input : TouchInput) :
    (∀ touch ∈ touches, input.primaryTouch ≠ some touch.identifier) ∧
        touches.foldl act input = input ∨
      ∃ touch ∈ touches, input.primaryTouch = some touch.identifier ∧
        touches.foldl act input = act input touch := by
  induction touches with
  | nil => exact .inl ⟨by simp, rfl⟩
  | cons touch rest ih =>
    rw [List.map_cons, List.nodup_cons] at distinct
    by_cases primary : input.primaryTouch = some touch.identifier
    · refine .inr ⟨touch, by simp, primary, ?_⟩
      rw [List.foldl_cons]
      refine foldl_others idle fun other member same => ?_
      rcases keeps input touch with kept | gone
      · rw [kept, primary] at same
        exact distinct.1 (Option.some.inj same ▸ List.mem_map_of_mem member)
      · rw [gone] at same
        cases same
    · rw [List.foldl_cons, idle input touch primary]
      rcases ih distinct.2 with ⟨others, unchanged⟩ | ⟨other, member, isPrimary, acted⟩
      · refine .inl ⟨fun other member => ?_, unchanged⟩
        rcases List.mem_cons.mp member with rfl | inRest
        · exact primary
        · exact others other inRest
      · exact .inr ⟨other, by simp [member], isPrimary, acted⟩

end Primary

/-- The primary touch begins a drag with this move. -/
def DragDue (input : TouchInput) (now : ℤ) (touch : Touch) : Prop :=
  input.config.touchMode = .pointAndDrag ∧ input.touchMouseAction = .default ∧
    input.primaryTouch = some touch.identifier ∧
    ∃ oldTouch, input.touchTracker.get touch.identifier = some oldTouch ∧
      oldTouch.mouseClicked = false ∧ oldTouch.startsDrag now touch

/-- The button goes down for a touch. -/
structure Grasps (before : TouchInput) (identifier : ℤ) (after : TouchInput) : Prop where
  presses : presses after.sent = presses before.sent + 1
  releases : releases after.sent = releases before.sent
  primary : after.primaryTouch = before.primaryTouch
  clicked : ∀ probe, after.clicked probe = (decide (probe = identifier) || before.clicked probe)
  mode : after.config.touchMode = before.config.touchMode

theorem Quiet.grasps (first : Quiet before middle) (second : Grasps middle identifier after) :
    Grasps before identifier after where
  presses := by rw [second.presses, first.presses]
  releases := second.releases.trans first.releases
  primary := second.primary.trans first.primary
  clicked probe := by rw [second.clicked, first.clicked]
  mode := second.mode.trans first.mode

theorem Grasps.quiet (first : Grasps before identifier middle) (second : Quiet middle after) :
    Grasps before identifier after where
  presses := by rw [second.presses, first.presses]
  releases := second.releases.trans first.releases
  primary := second.primary.trans first.primary
  clicked probe := by rw [second.clicked, first.clicked]
  mode := second.mode.trans first.mode

theorem press_grasps (input : TouchInput) (identifier : ℤ) (touch : TrackedTouch)
    (holds : touch.mouseClicked = true) :
    Grasps input identifier ((input.sendMouseButton true).setTouch identifier touch) where
  presses := List.count_cons_self
  releases := List.count_cons_of_ne (by simp)
  primary := rfl
  clicked probe := by
    rw [clicked_setTouch, holds]
    by_cases same : probe = identifier
    · simp [same]
    · simp only [same, if_false, decide_false, Bool.false_or]
      rfl
  mode := rfl

theorem dragMove_quiet (now : ℤ) (rect : DOMRect) (input : TouchInput) (touch : Touch)
    (found : input.touchTracker.get touch.identifier = some oldTouch)
    (early : oldTouch.mouseClicked = true ∨ ¬ oldTouch.startsDrag now touch) :
    Quiet input (dragMove now rect input touch oldTouch) := by
  unfold dragMove
  split
  · exact position_quiet input _ _ rect
  · rename_i free
    rw [if_neg (early.resolve_left free)]
    have positioned := position_quiet input touch.clientX touch.clientY rect
    refine positioned.trans (setTouch_quiet _ _ ?_)
    rw [positioned.clicked, clicked_of_get found]

theorem dragMove_grasps (now : ℤ) (rect : DOMRect) (input : TouchInput) (touch : Touch)
    (free : oldTouch.mouseClicked = false) (due : oldTouch.startsDrag now touch) :
    Grasps input touch.identifier (dragMove now rect input touch oldTouch) := by
  unfold dragMove
  rw [if_neg (by simp [free]), if_pos due]
  exact ((position_quiet input _ _ rect).grasps (press_grasps _ _ _ rfl)).quiet
    (position_quiet _ _ _ rect)

theorem moveTouch_idle (now : ℤ) (rect : DOMRect) (input : TouchInput) (touch : Touch)
    (other : input.primaryTouch ≠ some touch.identifier) : moveTouch now rect input touch = input :=
  if_pos other

theorem moveTouch_quiet (now : ℤ) (rect : DOMRect) (input : TouchInput) (touch : Touch)
    (early : ¬ input.DragDue now touch) : Quiet input (moveTouch now rect input touch) := by
  by_cases primary : input.primaryTouch = some touch.identifier
  · rw [moveTouch, if_neg (not_not.mpr primary)]
    split
    · exact .refl input
    · rename_i oldTouch found
      split
      · rename_i action
        split
        · rename_i mode
          refine dragMove_quiet now rect input touch found ?_
          by_contra both
          rw [not_or, Bool.not_eq_true, not_not] at both
          exact early ⟨mode, action, primary, oldTouch, found, both⟩
        · exact move_quiet input _ _ rect
      · exact showKeyboard_quiet input _
      · exact .refl input
  · rw [moveTouch_idle now rect input touch primary]
    exact .refl input

theorem moveTouch_grasps (now : ℤ) (rect : DOMRect) (input : TouchInput) (touch : Touch)
    (due : input.DragDue now touch) :
    Grasps input touch.identifier (moveTouch now rect input touch) := by
  obtain ⟨mode, action, primary, oldTouch, found, free, starts⟩ := due
  rw [moveTouch, if_neg (not_not.mpr primary), found, action]
  simp only [mode, if_true]
  exact dragMove_grasps now rect input touch free starts

theorem moveTouch_primary (now : ℤ) (rect : DOMRect) (input : TouchInput) (touch : Touch) :
    (moveTouch now rect input touch).primaryTouch = input.primaryTouch := by
  by_cases due : input.DragDue now touch
  · exact (moveTouch_grasps now rect input touch due).primary
  · exact (moveTouch_quiet now rect input touch due).primary

/-- A move of fingers is about the button only where the primary one begins a drag. -/
theorem onTouchMove_cases (input : TouchInput) (now : ℤ) (touches : List Touch)
    (changed : TouchList) (rect : DOMRect) :
    (∀ touch ∈ changed.touches, ¬ input.DragDue now touch) ∧
        Quiet input (input.onTouchMove now touches changed.touches rect) ∨
      ∃ touch ∈ changed.touches, input.DragDue now touch ∧
        Grasps input touch.identifier (input.onTouchMove now touches changed.touches rect) := by
  have updates (middle : TouchInput) :
      Quiet middle (changed.touches.foldl (updateTouchTracker now) middle) :=
    quiet_foldl (update_quiet now) changed.touches middle
  unfold onTouchMove
  dsimp only
  by_cases direct : input.config.touchMode = .touch
  · rw [if_pos direct]
    refine .inl ⟨fun touch _ due => ?_, (sendTouches_quiet _ _ _ _).trans (updates _)⟩
    have mode := due.1
    rw [direct] at mode
    cases mode
  rw [if_neg direct]
  by_cases scrolls : input.touchMouseAction = .scroll
  · rw [if_pos scrolls]
    refine .inl ⟨fun touch _ due => ?_, (scrollMove_quiet _ _).trans (updates _)⟩
    have action := due.2.1
    rw [scrolls] at action
    cases action
  rw [if_neg scrolls]
  rcases foldl_primary (moveTouch_idle now rect)
      (fun input touch => .inl (moveTouch_primary now rect input touch)) changed.distinct input with
    ⟨others, same⟩ | ⟨touch, member, primary, acted⟩
  · rw [same]
    exact .inl ⟨fun touch member due => others touch member due.2.2.1, updates input⟩
  · rw [acted]
    by_cases due : input.DragDue now touch
    · exact .inr ⟨touch, member, due, (moveTouch_grasps now rect input touch due).quiet (updates _)⟩
    · refine .inl ⟨fun other otherMember otherDue => due ?_,
        (moveTouch_quiet now rect input touch due).trans (updates _)⟩
      have same : other.identifier = touch.identifier := Option.some.inj (otherDue.2.2.1.symm.trans primary)
      have equal : other = touch := List.inj_on_of_nodup_map changed.distinct otherMember member same
      exact equal ▸ otherDue

/-- Lifting the primary touch clicks. -/
def ClickDue (input : TouchInput) (touch : Touch) : Prop :=
  input.touchMouseAction = .default ∧ input.touchGestureSuppressClick = false ∧
    input.primaryTouch = some touch.identifier ∧
    ∃ oldTouch, input.touchTracker.get touch.identifier = some oldTouch ∧
      oldTouch.mouseClicked = false ∧ oldTouch.isClick touch

/-- The primary touch is lifted, with so many presses; what it held is released. -/
structure Lifts (before : TouchInput) (identifier : ℤ) (pressed : Nat) (after : TouchInput) :
    Prop where
  presses : presses after.sent = presses before.sent + pressed
  releases : releases after.sent =
    releases before.sent + pressed + (before.clicked identifier).toNat
  primary : after.primaryTouch = none
  clicked : ∀ probe, after.clicked probe = (before.clicked probe && !decide (probe = identifier))
  mode : after.config.touchMode = before.config.touchMode

theorem Lifts.quiet (first : Lifts before identifier pressed middle) (second : Quiet middle after) :
    Lifts before identifier pressed after where
  presses := by rw [second.presses, first.presses]
  releases := by rw [second.releases, first.releases]
  primary := second.primary.trans first.primary
  clicked probe := by rw [second.clicked, first.clicked]
  mode := second.mode.trans first.mode

theorem endTouch_idle (now : ℤ) (rect : DOMRect) (input : TouchInput) (touch : Touch)
    (other : input.primaryTouch ≠ some touch.identifier) : endTouch now rect input touch = input :=
  if_pos other

private theorem clicked_not_self {input : TouchInput} (free : input.clicked identifier = false)
    (probe : ℤ) : input.clicked probe = (input.clicked probe && !decide (probe = identifier)) := by
  by_cases same : probe = identifier
  · rw [same, free]
    rfl
  · simp [same]

/-- A click presses and releases, and leaves everything else alone. -/
structure Clicks (before after : TouchInput) : Prop where
  presses : presses after.sent = presses before.sent + 1
  releases : releases after.sent = releases before.sent + 1
  primary : after.primaryTouch = before.primaryTouch
  clicked : ∀ identifier, after.clicked identifier = before.clicked identifier
  mode : after.config.touchMode = before.config.touchMode

theorem click_clicks (input : TouchInput) : Clicks input input.click where
  presses := (List.count_cons_of_ne (by simp)).trans List.count_cons_self
  releases := List.count_cons_self.trans (congrArg (· + 1) (List.count_cons_of_ne (by simp)))
  primary := rfl
  clicked _ := rfl
  mode := rfl

theorem sendLeftClick_clicks (input : TouchInput) (twice : Bool) :
    Clicks input (input.sendLeftClick twice) := by
  have once := click_clicks input
  cases twice with
  | false => exact once
  | true => exact ⟨once.presses, once.releases, once.primary, once.clicked, once.mode⟩

/-- A finger that held nothing is lifted without a click. -/
theorem lifted_lifts {input : TouchInput} (free : input.clicked identifier = false) :
    Lifts input identifier 0 { input with primaryTouch := none } where
  presses := rfl
  releases := by
    rw [free]
    rfl
  primary := rfl
  clicked := clicked_not_self free
  mode := rfl

theorem click_lifts {input : TouchInput} (free : input.clicked identifier = false)
    (placed : Quiet { input with primaryTouch := none } middle) (clicks : Clicks middle after) :
    Lifts input identifier 1 after where
  presses := by rw [clicks.presses, placed.presses]
  releases := by
    rw [clicks.releases, placed.releases, free]
    rfl
  primary := clicks.primary.trans placed.primary
  clicked probe := by
    rw [clicks.clicked, placed.clicked]
    exact clicked_not_self free probe
  mode := clicks.mode.trans placed.mode

theorem release_lifts {input : TouchInput} (held : input.clicked identifier = true)
    (placed : Quiet { input with primaryTouch := none } middle) (free : touch.mouseClicked = false) :
    Lifts input identifier 0 ((middle.sendMouseButton false).setTouch identifier touch) where
  presses := (List.count_cons_of_ne (by simp)).trans placed.presses
  releases := by
    rw [held]
    exact List.count_cons_self.trans (congrArg (· + 1) placed.releases)
  primary := placed.primary
  clicked probe := by
    rw [clicked_setTouch, free]
    by_cases same : probe = identifier
    · simp [same]
    · simp only [same, if_false, decide_false, Bool.not_false, Bool.and_true]
      exact placed.clicked probe
  mode := placed.mode

theorem not_clickDue_of_held {input : TouchInput} (held : input.clicked touch.identifier = true) :
    ¬ input.ClickDue touch := by
  rintro ⟨-, -, -, oldTouch, tracked, free, -⟩
  rw [clicked_of_get tracked, free] at held
  cases held

theorem endTouch_lifts (now : ℤ) (rect : DOMRect) (input : TouchInput) (touch : Touch)
    (primary : input.primaryTouch = some touch.identifier) :
    ∃ pressed, Lifts input touch.identifier pressed (endTouch now rect input touch) ∧
      (pressed = 0 ↔ ¬ input.ClickDue touch) := by
  have final (middle : TouchInput) : Quiet middle (if middle.config.touchMode = .pointAndDrag then
      middle.sendMousePositionClientCoordinates touch.clientX touch.clientY rect else middle) := by
    split
    · exact position_quiet middle _ _ rect
    · exact .refl middle
  have placed := final { input with primaryTouch := none }
  unfold endTouch
  rw [if_neg (not_not.mpr primary)]
  dsimp only
  cases found : input.touchTracker.get touch.identifier with
  | none =>
    have free : input.clicked touch.identifier = false := by
      rw [clicked, found]
      rfl
    refine ⟨0, lifted_lifts free, iff_of_true rfl fun due => ?_⟩
    obtain ⟨oldTouch, tracked, -⟩ := due.2.2.2
    rw [found] at tracked
    cases tracked
  | some oldTouch =>
    have held := clicked_of_get found
    dsimp only
    split
    · rename_i holds
      rw [holds] at held
      exact ⟨0, release_lifts held placed rfl, iff_of_true rfl (not_clickDue_of_held held)⟩
    · rename_i holds
      rw [Bool.not_eq_true] at holds
      rw [holds] at held
      split
      · rename_i due
        refine ⟨1, click_lifts held placed (sendLeftClick_clicks _ _), ?_⟩
        refine iff_of_false (by omega) (not_not.mpr ?_)
        exact ⟨due.1, due.2.1, primary, oldTouch, found, holds, due.2.2⟩
      · rename_i early
        refine ⟨0, lifted_lifts held, iff_of_true rfl fun due => ?_⟩
        obtain ⟨action, allowed, -, other, tracked, -, near⟩ := due
        rw [found] at tracked
        cases tracked
        exact early ⟨action, allowed, near⟩

/-- Only the primary touch of a drag holds the button. -/
structure Gripped (input : TouchInput) : Prop where
  primary : ∀ identifier, input.clicked identifier = true → input.primaryTouch = some identifier
  mode : ∀ identifier, input.clicked identifier = true → input.config.touchMode = .pointAndDrag

theorem gripped_of_free (free : ∀ identifier, clicked input identifier = false) :
    Gripped input where
  primary identifier holds := by
    rw [free] at holds
    cases holds
  mode identifier holds := by
    rw [free] at holds
    cases holds

theorem Gripped.of_same (gripped : Gripped before)
    (clicked : ∀ identifier, after.clicked identifier = before.clicked identifier)
    (primary : ∀ identifier, before.primaryTouch = some identifier →
      after.primaryTouch = some identifier)
    (mode : after.config.touchMode = before.config.touchMode) : Gripped after where
  primary identifier holds := by
    rw [clicked] at holds
    exact primary identifier (gripped.primary identifier holds)
  mode identifier holds := by
    rw [clicked] at holds
    rw [mode]
    exact gripped.mode identifier holds

theorem Gripped.quiet (gripped : Gripped before) (quiet : Quiet before after) : Gripped after :=
  gripped.of_same quiet.clicked (fun _ primary => quiet.primary.trans primary) quiet.mode

/-- In the touch mode the page itself never holds the button. -/
theorem Gripped.free_of_direct (gripped : Gripped input)
    (direct : input.config.touchMode = .touch) (identifier : ℤ) :
    input.clicked identifier = false := by
  by_contra held
  rw [Bool.not_eq_false] at held
  have mode := gripped.mode identifier held
  rw [direct] at mode
  cases mode

theorem Quiet.holding (quiet : Quiet before after) : after.holding = before.holding := by
  have same : after.clicked = before.clicked := funext quiet.clicked
  rw [TouchInput.holding, quiet.primary, same, TouchInput.holding]

theorem Gripped.holding_iff (gripped : Gripped input) :
    input.holding = true ↔ ∃ identifier, input.clicked identifier = true := by
  unfold holding
  constructor
  · intro holds
    cases primary : input.primaryTouch with
    | none => simp [primary] at holds
    | some identifier => exact ⟨identifier, by simpa [primary] using holds⟩
  · rintro ⟨identifier, holds⟩
    rw [gripped.primary identifier holds]
    exact holds

theorem Gripped.not_holding (gripped : Gripped input)
    (free : ∀ identifier, input.clicked identifier = false) : input.holding = false := by
  rw [← Bool.not_eq_true, gripped.holding_iff]
  rintro ⟨identifier, holds⟩
  rw [free] at holds
  cases holds

theorem Gripped.same_holding (gripped : Gripped before) (kept : Gripped after)
    (clicked : ∀ identifier, after.clicked identifier = before.clicked identifier) :
    after.holding = before.holding := by
  rw [Bool.eq_iff_iff, kept.holding_iff, gripped.holding_iff, funext clicked]

/-- An event keeps the button with the primary touch, and every press is released
or held, but for so many that were lost. -/
structure Accounted (before after : TouchInput) (lost : Nat) : Prop where
  gripped : Gripped after
  balance : presses after.sent + releases before.sent + before.holding.toNat =
    presses before.sent + releases after.sent + after.holding.toNat + lost

theorem Quiet.accounted (quiet : Quiet before after) (gripped : Gripped before) :
    Accounted before after 0 where
  gripped := gripped.quiet quiet
  balance := by
    rw [quiet.presses, quiet.releases, quiet.holding]
    omega

theorem Accounted.quiet (first : Accounted before middle lost) (second : Quiet middle after) :
    Accounted before after lost where
  gripped := first.gripped.quiet second
  balance := by
    have balance := first.balance
    rw [second.presses, second.releases, second.holding]
    exact balance

/-- A touch may have become the primary one where there was none. -/
structure Claims (before after : TouchInput) : Prop where
  presses : presses after.sent = presses before.sent
  releases : releases after.sent = releases before.sent
  primary : ∀ identifier, before.primaryTouch = some identifier →
    after.primaryTouch = some identifier
  clicked : ∀ identifier, after.clicked identifier = before.clicked identifier
  mode : after.config.touchMode = before.config.touchMode

theorem Quiet.claims (quiet : Quiet before after) : Claims before after :=
  ⟨quiet.presses, quiet.releases, fun _ primary => quiet.primary.trans primary, quiet.clicked,
    quiet.mode⟩

theorem Claims.trans (first : Claims before middle) (second : Claims middle after) :
    Claims before after where
  presses := second.presses.trans first.presses
  releases := second.releases.trans first.releases
  primary identifier primary := second.primary identifier (first.primary identifier primary)
  clicked identifier := (second.clicked identifier).trans (first.clicked identifier)
  mode := second.mode.trans first.mode

theorem Claims.accounted (claims : Claims before after) (gripped : Gripped before) :
    Accounted before after 0 := by
  have kept : Gripped after := gripped.of_same claims.clicked claims.primary claims.mode
  refine ⟨kept, ?_⟩
  rw [claims.presses, claims.releases, gripped.same_holding kept claims.clicked]
  omega

theorem claimPrimary_claims (rect : DOMRect) (input : TouchInput) (touch : Touch) :
    Claims input (claimPrimary rect input touch) := by
  unfold claimPrimary
  split
  · exact (Quiet.refl input).claims
  · rename_i none
    have claimed : Claims input { input with
        primaryTouch := some touch.identifier, touchMouseAction := .default } := by
      refine ⟨rfl, rfl, fun identifier primary => ?_, fun _ => rfl, rfl⟩
      rw [none] at primary
      cases primary
    dsimp only
    split
    · exact claimed.trans (position_quiet _ _ _ rect).claims
    · exact claimed

theorem onTouchStart_claims (input : TouchInput) (now : ℤ) (changed : List Touch) (rect : DOMRect) :
    Claims input (input.onTouchStart now changed rect) := by
  have fresh : Quiet input (if input.touchCount = 0 then
      { input with touchGestureSuppressClick := false } else input) := by
    split
    · exact quiet_of_same rfl rfl rfl rfl
    · exact .refl input
  have updates (middle : TouchInput) : Quiet middle (changed.foldl (updateTouchTracker now) middle) :=
    quiet_foldl (update_quiet now) changed middle
  have claims (middle : TouchInput) (touches : List Touch) :
      Claims middle (touches.foldl (claimPrimary rect) middle) := by
    induction touches generalizing middle with
    | nil => exact (Quiet.refl middle).claims
    | cons touch rest ih => exact (claimPrimary_claims rect middle touch).trans (ih _)
  have handled (middle : TouchInput) : Claims middle (if middle.config.touchMode = .touch then
      middle.sendTouches 0 rect changed
      else (changed.foldl (claimPrimary rect) middle).chooseAction rect) := by
    split
    · exact (sendTouches_quiet _ _ _ _).claims
    · exact (claims middle changed).trans (chooseAction_quiet rect _).claims
  exact (fresh.trans (updates _)).claims.trans (handled _)

theorem Grasps.accounted (grasps : Grasps before identifier after) (gripped : Gripped before)
    (primary : before.primaryTouch = some identifier) (free : before.clicked identifier = false)
    (mode : before.config.touchMode = .pointAndDrag) : Accounted before after 0 := by
  have kept : Gripped after := by
    constructor
    · intro probe holds
      rw [grasps.primary]
      rw [grasps.clicked, Bool.or_eq_true, decide_eq_true_eq] at holds
      rcases holds with same | held
      · rw [same, primary]
      · exact gripped.primary probe held
    · intro probe _
      rw [grasps.mode, mode]
  have idle : before.holding = false := by
    rw [holding, primary]
    exact free
  have holds : after.holding = true := kept.holding_iff.mpr ⟨identifier, by simp [grasps.clicked]⟩
  refine ⟨kept, ?_⟩
  rw [grasps.presses, grasps.releases, idle, holds]
  simp only [Bool.toNat_true, Bool.toNat_false]
  omega

theorem onTouchMove_accounted (gripped : Gripped input) (now : ℤ) (touches : List Touch)
    (changed : TouchList) (rect : DOMRect) :
    Accounted input (input.onTouchMove now touches changed.touches rect) 0 := by
  rcases onTouchMove_cases input now touches changed rect with ⟨-, quiet⟩ | ⟨touch, -, due, grasps⟩
  · exact quiet.accounted gripped
  · obtain ⟨mode, -, primary, oldTouch, found, free, -⟩ := due
    exact grasps.accounted gripped primary ((clicked_of_get found).trans free) mode

theorem Lifts.accounted (lifts : Lifts before identifier pressed after) (gripped : Gripped before)
    (primary : before.primaryTouch = some identifier) :
    Accounted before after 0 ∧ ∀ probe, after.clicked probe = false := by
  have free (probe : ℤ) : after.clicked probe = false := by
    rw [lifts.clicked]
    by_cases held : before.clicked probe = true
    · have same := gripped.primary probe held
      rw [primary] at same
      cases same
      simp
    · simp [held]
  have kept : Gripped after := gripped_of_free free
  have idle : after.holding = false := kept.not_holding free
  have held : before.holding = before.clicked identifier := by
    rw [holding, primary]
    rfl
  refine ⟨⟨kept, ?_⟩, free⟩
  rw [lifts.presses, lifts.releases, idle, held]
  simp only [Bool.toNat_false]
  omega

theorem forgets_quiet {input : TouchInput} {changed : List Touch}
    (free : ∀ touch ∈ changed, input.clicked touch.identifier = false) :
    Quiet input (changed.foldl forget input) := by
  induction changed generalizing input with
  | nil => exact .refl input
  | cons touch rest ih =>
    have first := forget_quiet (free touch (by simp))
    refine first.trans (ih fun other member => ?_)
    rw [first.clicked]
    exact free other (by simp [member])

/-- The end of touches is about the button only where the primary one is lifted. -/
theorem onTouchEnd_cases (gripped : Gripped input) (now : ℤ) (changed : TouchList) (rect : DOMRect) :
    (input.config.touchMode ≠ .touch → ∀ touch ∈ changed.touches, ¬ input.ClickDue touch) ∧
        Quiet input (input.onTouchEnd now changed.touches rect) ∨
      input.config.touchMode ≠ .touch ∧ ∃ touch ∈ changed.touches, ∃ pressed,
        input.primaryTouch = some touch.identifier ∧
        Lifts input touch.identifier pressed (input.onTouchEnd now changed.touches rect) ∧
        (pressed = 0 ↔ ¬ input.ClickDue touch) := by
  unfold onTouchEnd
  dsimp only
  by_cases direct : input.config.touchMode = .touch
  · have sends := sendTouches_quiet 2 rect input changed.touches
    rw [if_pos direct]
    refine .inl ⟨fun other => absurd direct other, (sends.trans (forgets_quiet ?_)).trans
      (settle_quiet _)⟩
    intro touch _
    rw [sends.clicked]
    exact gripped.free_of_direct direct touch.identifier
  rw [if_neg direct]
  have keeps (middle : TouchInput) (touch : Touch) :
      (endTouch now rect middle touch).primaryTouch = middle.primaryTouch ∨
        (endTouch now rect middle touch).primaryTouch = none := by
    by_cases primary : middle.primaryTouch = some touch.identifier
    · obtain ⟨pressed, lifts, -⟩ := endTouch_lifts now rect middle touch primary
      exact .inr lifts.primary
    · exact .inl (congrArg primaryTouch (endTouch_idle now rect middle touch primary))
  rcases foldl_primary (endTouch_idle now rect) keeps changed.distinct input with
    ⟨others, same⟩ | ⟨touch, member, primary, acted⟩
  · rw [same]
    refine .inl ⟨fun _ touch member due => others touch member due.2.2.1,
      (forgets_quiet fun touch member => ?_).trans (settle_quiet _)⟩
    by_contra held
    rw [Bool.not_eq_false] at held
    exact others touch member (gripped.primary _ held)
  · rw [acted]
    obtain ⟨pressed, lifts, due⟩ := endTouch_lifts now rect input touch primary
    have free := (lifts.accounted gripped primary).2
    exact .inr ⟨direct, touch, member, pressed, primary,
      (lifts.quiet (forgets_quiet fun other _ => free _)).quiet (settle_quiet _), due⟩

theorem releases_each (entries : List (ℤ × TrackedTouch)) (input : TouchInput) :
    presses (entries.foldl releaseTouch input).sent = presses input.sent ∧
      releases (entries.foldl releaseTouch input).sent =
        releases input.sent + entries.countP fun entry => entry.2.mouseClicked := by
  induction entries generalizing input with
  | nil => exact ⟨rfl, rfl⟩
  | cons entry rest ih =>
    obtain ⟨pressed, released⟩ := ih (releaseTouch input entry)
    rw [List.foldl_cons, List.countP_cons]
    by_cases holds : entry.2.mouseClicked = true
    · have pressedSame : presses (releaseTouch input entry).sent = presses input.sent := by
        rw [releaseTouch, if_pos holds]
        exact List.count_cons_of_ne (by simp)
      have once : releases (releaseTouch input entry).sent = releases input.sent + 1 := by
        rw [releaseTouch, if_pos holds]
        exact List.count_cons_self
      refine ⟨pressed.trans pressedSame, ?_⟩
      rw [released, once, if_pos holds]
      omega
    · have same : releaseTouch input entry = input := if_neg holds
      rw [same] at pressed released ⊢
      rw [if_neg holds]
      exact ⟨pressed, released⟩

/-- A gripped page has at most one button to let go of. -/
theorem releaseButtons_sent (gripped : Gripped input) :
    presses input.releaseButtons.sent = presses input.sent ∧
      releases input.releaseButtons.sent = releases input.sent + input.holding.toNat := by
  obtain ⟨pressed, released⟩ := releases_each input.touchTracker.entries input
  refine ⟨pressed, released.trans (congrArg _ ?_)⟩
  have clicked (probe : ℤ) (touch : TrackedTouch)
      (found : input.touchTracker.get probe = some touch) (holds : touch.mouseClicked = true) :
      input.clicked probe = true := (clicked_of_get found).trans holds
  cases primary : input.primaryTouch with
  | none =>
    have idle : input.holding = false := by
      rw [holding, primary]
      rfl
    rw [idle, Bool.toNat_false, List.countP_eq_zero]
    intro entry member holds
    have held := gripped.primary entry.1
      (clicked entry.1 entry.2 (input.touchTracker.mem_entries_iff.mp member) holds)
    rw [primary] at held
    cases held
  | some identifier =>
    have only := input.touchTracker.countP_only TrackedTouch.mouseClicked identifier
      fun probe touch found holds => by
        have held := gripped.primary probe (clicked probe touch found holds)
        rw [primary] at held
        exact (Option.some.inj held).symm
    rw [only, holding, primary]
    rfl

theorem empty_gripped (input : TouchInput) (empty : input.touchTracker = .empty) :
    Gripped input ∧ input.holding = false := by
  have free (identifier : ℤ) : input.clicked identifier = false := by
    rw [clicked, empty]
    rfl
  have gripped : Gripped input := gripped_of_free free
  exact ⟨gripped, gripped.not_holding free⟩

theorem resetTouchState_accounted (gripped : Gripped input) :
    Accounted input (input.resetTouchState true) 0 := by
  obtain ⟨kept, idle⟩ := empty_gripped (input.resetTouchState true) rfl
  obtain ⟨pressed, released⟩ := releaseButtons_sent gripped
  refine ⟨kept, ?_⟩
  have pressedAfter : presses (input.resetTouchState true).sent = presses input.sent := pressed
  have releasedAfter : releases (input.resetTouchState true).sent =
    releases input.sent + input.holding.toNat := released
  rw [pressedAfter, releasedAfter, idle, Bool.toNat_false]
  omega

theorem onTouchCancel_accounted (gripped : Gripped input) (changed : List Touch) (rect : DOMRect) :
    Accounted input (input.onTouchCancel changed rect) 0 := by
  obtain ⟨kept, idle⟩ := empty_gripped (input.onTouchCancel changed rect) rfl
  refine ⟨kept, ?_⟩
  by_cases direct : input.config.touchMode = .touch
  · have sends := sendTouches_quiet 2 rect input changed
    have same : (input.onTouchCancel changed rect).sent = (input.sendTouches 2 rect changed).sent := by
      unfold onTouchCancel
      rw [if_pos direct]
      rfl
    have free : input.holding = false := gripped.not_holding (gripped.free_of_direct direct)
    rw [same, sends.presses, sends.releases, idle, free]
    omega
  · obtain ⟨pressed, released⟩ := releaseButtons_sent gripped
    have same : (input.onTouchCancel changed rect).sent = input.releaseButtons.sent := by
      unfold onTouchCancel
      rw [if_neg direct]
      rfl
    rw [same, pressed, released, idle, Bool.toNat_false]
    omega

theorem setConfig_accounted (input : TouchInput) (config : TouchConfig) :
    Accounted input (input.setConfig config) input.holding.toNat := by
  obtain ⟨kept, idle⟩ := empty_gripped (input.setConfig config) rfl
  refine ⟨kept, ?_⟩
  have same : (input.setConfig config).sent = input.sent := rfl
  rw [same, idle, Bool.toNat_false]
  omega

theorem Clicks.accounted (clicks : Clicks before after) (gripped : Gripped before) :
    Accounted before after 0 := by
  have kept : Gripped after := gripped.of_same clicks.clicked
    (fun _ primary => clicks.primary.trans primary) clicks.mode
  refine ⟨kept, ?_⟩
  rw [clicks.presses, clicks.releases, gripped.same_holding kept clicks.clicked]
  omega

end TouchInput

end MoonlightWeb.Client
