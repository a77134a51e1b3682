import MoonlightWeb.Client.TouchButton

/-! Whole runs of touch events: whether every press of the left button is released,
and whether a gesture of several fingers stays without presses. -/
namespace MoonlightWeb.Client
open MoonlightWeb.Machine

namespace TouchInput

/-- A new configuration finds no touch holding the button. -/
def ButtonFree (input : TouchInput) (event : TouchEvent) (_ : TouchInput) : Prop :=
  match event with
  | .setConfig _ => input.holding = false
  | _ => True

theorem step_accounted (gripped : Gripped input) (taken : input.step event = some after) :
    ∃ lost, Accounted input after lost ∧ (lost = 0 ↔ ButtonFree input event after) := by
  cases event with
  | touchStart now changed rect =>
    cases taken
    exact ⟨0, (onTouchStart_claims input now _ rect).accounted gripped, iff_of_true rfl trivial⟩
  | touchUpdate now rect =>
    cases taken
    exact ⟨0, (onTouchUpdate_quiet input now rect).accounted gripped, iff_of_true rfl trivial⟩
  | touchMove now touches changed rect =>
    cases taken
    exact ⟨0, onTouchMove_accounted gripped now _ changed rect, iff_of_true rfl trivial⟩
  | touchEnd now changed rect =>
    cases taken
    refine ⟨0, ?_, iff_of_true rfl trivial⟩
    rcases onTouchEnd_cases gripped now changed rect with
      ⟨-, quiet⟩ | ⟨-, touch, -, pressed, primary, lifts, -⟩
    · exact quiet.accounted gripped
    · exact (lifts.accounted gripped primary).1
  | touchCancel changed rect =>
    cases taken
    exact ⟨0, onTouchCancel_accounted gripped _ rect, iff_of_true rfl trivial⟩
  | delayedClick =>
    simp only [step] at taken
    split at taken
    · cases taken
    · rename_i waiting running
      cases taken
      have clicks := (click_clicks input).accounted gripped
      exact ⟨0, clicks.quiet (quiet_of_same rfl rfl rfl rfl), iff_of_true rfl trivial⟩
  | setConfig config =>
    cases taken
    refine ⟨input.holding.toNat, setConfig_accounted input config, ?_⟩
    cases held : input.holding <;> simp [ButtonFree, held]
  | streamStart width height =>
    cases taken
    have quiet : Quiet input { input with streamerWidth := width, streamerHeight := height } :=
      quiet_of_same rfl rfl rfl rfl
    exact ⟨0, quiet.accounted gripped, iff_of_true rfl trivial⟩
  | resetTouchState =>
    cases taken
    exact ⟨0, resetTouchState_accounted gripped, iff_of_true rfl trivial⟩

/-- A run loses a release exactly where an event of it does. -/
theorem run_accounted {input : TouchInput} (gripped : Gripped input)
    (ran : run step input events = some final) :
    ∃ lost, Accounted input final lost ∧ (lost = 0 ↔ Along step ButtonFree input events) := by
  induction events generalizing input with
  | nil =>
    cases ran
    exact ⟨0, (Quiet.refl _).accounted gripped, iff_of_true rfl trivial⟩
  | cons event rest ih =>
    obtain ⟨middle, taken, ran⟩ := Option.bind_eq_some_iff.mp ran
    obtain ⟨lostFirst, first, freeFirst⟩ := step_accounted gripped taken
    obtain ⟨lostRest, second, freeRest⟩ := ih first.gripped ran
    refine ⟨lostFirst + lostRest, ⟨second.gripped, ?_⟩, ?_⟩
    · have balanceFirst := first.balance
      have balanceRest := second.balance
      omega
    · rw [Nat.add_eq_zero_iff, freeFirst, freeRest]
      constructor
      · rintro ⟨free, along⟩ next same
        rw [taken] at same
        cases same
        exact ⟨free, along⟩
      · intro along
        exact along middle taken

/-- Only the primary touch holds the button at any time, and at rest every press
was released exactly if no configuration came while it did. -/
theorem presses_released_iff (config : TouchConfig) (events : List TouchEvent)
    (ran : run step (new config) events = some final) :
    (∀ identifier, final.clicked identifier = true → final.primaryTouch = some identifier) ∧
      (final.touchTracker = .empty → final.delayedClicks = 0 →
        (presses final.sent = releases final.sent ↔ Along step ButtonFree (new config) events)) := by
  obtain ⟨gripped, idle⟩ := empty_gripped (new config) rfl
  obtain ⟨lost, accounted, free⟩ := run_accounted gripped ran
  refine ⟨accounted.gripped.primary, fun rested _ => ?_⟩
  have balance := accounted.balance
  have none : presses (new config).sent = 0 ∧ releases (new config).sent = 0 := ⟨rfl, rfl⟩
  rw [idle, none.1, none.2, (empty_gripped final rested).2] at balance
  rw [← free]
  simp only [Bool.toNat_false] at balance
  omega

section Drag

def touchAt (identifier : ℤ) (clientX clientY : ℚ) : Touch := ⟨identifier, clientX, clientY, 0, 0, 0, 0⟩

def only (touch : Touch) : TouchList := ⟨[touch], List.nodup_singleton _⟩

def screen : DOMRect := ⟨0, 0, 100, 100⟩

/-- A finger that comes down and starts to drag after half a second. -/
def dragging : List TouchEvent :=
  [.touchStart 0 (only (touchAt 7 10 10)) screen,
    .touchMove 500 (only (touchAt 7 40 10)) (only (touchAt 7 40 10)) screen]

def pointAndDrag : TouchConfig := ⟨.pointAndDrag, .highres⟩

theorem drag_released :
    ∃ final, run step (new pointAndDrag)
        (dragging ++ [.touchEnd 900 (only (touchAt 7 60 20)) screen]) = some final ∧
      (final.touchTracker = .empty → final.delayedClicks = 0 →
        (presses final.sent = releases final.sent ↔ Along step ButtonFree (new pointAndDrag)
          (dragging ++ [.touchEnd 900 (only (touchAt 7 60 20)) screen]))) :=
  ⟨_, rfl, (presses_released_iff pointAndDrag _ rfl).2⟩

/-- A new configuration during a drag: the button stays down. -/
theorem drag_stuck :
    ∃ final, run step (new pointAndDrag) (dragging ++ [.setConfig pointAndDrag]) = some final ∧
      final.touchTracker = .empty ∧ final.delayedClicks = 0 ∧
      presses final.sent ≠ releases final.sent := by
  refine ⟨_, rfl, rfl, ?_, ?_⟩
  · decide +kernel
  · decide +kernel

end Drag

/-- The branches of the handlers that press the left button. -/
def PressDue (input : TouchInput) : TouchEvent → Prop
  | .touchMove now _ changed _ => ∃ touch ∈ changed.touches, input.DragDue now touch
  | .touchEnd _ changed _ =>
    input.config.touchMode ≠ .touch ∧ ∃ touch ∈ changed.touches, input.ClickDue touch
  | .delayedClick => True
  | _ => False

theorem presses_kept_iff (gripped : Gripped input) (taken : input.step event = some after) :
    presses after.sent = presses input.sent ↔ ¬ input.PressDue event := by
  cases event with
  | touchStart now changed rect =>
    cases taken
    exact iff_of_true (onTouchStart_claims input now _ rect).presses id
  | touchUpdate now rect =>
    cases taken
    exact iff_of_true (onTouchUpdate_quiet input now rect).presses id
  | touchMove now touches changed rect =>
    cases taken
    rcases onTouchMove_cases input now touches.touches changed rect with
      ⟨early, quiet⟩ | ⟨touch, member, due, grasps⟩
    · refine iff_of_true quiet.presses ?_
      rintro ⟨touch, member, due⟩
      exact early touch member due
    · refine iff_of_false ?_ (not_not.mpr ⟨touch, member, due⟩)
      rw [grasps.presses]
      omega
  | touchEnd now changed rect =>
    cases taken
    rcases onTouchEnd_cases gripped now changed rect with
      ⟨early, quiet⟩ | ⟨mode, touch, member, pressed, primary, lifts, due⟩
    · refine iff_of_true quiet.presses ?_
      rintro ⟨mode, touch, member, due⟩
      exact early mode touch member due
    · have same (other : Touch) (otherMember : other ∈ changed.touches)
          (otherDue : input.ClickDue other) : other = touch := by
        have identifier := Option.some.inj (otherDue.2.2.1.symm.trans primary)
        exact List.inj_on_of_nodup_map changed.distinct otherMember member identifier
      rw [lifts.presses, Nat.add_eq_left, due]
      apply not_congr
      constructor
      · exact fun due => ⟨mode, touch, member, due⟩
      · rintro ⟨-, other, otherMember, otherDue⟩
        exact same other otherMember otherDue ▸ otherDue
  | touchCancel changed rect =>
    cases taken
    refine iff_of_true ?_ id
    unfold onTouchCancel
    dsimp only
    split
    · exact (sendTouches_quiet 2 rect input _).presses
    · exact (releaseButtons_sent gripped).1
  | delayedClick =>
    simp only [step] at taken
    split at taken
    · cases taken
    · cases taken
      refine iff_of_false ?_ (not_not.mpr trivial)
      have pressed := (click_clicks input).presses
      dsimp only at pressed ⊢
      omega
  | setConfig config =>
    cases taken
    exact iff_of_true rfl id
  | streamStart width height =>
    cases taken
    exact iff_of_true rfl id
  | resetTouchState =>
    cases taken
    exact iff_of_true (releaseButtons_sent gripped).1 id

end TouchInput

/-- A page with the fingers on its screen, and whether their gesture has been one of
several fingers without a drag. -/
structure Gesture where
  input : TouchInput
  fingers : List ℤ
  consumed : Bool
  deriving DecidableEq

namespace Gesture

def new (mouseScrollMode : MouseScrollMode) : Gesture :=
  ⟨.new ⟨.pointAndDrag, mouseScrollMode⟩, [], false⟩

def fingersAfter (fingers : List ℤ) : TouchEvent → List ℤ
  | .touchStart _ changed _ => changed.touches.map Touch.identifier ++ fingers
  | .touchEnd _ changed _ | .touchCancel changed _ =>
    fingers.filter fun finger => finger ∉ changed.touches.map Touch.identifier
  | _ => fingers

/-- Touch events and timers, until all fingers are lifted. -/
def step (gesture : Gesture) (event : TouchEvent) : Option Gesture :=
  match event with
  | .setConfig _ | .resetTouchState => none
  | _ =>
    (gesture.input.step event).map fun input =>
      let fingers := fingersAfter gesture.fingers event
      { input, fingers
        consumed := !fingers.isEmpty &&
          (gesture.consumed || (decide (2 ≤ input.touchCount) && !input.holding)) }

/-- A gesture of several fingers does not press the left button. -/
def PressFree (gesture : Gesture) (_ : TouchEvent) (after : Gesture) : Prop :=
  gesture.consumed = true → presses after.input.sent = presses gesture.input.sent

/-- None of the branches that press the button is taken in such a gesture. -/
def NoPressDue (gesture : Gesture) (event : TouchEvent) (_ : Gesture) : Prop :=
  gesture.consumed = true → ¬ gesture.input.PressDue event

theorem step_input {gesture : Gesture} (taken : gesture.step event = some after) :
    gesture.input.step event = some after.input := by
  unfold step at taken
  split at taken
  · cases taken
  · cases taken
  · obtain ⟨input, stepped, rfl⟩ := Option.map_eq_some_iff.mp taken
    exact stepped

end Gesture

end MoonlightWeb.Client
