import MoonlightWeb.Lib.HoldBack
import MoonlightWeb.Lib.Framing

/-! The interface between the video decoder and the payloaders of the codecs:
one NAL unit in, the payloads of its RTP packets out. A payloader may keep
parameter sets between calls. -/
namespace MoonlightWeb.Streamer.Video
open MoonlightWeb.HoldBack MoonlightWeb.Framing

inductive RtpError where
  | errBufferTooSmall
  deriving DecidableEq, Repr

/-- The payloads for one unit under the given maximum size, and the payloader
as the call leaves it. -/
class Payloader (σ : Type) where
  payload : Nat → σ → List UInt8 → Except RtpError (List (List UInt8)) × σ

/-- The payloads of one call; a failed call has none. -/
def emitted [Payloader σ] (mtu : Nat) (payloader : σ) (unit : List UInt8) :
    List (List UInt8) × σ :=
  match Payloader.payload mtu payloader unit with
  | (.ok payloads, next) => (payloads, next)
  | (.error _, next) => ([], next)

/-- A fact about all bytes follows from the 256 cases. -/
theorem every_byte {P : UInt8 → Prop} (all : ∀ number : Fin 256, P (UInt8.ofNat number))
    (byte : UInt8) : P byte := by
  have held := all ⟨byte.toNat, byte.toNat_lt⟩
  simpa using held

section Refinement

variable [Payloader σ] {received : List UInt8 → Received UInt8} {Valid : List UInt8 → Prop}

/-- The units a receiver gets out of the packets, given how it reads one. -/
def depacketize (received : List UInt8 → Received UInt8) (packets : List (List UInt8)) :
    List (List UInt8) :=
  reassemble none (packets.map received)

/-- The packets of one call carry the units a stage gives out for it, and the
payloader is left in the stage's next state. -/
def Carries (received : List UInt8 → Received UInt8) (mtu : Nat)
    (take : σ → List UInt8 → List (List UInt8) × σ) (payloader : σ) (nalu : List UInt8) : Prop :=
  (∀ rest, reassemble none ((emitted mtu payloader nalu).1.map received ++ rest) =
      (take payloader nalu).1 ++ reassemble none rest) ∧
    (emitted mtu payloader nalu).2 = (take payloader nalu).2

/-- What the packets carry call by call, they carry over a stream. -/
theorem carries_stream {take : σ → List UInt8 → List (List UInt8) × σ}
    (carries : ∀ payloader nalu, Valid nalu → Carries received mtu take payloader nalu)
    (valid : ∀ nalu ∈ nals, Valid nalu) (payloader : σ) :
    depacketize received (feed (emitted mtu) payloader nals).1 = (feed take payloader nals).1 ∧
      (feed (emitted mtu) payloader nals).2 = (feed take payloader nals).2 := by
  induction nals generalizing payloader with
  | nil => exact ⟨rfl, rfl⟩
  | cons nalu rest ih =>
    obtain ⟨gave, next⟩ := carries payloader nalu (valid nalu (by simp))
    obtain ⟨later, final⟩ := ih (fun other member => valid other (by simp [member]))
      (take payloader nalu).2
    simp only [depacketize] at later
    simp only [feed_cons, depacketize, List.map_append, gave]
    rw [next, later, final]
    exact ⟨rfl, rfl⟩

/-- A payloader whose calls carry what a stage gives out loses nothing exactly
on the streams on which the stage is orderly. -/
theorem loses_nothing_iff_orderly (stage : Stage σ (List UInt8)) (start : σ)
    (initially : stage.held start = [])
    (carries : ∀ payloader nalu, Valid nalu → Carries received mtu stage.take payloader nalu)
    (valid : ∀ nalu ∈ nals, Valid nalu) :
    LosesNothing stage.toRoles
        (fun nals => depacketize received (feed (emitted mtu) start nals).1)
        (fun nals => stage.held (feed (emitted mtu) start nals).2) nals ↔
      stage.Orderly start nals := by
  have same (other : List (List UInt8)) (inside : ∀ nalu ∈ other, nalu ∈ nals) :=
    carries_stream carries (fun nalu member => valid nalu (inside nalu member)) start
  refine Iff.trans ⟨fun held => ?_, fun held => ?_⟩ (Stage.loses_nothing_iff initially)
  · refine held.of_agree fun other inside => ?_
    obtain ⟨gave, final⟩ := same other inside
    exact ⟨gave.symm, by rw [final]⟩
  · refine held.of_agree fun other inside => ?_
    obtain ⟨gave, final⟩ := same other inside
    exact ⟨gave, by rw [final]⟩

end Refinement

end MoonlightWeb.Streamer.Video
