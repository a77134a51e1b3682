import Mathlib.Data.List.Basic
import Mathlib.Tactic.Common

/-! Parsers that are fed a stream piece by piece. A step takes something from the
front of what is buffered, or waits for more. If more input never changes what a
step takes, neither does the way the stream is cut into pieces. -/
namespace MoonlightWeb.Incremental

variable {α β : Type*}

/-- What a step reads from the front of the buffer, and what it leaves. -/
abbrev Parser (α β : Type*) := List α → Option (List β × List α)

structure Steady (parser : Parser α β) : Prop where
  shorter : ∀ buffer items rest, parser buffer = some (items, rest) → rest.length < buffer.length
  stable : ∀ buffer items rest, parser buffer = some (items, rest) →
    ∀ more, parser (buffer ++ more) = some (items, rest ++ more)

/-- Everything that can be read from a buffer, and what then waits in it. -/
inductive Drains (parser : Parser α β) : List α → List β → List α → Prop where
  | waits (short : parser buffer = none) : Drains parser buffer [] buffer
  | step (taken : parser buffer = some (items, rest)) (later : Drains parser rest others left) :
      Drains parser buffer (items ++ others) left

variable {parser : Parser α β}

theorem Drains.unique (first : Drains parser buffer items left)
    (second : Drains parser buffer otherItems otherLeft) :
    items = otherItems ∧ left = otherLeft := by
  induction first generalizing otherItems otherLeft with
  | waits short =>
    cases second with
    | waits _ => exact ⟨rfl, rfl⟩
    | step taken later =>
      rw [short] at taken
      cases taken
  | step taken later ih =>
    cases second with
    | waits short =>
      rw [short] at taken
      cases taken
    | step otherTaken otherLater =>
      rw [taken] at otherTaken
      cases otherTaken
      obtain ⟨same, sameLeft⟩ := ih otherLater
      exact ⟨by rw [same], sameLeft⟩

theorem Drains.left_waits (drains : Drains parser buffer items left) : parser left = none := by
  induction drains with
  | waits short => exact short
  | step taken later ih => exact ih

/-- What is read of the first part stays read when the second part arrives. -/
theorem Drains.append (steady : Steady parser) (first : Drains parser buffer items left)
    (second : Drains parser (left ++ more) others final) :
    Drains parser (buffer ++ more) (items ++ others) final := by
  induction first with
  | waits short => exact second
  | step taken rest ih =>
    rw [List.append_assoc]
    exact .step (steady.stable _ _ _ taken more) (ih second)

/-- A machine that drains its buffer whenever a chunk arrives. -/
def feed (push : List α → List α → List β × List α) : List α → List (List α) → List β × List α
  | buffer, [] => ([], buffer)
  | buffer, chunk :: rest =>
    let pushed := push buffer chunk
    let fed := feed push pushed.2 rest
    (pushed.1 ++ fed.1, fed.2)

/-- However the stream arrives in chunks, it is drained as a whole. -/
theorem feed_drains (steady : Steady parser) {push : List α → List α → List β × List α}
    (drains : ∀ buffer chunk,
      Drains parser (buffer ++ chunk) (push buffer chunk).1 (push buffer chunk).2)
    (chunks : List (List α)) (waiting : parser buffer = none) :
    Drains parser (buffer ++ chunks.flatten) (feed push buffer chunks).1
      (feed push buffer chunks).2 := by
  induction chunks generalizing buffer with
  | nil =>
    rw [List.flatten_nil, List.append_nil]
    exact .waits waiting
  | cons chunk rest ih =>
    have pushed := drains buffer chunk
    rw [List.flatten_cons, ← List.append_assoc]
    exact pushed.append steady (ih pushed.left_waits)

end MoonlightWeb.Incremental
