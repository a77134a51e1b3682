import Mathlib.Data.List.TakeWhile
import MoonlightWeb.Lib.Utf8

/-! The receiving end of the pipe between the web server and a streamer: one JSON message
a line, and a loop that passes over the lines that are none. -/
namespace MoonlightWeb.Common
open Utf8

/-- What is still to come through a pipe, and whether a read error or the end of the
file is behind it. -/
structure Pipe where
  bytes : List Byte
  broken : Bool
  deriving DecidableEq

/-- What `next_line` of the reader of lines gives. -/
inductive NextLine where
  | line (text : List Byte)
  | endOfFile
  | invalidData
  | failed
  deriving DecidableEq

namespace Pipe

def newline : Byte := 10

def carriageReturn : Byte := 13

/-- Text that is not UTF-8 is an error of the reader, and is gone. -/
def decoded (raw text : List Byte) : NextLine := if Valid raw then .line text else .invalidData

/-- The last line may lack its line break. -/
def nextLine (pipe : Pipe) : NextLine × Pipe :=
  let raw := pipe.bytes.takeWhile (· ≠ newline)
  match pipe.bytes.dropWhile (· ≠ newline) with
  | _ :: rest =>
    let text := if raw.getLast? = some carriageReturn then raw.dropLast else raw
    (decoded raw text, { pipe with bytes := rest })
  | [] =>
    let finished := { pipe with bytes := [] }
    if pipe.broken then (.failed, finished)
    else if raw = [] then (.endOfFile, finished)
    else (decoded raw raw, finished)

/-- Neither the end of the file nor a read error. -/
def Reads : NextLine → Prop
  | .line _ => True
  | .invalidData => True
  | .endOfFile => False
  | .failed => False

theorem reads_decoded (raw text : List Byte) : Reads (decoded raw text) := by
  rw [decoded]
  split_ifs <;> trivial

/-- The next line of a pipe with a line break. -/
theorem nextLine_terminated (pipe : Pipe)
    (isRest : pipe.bytes.dropWhile (· ≠ newline) = terminator :: rest) :
    ∃ text, pipe.nextLine =
      (decoded (pipe.bytes.takeWhile (· ≠ newline)) text, { pipe with bytes := rest }) := by
  refine ⟨if (pipe.bytes.takeWhile (· ≠ newline)).getLast? = some carriageReturn then
    (pipe.bytes.takeWhile (· ≠ newline)).dropLast else pipe.bytes.takeWhile (· ≠ newline), ?_⟩
  simp only [nextLine, isRest]

/-- Without a line break everything is taken. -/
theorem nextLine_last (pipe : Pipe) (noBreak : pipe.bytes.dropWhile (· ≠ newline) = []) :
    pipe.nextLine =
      (if pipe.broken then .failed else if pipe.bytes = [] then .endOfFile
        else decoded pipe.bytes pipe.bytes, { pipe with bytes := [] }) := by
  have whole : pipe.bytes.takeWhile (· ≠ newline) = pipe.bytes := by
    have parts := List.takeWhile_append_dropWhile (p := (· ≠ newline)) (l := pipe.bytes)
    rwa [noBreak, List.append_nil] at parts
  rw [nextLine]
  simp only [noBreak, whole]
  split_ifs <;> rfl

theorem nextLine_shorter {pipe : Pipe} (read : pipe.nextLine = (next, rest)) (reads : Reads next) :
    rest.bytes.length < pipe.bytes.length := by
  cases isRest : pipe.bytes.dropWhile (· ≠ newline) with
  | cons terminator after =>
    obtain ⟨text, isNext⟩ := nextLine_terminated pipe isRest
    cases isNext.symm.trans read
    have suffix := (List.dropWhile_suffix (p := (· ≠ newline)) (l := pipe.bytes)).length_le
    rw [isRest, List.length_cons] at suffix
    exact suffix
  | nil =>
    have isNext := nextLine_last pipe isRest
    rw [read] at isNext
    cases isNext
    apply List.length_pos_of_ne_nil
    intro empty
    rw [if_pos empty] at reads
    split_ifs at reads <;> exact reads

/-- What the pipe's `next_line` gives up to its end. -/
def readings (pipe : Pipe) : List NextLine :=
  match _ : pipe.nextLine with
  | (.line text, rest) => .line text :: rest.readings
  | (.invalidData, rest) => .invalidData :: rest.readings
  | (.endOfFile, _) => []
  | (.failed, _) => []
termination_by pipe.bytes.length
decreasing_by
  all_goals
    have read := ‹pipe.nextLine = _›
    exact nextLine_shorter read trivial

/-- The lines of the stream. What is behind the last line break is one unless a read
error cuts it off. -/
def lines (pipe : Pipe) : List (List Byte) :=
  if pipe.broken then (pipe.bytes.splitOn newline).dropLast else pipe.bytes.splitOn newline

/-- All lines are text. -/
def AllUtf8 (pipe : Pipe) : Prop := ∀ line ∈ pipe.lines, Valid line

theorem decoded_eq_invalidData_iff (raw text : List Byte) :
    decoded raw text = .invalidData ↔ ¬ Valid raw := by
  rw [decoded]
  split_ifs with valid
  · exact iff_of_false (fun same => by cases same) (not_not.mpr valid)
  · exact iff_of_true rfl valid

theorem lines_terminated {pipe : Pipe}
    (isRest : pipe.bytes.dropWhile (· ≠ newline) = terminator :: rest) :
    pipe.lines = pipe.bytes.takeWhile (· ≠ newline) :: { pipe with bytes := rest }.lines := by
  have isNewline : terminator = newline := by
    have found := List.head?_dropWhile_not (· ≠ newline) pipe.bytes
    rw [isRest] at found
    simpa using found
  have apart : pipe.bytes = pipe.bytes.takeWhile (· ≠ newline) ++ newline :: rest := by
    have parts := List.takeWhile_append_dropWhile (p := (· ≠ newline)) (l := pipe.bytes)
    rw [isRest, isNewline] at parts
    exact parts.symm
  have noBreak : newline ∉ pipe.bytes.takeWhile (· ≠ newline) := fun member => by
    simpa using List.mem_takeWhile_imp member
  have split : pipe.bytes.splitOn newline =
      pipe.bytes.takeWhile (· ≠ newline) :: rest.splitOn newline := by
    conv_lhs => rw [apart]
    rw [List.splitOn_append_cons_self, List.splitOn_eq_singleton noBreak, List.singleton_append]
  rw [lines, lines, split]
  split_ifs
  · exact List.dropLast_cons_of_ne_nil (List.splitOn_ne_nil _ _)
  · rfl

theorem lines_last {pipe : Pipe} (noBreak : pipe.bytes.dropWhile (· ≠ newline) = []) :
    pipe.lines = if pipe.broken then [] else [pipe.bytes] := by
  have absent : newline ∉ pipe.bytes := fun member => by
    simpa using List.dropWhile_eq_nil_iff.mp noBreak newline member
  rw [lines, List.splitOn_eq_singleton absent]
  rfl

theorem allUtf8_of_read {pipe : Pipe} (read : pipe.nextLine = (next, rest)) (reads : Reads next) :
    pipe.AllUtf8 ↔ next ≠ .invalidData ∧ rest.AllUtf8 := by
  cases isRest : pipe.bytes.dropWhile (· ≠ newline) with
  | cons terminator after =>
    obtain ⟨text, isNext⟩ := nextLine_terminated pipe isRest
    cases isNext.symm.trans read
    rw [AllUtf8, lines_terminated isRest, List.forall_mem_cons, Ne, decoded_eq_invalidData_iff,
      not_not]
    rfl
  | nil =>
    have isNext := nextLine_last pipe isRest
    rw [read] at isNext
    obtain ⟨rfl, rfl⟩ := Prod.mk.inj isNext
    have nothing : Valid [] := List.forall_mem_nil _
    rw [AllUtf8, AllUtf8, lines_last isRest, lines_last rfl]
    split_ifs at reads ⊢
    · exact absurd reads id
    · exact absurd reads id
    · rw [List.forall_mem_singleton, List.forall_mem_singleton, Ne, decoded_eq_invalidData_iff,
        not_not]
      exact (and_iff_left nothing).symm

theorem allUtf8_of_end {pipe : Pipe} (read : pipe.nextLine = (next, rest)) (ended : ¬ Reads next) :
    pipe.AllUtf8 := by
  cases isRest : pipe.bytes.dropWhile (· ≠ newline) with
  | cons terminator after =>
    obtain ⟨text, isNext⟩ := nextLine_terminated pipe isRest
    cases isNext.symm.trans read
    exact absurd (reads_decoded _ _) ended
  | nil =>
    have isNext := nextLine_last pipe isRest
    rw [read] at isNext
    obtain ⟨rfl, rfl⟩ := Prod.mk.inj isNext
    rw [AllUtf8, lines_last isRest]
    split_ifs at ended ⊢ with broken empty
    · exact List.forall_mem_nil _
    · rw [empty]
      exact List.forall_mem_singleton.mpr (List.forall_mem_nil _)
    · exact absurd (reads_decoded _ _) ended

end Pipe

/-! ## The receiver -/

/-- `last` is what the reader gave last. -/
structure IpcReceiver where
  errored : Bool
  read : Pipe
  last : Option NextLine

namespace IpcReceiver
open Pipe

variable {Message : Type}

def new (read : Pipe) : IpcReceiver := ⟨false, read, none⟩

/-- The loop of `recv`. `deserialize` is `serde_json::from_str`. -/
def recvLoop (deserialize : List Byte → Option Message) (pipe : Pipe) :
    Option Message × IpcReceiver :=
  match _ : pipe.nextLine with
  | (.line text, rest) =>
    match deserialize text with
    | some message => (some message, ⟨false, rest, some (.line text)⟩)
    | none => recvLoop deserialize rest
  | (.endOfFile, rest) => (none, ⟨false, rest, some .endOfFile⟩)
  | (.invalidData, rest) => (none, ⟨true, rest, some .invalidData⟩)
  | (.failed, rest) => (none, ⟨true, rest, some .failed⟩)
termination_by pipe.bytes.length
decreasing_by
  have read := ‹pipe.nextLine = _›
  exact nextLine_shorter read trivial

def recv (deserialize : List Byte → Option Message) (receiver : IpcReceiver) :
    Option Message × IpcReceiver :=
  if receiver.errored then (none, receiver) else recvLoop deserialize receiver.read

/-- What so many calls return, each with what the reader gave last. -/
def calls (deserialize : List Byte → Option Message) :
    Nat → IpcReceiver → List (Option Message × Option NextLine)
  | 0, _ => []
  | count + 1, receiver =>
    let result := receiver.recv deserialize
    (result.1, result.2.last) :: calls deserialize count result.2

/-- The message a line carries. -/
def message (deserialize : List Byte → Option Message) : NextLine → Option Message
  | .line text => deserialize text
  | .endOfFile => none
  | .invalidData => none
  | .failed => none

/-- The well-formed messages of the stream. -/
def messages (deserialize : List Byte → Option Message) (pipe : Pipe) : List Message :=
  pipe.readings.filterMap (message deserialize)

/-- Every call yields the next message, and none only behind the last, where the file
has ended or cannot be read. -/
structure Serves (deserialize : List Byte → Option Message) (receiver : IpcReceiver) : Prop where
  yields : ∀ count, (receiver.calls deserialize count).map Prod.fst =
    (List.range count).map fun index => (messages deserialize receiver.read)[index]?
  ends : ∀ count, ∀ call ∈ receiver.calls deserialize count, call.1 = none →
    call.2 = some .endOfFile ∨ call.2 = some .failed

/-! ## One reading at a time -/

theorem readings_line (read : Pipe.nextLine pipe = (.line text, rest)) :
    pipe.readings = .line text :: rest.readings := by
  rw [readings]
  split <;> cases read.symm.trans ‹_›
  rfl

theorem readings_invalidData (read : Pipe.nextLine pipe = (.invalidData, rest)) :
    pipe.readings = .invalidData :: rest.readings := by
  rw [readings]
  split <;> cases read.symm.trans ‹_›
  rfl

theorem readings_end (read : Pipe.nextLine pipe = (next, rest)) (ended : ¬ Reads next) :
    pipe.readings = [] := by
  rw [readings]
  split <;> cases read.symm.trans ‹_›
  · exact absurd trivial ended
  · exact absurd trivial ended
  · rfl
  · rfl

variable {deserialize : List Byte → Option Message}

theorem recvLoop_message {found : Message} (read : Pipe.nextLine pipe = (.line text, rest))
    (isMessage : deserialize text = some found) :
    recvLoop deserialize pipe = (some found, ⟨false, rest, some (.line text)⟩) := by
  rw [recvLoop]
  split <;> cases read.symm.trans ‹_›
  rw [isMessage]

/-- A line that is no message is passed over. -/
theorem recvLoop_skip (read : Pipe.nextLine pipe = (.line text, rest))
    (malformed : deserialize text = none) :
    recvLoop deserialize pipe = recvLoop deserialize rest := by
  rw [recvLoop]
  split <;> cases read.symm.trans ‹_›
  rw [malformed]

theorem recvLoop_invalidData (read : Pipe.nextLine pipe = (.invalidData, rest)) :
    recvLoop deserialize pipe = (none, ⟨true, rest, some .invalidData⟩) := by
  rw [recvLoop]
  split <;> cases read.symm.trans ‹_›
  rfl

/-- A pipe at its end stays there. -/
theorem recvLoop_end (deserialize : List Byte → Option Message)
    (read : Pipe.nextLine pipe = (next, rest)) (ended : ¬ Reads next) :
    ∃ receiver, recvLoop deserialize pipe = (none, receiver) ∧
      receiver.recv deserialize = (none, receiver) ∧
      (receiver.last = some .endOfFile ∨ receiver.last = some .failed) := by
  cases next with
  | line text => exact absurd trivial ended
  | invalidData => exact absurd trivial ended
  | endOfFile =>
    have loop (pipe : Pipe) (read : Pipe.nextLine pipe = (.endOfFile, rest)) :
        recvLoop deserialize pipe = (none, ⟨false, rest, some .endOfFile⟩) := by
      rw [recvLoop]
      split <;> cases read.symm.trans ‹_›
      rfl
    have again : rest.nextLine = (.endOfFile, rest) := by
      cases isRest : pipe.bytes.dropWhile (· ≠ newline) with
      | cons terminator after =>
        obtain ⟨text, isNext⟩ := nextLine_terminated pipe isRest
        have reads := reads_decoded (pipe.bytes.takeWhile (· ≠ newline)) text
        rw [isNext] at read
        rw [(Prod.mk.inj read).1] at reads
        exact absurd reads id
      | nil =>
        have isNext := nextLine_last pipe isRest
        rw [read] at isNext
        obtain ⟨isEnd, rfl⟩ := Prod.mk.inj isNext
        have intact : pipe.broken = false := by
          by_contra broken
          rw [if_pos (eq_true_of_ne_false broken)] at isEnd
          cases isEnd
        rw [nextLine_last _ rfl, intact]
        rfl
    exact ⟨_, loop pipe read, loop rest again, .inl rfl⟩
  | failed =>
    refine ⟨⟨true, rest, some .failed⟩, ?_, rfl, .inr rfl⟩
    rw [recvLoop]
    split <;> cases read.symm.trans ‹_›
    rfl

/-- Once a call changes nothing, all further calls are alike. -/
theorem calls_fixed {receiver : IpcReceiver} (fixed : receiver.recv deserialize = (none, receiver))
    (count : Nat) : receiver.calls deserialize count = List.replicate count (none, receiver.last) := by
  induction count with
  | zero => rfl
  | succ count ih => rw [calls, fixed, ih, List.replicate_succ]

/-- Calls on a pipe whose first call is like that of another. -/
theorem calls_congr (same : recvLoop deserialize pipe = recvLoop deserialize other)
    (last also : Option NextLine) (count : Nat) :
    (IpcReceiver.mk false pipe last).calls deserialize count =
      (IpcReceiver.mk false other also).calls deserialize count := by
  cases count with
  | zero => rfl
  | succ count =>
    simp only [calls, recv, same, Bool.false_eq_true, ↓reduceIte]

/-! ## Lines that are not UTF-8 -/

/-- A call that returns a message leaves the others to the next calls. -/
theorem serves_message {found : Message} (read : Pipe.nextLine pipe = (.line text, rest))
    (isMessage : deserialize text = some found) (last : Option NextLine) :
    Serves deserialize ⟨false, pipe, last⟩ ↔
      Serves deserialize ⟨false, rest, some (.line text)⟩ := by
  have first (count : Nat) : (IpcReceiver.mk false pipe last).calls deserialize (count + 1) =
      (some found, some (.line text)) ::
        (IpcReceiver.mk false rest (some (.line text))).calls deserialize count := by
    rw [calls, recv, if_neg Bool.false_ne_true, recvLoop_message read isMessage]
  have isMessages : messages deserialize pipe = found :: messages deserialize rest := by
    have carries : message deserialize (.line text) = some found := isMessage
    rw [messages, readings_line read, List.filterMap_cons_some carries, messages]
  have shifted (count : Nat) :
      (List.range (count + 1)).map (fun index => (messages deserialize pipe)[index]?) =
        some found :: (List.range count).map fun index => (messages deserialize rest)[index]? := by
    rw [isMessages, List.range_succ_eq_map, List.map_cons, List.map_map]
    rfl
  constructor
  · intro served
    refine ⟨fun count => ?_, fun count call member => ?_⟩
    · have yields := served.yields (count + 1)
      rw [first, List.map_cons, shifted] at yields
      exact (List.cons.inj yields).2
    · exact served.ends (count + 1) call (first count ▸ List.mem_cons_of_mem _ member)
  · intro served
    refine ⟨fun count => ?_, fun count call member => ?_⟩
    · cases count with
      | zero => rfl
      | succ count => rw [first, List.map_cons, served.yields, shifted]
    · cases count with
      | zero => exact absurd member List.not_mem_nil
      | succ count =>
        rw [first] at member
        obtain rfl | member := List.mem_cons.mp member
        · exact fun none => by cases none
        · exact served.ends count call member

theorem serves_end (read : Pipe.nextLine pipe = (next, rest)) (ended : ¬ Reads next)
    (last : Option NextLine) : Serves deserialize ⟨false, pipe, last⟩ := by
  obtain ⟨receiver, first, fixed, atEnd⟩ := recvLoop_end deserialize read ended
  have noMessages : messages deserialize pipe = [] := by
    rw [messages, readings_end read ended, List.filterMap_nil]
  have all (count : Nat) : (IpcReceiver.mk false pipe last).calls deserialize count =
      List.replicate count (none, receiver.last) := by
    cases count with
    | zero => rfl
    | succ count =>
      rw [calls, recv, if_neg Bool.false_ne_true, first, calls_fixed fixed, List.replicate_succ]
  constructor
  · intro count
    rw [all, noMessages, List.map_replicate]
    exact (List.map_const' (l := List.range count) (b := none)).symm ▸ by
      rw [List.length_range]
  · intro count call member _
    rw [all] at member
    rw [List.eq_of_mem_replicate member]
    exact atEnd

/-- The same call on a pipe without the line in front. -/
theorem serves_skip (read : Pipe.nextLine pipe = (.line text, rest))
    (malformed : deserialize text = none) (last also : Option NextLine) :
    Serves deserialize ⟨false, pipe, last⟩ ↔ Serves deserialize ⟨false, rest, also⟩ := by
  have same := calls_congr (recvLoop_skip read malformed) last also
  have sameMessages : messages deserialize pipe = messages deserialize rest := by
    have carries : message deserialize (.line text) = none := malformed
    rw [messages, readings_line read, List.filterMap_cons_none carries, messages]
  constructor
  · intro served
    exact ⟨fun count => by rw [← same, served.yields, sameMessages],
      fun count => same count ▸ served.ends count⟩
  · intro served
    exact ⟨fun count => by rw [same, served.yields, sameMessages],
      fun count => (same count).symm ▸ served.ends count⟩

theorem serves_iff_decoded (pipe : Pipe) (last : Option NextLine) :
    Serves deserialize ⟨false, pipe, last⟩ ↔ .invalidData ∉ pipe.readings := by
  induction pipe using readings.induct generalizing last with
  | case1 pipe text rest read ih =>
    have isReadings : .invalidData ∉ pipe.readings ↔ .invalidData ∉ rest.readings := by
      rw [readings_line read, List.mem_cons, not_or]
      exact and_iff_right fun same => by cases same
    rw [isReadings]
    cases isMessage : deserialize text with
    | some found => rw [serves_message read isMessage, ih]
    | none => rw [serves_skip read isMessage last none, ih]
  | case2 pipe rest read ih =>
    rw [readings_invalidData read]
    refine iff_of_false (fun served => ?_) (not_not.mpr List.mem_cons_self)
    have first : (IpcReceiver.mk false pipe last).calls deserialize 1 =
        [(none, some .invalidData)] := by
      rw [calls, recv, if_neg Bool.false_ne_true, recvLoop_invalidData read]
      rfl
    have ended := served.ends 1 _ (first ▸ List.mem_singleton_self _) rfl
    obtain isEnd | failed := ended
    · cases isEnd
    · cases failed
  | case3 pipe rest read =>
    rw [readings_end read id]
    exact iff_of_true (serves_end read id last) List.not_mem_nil
  | case4 pipe rest read =>
    rw [readings_end read id]
    exact iff_of_true (serves_end read id last) List.not_mem_nil

theorem decoded_iff_allUtf8 (pipe : Pipe) :
    .invalidData ∉ pipe.readings ↔ pipe.AllUtf8 := by
  induction pipe using readings.induct with
  | case1 pipe text rest read ih =>
    rw [readings_line read, allUtf8_of_read read trivial, List.mem_cons, not_or, ih]
    exact and_congr_left fun _ => ne_comm
  | case2 pipe rest read ih =>
    rw [readings_invalidData read, allUtf8_of_read read trivial]
    exact iff_of_false (fun absent => absent List.mem_cons_self) fun valid => valid.1 rfl
  | case3 pipe rest read =>
    rw [readings_end read id]
    exact iff_of_true List.not_mem_nil (allUtf8_of_end read id)
  | case4 pipe rest read =>
    rw [readings_end read id]
    exact iff_of_true List.not_mem_nil (allUtf8_of_end read id)

/-- A receiver yields the messages of its stream, to the end, exactly where every line
is UTF-8. -/
theorem receiver_serves_iff (deserialize : List Byte → Option Message) (pipe : Pipe) :
    Serves deserialize (new pipe) ↔ pipe.AllUtf8 :=
  (serves_iff_decoded pipe none).trans (decoded_iff_allUtf8 pipe)

/-- A byte that no text has, on a line of its own, hides the message behind it. -/
theorem line_not_utf8_ends_stream :
    ¬ Serves some (new ⟨[0xFF, newline, 0x61, newline], false⟩) := by
  have read : (Pipe.mk [0xFF, newline, 0x61, newline] false).nextLine =
      (.invalidData, ⟨[0x61, newline], false⟩) := by decide
  rw [new, serves_iff_decoded, readings_invalidData read]
  exact not_not.mpr List.mem_cons_self

end IpcReceiver

end MoonlightWeb.Common
