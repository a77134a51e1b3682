import MoonlightWeb.Lib.TokenBucket
import MoonlightWeb.Streamer.Sender

/-! What the pacer does to the packets of a track. It is a token bucket whose packets are
paid for when they leave the queue, one at a time, so that a packet on its way to the
track is out of the queue and not yet in the log. -/
namespace MoonlightWeb.Streamer.SampleSender
open MoonlightWeb.Machine MoonlightWeb.TokenBucket

variable {τ S : Type} [TrackLike τ S]

/-! ## Every step -/

/-- The packet on its way to the track. -/
def inFlight : Location S → List S
  | .write sample => [sample]
  | _ => []

/-- What a step does to the packets, the budget and the log. -/
inductive Change (sender : SampleSender τ S) : SampleSender τ S → Prop where
  | arrives (connected : sender.connected = true) (sample : S) :
      Change sender { sender with
        channel := sender.channel ++ [sample]
        log := .arrived sample :: sender.log }
  | disconnects : Change sender { sender with connected := false }
  | takes {location : Location S} (waiting : sender.channel = sample :: rest)
      (before : inFlight sender.location = []) (after : inFlight location = [])
      (goesOn : location ≠ .finished) :
      Change sender { sender with
        channel := rest
        queue := sender.queue ++ [sample]
        location := location }
  | moves {location : Location S} {opened : Bool} (before : inFlight sender.location = [])
      (after : inFlight location = [])
      (closes : opened = false →
        sender.opened = false ∨ sender.connected = false ∧ sender.channel = [])
      (ends : location = .finished → opened = false ∧ sender.queue = []) :
      Change sender { sender with opened := opened, location := location }
  | clears (before : inFlight sender.location = [])
      (exceeded : PACE_QUEUE_MAX < sender.queue.length) :
      Change sender { sender with
        queue := []
        location := .head
        log := .cleared sender.queue :: sender.log }
  | refills {location : Location S} (before : inFlight sender.location = [])
      (after : inFlight location = []) (goesOn : location ≠ .finished)
      (later : sender.lastRefill ≤ now) :
      Change sender { sender with
        budget := min (sender.budget + (now - sender.lastRefill) * sender.rate) sender.burstBytes
        lastRefill := now
        location := location
        log := .refilled now :: sender.log }
  | pays (before : inFlight sender.location = []) (first : sender.queue = sample :: rest)
      (some : 0 < sender.budget) :
      Change sender { sender with
        queue := rest
        budget := sender.budget - (TrackLike.sampleSize τ sample : Nat)
        location := .write sample }
  | writes (writing : sender.location = .write sample) (track : τ) (asWritten : S)
      (delivery : Delivery) :
      Change sender { sender with
        track := track
        location := .drain
        log := .wrote sample asWritten delivery :: sender.log }

theorem runStep_change {sender : SampleSender τ S} (taken : runStep sender = some next) :
    Change sender next := by
  unfold runStep at taken
  have before {location : Location S} (place : sender.location = location)
      (none : inFlight location = []) : inFlight sender.location = [] := by
    rw [place]
    exact none
  cases place : sender.location with
  | head =>
    rw [place] at taken
    cases taken
    refine .moves (before place rfl) ?_ .inl ?_
    · split <;> rfl
    · split
      · exact nofun
      · rename_i ended
        intro _
        rw [Bool.or_eq_true, not_or, Bool.not_eq_true, Bool.not_eq_true,
          Bool.not_eq_false', List.isEmpty_iff] at ended
        exact ended
  | tryRecv =>
    rw [place] at taken
    dsimp only at taken
    split at taken
    · rename_i sample rest waiting
      cases taken
      exact .takes waiting (before place rfl) rfl nofun
    · rename_i empty
      cases taken
      refine .moves (before place rfl) rfl ?_ nofun
      intro closed
      cases opened : sender.opened with
      | false => exact .inl rfl
      | true =>
        rw [opened, Bool.true_and] at closed
        exact .inr ⟨closed, empty⟩
  | check =>
    rw [place] at taken
    dsimp only at taken
    split at taken
    · rename_i exceeded
      cases taken
      exact .clears (before place rfl) exceeded
    · split at taken
      · rename_i isEmpty
        cases taken
        refine .moves (before place rfl) ?_ .inl ?_
        · split <;> rfl
        · split
          · exact nofun
          · rename_i closed
            exact fun _ => ⟨Bool.not_eq_true _ ▸ closed, List.isEmpty_iff.mp isEmpty⟩
      · cases taken
        exact .moves (before place rfl) rfl .inl nofun
  | recv =>
    rw [place] at taken
    dsimp only at taken
    split at taken
    · rename_i sample rest waiting
      cases taken
      exact .takes waiting (before place rfl) rfl nofun
    · rename_i empty
      split at taken
      · cases taken
      · rename_i gone
        cases taken
        exact .moves (before place rfl) rfl
          (fun _ => .inr ⟨eq_false_of_ne_true gone, empty⟩) nofun
  | sleep =>
    rw [place] at taken
    dsimp only at taken
    split at taken
    · split at taken
      · rename_i sample rest waiting
        cases taken
        exact .takes waiting (before place rfl) rfl nofun
      · rename_i empty
        split at taken
        · cases taken
        · rename_i gone
          cases taken
          exact .moves (before place rfl) rfl
            (fun _ => .inr ⟨eq_false_of_ne_true gone, empty⟩) nofun
    · cases taken
  | drain =>
    rw [place] at taken
    dsimp only at taken
    split at taken
    · cases taken
      exact .moves (before place rfl) rfl .inl nofun
    · rename_i sample rest first
      split at taken
      · rename_i some
        cases taken
        exact .pays (before place rfl) first some
      · cases taken
        exact .moves (before place rfl) rfl .inl nofun
  | refill | write sample | finished =>
    rw [place] at taken
    cases taken

theorem step_change {sender : SampleSender τ S} (taken : step sender event = some next) :
    Change sender next := by
  cases event with
  | send sample =>
    obtain ⟨⟨connected, -⟩, same⟩ := Option.ite_none_right_eq_some.mp taken
    cases same
    exact .arrives connected sample
  | disconnect =>
    obtain ⟨-, same⟩ := Option.ite_none_right_eq_some.mp taken
    cases same
    exact .disconnects
  | run => exact runStep_change taken
  | clock now =>
    unfold step at taken
    dsimp only at taken
    split at taken
    · rename_i place
      obtain ⟨later, same⟩ := Option.ite_none_right_eq_some.mp taken
      cases same
      refine .refills (by rw [place]; rfl) ?_ ?_ later
      · split <;> rfl
      · split <;> exact nofun
    · cases taken
  | wake =>
    unfold step at taken
    dsimp only at taken
    split at taken
    · rename_i place
      cases taken
      exact .moves (by rw [place]; rfl) rfl .inl nofun
    · cases taken
  | delivery delivery =>
    unfold step at taken
    dsimp only at taken
    split at taken
    · rename_i sample place
      cases taken
      exact .writes place _ _ delivery
    · cases taken

/-! ## The packets -/

/-- What came in, the first packet first. -/
def arrived : List (Entry S) → List S
  | [] => []
  | .arrived sample :: older => arrived older ++ [sample]
  | _ :: older => arrived older

def written : List (Entry S) → List S
  | [] => []
  | .wrote sample _ _ :: older => written older ++ [sample]
  | _ :: older => written older

/-- What has left the task, written or dropped. -/
def handled : List (Entry S) → List S
  | [] => []
  | .wrote sample _ _ :: older => handled older ++ [sample]
  | .cleared dropped :: older => handled older ++ dropped
  | _ :: older => handled older

/-- What the task still holds, the packet it will handle next first. -/
def held (sender : SampleSender τ S) : List S :=
  inFlight sender.location ++ sender.queue ++ sender.channel

/-- Every packet that came in was handled or is still held, in this order. A packet is
dropped only with a whole queue that was too long, and a task that ends holds none. -/
structure Conserved (sender : SampleSender τ S) : Prop where
  all : arrived sender.log = handled sender.log ++ held sender
  cleared : ∀ dropped, .cleared dropped ∈ sender.log → PACE_QUEUE_MAX < dropped.length
  closed : sender.opened = false → sender.connected = false ∧ sender.channel = []
  ended : sender.location = .finished → sender.opened = false ∧ sender.queue = []

/-- Only a cleared queue adds to what was cleared. -/
theorem cleared_older {entry : Entry S} {log : List (Entry S)}
    (other : ∀ dropped, .cleared dropped ≠ entry)
    (cleared : ∀ dropped, .cleared dropped ∈ log → PACE_QUEUE_MAX < dropped.length) :
    ∀ dropped, .cleared dropped ∈ entry :: log → PACE_QUEUE_MAX < dropped.length := by
  intro dropped member
  obtain same | earlier := List.mem_cons.mp member
  · exact absurd same (other dropped)
  · exact cleared dropped earlier

theorem change_conserved {sender next : SampleSender τ S} (conserved : Conserved sender)
    (change : Change sender next) : Conserved next := by
  obtain ⟨all, cleared, closed, ended⟩ := conserved
  unfold held at all
  cases change with
  | arrives connected sample =>
    refine ⟨?_, cleared_older nofun cleared, ?_, ended⟩
    · change arrived sender.log ++ [sample] =
        handled sender.log ++ (inFlight sender.location ++ sender.queue ++ (sender.channel ++ [sample]))
      rw [all]
      simp only [List.append_assoc]
    · intro isClosed
      rw [(closed isClosed).1] at connected
      cases connected
  | disconnects => exact ⟨all, cleared, fun isClosed => ⟨rfl, (closed isClosed).2⟩, ended⟩
  | @takes sample rest location waiting before after goesOn =>
    refine ⟨?_, cleared, ?_, fun impossible => absurd impossible goesOn⟩
    · change arrived sender.log =
        handled sender.log ++ (inFlight location ++ (sender.queue ++ [sample]) ++ rest)
      rw [all, before, after, waiting]
      simp only [List.nil_append, List.append_assoc, List.cons_append]
    · intro isClosed
      rw [(closed isClosed).2] at waiting
      cases waiting
  | @moves location opened before after closes ends =>
    refine ⟨?_, cleared, ?_, ends⟩
    · change arrived sender.log =
        handled sender.log ++ (inFlight location ++ sender.queue ++ sender.channel)
      rw [all, before, after]
    · intro isClosed
      obtain earlier | now := closes isClosed
      · exact closed earlier
      · exact now
  | clears before exceeded =>
    refine ⟨?_, ?_, closed, nofun⟩
    · change arrived sender.log = handled sender.log ++ sender.queue ++ ([] ++ [] ++ sender.channel)
      rw [all, before]
      simp only [List.nil_append, List.append_assoc]
    · intro dropped member
      obtain same | earlier := List.mem_cons.mp member
      · cases same
        exact exceeded
      · exact cleared dropped earlier
  | @refills now location before after goesOn later =>
    refine ⟨?_, cleared_older nofun cleared, closed, fun impossible => absurd impossible goesOn⟩
    change arrived sender.log =
      handled sender.log ++ (inFlight location ++ sender.queue ++ sender.channel)
    rw [all, before, after]
  | @pays sample rest before first some =>
    refine ⟨?_, cleared, closed, nofun⟩
    change arrived sender.log = handled sender.log ++ ([sample] ++ rest ++ sender.channel)
    rw [all, before, first]
    rfl
  | @writes sample writing track asWritten delivery =>
    refine ⟨?_, cleared_older nofun cleared, closed, nofun⟩
    change arrived sender.log =
      handled sender.log ++ [sample] ++ ([] ++ sender.queue ++ sender.channel)
    rw [all, writing]
    simp only [inFlight, List.nil_append, List.append_assoc]

theorem written_sublist (log : List (Entry S)) : List.Sublist (written log) (handled log) := by
  induction log with
  | nil => exact List.Sublist.slnil
  | cons entry older ih =>
    cases entry with
    | arrived sample => exact ih
    | refilled now => exact ih
    | cleared dropped => exact ih.trans (List.sublist_append_left _ _)
    | wrote sample asWritten delivery => exact ih.append_right _

/-! ## The rate -/

/-- The log as a token bucket sees it. -/
def ledger (τ : Type) [TrackLike τ S] : List (Entry S) → List (Action ℚ)
  | [] => []
  | .refilled now :: older => .refill now :: ledger τ older
  | .wrote sample _ _ :: older =>
    .spend ((TrackLike.sampleSize τ sample : Nat) : ℚ) :: ledger τ older
  | _ :: older => ledger τ older

/-- The bucket, with what the packet on its way has paid put back. -/
def bucket (sender : SampleSender τ S) : Bucket ℚ :=
  match sender.location with
  | .write sample => ⟨sender.budget + (TrackLike.sampleSize τ sample : Nat), sender.lastRefill⟩
  | _ => ⟨sender.budget, sender.lastRefill⟩

theorem bucket_idle (sender : SampleSender τ S) (idle : inFlight sender.location = []) :
    bucket sender = ⟨sender.budget, sender.lastRefill⟩ := by
  unfold bucket
  split
  · rename_i sample writing
    rw [writing] at idle
    cases idle
  · rfl

/-- The task runs a token bucket from `start`. -/
structure Pacing (start sender : SampleSender τ S) : Prop where
  rate : sender.rate = start.rate
  burstBytes : sender.burstBytes = start.burstBytes
  runs : Runs start.rate start.burstBytes (bucket start) (ledger τ sender.log) (bucket sender)
  some : inFlight sender.location ≠ [] → 0 < (bucket sender).budget

theorem budget_le_bucket (sender : SampleSender τ S) : sender.budget ≤ (bucket sender).budget := by
  unfold bucket
  split
  · exact le_add_of_nonneg_right (Nat.cast_nonneg _)
  · exact le_rfl

/-- Where nothing is on its way, a step that leaves the budget leaves the bucket. -/
theorem Pacing.of_idle {start sender next : SampleSender τ S} (pacing : Pacing start sender)
    (before : inFlight sender.location = []) (after : inFlight next.location = [])
    (rate : next.rate = sender.rate) (burstBytes : next.burstBytes = sender.burstBytes)
    (budget : next.budget = sender.budget) (lastRefill : next.lastRefill = sender.lastRefill)
    (log : ledger τ next.log = ledger τ sender.log) : Pacing start next := by
  refine ⟨rate.trans pacing.rate, burstBytes.trans pacing.burstBytes, ?_, fun some => absurd after some⟩
  have runs := pacing.runs
  rw [bucket_idle sender before] at runs
  rw [bucket_idle next after, budget, lastRefill, log]
  exact runs

theorem change_pacing {start sender next : SampleSender τ S} (pacing : Pacing start sender)
    (change : Change sender next) : Pacing start next := by
  cases change with
  | arrives connected sample => exact ⟨pacing.rate, pacing.burstBytes, pacing.runs, pacing.some⟩
  | disconnects => exact ⟨pacing.rate, pacing.burstBytes, pacing.runs, pacing.some⟩
  | takes waiting before after goesOn => exact pacing.of_idle before after rfl rfl rfl rfl rfl
  | moves before after closes ends => exact pacing.of_idle before after rfl rfl rfl rfl rfl
  | clears before exceeded => exact pacing.of_idle before rfl rfl rfl rfl rfl rfl
  | @refills now location before after goesOn later =>
    refine ⟨pacing.rate, pacing.burstBytes, ?_, fun some => absurd after some⟩
    have runs := pacing.runs
    rw [bucket_idle sender before] at runs
    have refilled := Runs.refill runs later
    unfold Bucket.refill at refilled
    rw [← pacing.rate, ← pacing.burstBytes] at refilled ⊢
    have idle := bucket_idle ({ sender with
      budget := min (sender.budget + (now - sender.lastRefill) * sender.rate) sender.burstBytes
      lastRefill := now
      location := location
      log := .refilled now :: sender.log } : SampleSender τ S) after
    rw [idle]
    exact refilled
  | @pays sample rest before first some =>
    have same : bucket { sender with
        queue := rest
        budget := sender.budget - (TrackLike.sampleSize τ sample : Nat)
        location := .write sample } = bucket sender := by
      rw [bucket_idle sender before]
      exact congrArg (Bucket.mk · sender.lastRefill) (sub_add_cancel _ _)
    refine ⟨pacing.rate, pacing.burstBytes, ?_, fun _ => ?_⟩
    · rw [same]
      exact pacing.runs
    · rw [same, bucket_idle sender before]
      exact some
  | @writes sample writing track asWritten delivery =>
    refine ⟨pacing.rate, pacing.burstBytes, ?_, fun impossible => absurd rfl impossible⟩
    have inBucket : bucket sender =
        ⟨sender.budget + (TrackLike.sampleSize τ sample : Nat), sender.lastRefill⟩ := by
      unfold bucket
      rw [writing]
    have paid := Runs.spend pacing.runs
      (pacing.some (by rw [writing]; exact List.cons_ne_nil _ _))
      (Nat.cast_nonneg (TrackLike.sampleSize τ sample))
    rw [inBucket] at paid
    have left : Bucket.spend ⟨sender.budget + (TrackLike.sampleSize τ sample : Nat), sender.lastRefill⟩
        ((TrackLike.sampleSize τ sample : Nat) : ℚ) = ⟨sender.budget, sender.lastRefill⟩ :=
      congrArg (Bucket.mk · sender.lastRefill) (add_sub_cancel_right _ _)
    rw [left] at paid
    exact paid

/-! ## Every run -/

theorem reachable_paced {sender : SampleSender τ S} {track : τ} {capacity paceBytesPerSec : Nat}
    (reached : Reachable step (new track capacity paceBytesPerSec now) sender) :
    Conserved sender ∧ Pacing (new track capacity paceBytesPerSec now) sender := by
  refine reachable_invariant
    (fun sender => Conserved sender ∧ Pacing (new track capacity paceBytesPerSec now) sender)
    ?_ ?_ reached
  · refine ⟨⟨rfl, fun dropped member => ?_, fun closed => ?_, fun ended => ?_⟩, rfl, rfl, .start,
      fun some => ?_⟩
    · cases member
    · cases closed
    · cases ended
    · exact absurd rfl some
  · intro state event next held taken
    have change := step_change taken
    exact ⟨change_conserved held.1 change, change_pacing held.2 change⟩

/-- What a step clears is the whole queue. -/
theorem cleared_whole {sender next : SampleSender τ S} (change : Change sender next)
    (clears : next.log = .cleared dropped :: sender.log) :
    dropped = sender.queue ∧ next.queue = [] := by
  cases change with
  | clears before exceeded =>
    cases clears
    exact ⟨rfl, rfl⟩
  | arrives | refills | writes => cases clears
  | disconnects | takes | moves | pays => exact absurd clears.symm (List.cons_ne_self _ _)

/-- The sizes of the packets whose last refill was read in an interval. -/
def writtenBetween (τ : Type) [TrackLike τ S] (start since upTo : ℚ) (log : List (Entry S)) : ℚ :=
  spentBetween start since upTo (ledger τ log)

/-- In every run the packets are written in the order they came in, each at most once,
and are lost only with a whole queue that was too long; the budget stays within the
burst; and no interval sees more than the burst, what the rate gives and one packet. -/
theorem samples_paced (track : τ) (capacity paceBytesPerSec : Nat) (now : ℚ)
    {sender : SampleSender τ S}
    (reached : Reachable step (new track capacity paceBytesPerSec now) sender) :
    List.Sublist (written sender.log) (arrived sender.log) ∧
    (arrived sender.log = handled sender.log ++ held sender ∧
      (sender.location = .finished → held sender = []) ∧
      (∀ dropped, .cleared dropped ∈ sender.log → PACE_QUEUE_MAX < dropped.length) ∧
      ∀ event next dropped, step sender event = some next →
        next.log = .cleared dropped :: sender.log → dropped = sender.queue ∧ next.queue = []) ∧
    (sender.rate = (max paceBytesPerSec 1 : Nat) ∧
      sender.burstBytes = max (sender.rate * (5 / 1000)) 24000) ∧
    sender.budget ≤ sender.burstBytes ∧
    ∀ since duration, 0 ≤ duration →
      writtenBetween τ now since (since + duration) sender.log ≤
        sender.burstBytes + sender.rate * duration + largest (ledger τ sender.log) := by
  obtain ⟨conserved, pacing⟩ := reachable_paced reached
  refine ⟨?_, ⟨conserved.all, ?_, conserved.cleared, ?_⟩, ⟨pacing.rate, ?_⟩, ?_, ?_⟩
  · rw [conserved.all]
    exact (written_sublist sender.log).trans (List.sublist_append_left _ _)
  · intro finished
    obtain ⟨closed, queueEmpty⟩ := conserved.ended finished
    obtain ⟨-, channelEmpty⟩ := conserved.closed closed
    rw [held, finished, queueEmpty, channelEmpty]
    rfl
  · exact fun event next dropped taken clears => cleared_whole (step_change taken) clears
  · rw [pacing.rate]
    exact pacing.burstBytes
  · rw [pacing.burstBytes]
    exact (budget_le_bucket sender).trans (budget_le le_rfl pacing.runs)
  · intro since duration nonneg
    have start : bucket (new track capacity paceBytesPerSec now : SampleSender τ S) =
        ⟨(new track capacity paceBytesPerSec now : SampleSender τ S).burstBytes, now⟩ :=
      bucket_idle _ rfl
    have runs := pacing.runs
    rw [start, ← pacing.rate, ← pacing.burstBytes] at runs
    have rates : 0 ≤ sender.rate := by
      rw [pacing.rate]
      exact Nat.cast_nonneg _
    have filled : 0 ≤ (⟨sender.burstBytes, now⟩ : Bucket ℚ).budget := by
      change 0 ≤ sender.burstBytes
      rw [pacing.burstBytes]
      exact le_max_of_le_right (by norm_num)
    have ordered : since ≤ since + duration := le_add_of_nonneg_right nonneg
    have bound := spent_le filled le_rfl rates ordered runs
    rw [add_sub_cancel_left] at bound
    exact bound

private def silent (count : Nat) : Video.Packet :=
  ⟨⟨2, false, false, false, 0, 0, 0, 0⟩, List.replicate count 0⟩

/-- Two packets come in, the clock is read late, and both are written. -/
private def sendTwo : List (SenderEvent Video.Packet) :=
  [.send (silent 3), .send (silent 5), .run, .run, .run, .run, .run, .clock 1, .run,
    .delivery .sent, .run, .delivery .failed]

theorem two_samples_paced :
    ∃ sender : Sender, Reachable step (new .new 8 187500 0) sender ∧
      written sender.log = [silent 3, silent 5] ∧
      writtenBetween SequencedTrackLocalStaticRTP 0 1 (1 + 2) sender.log = 32 ∧
      writtenBetween SequencedTrackLocalStaticRTP 0 1 (1 + 2) sender.log ≤
        sender.burstBytes + sender.rate * 2 +
          largest (ledger SequencedTrackLocalStaticRTP sender.log) := by
  have ends : (run step (new .new 8 187500 0 : Sender) sendTwo).map SampleSender.log =
      some [.wrote (silent 5) (withSequenceNumber (silent 5) 1) .failed,
        .wrote (silent 3) (withSequenceNumber (silent 3) 0) .sent, .refilled 1,
        .arrived (silent 5), .arrived (silent 3)] := by
    decide +kernel
  obtain ⟨sender, ran, log⟩ := Option.map_eq_some_iff.mp ends
  refine ⟨sender, ⟨sendTwo, ran⟩, ?_, ?_, ?_⟩
  · rw [log]
    rfl
  · rw [log]
    norm_num [writtenBetween, ledger, spentBetween, reading, TrackLike.sampleSize, silent]
  · have paced := samples_paced SequencedTrackLocalStaticRTP.new 8 187500 0
      (⟨sendTwo, ran⟩ : Reachable step _ sender)
    exact paced.2.2.2.2 1 2 (by norm_num)

end MoonlightWeb.Streamer.SampleSender
