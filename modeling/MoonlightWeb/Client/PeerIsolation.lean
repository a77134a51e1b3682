import MoonlightWeb.Client.InputOnlyStream

/-! What a peer of the input client is given. The queue of messages outlives the
socket that filled it, and a message that finds no peer is kept for the next one. -/
namespace MoonlightWeb.Client
open MoonlightWeb.Machine

/-- Received on the socket of the configuration, and after it. -/
def Received.Follows (item config : Received) : Prop :=
  item.socket = config.socket ∧ config.number < item.number

/-- What a handler still has to apply. -/
def Awaited.items : Awaited → List Received
  | .rollback description => [description.source]
  | .candidate rest => rest
  | _ => []

def ServerMessage.isSignaling : ServerMessage → Bool
  | .description _ | .addIceCandidate => true
  | _ => false

namespace Signaling

def items (signaling : Signaling) (peer : InputPeer) : List Received :=
  peer.applied ++ (signaling.remoteDescription.map Description.source).toList ++
    signaling.iceCandidateQueue ++ (signaling.running.map (·.awaited.items)).getD []

/-- Whatever was applied to the peer or is kept for it came over the socket that its
configuration came over, and later. -/
def Isolated (signaling : Signaling) : Prop :=
  ∀ peer, signaling.peer = some peer → ∀ item ∈ signaling.items peer, item.Follows peer.config

/-- There is a peer of that configuration, all it has or will be given follows it, and
these messages are still to be handled. -/
structure Session (config : Received) (queue : List RawMessage) (received : Nat)
    (signaling : Signaling) : Prop where
  present : ∃ peer, signaling.peer = some peer
  configured : ∀ peer, signaling.peer = some peer → peer.config = config
  applied : ∀ peer, signaling.peer = some peer → ∀ item ∈ peer.applied, item.Follows config
  described : ∀ description, signaling.remoteDescription = some description →
    description.source.Follows config
  queued : ∀ item ∈ signaling.iceCandidateQueue, item.Follows config
  awaited : ∀ handler, signaling.running = some handler →
    ∀ item ∈ handler.awaited.items, item.Follows config
  sameQueue : signaling.messageProcessingQueue = queue
  sameReceived : signaling.received = received

/-- There is no peer, and nothing is kept for the next. -/
structure Absent (queue : List RawMessage) (received : Nat) (signaling : Signaling) : Prop where
  noPeer : signaling.peer = none
  noDescription : signaling.remoteDescription = none
  noCandidate : signaling.iceCandidateQueue = []
  sameQueue : signaling.messageProcessingQueue = queue
  sameReceived : signaling.received = received

variable {config : Received} {queue : List RawMessage} {received : Nat} {signaling : Signaling}
  {peer : InputPeer} {item : Received}

theorem Session.isolated (session : Session config queue received signaling) :
    signaling.Isolated := by
  intro peer isPeer item member
  rw [session.configured peer isPeer]
  rcases List.mem_append.mp member with member | awaited
  · rcases List.mem_append.mp member with member | queued
    · rcases List.mem_append.mp member with applied | described
      · exact session.applied peer isPeer item applied
      · obtain ⟨description, isDescription, rfl⟩ :=
          Option.map_eq_some_iff.mp (Option.mem_toList.mp described)
        exact session.described description isDescription
    · exact session.queued item queued
  · cases running : signaling.running with
    | none =>
      rw [running] at awaited
      cases awaited
    | some handler =>
      rw [running] at awaited
      exact session.awaited handler running item awaited

theorem Session.settle (session : Session config queue received signaling) :
    Session config queue received signaling.settle :=
  { session with awaited := fun _ impossible => by cases impossible }

theorem Session.awaiting (session : Session config queue received signaling)
    (awaited : Awaited) (follow : ∀ item ∈ awaited.items, item.Follows config)
    (creating : Bool) :
    Session config queue received (signaling.awaiting awaited creating) :=
  { session with
    awaited := by
      rintro handler ⟨⟩
      exact follow }

theorem Session.apply (session : Session config queue received signaling)
    (isPeer : signaling.peer = some peer) (follows : item.Follows config) :
    Session config queue received { signaling with peer := some (addApplied peer item) } :=
  { session with
    present := ⟨_, rfl⟩
    configured := by
      rintro _ ⟨⟩
      exact session.configured peer isPeer
    applied := by
      rintro _ ⟨⟩ other member
      rcases List.mem_append.mp member with earlier | last
      · exact session.applied peer isPeer other earlier
      · rw [List.mem_singleton.mp last]
        exact follows }

theorem Session.enqueue (session : Session config queue received signaling)
    (follows : item.Follows config) :
    Session config queue received
      { signaling with iceCandidateQueue := signaling.iceCandidateQueue ++ [item] } :=
  { session with
    queued := by
      intro other member
      rcases List.mem_append.mp member with earlier | last
      · exact session.queued other earlier
      · rw [List.mem_singleton.mp last]
        exact follows }

theorem Session.handleIceCandidate (session : Session config queue received signaling)
    (follows : candidate.Follows config) :
    Session config queue received (signaling.handleIceCandidate candidate).1 := by
  unfold Signaling.handleIceCandidate
  split
  · rename_i peer isPeer
    split
    · exact session.apply isPeer follows
    · exact session.enqueue follows
  · exact session.enqueue follows

theorem Session.forCandidates (session : Session config queue received signaling)
    (candidates : List Received) (follow : ∀ item ∈ candidates, item.Follows config) :
    Session config queue received (signaling.forCandidates candidates).1 ∧
      ∀ rest, (signaling.forCandidates candidates).2 = some rest →
        ∀ item ∈ rest, item.Follows config := by
  induction candidates generalizing signaling with
  | nil => exact ⟨session, fun _ impossible => by cases impossible⟩
  | cons candidate later ih =>
    have handled := session.handleIceCandidate (follow candidate List.mem_cons_self)
    have followLater := fun item member => follow item (List.mem_cons_of_mem candidate member)
    unfold Signaling.forCandidates
    dsimp only
    split
    · refine ⟨handled, ?_⟩
      rintro rest ⟨⟩
      exact followLater
    · exact ih handled followLater

theorem Session.dequeueLast (session : Session config queue received signaling)
    (candidates : List Received) (follow : ∀ item ∈ candidates, item.Follows config) :
    Session config queue received (signaling.dequeueLast candidates) := by
  obtain ⟨looped, followRest⟩ := session.forCandidates candidates follow
  unfold Signaling.dequeueLast
  dsimp only
  split
  · rename_i rest isRest
    exact looped.awaiting (.candidate rest) (followRest rest isRest) false
  · exact looped.settle

theorem Session.spliced (session : Session config queue received signaling) :
    Session config queue received { signaling with iceCandidateQueue := [] } :=
  { session with queued := fun _ impossible => by cases impossible }

theorem Session.afterDescription (session : Session config queue received signaling)
    (creating : Bool) : Session config queue received (signaling.afterDescription creating) := by
  unfold Signaling.afterDescription
  split
  · exact session.spliced.dequeueLast _ session.queued
  · exact session.settle

theorem Session.dequeue (session : Session config queue received signaling)
    (candidates : List Received) (follow : ∀ item ∈ candidates, item.Follows config)
    (creating : Bool) :
    Session config queue received (signaling.dequeue candidates creating) := by
  obtain ⟨looped, followRest⟩ := session.forCandidates candidates follow
  unfold Signaling.dequeue
  dsimp only
  split
  · rename_i rest isRest
    exact looped.awaiting (.candidate rest) (followRest rest isRest) creating
  · exact looped.afterDescription creating

theorem Session.tryDequeueIceCandidates (session : Session config queue received signaling)
    (creating : Bool) :
    Session config queue received (signaling.tryDequeueIceCandidates creating) :=
  session.spliced.dequeue _ session.queued creating

theorem Session.applyDescription (session : Session config queue received signaling)
    (follows : description.source.Follows config) (creating : Bool) :
    Session config queue received (signaling.applyDescription description creating) := by
  unfold Signaling.applyDescription
  split
  · rename_i peer isPeer
    refine (session.apply isPeer follows).awaiting (.remoteDescription description) ?_ creating
    intro item impossible
    cases impossible
  · exact session.settle

theorem Session.handleRemoteDescription (session : Session config queue received signaling)
    (follows : description.source.Follows config) (creating busy : Bool) :
    Session config queue received
      (signaling.handleRemoteDescription description creating busy) := by
  have described : Session config queue received
      { signaling with remoteDescription := some description } :=
    { session with
      described := by
        rintro _ ⟨⟩
        exact follows }
  unfold Signaling.handleRemoteDescription
  dsimp only
  split
  · exact described.afterDescription creating
  · split
    · refine described.awaiting (.rollback description) ?_ creating
      intro item member
      rw [List.mem_singleton.mp member]
      exact follows
    · exact described.applyDescription follows creating

theorem Session.resume (session : Session config queue received signaling)
    (running : signaling.running = some handler) (fails ready : Bool) :
    Session config queue received (signaling.resume handler fails ready) := by
  have follow := session.awaited handler running
  unfold Signaling.resume
  cases awaited : handler.awaited with
  | rollback description =>
    rw [awaited] at follow
    dsimp only
    split
    · exact session.settle
    · exact session.applyDescription (follow description.source List.mem_cons_self) _
  | remoteDescription description =>
    dsimp only
    split
    · exact session.settle
    · split
      · split
        · exact session.settle
        · exact session.awaiting .answer (fun _ impossible => by cases impossible) _
      · exact session.tryDequeueIceCandidates _
  | answer =>
    dsimp only
    split
    · exact session.settle
    · exact session.awaiting .answerCandidates (fun _ impossible => by cases impossible) _
  | answerCandidates =>
    dsimp only
    split
    · exact session.tryDequeueIceCandidates _
    · exact session.afterDescription _
  | candidate rest =>
    rw [awaited] at follow
    exact session.dequeue rest follow _
  | offer =>
    dsimp only
    split
    · exact session.settle
    · exact session.awaiting .offerCandidates (fun _ impossible => by cases impossible) _
  | offerCandidates => exact session.afterDescription _

theorem Absent.settle (absent : Absent queue received signaling) :
    Absent queue received signaling.settle := { absent with }

theorem Absent.awaiting (absent : Absent queue received signaling) (awaited : Awaited)
    (creating : Bool) : Absent queue received (signaling.awaiting awaited creating) :=
  { absent with }

theorem Absent.afterDescription (absent : Absent queue received signaling) (creating : Bool) :
    Absent queue received (signaling.afterDescription creating) := by
  unfold Signaling.afterDescription
  rw [absent.noCandidate]
  split
  · exact { absent with noCandidate := rfl }
  · exact absent.settle

theorem Absent.tryDequeueIceCandidates (absent : Absent queue received signaling)
    (creating : Bool) : Absent queue received (signaling.tryDequeueIceCandidates creating) := by
  unfold Signaling.tryDequeueIceCandidates
  rw [absent.noCandidate]
  have spliced : Absent queue received { signaling with iceCandidateQueue := [] } :=
    { absent with noCandidate := rfl }
  exact spliced.afterDescription creating

/-- A handler whose peer is gone keeps nothing for the next, unless it is in the loop
over the candidates. -/
theorem Absent.resume (absent : Absent queue received signaling) (handler : Handler)
    (fails ready : Bool) (noRest : ∀ rest, handler.awaited = .candidate rest → rest = []) :
    Absent queue received (signaling.resume handler fails ready) := by
  unfold Signaling.resume
  cases awaited : handler.awaited with
  | rollback description =>
    dsimp only
    split
    · exact absent.settle
    · rw [applyDescription, absent.noPeer]
      exact absent.settle
  | remoteDescription description =>
    dsimp only
    split
    · exact absent.settle
    · split
      · split
        · exact absent.settle
        · exact absent.awaiting _ _
      · exact absent.tryDequeueIceCandidates _
  | answer | offer =>
    dsimp only
    split
    · exact absent.settle
    · exact absent.awaiting _ _
  | answerCandidates =>
    dsimp only
    split
    · exact absent.tryDequeueIceCandidates _
    · exact absent.afterDescription _
  | candidate rest =>
    rw [noRest rest awaited]
    exact absent.afterDescription _
  | offerCandidates => exact absent.afterDescription _

/-! ## Runs -/

/-- The configuration is older than what is still to be handled. -/
def Older (config : Received) (queue : List RawMessage) (received : Nat) : Prop :=
  config.number < received ∧ ∀ raw ∈ queue, config.number < raw.source.number

inductive Phase (queue : List RawMessage) (received : Nat) (signaling : Signaling) : Prop where
  | session (config : Received) (older : Older config queue received)
      (session : Session config queue received signaling)
  | absent (absent : Absent queue received signaling)

structure Inv (signaling : Signaling) : Prop where
  inOrder : signaling.messageProcessingQueue.Pairwise
    fun first second => first.source.number < second.source.number
  arrived : ∀ raw ∈ signaling.messageProcessingQueue, raw.source.number < signaling.received
  phase : Phase signaling.messageProcessingQueue signaling.received signaling

theorem Phase.sameQueue (phase : Phase queue received signaling) :
    signaling.messageProcessingQueue = queue ∧ signaling.received = received := by
  cases phase with
  | session config older session => exact ⟨session.sameQueue, session.sameReceived⟩
  | absent absent => exact ⟨absent.sameQueue, absent.sameReceived⟩

/-- The rest of an ordered queue behind a handled message. -/
theorem inv_of_phase (inOrder : queue.Pairwise
      fun first second => first.source.number < second.source.number)
    (arrived : ∀ raw ∈ queue, raw.source.number < received)
    (phase : Phase queue received signaling) : signaling.Inv := by
  obtain ⟨rfl, rfl⟩ := phase.sameQueue
  exact ⟨inOrder, arrived, phase⟩

theorem inv_start : start.Inv where
  inOrder := .nil
  arrived _ impossible := by cases impossible
  phase := .absent ⟨rfl, rfl, rfl, rfl, rfl⟩

theorem Inv.isolated (inv : signaling.Inv) : signaling.Isolated := by
  cases inv.phase with
  | session config older session => exact session.isolated
  | absent absent =>
    intro peer isPeer
    rw [absent.noPeer] at isPeer
    cases isPeer

theorem Inv.teardownPeer (inv : signaling.Inv) : signaling.teardownPeer.Inv where
  inOrder := inv.inOrder
  arrived := inv.arrived
  phase := .absent ⟨rfl, rfl, rfl, rfl, rfl⟩

theorem Inv.onRawWsMessage (inv : signaling.Inv) (socket : Nat) (message : ServerMessage) :
    (signaling.onRawWsMessage socket message).Inv where
  inOrder := by
    refine List.pairwise_append.mpr ⟨inv.inOrder, List.pairwise_singleton _ _, ?_⟩
    intro raw waits last isLast
    rw [List.mem_singleton.mp isLast]
    exact inv.arrived raw waits
  arrived raw member := by
    change raw.source.number < signaling.received + 1
    rcases List.mem_append.mp member with waits | last
    · have before := inv.arrived raw waits
      omega
    · rw [List.mem_singleton.mp last]
      exact Nat.lt_succ_self signaling.received
  phase := by
    cases inv.phase with
    | session config older session =>
      refine .session config ⟨Nat.lt_succ_of_lt older.1, fun raw member => ?_⟩
        { session with sameQueue := rfl, sameReceived := rfl }
      rcases List.mem_append.mp member with waits | last
      · exact older.2 raw waits
      · rw [List.mem_singleton.mp last]
        exact older.1
    | absent absent => exact .absent { absent with sameQueue := rfl, sameReceived := rfl }

theorem Inv.resume (inv : signaling.Inv) (running : signaling.running = some handler)
    (peerStays : ∀ rest, handler.awaited = .candidate rest → rest ≠ [] →
      signaling.peer.isSome = true) (fails ready : Bool) :
    (signaling.resume handler fails ready).Inv := by
  apply inv_of_phase inv.inOrder inv.arrived
  cases inv.phase with
  | session config older session =>
    exact .session config older (session.resume running fails ready)
  | absent absent =>
    refine .absent (absent.resume handler fails ready fun rest awaited => ?_)
    apply Classical.byContradiction
    intro nonempty
    have present := peerStays rest awaited nonempty
    rw [absent.noPeer] at present
    cases present

theorem Absent.createPeer (absent : Absent queue received signaling)
    (idle : signaling.running = none) (config : Received) (busy : Bool) :
    Session config queue received (signaling.createPeer config busy) := by
  have created : Session config queue received
      { signaling with peer := some { config, applied := [] } } :=
    { present := ⟨_, rfl⟩
      configured := by
        rintro _ ⟨⟩
        rfl
      applied := by
        rintro _ ⟨⟩ item impossible
        cases impossible
      described := by
        intro description isDescription
        rw [absent.noDescription] at isDescription
        cases isDescription
      queued := by
        intro item member
        rw [absent.noCandidate] at member
        cases member
      awaited := by
        intro handler running
        rw [idle] at running
        cases running
      sameQueue := absent.sameQueue
      sameReceived := absent.sameReceived }
  unfold Signaling.createPeer
  rw [if_neg (by simp [absent.noPeer])]
  dsimp only
  split
  · rename_i description isDescription
    rw [absent.noDescription] at isDescription
    cases isDescription
  · split
    · exact created.afterDescription true
    · exact created.awaiting .offer (fun _ impossible => by cases impossible) true

/-- A signaling message needs a peer that was configured over its socket. -/
theorem Session.onMessage (session : Session config queue received signaling)
    (older : Older config queue received) (raw : RawMessage)
    (later : config.number < raw.source.number)
    (ofSocket : raw.message.isSignaling = true → config.socket = raw.source.socket)
    (busy : Bool) : Phase queue received (signaling.onMessage raw busy) := by
  unfold Signaling.onMessage
  cases kind : raw.message with
  | waitingForStream =>
    exact .absent ⟨rfl, rfl, rfl, session.sameQueue, session.sameReceived⟩
  | webRtcConfig =>
    obtain ⟨peer, isPeer⟩ := session.present
    refine .session config older ?_
    dsimp only
    rw [Signaling.createPeer, isPeer]
    exact session.settle
  | description offer =>
    rw [kind] at ofSocket
    exact .session config older
      (session.handleRemoteDescription ⟨(ofSocket rfl).symm, later⟩ false busy)
  | addIceCandidate =>
    rw [kind] at ofSocket
    have handled := session.handleIceCandidate ⟨(ofSocket rfl).symm, later⟩
    refine .session config older ?_
    dsimp only
    split
    · exact handled.awaiting (.candidate []) (fun _ impossible => by cases impossible) false
    · exact handled.settle
  | other => exact .session config older session.settle

theorem Absent.onMessage (absent : Absent queue received signaling)
    (idle : signaling.running = none) (raw : RawMessage)
    (older : Older raw.source queue received) (noSignaling : raw.message.isSignaling = false)
    (busy : Bool) : Phase queue received (signaling.onMessage raw busy) := by
  unfold Signaling.onMessage
  cases kind : raw.message with
  | waitingForStream => exact .absent ⟨rfl, rfl, rfl, absent.sameQueue, absent.sameReceived⟩
  | webRtcConfig => exact .session raw.source older (absent.createPeer idle raw.source busy)
  | description offer | addIceCandidate =>
    rw [kind] at noSignaling
    cases noSignaling
  | other => exact .absent absent.settle

theorem Inv.handleNext {next : Signaling} (inv : signaling.Inv)
    (taken : signaling.handleNext busy = some next)
    (inSession : ∀ raw ∈ signaling.messageProcessingQueue.head?, raw.message.isSignaling = true →
      ∃ peer, signaling.peer = some peer ∧ peer.config.socket = raw.source.socket) :
    next.Inv := by
  unfold Signaling.handleNext at taken
  split at taken
  · rename_i raw rest idle isQueue
    cases taken
    obtain ⟨inOrder, arrived, phase⟩ := inv
    rw [isQueue] at inOrder arrived phase inSession
    obtain ⟨behind, inOrder⟩ := List.pairwise_cons.mp inOrder
    have arrivedRest := fun other member => arrived other (List.mem_cons_of_mem raw member)
    have ofPeer := inSession raw rfl
    apply inv_of_phase inOrder arrivedRest
    cases phase with
    | session config older session =>
      have begun : Session config rest signaling.received
          { signaling with messageProcessingQueue := rest } := { session with sameQueue := rfl }
      refine begun.onMessage ⟨older.1, fun other member =>
        older.2 other (List.mem_cons_of_mem raw member)⟩ raw (older.2 raw List.mem_cons_self)
        (fun isSignaling => ?_) busy
      obtain ⟨peer, isPeer, sameSocket⟩ := ofPeer isSignaling
      rw [← session.configured peer isPeer]
      exact sameSocket
    | absent absent =>
      have begun : Absent rest signaling.received
          { signaling with messageProcessingQueue := rest } := { absent with sameQueue := rfl }
      refine begun.onMessage idle raw ⟨arrived raw List.mem_cons_self, behind⟩ ?_ busy
      apply Bool.eq_false_iff.mpr
      intro isSignaling
      obtain ⟨peer, isPeer, -⟩ := ofPeer isSignaling
      rw [absent.noPeer] at isPeer
      cases isPeer
  · cases taken

end Signaling

namespace InputOnlyStream

/-- A description or candidate is handled while there is a peer that was configured
over its socket, and no peer goes while candidates wait behind one it is given. -/
def HandledInSession (stream : InputOnlyStream) : Event → Prop
  | .handleNext _ => ∀ raw ∈ stream.signaling.messageProcessingQueue.head?,
      raw.message.isSignaling = true → ∃ peer, stream.signaling.peer = some peer ∧
        peer.config.socket = raw.source.socket
  | .resume _ _ => ∀ handler, stream.signaling.running = some handler →
      ∀ rest, handler.awaited = .candidate rest → rest ≠ [] →
        stream.signaling.peer.isSome = true
  | _ => True

theorem signaling_clearConnectTimeout (stream : InputOnlyStream) :
    stream.clearConnectTimeout.signaling = stream.signaling := by
  unfold clearConnectTimeout
  split
  · rfl
  · rfl

theorem signaling_scheduleReconnect (stream : InputOnlyStream) :
    stream.scheduleReconnect.signaling = stream.signaling := by
  unfold scheduleReconnect
  split
  · rfl
  · split
    · rfl
    · rfl

theorem inv_step {stream next : InputOnlyStream} (inv : stream.signaling.Inv)
    (taken : stream.step event = some next) (inSession : stream.HandledInSession event) :
    next.signaling.Inv := by
  cases event with
  | wsOpen socket =>
    obtain ⟨-, same⟩ := Option.ite_none_right_eq_some.mp taken
    cases same
    change (stream.setReadyState socket .opened).clearConnectTimeout.signaling.Inv
    rw [signaling_clearConnectTimeout]
    exact inv
  | wsClose socket =>
    obtain ⟨-, same⟩ := Option.ite_none_left_eq_some.mp taken
    cases same
    unfold onWsClose
    split
    · exact inv
    · rw [signaling_scheduleReconnect]
      exact inv.teardownPeer
  | wsMessage socket message =>
    obtain ⟨-, same⟩ := Option.ite_none_right_eq_some.mp taken
    cases same
    exact inv.onRawWsMessage socket message
  | connectTimeout timer =>
    obtain ⟨-, same⟩ := Option.ite_none_right_eq_some.mp taken
    cases same
    exact inv
  | reconnectTimeout =>
    obtain ⟨-, same⟩ := Option.ite_none_right_eq_some.mp taken
    cases same
    exact inv
  | handleNext busy =>
    obtain ⟨signaling, handled, rfl⟩ := Option.map_eq_some_iff.mp taken
    exact inv.handleNext handled inSession
  | resume fails ready =>
    obtain ⟨handler, running, rfl⟩ := Option.map_eq_some_iff.mp taken
    exact inv.resume running (inSession handler running) fails ready
  | peerConnected =>
    obtain ⟨-, same⟩ := Option.ite_none_right_eq_some.mp taken
    cases same
    rw [signaling_clearConnectTimeout]
    exact inv
  | peerFailed =>
    obtain ⟨-, same⟩ := Option.ite_none_right_eq_some.mp taken
    cases same
    exact inv.teardownPeer
  | unload =>
    cases taken
    exact inv
  | leave =>
    cases taken
    change (clearConnectTimeout _).signaling.Inv
    rw [signaling_clearConnectTimeout]
    exact inv

/-- Where no message is handled without a peer of its own socket, every peer is given
only what came over that socket behind its configuration. -/
theorem peers_isolated
    (inSession : Along step (fun stream event _ => stream.HandledInSession event) start events) :
    Along step (fun _ _ next => next.signaling.Isolated) start events := by
  refine along_imp (fun stream => stream.signaling.Inv) ?_ ?_ Signaling.inv_start inSession
  · intro stream event next inv taken obeyed
    exact (inv_step inv taken obeyed).isolated
  · intro stream event next inv taken obeyed
    exact inv_step inv taken obeyed

/-- A peer is configured, answered and given a candidate. -/
theorem negotiated_in_session :
    Along step (fun _ _ next => next.signaling.Isolated) start
      [.wsOpen 0, .wsMessage 0 .webRtcConfig, .handleNext false,
        .wsMessage 0 (.description false), .resume false true, .resume false true,
        .handleNext false, .wsMessage 0 .addIceCandidate, .resume false true,
        .handleNext false] := by
  apply peers_isolated
  refine along_cons rfl trivial (along_cons rfl trivial (along_cons rfl ?_ (along_cons rfl trivial
    (along_cons rfl ?_ (along_cons rfl ?_ (along_cons rfl ?_ (along_cons rfl trivial
      (along_cons rfl ?_ (along_cons rfl ?_ trivial)))))))))
  · rintro raw ⟨⟩ impossible
    cases impossible
  · rintro handler ⟨⟩ rest impossible
    cases impossible
  · rintro handler ⟨⟩ rest impossible
    cases impossible
  · rintro raw ⟨⟩ -
    exact ⟨_, rfl, rfl⟩
  · rintro handler ⟨⟩ rest impossible
    cases impossible
  · rintro raw ⟨⟩ -
    exact ⟨_, rfl, rfl⟩

/-- The socket closes while the offer waits for candidates. The answer behind it is
kept, and applied to the peer of the next socket. -/
theorem late_answer_applied :
    ¬ ∀ events, Along step (fun _ _ next => next.signaling.Isolated) start events := by
  intro always
  have along := always [.wsOpen 0, .wsMessage 0 .webRtcConfig, .handleNext false,
    .wsMessage 0 (.description false), .resume false true, .wsClose 0, .reconnectTimeout,
    .wsOpen 1, .wsMessage 1 .webRtcConfig, .resume false false, .handleNext false,
    .handleNext false]
  have along := (((((((((along _ rfl).2 _ rfl).2 _ rfl).2 _ rfl).2 _ rfl).2 _ rfl).2 _
    rfl).2 _ rfl).2 _ rfl).2
  have isolated := ((along _ rfl).2 _ rfl).2 _ rfl
  have follows := isolated.1 _ rfl ⟨0, 1⟩ (by decide)
  exact absurd follows.1 (by decide)

end InputOnlyStream

end MoonlightWeb.Client
