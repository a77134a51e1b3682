import Mathlib.Data.List.Nodup
import MoonlightWeb.Lib.Json
import MoonlightWeb.Lib.Machine

/-! The control helper's answers to requests. A callback that throws ends the process;
what a promise is settled with comes from outside. -/
namespace MoonlightWeb.YouTubeRemote
open MoonlightWeb.Machine
open MoonlightWeb.Json (units)

abbrev Text := List UInt16

/-- What the helper is started with and runs on. -/
structure Helper where
  expectedToken : Text
  /-- The path of the URL that a request target gives, if it gives one. -/
  pathname : Text → Option Text
  /-- How the number that a literal stands for is written. -/
  numberText : Text → Text

/-- What a callback throws. -/
inductive Uncaught where
  | invalidUrl
  | memberOfNull
  | noPrimitive
  deriving DecidableEq, Repr

section Payload

/-- The last member of the name counts. Other values have none of the names read here. -/
def member : Json → String → Option Json
  | .object members, name => (members.findRev? fun member => member.1 = units name).map Prod.snd
  | _, _ => none

def readMember (value : Json) (name : String) : Except Uncaught (Option Json) :=
  match value with
  | .null => throw .memberOfNull
  | value => pure (member value name)

def isNull : Json → Bool
  | .null => true
  | _ => false

mutual

/-- `String(value)`. The prototype's `toString` answers for an object only where it has
no member of its own of that name. -/
def string (helper : Helper) : Json → Except Uncaught Text
  | .null => pure (units "null")
  | .boolean value => pure (units (if value then "true" else "false"))
  | .number literal => pure (helper.numberText literal)
  | .string text => pure text
  | .array items => do return List.intercalate (units ",") (← itemStrings helper items)
  | .object members =>
    if members.any fun member => member.1 = units "toString" then throw .noPrimitive
    else pure (units "[object Object]")

def itemStrings (helper : Helper) : List Json → Except Uncaught (List Text)
  | [] => pure []
  | item :: rest => do
    let text ← (if isNull item then pure [] else string helper item)
    return text :: (← itemStrings helper rest)

end

/-- Zero is the only number that is not, and the only one written so. -/
def truthy (helper : Helper) : Json → Bool
  | .null => false
  | .boolean value => value
  | .number literal => helper.numberText literal ≠ units "0"
  | .string text => text ≠ []
  | .array _ | .object _ => true

def allowedActions : List String :=
  ["home", "back", "search", "top", "scroll_up", "scroll_down",
    "focus_up", "focus_down", "focus_left", "focus_right", "select",
    "play_pause", "pause", "seek_back", "seek_forward", "previous", "next",
    "volume_down", "volume_up", "mute", "captions", "fullscreen", "layout", "exit"]

def isAction (value : Option Json) (action : String) : Bool :=
  match value with
  | some (.string text) => text = units action
  | _ => false

def allowed (action : Option Json) : Bool := allowedActions.any (isAction action)

def invalidAction (helper : Helper) (payload : Json) : Except Uncaught Bool := do
  if !allowed (← readMember payload "action") then return true
  match ← readMember payload "query" with
  | some query =>
    if truthy helper query then return decide ((← string helper query).length > 200)
    else return false
  | none => return false

end Payload

structure Response where
  status : Nat
  body : Json

/-- What an exchange still waits for. -/
inductive Waiting where
  | nothing
  | body
  | client
  | control
  deriving DecidableEq, Repr

/-- A request with what came of its body, and what was sent back. -/
structure Exchange where
  body : Text
  destroyed : Bool
  waiting : Waiting
  responses : List Response

namespace Exchange

def start : Exchange := ⟨[], false, .body, []⟩

def sendJson (exchange : Exchange) (status : Nat) (body : Json) : Exchange :=
  { exchange with waiting := .nothing, responses := exchange.responses ++ [⟨status, body⟩] }

end Exchange

def object (members : List (String × Json)) : Json :=
  .object (members.map fun (name, value) => (units name, value))

def failure (error : Text) : Json := object [("ok", .boolean false), ("error", .string error)]

/-- The helper's exchanges. Of the controls in the queue the first one runs. -/
structure Server where
  exchanges : List Exchange
  controlQueue : List Nat
  stopTimers : Nat
  uncaught : Option Uncaught

inductive Event where
  | request (target method : Text) (headers : List (Text × Text))
  | data (index : Nat) (chunk : Text)
  | ended (index : Nat)
  | attached (index : Nat) (outcome : Except Text Unit)
  | controlled (outcome : Except Text Json)
  | stopYouTube

/-- The handler of a request. -/
def handle (helper : Helper) (target method : Text) (headers : List (Text × Text)) :
    Except Uncaught Exchange :=
  match helper.pathname (if target = [] then units "/" else target) with
  | none => throw .invalidUrl
  | some pathname =>
    let authorised := method = units "POST" &&
      headers.lookup (units "x-cockpit-control-token") = some helper.expectedToken
    if pathname = units "/health" then
      pure (Exchange.start.sendJson 200 (object [("ok", .boolean true)]))
    else if pathname = units "/attach" && authorised then
      pure { Exchange.start with waiting := .client }
    else if pathname ≠ units "/control" || !authorised then
      pure (Exchange.start.sendJson 404 (failure (units "not_found")))
    else pure .start

namespace Server

def start : Server := ⟨[], [], 0, none⟩

def update (server : Server) (index : Nat) (exchange : Exchange) : Server :=
  { server with exchanges := server.exchanges.set index exchange }

/-- The exchange at the index, if it waits for this. -/
def waitsFor (server : Server) (index : Nat) (waiting : Waiting) : Option Exchange :=
  server.exchanges[index]?.filter fun exchange => exchange.waiting = waiting

/-- A destroyed request has no more data and no end. -/
def receives (server : Server) (index : Nat) : Option Exchange :=
  (server.waitsFor index .body).filter fun exchange => !exchange.destroyed

def onData (server : Server) (index : Nat) (exchange : Exchange) (chunk : Text) : Server :=
  let body := exchange.body ++ chunk
  server.update index
    { exchange with body, destroyed := exchange.destroyed || decide (body.length > 4096) }

def onEnd (helper : Helper) (server : Server) (index : Nat) (exchange : Exchange) :
    Except Uncaught Server :=
  match Json.parse exchange.body with
  | none =>
    pure (server.update index (exchange.sendJson 400 (failure (units "invalid_json"))))
  | some payload => do
    if ← invalidAction helper payload then
      return server.update index (exchange.sendJson 400 (failure (units "invalid_action")))
    if isAction (← readMember payload "action") "exit" then
      let body := object [("ok", .boolean true), ("action", .string (units "exit"))]
      return { server.update index (exchange.sendJson 200 body) with
        stopTimers := server.stopTimers + 1 }
    return { server.update index { exchange with waiting := .control } with
      controlQueue := server.controlQueue ++ [index] }

/-- The process goes on without what was thrown, or it ends. -/
def unlessThrown (server : Server) : Except Uncaught Server → Server
  | .ok next => next
  | .error thrown => { server with uncaught := some thrown }

def react (helper : Helper) (server : Server) : Event → Option Server
  | .request target method headers =>
    some (server.unlessThrown ((handle helper target method headers).map fun exchange =>
      { server with exchanges := server.exchanges ++ [exchange] }))
  | .data index chunk =>
    (server.receives index).map fun exchange => server.onData index exchange chunk
  | .ended index =>
    (server.receives index).map fun exchange =>
      server.unlessThrown (server.onEnd helper index exchange)
  | .attached index outcome =>
    (server.waitsFor index .client).map fun exchange =>
      server.update index <| match outcome with
        | .ok _ => exchange.sendJson 200 (object [("ok", .boolean true), ("attached", .boolean true)])
        | .error message => exchange.sendJson 503 (failure message)
  | .controlled outcome =>
    match server.controlQueue with
    | [] => none
    | index :: rest =>
      (server.waitsFor index .control).map fun exchange =>
        { server.update index (match outcome with
            | .ok result => exchange.sendJson 200 result
            | .error message => exchange.sendJson 503 (failure message)) with
          controlQueue := rest }
  | .stopYouTube =>
    if server.stopTimers = 0 then none
    else some { server with stopTimers := server.stopTimers - 1 }

/-- Nothing happens in a process that has ended. -/
def step (helper : Helper) (server : Server) (event : Event) : Option Server :=
  if server.uncaught.isSome then none else server.react helper event

end Server

section Throwing
variable {helper : Helper}

def Throws (result : Except Uncaught α) : Prop := ∃ thrown, result = .error thrown

@[simp] theorem not_throws_pure (value : α) : ¬Throws (pure value : Except Uncaught α) := nofun

@[simp] theorem throws_throw (thrown : Uncaught) : Throws (throw thrown : Except Uncaught α) :=
  ⟨thrown, rfl⟩

theorem ok_bind (value : α) (next : α → Except Uncaught β) : Except.ok value >>= next = next value :=
  rfl

theorem ok_of_not_throws {result : Except Uncaught α} (returns : ¬Throws result) :
    ∃ value, result = .ok value := by
  cases result with
  | ok value => exact ⟨value, rfl⟩
  | error thrown => exact absurd ⟨thrown, rfl⟩ returns

theorem throws_bind {first : Except Uncaught α} {next : α → Except Uncaught β} :
    Throws (first >>= next) ↔ Throws first ∨ ∃ value, first = .ok value ∧ Throws (next value) := by
  cases first with
  | error thrown => exact iff_of_true ⟨thrown, rfl⟩ (.inl ⟨thrown, rfl⟩)
  | ok value =>
    constructor
    · exact fun throws => .inr ⟨value, rfl, throws⟩
    · rintro (⟨_, isError⟩ | ⟨_, isValue, throws⟩)
      · cases isError
      · cases isValue
        exact throws

/-- An object with a member of its own named `toString`, which is never a function, or a
list that holds one. -/
inductive Unprintable : Json → Prop where
  | object {members : List (Text × Json)} (own : (units "toString", value) ∈ members) :
    Unprintable (.object members)
  | array {items : List Json} (member : item ∈ items) (unprintable : Unprintable item) :
    Unprintable (.array items)

mutual

theorem string_throws_iff (helper : Helper) :
    ∀ value, Throws (string helper value) ↔ Unprintable value
  | .null => iff_of_false nofun nofun
  | .boolean value => iff_of_false nofun nofun
  | .number literal => iff_of_false nofun nofun
  | .string text => iff_of_false nofun nofun
  | .array items => by
    rw [string, throws_bind, item_strings_throw_iff helper items]
    constructor
    · rintro (⟨item, member, unprintable⟩ | ⟨texts, _, throws⟩)
      · exact .array member unprintable
      · exact absurd throws (not_throws_pure _)
    · rintro (_ | ⟨member, unprintable⟩)
      exact .inl ⟨_, member, unprintable⟩
  | .object members => by
    rw [string]
    split
    · rename_i own
      obtain ⟨⟨name, value⟩, member, isName⟩ := List.any_eq_true.mp own
      cases of_decide_eq_true isName
      exact iff_of_true (throws_throw _) (.object member)
    · rename_i notOwn
      refine iff_of_false (not_throws_pure _) ?_
      rintro ⟨own⟩
      exact notOwn (List.any_eq_true.mpr ⟨_, own, decide_eq_true rfl⟩)

theorem item_strings_throw_iff (helper : Helper) :
    ∀ items, Throws (itemStrings helper items) ↔ ∃ item ∈ items, Unprintable item
  | [] => iff_of_false nofun nofun
  | item :: rest => by
    have first : Throws (if isNull item then pure [] else string helper item) ↔
        Unprintable item := by
      split
      · rename_i null
        refine iff_of_false (not_throws_pure _) ?_
        rintro (_ | _) <;> cases null
      · exact string_throws_iff helper item
    rw [itemStrings, throws_bind, first, List.exists_mem_cons_iff]
    refine or_congr_right' fun printable => ?_
    obtain ⟨text, isText⟩ := ok_of_not_throws (printable ∘ first.mp)
    rw [isText, ← item_strings_throw_iff helper rest]
    constructor
    · rintro ⟨_, _, throws⟩
      obtain throws | ⟨texts, _, throws⟩ := throws_bind.mp throws
      · exact throws
      · exact absurd throws (not_throws_pure _)
    · exact fun throws => ⟨text, rfl, throws_bind.mpr (.inl throws)⟩

end

theorem read_member_of_not_null (notNull : isNull payload = false) (name : String) :
    readMember payload name = .ok (member payload name) := by
  cases payload with
  | null => cases notNull
  | _ => rfl

theorem unprintable_truthy (unprintable : Unprintable query) : truthy helper query = true := by
  cases unprintable <;> rfl

/-- A payload that a check of its members throws for. -/
def Fatal (payload : Json) : Prop :=
  isNull payload ∨ ∃ query, allowed (member payload "action") ∧
    member payload "query" = some query ∧ Unprintable query

theorem invalid_action_throws_iff : Throws (invalidAction helper payload) ↔ Fatal payload := by
  by_cases null : isNull payload
  · refine iff_of_true ?_ (.inl null)
    cases payload <;> cases null
    exact ⟨.memberOfNull, rfl⟩
  · have notNull : isNull payload = false := by simpa using null
    unfold invalidAction
    simp only [read_member_of_not_null notNull, ok_bind]
    split
    · rename_i refused
      refine iff_of_false (not_throws_pure _) ?_
      rintro (isNull | ⟨_, isAllowed, _⟩)
      · exact null isNull
      · simp [isAllowed] at refused
    rename_i isAllowed
    have isAllowed : allowed (member payload "action") = true := by simpa using isAllowed
    cases isQuery : member payload "query" with
    | none =>
      refine iff_of_false (not_throws_pure _) ?_
      rintro (isNull | ⟨query, _, isSome, _⟩)
      · exact null isNull
      · cases isQuery.symm.trans isSome
    | some query =>
      have fatal : Fatal payload ↔ Unprintable query := by
        constructor
        · rintro (isNull | ⟨other, _, isOther, unprintable⟩)
          · exact absurd isNull null
          · cases isQuery.symm.trans isOther
            exact unprintable
        · exact fun unprintable => .inr ⟨query, isAllowed, isQuery, unprintable⟩
      rw [fatal]
      dsimp only
      split
      · rw [throws_bind, string_throws_iff]
        exact or_iff_left fun ⟨_, _, throws⟩ => not_throws_pure _ throws
      · rename_i falsy
        exact iff_of_false (not_throws_pure _) fun unprintable =>
          falsy (unprintable_truthy unprintable)

end Throwing

/-- Answered once, or there is something that will answer. -/
def Exchange.Served (queue : List Nat) (index : Nat) (exchange : Exchange) : Prop :=
  match exchange.waiting with
  | .nothing => exchange.responses.length = 1
  | .body => exchange.responses = [] ∧ (exchange.body.length ≤ 4096 ∨ exchange.destroyed)
  | .client => exchange.responses = []
  | .control => exchange.responses = [] ∧ index ∈ queue

theorem Exchange.Served.none_sent {exchange : Exchange} (served : exchange.Served queue index)
    (waits : exchange.waiting ≠ .nothing) : exchange.responses = [] := by
  unfold Exchange.Served at served
  split at served
  · rename_i none
    exact absurd none waits
  · exact served.1
  · exact served
  · exact served.1

theorem served_send_json {exchange : Exchange} (unsent : exchange.responses = []) (status : Nat)
    (body : Json) : (exchange.sendJson status body).Served queue index := by
  change (exchange.responses ++ [_]).length = 1
  rw [unsent]
  rfl

/-- The URL that a request is for. -/
def requested (target : Text) : Text := if target = [] then units "/" else target

theorem handle_throws_iff {helper : Helper} :
    Throws (handle helper target method headers) ↔ helper.pathname (requested target) = none := by
  unfold handle requested
  split
  · rename_i invalid
    exact iff_of_true (throws_throw _) invalid
  · rename_i pathname isPath
    refine iff_of_false (fun throws => ?_) (isPath ▸ nofun)
    dsimp only at throws
    split at throws
    · exact not_throws_pure _ throws
    · split at throws
      · exact not_throws_pure _ throws
      · split at throws
        all_goals exact not_throws_pure _ throws

theorem handle_served {helper : Helper}
    (handled : handle helper target method headers = .ok exchange) :
    exchange.Served queue index := by
  unfold handle at handled
  split at handled
  · cases handled
  · dsimp only at handled
    split at handled
    · cases handled
      exact served_send_json rfl _ _
    · split at handled
      · cases handled
        exact rfl
      · split at handled
        · cases handled
          exact served_send_json rfl _ _
        · cases handled
          exact ⟨rfl, .inl (Nat.zero_le _)⟩

namespace Server

theorem read_member_of_valid {helper : Helper}
    (valid : invalidAction helper payload = .ok invalid) (name : String) :
    readMember payload name = .ok (member payload name) := by
  apply read_member_of_not_null
  cases payload with
  | null => cases valid
  | _ => rfl

/-- One exchange goes on. -/
structure Replaces (before after : Server) (index : Nat) (exchange : Exchange)
    (queue : List Nat) : Prop where
  exchanges : after.exchanges = before.exchanges.set index exchange
  queue : after.controlQueue = queue
  uncaught : after.uncaught = before.uncaught

theorem on_end_throws_iff {helper : Helper} {server : Server} :
    Throws (server.onEnd helper index exchange) ↔
      ∃ payload, Json.parse exchange.body = some payload ∧ Fatal payload := by
  unfold onEnd
  split
  · rename_i invalid
    exact iff_of_false (not_throws_pure _) (by simp [invalid])
  · rename_i payload isPayload
    rw [isPayload, throws_bind, invalid_action_throws_iff]
    simp only [Option.some.injEq, exists_eq_left']
    refine or_iff_left_of_imp ?_
    rintro ⟨invalid, returns, throws⟩
    rw [read_member_of_valid returns] at throws
    split at throws
    · exact absurd throws (not_throws_pure _)
    · rw [ok_bind] at throws
      split at throws
      all_goals exact absurd throws (not_throws_pure _)

theorem on_end_cases {helper : Helper} {server next : Server}
    (ended : server.onEnd helper index exchange = .ok next) :
    (∃ status body,
      Replaces server next index (exchange.sendJson status body) server.controlQueue) ∨
    Replaces server next index { exchange with waiting := .control }
      (server.controlQueue ++ [index]) := by
  unfold onEnd at ended
  split at ended
  · cases ended
    exact .inl ⟨_, _, rfl, rfl, rfl⟩
  · rename_i payload isPayload
    cases returns : invalidAction helper payload with
    | error thrown =>
      rw [returns] at ended
      cases ended
    | ok invalid =>
      rw [returns, ok_bind, read_member_of_valid returns] at ended
      split at ended
      · cases ended
        exact .inl ⟨_, _, rfl, rfl, rfl⟩
      · rw [ok_bind] at ended
        split at ended
        · cases ended
          exact .inl ⟨_, _, rfl, rfl, rfl⟩
        · cases ended
          exact .inr ⟨rfl, rfl, rfl⟩

/-- Each exchange is answered once or is still to be, those in the queue by their
controls. -/
structure Sound (server : Server) : Prop where
  served : ∀ (index : Nat) exchange, server.exchanges[index]? = some exchange →
    exchange.Served server.controlQueue index
  distinct : server.controlQueue.Nodup
  queued : ∀ index ∈ server.controlQueue, ∃ exchange,
    server.exchanges[index]? = some exchange ∧ exchange.waiting = .control

theorem sound_start : Sound start := ⟨nofun, List.nodup_nil, nofun⟩

theorem served_of_queue {exchange : Exchange} (served : exchange.Served queue index)
    (kept : index ∈ queue → index ∈ others) : exchange.Served others index := by
  unfold Exchange.Served at served ⊢
  split at served
  · exact served
  · exact served
  · exact served
  · exact ⟨served.1, kept served.2⟩

/-- The queue changes for one exchange at most, which goes on. -/
theorem Sound.replaces {before after : Server} {index : Nat} {exchange : Exchange}
    (sound : Sound before) (isAt : before.exchanges[index]? = some old)
    (replaces : Replaces before after index exchange queue) (served : exchange.Served queue index)
    (others : ∀ other, other ≠ index → (other ∈ queue ↔ other ∈ before.controlQueue))
    (distinct : queue.Nodup) (own : index ∈ queue → exchange.waiting = .control) : Sound after := by
  have inside : index < before.exchanges.length := (List.getElem?_eq_some_iff.mp isAt).1
  have now : after.exchanges[index]? = some exchange := by
    rw [replaces.exchanges]
    exact List.getElem?_set_self inside
  have still : ∀ other, other ≠ index → after.exchanges[other]? = before.exchanges[other]? := by
    intro other differs
    rw [replaces.exchanges]
    exact List.getElem?_set_ne (Ne.symm differs)
  rw [← replaces.queue] at served others distinct own
  refine ⟨fun other found isFound => ?_, distinct, fun other member => ?_⟩
  · by_cases same : other = index
    · subst same
      cases now.symm.trans isFound
      exact served
    · rw [still other same] at isFound
      exact served_of_queue (sound.served other found isFound) (others other same).mpr
  · by_cases same : other = index
    · subst same
      exact ⟨exchange, now, own member⟩
    · obtain ⟨found, isFound, waits⟩ := sound.queued other ((others other same).mp member)
      exact ⟨found, (still other same).trans isFound, waits⟩

/-- The process is alive and each request is answered once, is destroyed or will be
answered. -/
def Serves (server : Server) : Prop :=
  server.uncaught = none ∧ ∀ (index : Nat) exchange, server.exchanges[index]? = some exchange →
    exchange.Served server.controlQueue index

/-- A body that has ended is not waited for any more. -/
def Ends (_ : Server) (event : Event) (after : Server) : Prop :=
  ∀ (index : Nat) exchange, event = .ended index → after.uncaught = none →
    after.exchanges[index]? = some exchange → exchange.waiting ≠ .body

/-- A request's target gives a URL, and no body that has ended is fatal. -/
def Survives (helper : Helper) (before : Server) (event : Event) (_ : Server) : Prop :=
  (∀ target method headers, event = .request target method headers →
    helper.pathname (requested target) ≠ none) ∧
  ∀ index exchange payload, event = .ended index → before.exchanges[index]? = some exchange →
    Json.parse exchange.body = some payload → ¬Fatal payload

theorem waits_for_eq_some {server : Server} :
    server.waitsFor index waiting = some exchange ↔
      server.exchanges[index]? = some exchange ∧ exchange.waiting = waiting := by
  unfold waitsFor
  rw [Option.filter_eq_some_iff, decide_eq_true_iff]

theorem receives_eq_some {server : Server} :
    server.receives index = some exchange ↔
      server.exchanges[index]? = some exchange ∧ exchange.waiting = .body ∧
        exchange.destroyed = false := by
  unfold receives
  rw [Option.filter_eq_some_iff, waits_for_eq_some, Bool.not_eq_true', and_assoc]

theorem Sound.not_queued {server : Server} (sound : Sound server)
    (isAt : server.exchanges[index]? = some exchange) (waits : exchange.waiting ≠ .control) :
    index ∉ server.controlQueue := by
  intro member
  obtain ⟨other, isOther, waitsOther⟩ := sound.queued index member
  cases isAt.symm.trans isOther
  exact waits waitsOther

theorem unless_thrown_alive {server : Server} {result : Except Uncaught Server}
    (kept : ∀ next, result = .ok next → next.uncaught = none) :
    (server.unlessThrown result).uncaught = none ↔ ¬Throws result := by
  cases result with
  | ok next => exact iff_of_true (kept next rfl) nofun
  | error thrown => exact iff_of_false nofun fun returns => returns ⟨thrown, rfl⟩

/-- The process survives a step where its callback does not throw. -/
theorem react_alive {before after : Server} (alive : before.uncaught = none)
    (reacts : before.react helper event = some after) :
    after.uncaught = none ↔ Survives helper before event after := by
  cases event with
  | request target method headers =>
    cases reacts
    cases handled : handle helper target method headers with
    | error thrown =>
      refine iff_of_false nofun fun survives => survives.1 target method headers rfl ?_
      exact handle_throws_iff.mp ⟨thrown, handled⟩
    | ok exchange =>
      refine iff_of_true alive ⟨?_, nofun⟩
      rintro _ _ _ ⟨⟩ invalid
      obtain ⟨_, throws⟩ := handle_throws_iff.mpr invalid
      cases handled.symm.trans throws
  | data index chunk =>
    obtain ⟨exchange, _, rfl⟩ := Option.map_eq_some_iff.mp reacts
    exact iff_of_true alive ⟨nofun, nofun⟩
  | ended index =>
    obtain ⟨exchange, receives, rfl⟩ := Option.map_eq_some_iff.mp reacts
    obtain ⟨isAt, _⟩ := receives_eq_some.mp receives
    rw [unless_thrown_alive, on_end_throws_iff]
    · constructor
      · intro harmless
        refine ⟨nofun, ?_⟩
        rintro _ _ payload ⟨⟩ isOther isPayload fatal
        cases isAt.symm.trans isOther
        exact harmless ⟨payload, isPayload, fatal⟩
      · rintro ⟨_, harmless⟩ ⟨payload, isPayload, fatal⟩
        exact harmless index exchange payload rfl isAt isPayload fatal
    · intro next ended
      obtain ⟨_, _, replaces⟩ | replaces := on_end_cases ended
      all_goals exact replaces.uncaught.trans alive
  | attached index outcome =>
    obtain ⟨exchange, _, rfl⟩ := Option.map_eq_some_iff.mp reacts
    exact iff_of_true alive ⟨nofun, nofun⟩
  | controlled outcome =>
    simp only [react] at reacts
    split at reacts
    · cases reacts
    · obtain ⟨exchange, _, rfl⟩ := Option.map_eq_some_iff.mp reacts
      exact iff_of_true alive ⟨nofun, nofun⟩
  | stopYouTube =>
    simp only [react] at reacts
    split at reacts
    · cases reacts
    · cases reacts
      exact iff_of_true alive ⟨nofun, nofun⟩

theorem sound_of_request {before after : Server} (sound : Sound before)
    (exchanges : after.exchanges = before.exchanges ++ [exchange])
    (queue : after.controlQueue = before.controlQueue)
    (served : ∀ queue index, exchange.Served queue index) : Sound after := by
  refine ⟨fun index found isFound => ?_, queue ▸ sound.distinct, fun index member => ?_⟩
  · rw [exchanges, List.getElem?_append] at isFound
    split at isFound
    · rw [queue]
      exact sound.served index found isFound
    · cases List.mem_singleton.mp (List.mem_of_getElem? isFound)
      exact served _ _
  · rw [queue] at member
    obtain ⟨found, isFound, waits⟩ := sound.queued index member
    have inside := (List.getElem?_eq_some_iff.mp isFound).1
    refine ⟨found, ?_, waits⟩
    rw [exchanges, List.getElem?_append_left inside]
    exact isFound

/-- More data comes in, and too much of it destroys the request. -/
theorem served_on_data {exchange : Exchange} (unsent : exchange.responses = [])
    (waits : exchange.waiting = .body) (body : Text) :
    Exchange.Served queue index { exchange with
      body, destroyed := exchange.destroyed || decide (body.length > 4096) } := by
  unfold Exchange.Served
  simp only [waits]
  refine ⟨unsent, ?_⟩
  by_cases short : body.length ≤ 4096
  · exact .inl short
  · right
    rw [Bool.or_eq_true, decide_eq_true_iff]
    exact .inr (Nat.lt_of_not_le short)

/-- An exchange that no control is queued for goes on without the queue. -/
theorem Sound.replaces_unqueued {before after : Server} {exchange : Exchange}
    (sound : Sound before) (isAt : before.exchanges[index]? = some old)
    (waits : old.waiting ≠ .control)
    (replaces : Replaces before after index exchange before.controlQueue)
    (served : exchange.Served before.controlQueue index) : Sound after :=
  sound.replaces isAt replaces served (fun _ _ => Iff.rfl) sound.distinct
    (absurd · (sound.not_queued isAt waits))

theorem Sound.queues {before after : Server} {exchange : Exchange} (sound : Sound before)
    (isAt : before.exchanges[index]? = some exchange) (waits : exchange.waiting = .body)
    (replaces : Replaces before after index { exchange with waiting := .control }
      (before.controlQueue ++ [index])) : Sound after := by
  have unsent := (sound.served index exchange isAt).none_sent (by simp [waits])
  have free := sound.not_queued isAt (by simp [waits])
  have others : ∀ other, other ≠ index →
      (other ∈ before.controlQueue ++ [index] ↔ other ∈ before.controlQueue) := by
    intro other differs
    simp [differs]
  have distinct : (before.controlQueue ++ [index]).Nodup := by
    rw [← List.concat_eq_append]
    exact (List.nodup_concat _ _).mpr ⟨free, sound.distinct⟩
  exact sound.replaces isAt replaces ⟨unsent, List.mem_append_right _ List.mem_cons_self⟩ others
    distinct fun _ => rfl

/-- What a step makes of sound exchanges, where its callback does not throw. -/
theorem react_sound {before after : Server} (sound : Sound before) (alive : after.uncaught = none)
    (reacts : before.react helper event = some after) : Sound after := by
  cases event with
  | request target method headers =>
    cases reacts
    cases handled : handle helper target method headers with
    | error thrown =>
      rw [handled] at alive
      cases alive
    | ok exchange =>
      exact sound_of_request sound rfl rfl fun _ _ => handle_served handled
  | data index chunk =>
    obtain ⟨exchange, receives, rfl⟩ := Option.map_eq_some_iff.mp reacts
    obtain ⟨isAt, waits, _⟩ := receives_eq_some.mp receives
    have unsent := (sound.served index exchange isAt).none_sent (by simp [waits])
    exact sound.replaces_unqueued isAt (by simp [waits]) ⟨rfl, rfl, rfl⟩
      (served_on_data unsent waits _)
  | ended index =>
    obtain ⟨exchange, receives, rfl⟩ := Option.map_eq_some_iff.mp reacts
    obtain ⟨isAt, waits, _⟩ := receives_eq_some.mp receives
    cases ended : before.onEnd helper index exchange with
    | error thrown =>
      rw [ended] at alive
      cases alive
    | ok next =>
      obtain ⟨status, body, replaces⟩ | replaces := on_end_cases ended
      · have unsent := (sound.served index exchange isAt).none_sent (by simp [waits])
        exact sound.replaces_unqueued isAt (by simp [waits]) replaces
          (served_send_json unsent status body)
      · exact sound.queues isAt waits replaces
  | attached index outcome =>
    obtain ⟨exchange, waitsFor, rfl⟩ := Option.map_eq_some_iff.mp reacts
    obtain ⟨isAt, waits⟩ := waits_for_eq_some.mp waitsFor
    have unsent := (sound.served index exchange isAt).none_sent (by simp [waits])
    cases outcome
    all_goals
      exact sound.replaces_unqueued isAt (by simp [waits]) ⟨rfl, rfl, rfl⟩
        (served_send_json unsent _ _)
  | controlled outcome =>
    simp only [react] at reacts
    split at reacts
    · cases reacts
    · rename_i index rest isQueue
      obtain ⟨exchange, waitsFor, rfl⟩ := Option.map_eq_some_iff.mp reacts
      obtain ⟨isAt, waits⟩ := waits_for_eq_some.mp waitsFor
      have unsent := (sound.served index exchange isAt).none_sent (by simp [waits])
      obtain ⟨gone, distinct⟩ := List.nodup_cons.mp (isQueue ▸ sound.distinct)
      have others : ∀ other, other ≠ index → (other ∈ rest ↔ other ∈ before.controlQueue) := by
        intro other differs
        rw [isQueue, List.mem_cons]
        exact (or_iff_right differs).symm
      cases outcome
      all_goals
        exact sound.replaces isAt ⟨rfl, rfl, rfl⟩ (served_send_json unsent _ _) others distinct
          (absurd · gone)
  | stopYouTube =>
    simp only [react] at reacts
    split at reacts
    · cases reacts
    · cases reacts
      exact ⟨sound.served, sound.distinct, sound.queued⟩

theorem step_ends {before after : Server} (stepped : step helper before event = some after) :
    Ends before event after := by
  rintro index exchange rfl alive isAt
  obtain ⟨-, reacts⟩ := Option.ite_none_left_eq_some.mp stepped
  obtain ⟨waited, receives, rfl⟩ := Option.map_eq_some_iff.mp reacts
  obtain ⟨wasAt, _⟩ := receives_eq_some.mp receives
  cases ended : before.onEnd helper index waited with
  | error thrown =>
    rw [ended] at alive
    cases alive
  | ok next =>
    rw [ended] at isAt
    have inside := (List.getElem?_eq_some_iff.mp wasAt).1
    obtain ⟨status, body, replaces⟩ | replaces := on_end_cases ended
    · have isAt : next.exchanges[index]? = some exchange := isAt
      rw [replaces.exchanges, List.getElem?_set_self inside] at isAt
      cases isAt
      nofun
    · have isAt : next.exchanges[index]? = some exchange := isAt
      rw [replaces.exchanges, List.getElem?_set_self inside] at isAt
      cases isAt
      nofun

/-- Along a run the process stays alive and owes no answer, exactly if every request
gives a URL and no body is fatal; and who has sent the whole body is not left waiting
for it. -/
theorem serves_iff (helper : Helper) (events : List Event) :
    (Along (step helper) (fun _ _ after => after.Serves) start events ↔
      Along (step helper) (Survives helper) start events) ∧
    Along (step helper) Ends start events := by
  refine ⟨along_iff (fun server => server.uncaught = none ∧ Sound server)
    (fun before event after sound stepped => ?_)
    (fun before event after sound stepped survives => ?_) ⟨rfl, sound_start⟩,
    along_imp (fun _ => True) (fun _ _ _ _ stepped _ => step_ends stepped)
      (fun _ _ _ _ _ _ => trivial) trivial (along_of_events fun _ _ _ _ => trivial)⟩
  · have reacts : before.react helper event = some after := by
      simpa [step, sound.1] using stepped
    rw [← react_alive sound.1 reacts]
    exact ⟨And.left, fun alive => ⟨alive, (react_sound sound.2 alive reacts).served⟩⟩
  · have reacts : before.react helper event = some after := by
      simpa [step, sound.1] using stepped
    have alive := (react_alive sound.1 reacts).mpr survives
    exact ⟨alive, react_sound sound.2 alive reacts⟩

/-- A control with the right token whose body is `null`. -/
def nullControl : List Event :=
  [.request (units "/control") (units "POST") [(units "x-cockpit-control-token", units "token")],
    .data 0 (units "null")]

/-- It ends the process. -/
theorem null_control_throws :
    ¬Along (step ⟨units "token", some, id⟩) (fun _ _ after => after.Serves) start
      (nullControl ++ [.ended 0]) := by
  intro along
  have serves := along_last along rfl rfl
  cases serves.1

end Server

end MoonlightWeb.YouTubeRemote
