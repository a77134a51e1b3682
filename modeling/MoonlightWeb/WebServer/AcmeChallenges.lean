import Mathlib.Data.List.Infix
import MoonlightWeb.Lib.Machine
import MoonlightWeb.Lib.OrderedMap
import MoonlightWeb.Lib.Utf8

/-! The store of ACME challenges. A put keeps a key authorization under its token, a
get serves it to the certificate authority, and a delete takes it away. The body of a
put may be any bytes. -/
namespace MoonlightWeb.WebServer.Acme
open Machine Utf8

abbrev Token := List Char

def MAX_KEY_AUTH_LEN : Nat := 256

def MAX_CHALLENGES : Nat := 10

abbrev AcmeChallengeStore := OrderedMap Token (List Byte)

inductive Status where
  | badRequest | tooManyRequests | notFound
  deriving DecidableEq

/-- An answer in plain text, a fixed one or the content asked for. -/
inductive HttpResponse where
  | refused (status : Status) (body : String)
  | ok (body : String)
  | served (content : List Byte)
  deriving DecidableEq

/-- A token that could lead out of the directory of challenges. -/
def Traverses (token : Token) : Prop := ['.', '.'] <:+: token ∨ '/' ∈ token ∨ '\\' ∈ token

instance (token : Token) : Decidable (Traverses token) := inferInstanceAs (Decidable (_ ∨ _))

/-- `file` is the trimmed content of the token's file, where it can be read. -/
def getChallenge (store : AcmeChallengeStore) (token : Token) (file : Option (List Byte)) :
    HttpResponse :=
  if Traverses token then .refused .badRequest "Invalid token"
  else match store.get token with
    | some keyAuth => .served keyAuth
    | none => match file with
      | some content => .served content
      | none => .refused .notFound "Challenge not found"

/-- The start of a key authorization for the log, where the slice is on characters. -/
def logged (keyAuth : List Byte) : Option (List Byte) := slice keyAuth (min keyAuth.length 30)

/-- No response stands for a panic, which lets go of the store's lock. -/
def putChallenge (store : AcmeChallengeStore) (token : Token) (body : List Byte) :
    Option HttpResponse × AcmeChallengeStore :=
  if MAX_KEY_AUTH_LEN < body.length then
    (some (.refused .badRequest "Key authorization too long"), store)
  else
    let keyAuth := lossy body
    if MAX_CHALLENGES ≤ store.entries.length ∧ token ∉ store.keys then
      (some (.refused .tooManyRequests "Challenge store full"), store)
    else match logged keyAuth with
      | some _ => (some (.ok "Challenge set"), store.set token keyAuth)
      | none => (none, store)

def deleteChallenge (store : AcmeChallengeStore) (token : Token) :
    HttpResponse × AcmeChallengeStore :=
  if token ∈ store.keys then (.ok "Challenge removed", store.delete token)
  else (.refused .notFound "Challenge not found", store)

/-! ## Requests in turn -/

inductive Request where
  | put (token : Token) (body : List Byte)
  | get (token : Token) (file : Option (List Byte))
  | delete (token : Token)

/-- `trace` has the requests so far with their responses. -/
structure Service where
  store : AcmeChallengeStore
  trace : List (Request × Option HttpResponse)

namespace Service

def start : Service := ⟨.empty, []⟩

def handle (store : AcmeChallengeStore) : Request → Option HttpResponse × AcmeChallengeStore
  | .put token body => putChallenge store token body
  | .get token file => (some (getChallenge store token file), store)
  | .delete token => (some (deleteChallenge store token).1, (deleteChallenge store token).2)

def step (service : Service) (request : Request) : Option Service :=
  some ⟨(handle service.store request).2,
    service.trace ++ [(request, (handle service.store request).1)]⟩

/-- What one request leaves of the body last accepted for a token. -/
def accepted (token : Token) (before : Option (List Byte)) :
    Request × Option HttpResponse → Option (List Byte)
  | (.put other body, some (.ok _)) => if other = token then some body else before
  | (.delete other, _) => if other = token then none else before
  | _ => before

/-- The body of a token's last accepted put that no delete followed. -/
def lastBody (trace : List (Request × Option HttpResponse)) (token : Token) : Option (List Byte) :=
  trace.foldl (accepted token) none

/-- The response to one request, and what it does to the store. -/
structure Sound (before : Service) (request : Request) (after : Service) : Prop where
  noPanic : (handle before.store request).1 ≠ none
  bounded : after.store.entries.length ≤ MAX_CHALLENGES
  rejected : ∀ token body status text, request = .put token body →
    (handle before.store request).1 = some (.refused status text) → after.store = before.store
  found : ∀ token file, request = .get token file → token ∈ before.store.keys →
    ∃ body, lastBody before.trace token = some body ∧
      (Valid body → (handle before.store request).1 = some (.served body))

/-- A put that is not refused has a text that may be cut for the log, and a get of a
text in the store does not look like a path. -/
def Plain (before : Service) : Request → Service → Prop
  | .put token body, _ =>
    body.length ≤ MAX_KEY_AUTH_LEN →
      (before.store.entries.length < MAX_CHALLENGES ∨ token ∈ before.store.keys) →
        isCharBoundary (lossy body) (min (lossy body).length 30) = true
  | .get token _, _ =>
    ∀ body, lastBody before.trace token = some body → Valid body → ¬ Traverses token
  | .delete _, _ => True

/-- The store is never over its bound and holds the texts of the bodies. -/
structure Keeps (service : Service) : Prop where
  bounded : service.store.entries.length ≤ MAX_CHALLENGES
  texts : ∀ token, service.store.get token = (lastBody service.trace token).map lossy

theorem getChallenge_traverses (store : AcmeChallengeStore) (traverses : Traverses token)
    (file : Option (List Byte)) :
    getChallenge store token file = .refused .badRequest "Invalid token" := if_pos traverses

theorem getChallenge_stored {store : AcmeChallengeStore} (stays : ¬ Traverses token)
    (held : store.get token = some keyAuth) (file : Option (List Byte)) :
    getChallenge store token file = .served keyAuth := by
  refine (if_neg stays).trans ?_
  rw [held]

theorem logged_eq_none_iff (keyAuth : List Byte) :
    logged keyAuth = none ↔ ¬ isCharBoundary keyAuth (min keyAuth.length 30) = true := by
  rw [logged, slice]
  split_ifs with boundary
  · exact iff_of_false (fun same => by cases same) (not_not.mpr boundary)
  · exact iff_of_true rfl boundary

/-- Whether a put gets to its log line. -/
def Admits (store : AcmeChallengeStore) (token : Token) (body : List Byte) : Prop :=
  body.length ≤ MAX_KEY_AUTH_LEN ∧
    (store.entries.length < MAX_CHALLENGES ∨ token ∈ store.keys)

/-- All that a put can do. -/
theorem putChallenge_cases (store : AcmeChallengeStore) (token : Token) (body : List Byte) :
    (¬ Admits store token body ∧ ∃ status text,
      putChallenge store token body = (some (.refused status text), store)) ∨
    (Admits store token body ∧
      isCharBoundary (lossy body) (min (lossy body).length 30) = true ∧
      putChallenge store token body =
        (some (.ok "Challenge set"), store.set token (lossy body))) ∨
    (Admits store token body ∧
      ¬ isCharBoundary (lossy body) (min (lossy body).length 30) = true ∧
      putChallenge store token body = (none, store)) := by
  rw [putChallenge]
  by_cases long : MAX_KEY_AUTH_LEN < body.length
  · rw [if_pos long]
    exact .inl ⟨fun admits => Nat.not_le.mpr long admits.1, _, _, rfl⟩
  · rw [if_neg long]
    by_cases full : MAX_CHALLENGES ≤ store.entries.length ∧ token ∉ store.keys
    · simp only [if_pos full]
      refine .inl ⟨fun admits => ?_, _, _, rfl⟩
      obtain room | known := admits.2
      · exact Nat.not_le.mpr room full.1
      · exact full.2 known
    · simp only [if_neg full]
      have admits : Admits store token body := by
        refine ⟨Nat.not_lt.mp long, ?_⟩
        by_cases known : token ∈ store.keys
        · exact .inr known
        · exact .inl (Nat.not_le.mp fun atBound => full ⟨atBound, known⟩)
      cases isLogged : logged (lossy body) with
      | none => exact .inr (.inr ⟨admits, (logged_eq_none_iff _).mp isLogged, rfl⟩)
      | some start =>
        refine .inr (.inl ⟨admits, ?_, rfl⟩)
        by_contra cut
        rw [(logged_eq_none_iff _).mpr cut] at isLogged
        cases isLogged

theorem lastBody_append (trace : List (Request × Option HttpResponse))
    (last : Request × Option HttpResponse) (token : Token) :
    lastBody (trace ++ [last]) token = accepted token (lastBody trace token) last := by
  rw [lastBody, List.foldl_append, lastBody]
  rfl

theorem keeps_start : Keeps start := ⟨Nat.zero_le _, fun _ => rfl⟩

theorem keeps_put {service : Service} (keeps : service.Keeps) (token : Token) (body : List Byte)
    (taken : step service (.put token body) = some after) : after.Keeps := by
  cases taken
  obtain ⟨-, status, text, put⟩ | ⟨admits, -, put⟩ | ⟨-, -, put⟩ :=
    putChallenge_cases service.store token body
  · simp only [handle, put]
    refine ⟨keeps.bounded, fun probe => ?_⟩
    rw [lastBody_append]
    exact keeps.texts probe
  · simp only [handle, put]
    refine ⟨?_, fun probe => ?_⟩
    · rw [OrderedMap.length_set]
      split_ifs with known
      · exact keeps.bounded
      · exact admits.2.resolve_right known
    · rw [lastBody_append, OrderedMap.get_set, accepted]
      by_cases same : probe = token
      · rw [if_pos same, if_pos same.symm]
        rfl
      · rw [if_neg same, if_neg (Ne.symm same)]
        exact keeps.texts probe
  · simp only [handle, put]
    refine ⟨keeps.bounded, fun probe => ?_⟩
    rw [lastBody_append]
    exact keeps.texts probe

theorem keeps_delete {service : Service} (keeps : service.Keeps) (token : Token)
    (taken : step service (.delete token) = some after) : after.Keeps := by
  cases taken
  have deleted (probe : Token) :
      (deleteChallenge service.store token).2.get probe =
        if probe = token then none else service.store.get probe := by
    rw [deleteChallenge]
    split_ifs with known same same
    · rw [OrderedMap.get_delete, if_pos same]
    · rw [OrderedMap.get_delete, if_neg same]
    · rw [same]
      exact Option.eq_none_iff_forall_ne_some.mpr fun value held =>
        known (service.store.mem_keys_iff.mpr ⟨value, held⟩)
    · rfl
  constructor
  · refine le_trans ?_ keeps.bounded
    simp only [handle, deleteChallenge]
    split_ifs
    · exact List.length_filter_le _ _
    · exact le_rfl
  · intro probe
    rw [lastBody_append]
    refine (deleted probe).trans ?_
    rw [handle, accepted]
    by_cases same : probe = token
    · rw [if_pos same, if_pos same.symm]
      rfl
    · rw [if_neg same, if_neg (Ne.symm same)]
      exact keeps.texts probe

theorem keeps_step (service : Service) (request : Request) (after : Service)
    (keeps : service.Keeps) (taken : step service request = some after) : after.Keeps := by
  cases request with
  | put token body => exact keeps_put keeps token body taken
  | get token file =>
    cases taken
    exact ⟨keeps.bounded, fun probe => by rw [lastBody_append]; exact keeps.texts probe⟩
  | delete token => exact keeps_delete keeps token taken

/-- A request is answered as it should be exactly where it is plain. -/
theorem sound_iff_plain (before : Service) (request : Request) (after : Service)
    (keeps : before.Keeps) (taken : step before request = some after) :
    Sound before request after ↔ Plain before request after := by
  have bounded := (keeps_step before request after keeps taken).bounded
  cases taken
  cases request with
  | put token body =>
    obtain ⟨refused, status, text, put⟩ | ⟨-, boundary, put⟩ | ⟨admits, cut, put⟩ :=
      putChallenge_cases before.store token body
    · refine iff_of_true ⟨?_, bounded, ?_, (fun _ _ same => by cases same)⟩
        fun fits admitted => absurd ⟨fits, admitted⟩ refused
      · simp only [handle, put]
        exact fun none => by cases none
      · intro other probe status text same isRefused
        simp only [handle, put]
    · refine iff_of_true ⟨?_, bounded, ?_, (fun _ _ same => by cases same)⟩ fun _ _ => boundary
      · simp only [handle, put]
        exact fun none => by cases none
      · intro other probe status text same isRefused
        simp only [handle, put] at isRefused
        cases isRefused
    · refine iff_of_false (fun sound => sound.noPanic ?_) fun plain =>
        cut (plain admits.1 admits.2)
      simp only [handle, put]
  | get token file =>
    constructor
    · intro sound body isLast valid traverses
      have stored : before.store.get token = some (lossy body) := by
        rw [keeps.texts, isLast]
        rfl
      obtain ⟨other, alsoLast, answered⟩ := sound.found token file rfl
        (before.store.mem_keys_iff.mpr ⟨_, stored⟩)
      cases isLast.symm.trans alsoLast
      have answer := answered valid
      rw [handle, getChallenge_traverses _ traverses] at answer
      cases answer
    · intro plain
      refine ⟨(fun none => by cases none), bounded, (fun _ _ _ _ same => by cases same), ?_⟩
      intro other probe same known
      cases same
      obtain ⟨content, held⟩ := before.store.mem_keys_iff.mp known
      have texts := keeps.texts token
      rw [held] at texts
      obtain ⟨body, isLast, isContent⟩ := Option.map_eq_some_iff.mp texts.symm
      refine ⟨body, isLast, fun valid => ?_⟩
      rw [handle, getChallenge_stored (plain body isLast valid) held, ← isContent,
        lossy_of_valid valid]
  | delete token =>
    exact iff_of_true ⟨(fun none => by cases none), bounded,
      (fun _ _ _ _ same => by cases same), (fun _ _ same => by cases same)⟩ trivial

/-- In every run the store stays within its bound and has the texts last accepted, and
all requests are answered as they should be exactly where all of them are plain. -/
theorem challenges_sound_iff {requests : List Request} {final : Service}
    (ran : run step start requests = some final) :
    final.store.entries.length ≤ MAX_CHALLENGES ∧
      (Along step Sound start requests ↔ Along step Plain start requests) :=
  ⟨(run_preserves keeps_step keeps_start ran).bounded,
    along_iff Keeps sound_iff_plain
      (fun before request after keeps taken _ => keeps_step before request after keeps taken)
      keeps_start⟩

/-- Twenty-nine letters and a two-byte one. -/
def straddling : List Byte := List.replicate 29 0x61 ++ [0xC3, 0xA9]

/-- A text is put, asked for and deleted before a longer one is put. -/
def renewal : List Request :=
  [.put ['t'] [0x6B, 0x65, 0x79], .get ['t'] none, .delete ['t'], .put ['t'] straddling]

theorem challenges_sound_straddling :
    ∃ final, run step start renewal = some final ∧
      final.trace.map Prod.snd = [some (.ok "Challenge set"), some (.served [0x6B, 0x65, 0x79]),
        some (.ok "Challenge removed"), none] ∧
      final.store.entries.length ≤ MAX_CHALLENGES ∧
      (Along step Sound start renewal ↔ Along step Plain start renewal) :=
  ⟨_, rfl, by decide, challenges_sound_iff rfl⟩

/-- The log line cuts the last letter. -/
theorem straddling_put_panics : ¬ Along step Sound start [.put ['t'] straddling] := by
  intro along
  have panics : (handle start.store (.put ['t'] straddling)).1 = none := by decide
  exact (along _ rfl).1.noPanic panics

end Service

end MoonlightWeb.WebServer.Acme
