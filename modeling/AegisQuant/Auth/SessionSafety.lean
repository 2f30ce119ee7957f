import AegisQuant.Auth.SessionHandlers
import AegisQuant.Library.Run

/-! What holds of the tokens and the sessions whatever the order of the steps,
and when the answers go to active users only. -/
namespace AegisQuant.Auth
open Transition List
variable (service : AuthService)

/-- The row of the user says that he may log in. -/
def Active (users : UserTable) (userId : Uuid) : Prop :=
  ∃ record, users.find? userId = some record ∧ UserStatus.fromStr record.status = .ok .active

instance decidableActive (users : UserTable) (userId : Uuid) : Decidable (Active users userId) :=
  decidable_of_iff
    (∃ record ∈ users.find? userId, UserStatus.fromStr record.status = .ok .active)
    Iff.rfl

/-- Tokens go only to active users, and neither a refresh nor an access token
of a session is honoured after the logout of the session. -/
def StepSafe (system : AuthSystem) (step : AuthStep) : Prop :=
  match answer? service system step with
  | some (.loggedIn user _ _) => Active system.users user.id
  | some (.refreshed user session _ _ _) =>
    Active system.users user.id ∧ session.id ∉ system.loggedOut
  | some (.accepted actor) => ∀ sessionId, actor.sessionId = some sessionId →
      Active system.users actor.userId ∧ sessionId ∉ system.loggedOut
  | none => True

instance decidableStepSafe (system : AuthSystem) (step : AuthStep) :
    Decidable (StepSafe service system step) := by
  unfold StepSafe
  split
  · infer_instance
  · infer_instance
  · rename_i actor _
    exact decidable_of_iff (∀ sessionId ∈ actor.sessionId,
      Active system.users actor.userId ∧ sessionId ∉ system.loggedOut) Iff.rfl
  · infer_instance

/-- Each refresh token is exchanged once at most, and every step is safe. -/
def SessionSafe (system : AuthSystem) (steps : List AuthStep) : Prop :=
  (run (authStep service) system steps).exchanged.Nodup ∧
    Along (authStep service) (StepSafe service) system steps

instance decidableSessionSafe (system : AuthSystem) (steps : List AuthStep) :
    Decidable (SessionSafe service system steps) :=
  inferInstanceAs (Decidable (_ ∧ _))

/-- The generated refresh tokens are distinct, and so are their hashes. -/
def DrawsFresh (system : AuthSystem) (step : AuthStep) : Prop :=
  ∀ token, drawnToken? service system step = some token → token.hash ∉ system.drawn

instance decidableDrawsFresh (system : AuthSystem) (step : AuthStep) :
    Decidable (DrawsFresh service system step) :=
  decidable_of_iff (∀ token ∈ drawnToken? service system step, token.hash ∉ system.drawn) Iff.rfl

section Effects
variable {service}

/-- A handler that has neither rotated a token nor been let in with a session
that does not exist. -/
def Harmless (sessions : SessionTable) : AuthHandler → Prop
  | .rotated .. => False
  | .authorized actor => ∀ sessionId, actor.sessionId = some sessionId →
      (sessions.find? sessionId).isSome
  | _ => True

def HandlersFrom (before : AuthSystem) (handlers : Nat → Option AuthHandler) : Prop :=
  ∀ id handler, handlers id = some handler →
    before.handlers id = some handler ∨ Harmless before.sessions handler

variable (system : AuthSystem)

theorem handlersFrom_refl : HandlersFrom system system.handlers :=
  fun _ _ hHandler => .inl hHandler

variable {handler : Option AuthHandler}

theorem handlersFrom_update {system : AuthSystem} {id : Nat}
    (hHandler : ∀ held, handler = some held → Harmless system.sessions held) :
    HandlersFrom system (Function.update system.handlers id handler) := by
  intro other held hHeld
  by_cases hSame : other = id
  · rw [hSame, Function.update_self] at hHeld
    exact .inr (hHandler held hHeld)
  · rw [Function.update_of_ne hSame] at hHeld
    exact .inl hHeld

theorem handlersFrom_clear (id : Nat) :
    HandlersFrom system (Function.update system.handlers id none) :=
  handlersFrom_update fun _ hHeld => nomatch hHeld

/-- What a step does to the sessions, to the refresh tokens and to the handlers
that hold one. -/
inductive AuthEffect (service : AuthService) (before : AuthSystem) (step : AuthStep) :
    AuthSystem → Prop
  | kept {users handlers issued drawn} (hHandlers : HandlersFrom before handlers)
      (hDrawn : before.drawn ⊆ drawn) :
      AuthEffect service before step { before with
        users := users, handlers := handlers, issued := issued, drawn := drawn }
  | opened {sessionId token sessions handlers issued}
      (hToken : drawnToken? service before step = some token)
      (hSessions : Rehashed before.sessions sessions sessionId token.hash)
      (hHandlers : HandlersFrom before handlers) :
      AuthEffect service before step { before with
        sessions := sessions, handlers := handlers, issued := issued
        drawn := before.drawn ++ [token.hash] }
  | rotated {id sessionId raw next session sessions}
      (hToken : drawnToken? service before step = some next)
      (hCurrent : CurrentHash before.sessions sessionId (service.libraries.hashRefreshToken raw))
      (hSessions : Rehashed before.sessions sessions sessionId next.hash) :
      AuthEffect service before step { before with
        sessions := sessions
        handlers := Function.update before.handlers id (some (.rotated raw next session))
        drawn := before.drawn ++ [next.hash] }
  | answered {id raw next session issued}
      (hHandler : before.handlers id = some (.rotated raw next session)) :
      AuthEffect service before step { before with
        handlers := Function.update before.handlers id none, issued := issued
        exchanged := before.exchanged ++ [raw] }
  | revoked {id actor sessionId now}
      (hHandler : before.handlers id = some (.authorized actor))
      (hSession : actor.sessionId = some sessionId) :
      AuthEffect service before step { before with
        sessions := revokeSession before.sessions sessionId now now
        handlers := Function.update before.handlers id none
        loggedOut := before.loggedOut ++ [sessionId] }

theorem authEffect_refl (step : AuthStep) : AuthEffect service system step system :=
  .kept (handlersFrom_refl system) (List.Subset.refl _)

theorem authEffect_setHandler {system : AuthSystem} {step : AuthStep} {id : Nat}
    (hHandler : ∀ held, handler = some held → Harmless system.sessions held) :
    AuthEffect service system step (system.setHandler id handler) :=
  .kept (handlersFrom_update hHandler) (List.Subset.refl _)

theorem answer?_authorize {system : AuthSystem} {id : Nat} {access : RouteAccess}
    {token : Option AccessTokenClaims} {now : DateTime} {answer : AuthAnswer}
    (hAnswer : answer? service system (.authorize id access token now) = some answer) :
    ∃ actor, answer = .accepted actor ∧ system.handlers id = none ∧
      authorizeRequest service.libraries service.config system.sessions system.issued access token
        now = .ok (some actor) := by
  unfold answer? at hAnswer
  dsimp only at hAnswer
  split at hAnswer
  · rename_i hIdle
    split at hAnswer
    · rename_i actor hAccepted
      cases hAnswer
      exact ⟨actor, rfl, hIdle, hAccepted⟩
    · cases hAnswer
  · cases hAnswer

theorem authStep_effect (step : AuthStep) :
    AuthEffect service system step (authStep service system step) := by
  cases step with
  | checkLogin id email password =>
    unfold authStep
    dsimp only
    split
    · split
      · exact authEffect_refl system _
      · exact authEffect_setHandler fun held hHeld => by
          cases hHeld
          trivial
    · exact authEffect_refl system _
  | touchLogin id now =>
    unfold authStep
    dsimp only
    split
    · refine .kept (handlersFrom_update fun held hHeld => ?_) (List.Subset.refl _)
      split at hHeld
      · cases hHeld
      · cases hHeld
        trivial
    · exact authEffect_refl system _
  | openSession id sessionId secret client now =>
    unfold authStep
    dsimp only
    split
    · rename_i user hHandler
      simp only [answer?, hHandler]
      cases hOpened : insertSession system.sessions sessionId user.id
          (issueRefreshToken service.libraries sessionId secret).hash
          (now + service.config.refreshTokenTtl) now client with
      | none => exact .kept (handlersFrom_clear system id) (subset_append_left ..)
      | some opened =>
        refine .opened ?_ (insertSession_rehashed hOpened) (handlersFrom_clear system id)
        simp only [drawnToken?, hHandler]
    · exact authEffect_refl system _
  | readSession id cookie body now =>
    unfold authStep
    dsimp only
    split
    · split
      · exact authEffect_refl system _
      · exact authEffect_setHandler fun held hHeld => by
          cases hHeld
          trivial
    · exact authEffect_refl system _
  | rotateSession id secret client now =>
    unfold authStep
    dsimp only
    split
    · rename_i raw session hHandler
      split
      · exact .kept (handlersFrom_clear system id) (subset_append_left ..)
      · rename_i sessions rotated hRotated
        obtain ⟨hCurrent, hSessions⟩ := rotateSessionRefreshToken_rehashed hRotated
        refine .rotated ?_ hCurrent hSessions
        simp only [drawnToken?, hHandler]
    · exact authEffect_refl system _
  | readUser id now =>
    unfold authStep
    dsimp only
    split
    · rename_i raw next session hHandler
      simp only [answer?, hHandler]
      cases refreshedUser system.users session.userId with
      | error err => exact .kept (handlersFrom_clear system id) (List.Subset.refl _)
      | ok user => exact .answered hHandler
    · exact authEffect_refl system _
  | authorize id access token now =>
    unfold authStep
    dsimp only
    split
    · rename_i actor hAnswer
      refine authEffect_setHandler fun held hHeld => ?_
      cases hHeld
      intro sessionId hSession
      obtain ⟨_, hAccepted, -, hRequest⟩ := answer?_authorize hAnswer
      cases hAccepted
      obtain ⟨session, hFind, -⟩ :=
        (authorizeRequest_accepts_iff.mp ⟨hRequest, hSession⟩).live
      rw [hFind]
      rfl
    · exact authEffect_refl system _
  | logout id now =>
    unfold authStep
    dsimp only
    split
    · rename_i actor hHandler
      split
      · exact .kept (handlersFrom_clear system id) (List.Subset.refl _)
      · exact .revoked hHandler ‹_›
    · exact authEffect_refl system _
  | setStatus userId status => exact .kept (handlersFrom_refl system) (List.Subset.refl _)

end Effects

section Exchanges
variable {service} {before after : AuthSystem} {step : AuthStep}
variable {handlers : Nat → Option AuthHandler}

def HoldsRotated (handlers : Nat → Option AuthHandler) (id : Nat) (raw : String) : Prop :=
  ∃ next session, handlers id = some (.rotated raw next session)

/-- Answered with a new pair, or rotated and about to be answered. -/
def Spent (system : AuthSystem) (raw : String) : Prop :=
  raw ∈ system.exchanged ∨ ∃ id, HoldsRotated system.handlers id raw

/-- A token that is spent is current for no session, and a hash is current for
one session at most. -/
structure Hashes (service : AuthService) (system : AuthSystem) : Prop where
  drawn : ∀ sessionId hash, CurrentHash system.sessions sessionId hash → hash ∈ system.drawn
  distinct : ∀ first second hash, CurrentHash system.sessions first hash →
    CurrentHash system.sessions second hash → first = second
  spent : ∀ raw, Spent system raw → service.libraries.hashRefreshToken raw ∈ system.drawn ∧
    ∀ sessionId, ¬CurrentHash system.sessions sessionId (service.libraries.hashRefreshToken raw)

/-- Of the requests that present one token, at most one gets past the rotation. -/
structure Exchanges (system : AuthSystem) : Prop where
  once : system.exchanged.Nodup
  pending : ∀ id raw, HoldsRotated system.handlers id raw → raw ∉ system.exchanged
  apart : ∀ first second raw, HoldsRotated system.handlers first raw →
    HoldsRotated system.handlers second raw → first = second

theorem HandlersFrom.holdsRotated (hHandlers : HandlersFrom before handlers) {id : Nat}
    {raw : String} (hHeld : HoldsRotated handlers id raw) :
    HoldsRotated before.handlers id raw := by
  obtain ⟨next, session, hHandler⟩ := hHeld
  rcases hHandlers id _ hHandler with hBefore | hHarmless
  · exact ⟨next, session, hBefore⟩
  · cases hHarmless

theorem holdsRotated_update {id other : Nat} {raw held : String} {next : RefreshToken}
    {session : SessionRecord}
    (hHeld : HoldsRotated (Function.update handlers id (some (.rotated raw next session)))
      other held) : other = id ∧ held = raw ∨ other ≠ id ∧ HoldsRotated handlers other held := by
  obtain ⟨heldNext, heldSession, hHandler⟩ := hHeld
  by_cases hSame : other = id
  · rw [hSame, Function.update_self] at hHandler
    cases hHandler
    exact .inl ⟨hSame, rfl⟩
  · rw [Function.update_of_ne hSame] at hHandler
    exact .inr ⟨hSame, heldNext, heldSession, hHandler⟩

theorem HandlersFrom.spent (hHandlers : HandlersFrom before handlers) {raw : String}
    (hSpent : raw ∈ before.exchanged ∨ ∃ id, HoldsRotated handlers id raw) : Spent before raw := by
  rcases hSpent with hExchanged | ⟨id, hHeld⟩
  · exact .inl hExchanged
  · exact .inr ⟨id, hHandlers.holdsRotated hHeld⟩

theorem Exchanges.handlersFrom (hInv : Exchanges before) (hHandlers : HandlersFrom before handlers)
    (hAfter : after.handlers = handlers) (hExchanged : after.exchanged = before.exchanged) :
    Exchanges after where
  once := hExchanged ▸ hInv.once
  pending := fun id raw hHeld => by
    rw [hAfter] at hHeld
    rw [hExchanged]
    exact hInv.pending id raw (hHandlers.holdsRotated hHeld)
  apart := fun first second raw hFirst hSecond => by
    rw [hAfter] at hFirst hSecond
    exact hInv.apart first second raw (hHandlers.holdsRotated hFirst)
      (hHandlers.holdsRotated hSecond)

/-- A fresh hash in the row of one session. -/
theorem Hashes.rehashed (hInv : Hashes service before) {sessions : SessionTable}
    {sessionId : Uuid} {hash : String} (hFresh : hash ∉ before.drawn)
    (hSessions : Rehashed before.sessions sessions sessionId hash) :
    (∀ other otherHash, CurrentHash sessions other otherHash → otherHash ∈ before.drawn ++ [hash]) ∧
    (∀ first second shared, CurrentHash sessions first shared →
      CurrentHash sessions second shared → first = second) ∧
    ∀ old ∈ before.drawn, ∀ other, CurrentHash sessions other old →
      other ≠ sessionId ∧ CurrentHash before.sessions other old := by
  have hOld : ∀ old ∈ before.drawn, ∀ other, CurrentHash sessions other old →
      other ≠ sessionId ∧ CurrentHash before.sessions other old := by
    intro old hDrawn other hCurrent
    rcases hSessions.currentHash hCurrent with ⟨-, hNew⟩ | hKept
    · exact absurd (hNew ▸ hDrawn) hFresh
    · exact hKept
  refine ⟨?_, ?_, hOld⟩
  · intro other otherHash hCurrent
    rcases hSessions.currentHash hCurrent with ⟨-, hNew⟩ | ⟨-, hKept⟩
    · exact hNew ▸ mem_append_right _ (mem_singleton_self _)
    · exact mem_append_left _ (hInv.drawn other otherHash hKept)
  · intro first second shared hFirst hSecond
    by_cases hDrawn : shared ∈ before.drawn
    · exact hInv.distinct first second shared (hOld shared hDrawn first hFirst).2
        (hOld shared hDrawn second hSecond).2
    · have hNew (other : Uuid) (hCurrent : CurrentHash sessions other shared) :
          other = sessionId := by
        rcases hSessions.currentHash hCurrent with ⟨hSame, -⟩ | ⟨-, hKept⟩
        · exact hSame
        · exact absurd (hInv.drawn other shared hKept) hDrawn
      rw [hNew first hFirst, hNew second hSecond]

theorem Hashes.effect (hInv : Hashes service before) (hFresh : DrawsFresh service before step)
    (hEffect : AuthEffect service before step after) : Hashes service after := by
  cases hEffect with
  | kept hHandlers hDrawn =>
    refine ⟨fun sessionId hash hCurrent => hDrawn (hInv.drawn sessionId hash hCurrent),
      hInv.distinct, fun raw hSpent => ?_⟩
    obtain ⟨hOld, hGone⟩ := hInv.spent raw (hHandlers.spent hSpent)
    exact ⟨hDrawn hOld, hGone⟩
  | opened hToken hSessions hHandlers =>
    obtain ⟨hDrawn, hDistinct, hOlder⟩ := hInv.rehashed (hFresh _ hToken) hSessions
    refine ⟨hDrawn, hDistinct, fun raw hSpent => ?_⟩
    obtain ⟨hOld, hGone⟩ := hInv.spent raw (hHandlers.spent hSpent)
    exact ⟨mem_append_left _ hOld,
      fun other hCurrent => hGone other (hOlder _ hOld other hCurrent).2⟩
  | @rotated id sessionId presented next session sessions hToken hCurrent hSessions =>
    obtain ⟨hDrawn, hDistinct, hOlder⟩ := hInv.rehashed (hFresh _ hToken) hSessions
    refine ⟨hDrawn, hDistinct, fun raw hSpent => ?_⟩
    have hCases : Spent before raw ∨ raw = presented := by
      rcases hSpent with hExchanged | ⟨other, hHeld⟩
      · exact .inl (.inl hExchanged)
      · rcases holdsRotated_update hHeld with ⟨-, hSame⟩ | ⟨-, hBefore⟩
        · exact .inr hSame
        · exact .inl (.inr ⟨other, hBefore⟩)
    rcases hCases with hBefore | rfl
    · obtain ⟨hOld, hGone⟩ := hInv.spent raw hBefore
      exact ⟨mem_append_left _ hOld, fun other hAfter => hGone other (hOlder _ hOld other hAfter).2⟩
    · have hOld := hInv.drawn sessionId _ hCurrent
      refine ⟨mem_append_left _ hOld, fun other hAfter => ?_⟩
      obtain ⟨hOther, hBefore⟩ := hOlder _ hOld other hAfter
      exact hOther (hInv.distinct other sessionId _ hBefore hCurrent)
  | @answered id presented next session issued hHandler =>
    refine ⟨hInv.drawn, hInv.distinct, fun raw hSpent => hInv.spent raw ?_⟩
    rcases hSpent with hExchanged | hHeld
    · rcases mem_append.mp hExchanged with hBefore | hNew
      · exact .inl hBefore
      · rw [mem_singleton.mp hNew]
        exact .inr ⟨id, next, session, hHandler⟩
    · exact (handlersFrom_clear before id).spent (.inr hHeld)
  | @revoked id actor sessionId now hHandler hSession =>
    refine ⟨?_, ?_, fun raw hSpent => ?_⟩
    · intro other hash hCurrent
      exact hInv.drawn other hash (currentHash_revokeSession.mp hCurrent)
    · intro first second hash hFirst hSecond
      exact hInv.distinct first second hash (currentHash_revokeSession.mp hFirst)
        (currentHash_revokeSession.mp hSecond)
    · obtain ⟨hOld, hGone⟩ := hInv.spent raw ((handlersFrom_clear before id).spent hSpent)
      exact ⟨hOld, fun other hCurrent => hGone other (currentHash_revokeSession.mp hCurrent)⟩

theorem Exchanges.effect (hInv : Exchanges before) (hHashes : Hashes service before)
    (hEffect : AuthEffect service before step after) : Exchanges after := by
  cases hEffect with
  | kept hHandlers => exact hInv.handlersFrom hHandlers rfl rfl
  | opened hToken hSessions hHandlers => exact hInv.handlersFrom hHandlers rfl rfl
  | revoked => exact hInv.handlersFrom (handlersFrom_clear before _) rfl rfl
  | @rotated id sessionId presented next session sessions hToken hCurrent =>
    have hUnspent : ¬Spent before presented :=
      fun hSpent => (hHashes.spent presented hSpent).2 sessionId hCurrent
    refine ⟨hInv.once, fun other raw hHeld => ?_, fun first second raw hFirst hSecond => ?_⟩
    · rcases holdsRotated_update hHeld with ⟨-, rfl⟩ | ⟨-, hBefore⟩
      · exact fun hExchanged => hUnspent (.inl hExchanged)
      · exact hInv.pending other raw hBefore
    · rcases holdsRotated_update hFirst with ⟨hFirstId, rfl⟩ | ⟨-, hFirstBefore⟩
      · rcases holdsRotated_update hSecond with ⟨hSecondId, -⟩ | ⟨-, hSecondBefore⟩
        · rw [hFirstId, hSecondId]
        · exact absurd (.inr ⟨second, hSecondBefore⟩) hUnspent
      · rcases holdsRotated_update hSecond with ⟨-, rfl⟩ | ⟨-, hSecondBefore⟩
        · exact absurd (.inr ⟨first, hFirstBefore⟩) hUnspent
        · exact hInv.apart first second raw hFirstBefore hSecondBefore
  | @answered id presented next session issued hHandler =>
    have hPresented : HoldsRotated before.handlers id presented := ⟨next, session, hHandler⟩
    have hClear := handlersFrom_clear before id
    refine ⟨?_, fun other raw hHeld => ?_, fun first second raw hFirst hSecond => ?_⟩
    · rw [nodup_append]
      refine ⟨hInv.once, nodup_singleton _, ?_⟩
      intro raw hRaw other hOther hSame
      rw [mem_singleton.mp hOther] at hSame
      exact hInv.pending id presented hPresented (hSame ▸ hRaw)
    · have hBefore := hClear.holdsRotated hHeld
      intro hExchanged
      rcases mem_append.mp hExchanged with hOld | hNew
      · exact hInv.pending other raw hBefore hOld
      · rw [mem_singleton.mp hNew] at hBefore
        obtain ⟨heldNext, heldSession, hHandlers⟩ := hHeld
        rw [hInv.apart other id presented hBefore hPresented] at hHandlers
        simp at hHandlers
    · exact hInv.apart first second raw (hClear.holdsRotated hFirst)
        (hClear.holdsRotated hSecond)

end Exchanges

section LoggedOut
variable {service} {before after : AuthSystem} {step : AuthStep}
variable {handlers : Nat → Option AuthHandler}

/-- A logout leaves its session revoked, since the actor of the logout was let
in with a row that exists and no row is ever deleted. -/
structure LoggedOutRevoked (system : AuthSystem) : Prop where
  revoked : ∀ sessionId ∈ system.loggedOut, Revoked system.sessions sessionId
  found : ∀ id actor sessionId, system.handlers id = some (.authorized actor) →
    actor.sessionId = some sessionId → (system.sessions.find? sessionId).isSome

variable {actor : AuthenticatedActor}

theorem HandlersFrom.found (hHandlers : HandlersFrom before handlers)
    (hInv : LoggedOutRevoked before) {id : Nat} {sessionId : Uuid}
    (hHandler : handlers id = some (.authorized actor))
    (hSession : actor.sessionId = some sessionId) : (before.sessions.find? sessionId).isSome := by
  rcases hHandlers id _ hHandler with hBefore | hHarmless
  · exact hInv.found id actor sessionId hBefore hSession
  · exact hHarmless sessionId hSession

theorem handlersFrom_rotated_found {id other : Nat} {raw : String} {next : RefreshToken}
    {session : SessionRecord}
    (hHandler : Function.update handlers id (some (.rotated raw next session)) other =
      some (.authorized actor)) : handlers other = some (.authorized actor) := by
  by_cases hSame : other = id
  · rw [hSame, Function.update_self] at hHandler
    cases hHandler
  · rwa [Function.update_of_ne hSame] at hHandler

theorem LoggedOutRevoked.effect (hInv : LoggedOutRevoked before)
    (hEffect : AuthEffect service before step after) : LoggedOutRevoked after := by
  cases hEffect with
  | kept hHandlers =>
    exact ⟨hInv.revoked, fun id actor sessionId => hHandlers.found hInv⟩
  | opened hToken hSessions hHandlers =>
    refine ⟨?_, ?_⟩
    · intro sessionId hOut
      exact hSessions.keeps_revoked (hInv.revoked sessionId hOut)
    · intro id actor sessionId hHandler hSession
      exact hSessions.isSome (hHandlers.found hInv hHandler hSession)
  | rotated hToken hCurrent hSessions =>
    refine ⟨?_, ?_⟩
    · intro sessionId hOut
      exact hSessions.keeps_revoked (hInv.revoked sessionId hOut)
    · intro id actor sessionId hHandler hSession
      exact hSessions.isSome
        (hInv.found id actor sessionId (handlersFrom_rotated_found hHandler) hSession)
  | @answered id raw next session issued hHandler =>
    exact ⟨hInv.revoked, fun other actor sessionId =>
      (handlersFrom_clear before id).found hInv⟩
  | @revoked id actor sessionId now hHandler hSession =>
    refine ⟨?_, ?_⟩
    · intro other hOut
      rcases mem_append.mp hOut with hOld | hNew
      · exact (hInv.revoked other hOld).revokeSession now now
      · rw [mem_singleton.mp hNew]
        exact revoked_revokeSession (hInv.found id actor sessionId hHandler hSession) now now
    · intro otherId other otherSession hOther hOtherSession
      rw [find?_revokeSession, Option.isSome_map]
      exact (handlersFrom_clear before id).found hInv hOther hOtherSession

theorem LoggedOutRevoked.not_accepted (hInv : LoggedOutRevoked before) {sessionId : Uuid}
    {now : DateTime} (hLive : LiveSession before.sessions sessionId now) :
    sessionId ∉ before.loggedOut := by
  intro hOut
  obtain ⟨session, hFind, hNone, -⟩ := hLive
  obtain ⟨revoked, hRevoked, hSome⟩ := hInv.revoked sessionId hOut
  rw [hFind] at hRevoked
  cases hRevoked
  rw [hNone] at hSome
  cases hSome

end LoggedOut

/-- What the handlers leave unchecked: when a session is opened after a login,
when the user of a rotated session is read and when a token of a live session is
presented, the user has not been disabled since his password was verified, and
the session was not logged out between the rotation and the reading. -/
def StillActive (system : AuthSystem) : AuthStep → Prop
  | .openSession id sessionId _ _ _ => ∀ user, system.handlers id = some (.loginTouched user) →
      system.sessions.find? sessionId = none → Active system.users user.id
  | .readUser id _ => ∀ raw next session, system.handlers id = some (.rotated raw next session) →
      ∀ record user, system.users.find? session.userId = some record →
        userFromRecord record = .ok user →
        user.status = .active ∧ session.id ∉ system.loggedOut
  | .authorize id access token now => system.handlers id = none →
      ∀ actor sessionId, Bears service.libraries service.config system.sessions system.issued
        access token now actor sessionId → Active system.users actor.userId
  | _ => True

theorem active_iff {users : UserTable} {userId : Uuid} {record : UserRecord} {user : User}
    (hFind : users.find? userId = some record) (hUser : userFromRecord record = .ok user) :
    Active users userId ↔ user.status = .active := by
  obtain ⟨-, hStatus⟩ := userFromRecord_ok hUser
  constructor
  · rintro ⟨active, hActive, hRead⟩
    rw [hFind] at hActive
    cases hActive
    rw [hStatus] at hRead
    exact Except.ok.inj hRead
  · intro hActive
    exact ⟨record, hFind, hActive ▸ hStatus⟩


section Agreement
variable {service} {system : AuthSystem}

variable {now : DateTime}

theorem stepSafe_openSession_iff {id : Nat} {sessionId : Uuid} {secret : String}
    {client : ClientInfo} :
    StepSafe service system (.openSession id sessionId secret client now) ↔
      StillActive service system (.openSession id sessionId secret client now) := by
  cases hHandler : system.handlers id with
  | none => simp [StepSafe, StillActive, answer?, hHandler]
  | some handler => cases handler with
    | loginTouched user =>
      simp only [StepSafe, StillActive, answer?, hHandler]
      cases hOpened : insertSession system.sessions sessionId user.id
          (issueRefreshToken service.libraries sessionId secret).hash
          (now + service.config.refreshTokenTtl) now client with
      | none =>
        have hUsed : system.sessions.find? sessionId ≠ none :=
          mt insertSession_isSome.mpr (by rw [hOpened]; exact Bool.false_ne_true)
        simp [hUsed]
      | some opened =>
        have hUnused := insertSession_isSome.mp (Option.isSome_of_eq_some hOpened)
        simp [hUnused]
    | _ => simp [StepSafe, StillActive, answer?, hHandler]

theorem stepSafe_readUser_iff {id : Nat} :
    StepSafe service system (.readUser id now) ↔ StillActive service system (.readUser id now) := by
  cases hHandler : system.handlers id with
  | none => simp [StepSafe, StillActive, answer?, hHandler]
  | some handler => cases handler with
    | rotated raw next session =>
      simp only [StepSafe, StillActive, answer?, hHandler]
      cases hUser : refreshedUser system.users session.userId with
      | error err =>
        have hNone (record : UserRecord) (user : User)
            (hFind : system.users.find? session.userId = some record)
            (hLoaded : userFromRecord record = .ok user) : False := by
          rw [refreshedUser_eq_ok.mpr ⟨record, hFind, hLoaded⟩] at hUser
          cases hUser
        simp only [true_iff]
        intro _ _ _ hHeld record user hFind hLoaded
        cases hHeld
        exact (hNone record user hFind hLoaded).elim
      | ok user =>
        obtain ⟨record, hFind, hLoaded⟩ := refreshedUser_eq_ok.mp hUser
        have hId : user.id = session.userId :=
          (userFromRecord_ok hLoaded).1.trans (Table.key_of_find? hFind)
        dsimp only
        rw [hId, active_iff hFind hLoaded]
        constructor
        · intro hSafe _ _ _ hHeld other otherUser hOther hOtherLoaded
          cases hHeld
          rw [hFind] at hOther
          cases hOther
          rw [hLoaded] at hOtherLoaded
          cases hOtherLoaded
          exact hSafe
        · intro hActive
          exact hActive raw next session rfl record user hFind hLoaded
    | _ => simp [StepSafe, StillActive, answer?, hHandler]

theorem stepSafe_authorize_iff (hInv : LoggedOutRevoked system) {id : Nat} {access : RouteAccess}
    {token : Option AccessTokenClaims} :
    StepSafe service system (.authorize id access token now) ↔
      StillActive service system (.authorize id access token now) := by
  cases hAnswer : answer? service system (.authorize id access token now) with
  | none =>
    simp only [StepSafe, hAnswer, StillActive, true_iff]
    intro hIdle actor sessionId hBears
    obtain ⟨hAccepted, -⟩ := authorizeRequest_accepts_iff.mpr hBears
    simp only [answer?, hIdle, hAccepted] at hAnswer
    cases hAnswer
  | some answer =>
    obtain ⟨actor, rfl, hIdle, hAccepted⟩ := answer?_authorize hAnswer
    simp only [StepSafe, hAnswer, StillActive]
    constructor
    · intro hSafe _ other sessionId hBears
      obtain ⟨hOther, hSession⟩ := authorizeRequest_accepts_iff.mpr hBears
      rw [hAccepted] at hOther
      cases hOther
      exact (hSafe sessionId hSession).1
    · intro hActive sessionId hSession
      have hBears := authorizeRequest_accepts_iff.mp ⟨hAccepted, hSession⟩
      exact ⟨hActive hIdle actor sessionId hBears, hInv.not_accepted hBears.live⟩

theorem stepSafe_iff (hInv : LoggedOutRevoked system) (step : AuthStep) :
    StepSafe service system step ↔ StillActive service system step := by
  cases step with
  | openSession => exact stepSafe_openSession_iff
  | readUser => exact stepSafe_readUser_iff
  | authorize => exact stepSafe_authorize_iff hInv
  | _ => exact Iff.rfl

end Agreement

section Runs
variable {service}

/-- What every run keeps while the generated tokens are distinct. -/
structure Sound (service : AuthService) (system : AuthSystem) : Prop where
  hashes : Hashes service system
  exchanges : Exchanges system
  loggedOut : LoggedOutRevoked system

theorem sound_start (users : UserTable) : Sound service (.start users) := by
  refine ⟨⟨?_, ?_, ?_⟩, ⟨nodup_nil, ?_, ?_⟩, ⟨?_, ?_⟩⟩
  · rintro sessionId hash ⟨session, hFind, -⟩
    cases hFind
  · rintro first second hash ⟨session, hFind, -⟩
    cases hFind
  · rintro raw (hExchanged | ⟨id, next, session, hHandler⟩)
    · cases hExchanged
    · cases hHandler
  · rintro id raw ⟨next, session, hHandler⟩
    cases hHandler
  · rintro first second raw ⟨next, session, hHandler⟩
    cases hHandler
  · intro sessionId hOut
    cases hOut
  · intro id actor sessionId hHandler
    cases hHandler

theorem Sound.step {system : AuthSystem} {step : AuthStep} (hSound : Sound service system)
    (hFresh : DrawsFresh service system step) : Sound service (authStep service system step) :=
  have hEffect := authStep_effect system step
  ⟨hSound.hashes.effect hFresh hEffect, hSound.exchanges.effect hSound.hashes hEffect,
    hSound.loggedOut.effect hEffect⟩

theorem exchanged_nodup {users : UserTable} {steps : List AuthStep}
    (hFresh : Along (authStep service) (DrawsFresh service) (.start users) steps) :
    (run (authStep service) (.start users) steps).exchanged.Nodup :=
  (run_invariant_of_along (fun _ _ => Sound.step) (sound_start users) hFresh).exchanges.once

/-- No token is exchanged twice and none is accepted after a logout in any run;
the rest holds of a run precisely if what the handlers leave unchecked does. -/
theorem session_safe_iff (service : AuthService) (users : UserTable) (steps : List AuthStep)
    (hFresh : Along (authStep service) (DrawsFresh service) (.start users) steps) :
    SessionSafe service (.start users) steps ↔
      Along (authStep service) (StillActive service) (.start users) steps := by
  have hAgree : Along (authStep service)
      (fun system step => DrawsFresh service system step ∧ StepSafe service system step)
        (.start users) steps ↔
      Along (authStep service)
        (fun system step => DrawsFresh service system step ∧ StillActive service system step)
        (.start users) steps :=
    along_iff_of_invariant
      (fun _ step (hSound : Sound service _) =>
        and_congr_right fun _ => stepSafe_iff hSound.loggedOut step)
      (fun _ _ hSound hStep => hSound.step hStep.1) steps (sound_start users)
  rw [along_and, along_and] at hAgree
  constructor
  · rintro ⟨-, hSafe⟩
    exact (hAgree.mp ⟨hFresh, hSafe⟩).2
  · intro hActive
    exact ⟨exchanged_nodup hFresh, (hAgree.mpr ⟨hFresh, hActive⟩).2⟩

def sampleUser : UserRecord where
  id := ⟨1⟩
  email := "owner@example.com"
  passwordHash := "$argon2id$v=19$m=19456,t=2,p=1$c2FsdHNhbHQ$Y29ycmVjdGhvcnNl"
  role := "OWNER"
  status := "ACTIVE"
  createdAt := 0
  updatedAt := 0
  lastLoginAt := none

def sampleUsers : UserTable := ⟨[sampleUser], by decide⟩

def sampleSession : Uuid := ⟨10⟩

def sampleSecret : String := "0123456789abcdef0123456789abcdef0123456789abcdef0123456789abcdef"

def sampleNextSecret : String := "fedcba9876543210fedcba9876543210fedcba9876543210fedcba9876543210"

def sampleLostSecret : String := "00112233445566778899aabbccddeeff00112233445566778899aabbccddeeff"

def sampleService : AuthService where
  libraries := {
    hashRefreshToken := fun raw =>
      if raw = sampleSession.toString ++ "." ++ sampleSecret then
        "b2877734a2c4e043d00c17aaaf5323c04341f9105c3a1e9c788634290119c2ac"
      else if raw = sampleSession.toString ++ "." ++ sampleNextSecret then
        "0370319fc25b4d84118d0da6eefab792c025ac48ff7a69bad58ad03ee449598b"
      else if raw = sampleSession.toString ++ "." ++ sampleLostSecret then
        "65d2de9da84466bd29d0c6ab5a78d511aa89b1f9498b77b8ecfaccacfdd7524b"
      else raw
    verifyPassword := fun password hash =>
      password = "correct horse" && hash = sampleUser.passwordHash
    parseUuid := fun text => [sampleUser.id, sampleSession].find? fun id => id.toString = text
    unexpired := fun exp now => now / 1000000000 ≤ exp + 60 }
  config := {
    disabled := false
    accessTokenTtl := 900000000000
    refreshTokenTtl := 604800000000000 }

def sampleToken : RefreshToken := issueRefreshToken sampleService.libraries sampleSession sampleSecret

def sampleLogin : List AuthStep :=
  [.checkLogin 0 "owner@example.com" "correct horse", .touchLogin 0 1,
    .openSession 0 sampleSession sampleSecret ⟨none, none⟩ 2]

def sampleAccessToken : AccessTokenClaims where
  sub := sampleUser.id.toString
  email := sampleUser.email
  role := .owner
  sessionId := sampleSession.toString
  exp := 900
  iat := 0

def sampleSteps : List AuthStep :=
  sampleLogin ++
  [.readSession 1 none (some sampleToken.raw) 3, .readSession 2 none (some sampleToken.raw) 3,
    .rotateSession 1 sampleNextSecret ⟨none, none⟩ 4,
    .rotateSession 2 sampleLostSecret ⟨none, none⟩ 4, .readUser 1 5, .readUser 2 5,
    .authorize 3 .authenticated (some sampleAccessToken) 6, .logout 3 7,
    .authorize 4 .authenticated (some sampleAccessToken) 8]

/-- The user is disabled between his login and the refresh of his session. -/
def disabledSteps : List AuthStep :=
  sampleLogin ++
  [.setStatus sampleUser.id "DISABLED", .readSession 1 none (some sampleToken.raw) 3,
    .rotateSession 1 sampleNextSecret ⟨none, none⟩ 4, .readUser 1 5,
    .authorize 2 .owner (some sampleAccessToken) 6]

theorem session_safe_sample :
    Along (authStep sampleService) (StillActive sampleService) (.start sampleUsers) sampleSteps :=
  (session_safe_iff sampleService sampleUsers sampleSteps (by decide +kernel)).mp
    (by decide +kernel)

theorem disabled_user_refreshes :
    Along (authStep sampleService) (DrawsFresh sampleService) (.start sampleUsers) disabledSteps ∧
    ¬SessionSafe sampleService (.start sampleUsers) disabledSteps := by
  decide +kernel

end Runs


end AegisQuant.Auth
