import AegisQuant.Core.Users
import AegisQuant.Library.Table

/-! Sessions and the tokens that belong to them: the statements on `sessions` and
`users`, and the parts of the login, refresh, logout and authorization handlers
that lie between two statements. -/
namespace AegisQuant.Auth
open Option

structure SessionRecord where
  id : Uuid
  userId : Uuid
  refreshTokenHash : String
  expiresAt : DateTime
  revokedAt : Option DateTime
  createdAt : DateTime
  updatedAt : DateTime
  userAgent : Option String
  ipAddress : Option String
  deriving DecidableEq

abbrev UserTable := Table UserRecord.id
abbrev SessionTable := Table SessionRecord.id

/-- The lifetimes are in nanoseconds, as every duration here. -/
structure AuthConfig where
  disabled : Bool
  accessTokenTtl : Int
  refreshTokenTtl : Int

/-- What the handlers take from libraries: SHA-256 in hexadecimal, the Argon2
verification, the parser of UUIDs, and whether a token with this `exp` is still
accepted at a time. -/
structure AuthLibraries where
  hashRefreshToken : String → String
  verifyPassword : String → String → Bool
  parseUuid : String → Option Uuid
  unexpired : Int → DateTime → Bool

/-- Who asks, as far as it is stored with a session. -/
structure ClientInfo where
  userAgent : Option String
  ipAddress : Option String

structure AccessTokenClaims where
  sub : String
  email : String
  role : UserRole
  sessionId : String
  exp : Int
  iat : Int
  deriving DecidableEq

structure AuthenticatedActor where
  userId : Uuid
  email : String
  role : UserRole
  sessionId : Option Uuid
  deriving DecidableEq

structure RefreshToken where
  raw : String
  hash : String
  deriving DecidableEq

structure AuthFailure where
  status : Nat
  error : String
  message : String
  deriving DecidableEq

inductive RouteAccess where
  | «public»
  | authenticated
  | operator
  | owner
  deriving DecidableEq

section Tokens
variable (libraries : AuthLibraries)

def issueAccessToken (config : AuthConfig) (user : User) (sessionId : Uuid) (now : DateTime) :
    AccessTokenClaims where
  sub := user.id.toString
  email := user.email
  role := user.role
  sessionId := sessionId.toString
  exp := (now + config.accessTokenTtl) / 1000000000
  iat := now / 1000000000

def decodeAccessToken (issued : List AccessTokenClaims) (token : AccessTokenClaims)
    (now : DateTime) : Option AccessTokenClaims :=
  if token ∈ issued ∧ libraries.unexpired token.exp now then some token else none

def actorFromClaims (claims : AccessTokenClaims) : Option AuthenticatedActor := do
  let userId ← libraries.parseUuid claims.sub
  let sessionId ← libraries.parseUuid claims.sessionId
  return {
    userId := userId
    email := claims.email
    role := claims.role
    sessionId := some sessionId }

/-- `secret` is drawn for the token. -/
def issueRefreshToken (sessionId : Uuid) (secret : String) : RefreshToken :=
  let raw := sessionId.toString ++ "." ++ secret
  { raw := raw, hash := libraries.hashRefreshToken raw }

/-- The part before the first dot names the session. -/
def parseRefreshToken (raw : String) : Option Uuid :=
  if '.' ∈ raw.toList then
    libraries.parseUuid (String.ofList (raw.toList.takeWhile (· ≠ '.')))
  else none

end Tokens

section Statements
variable (users : UserTable) (sessions : SessionTable)

def getUserByEmail (email : String) : Option UserRecord :=
  users.rows.find? fun record => toAsciiLowercase record.email = toAsciiLowercase email

def updateUserLastLogin (userId : Uuid) (now : DateTime) : UserTable :=
  users.modify userId (fun record => { record with lastLoginAt := some now, updatedAt := now })
    fun _ => rfl

def updateUserStatus (userId : Uuid) (status : String) : UserTable :=
  users.modify userId (fun record => { record with status := status }) fun _ => rfl

def insertSession (id userId : Uuid) (refreshTokenHash : String) (expiresAt now : DateTime)
    (client : ClientInfo) : Option SessionTable :=
  sessions.insert? {
    id := id
    userId := userId
    refreshTokenHash := refreshTokenHash
    expiresAt := expiresAt
    revokedAt := none
    createdAt := now
    updatedAt := now
    userAgent := client.userAgent
    ipAddress := client.ipAddress }

def getSessionByIdAndHash (sessionId : Uuid) (refreshTokenHash : String) : Option SessionRecord :=
  (sessions.find? sessionId).filter (·.refreshTokenHash = refreshTokenHash)

def rotatedSession (nextHash : String) (expiresAt now : DateTime) (client : ClientInfo)
    (session : SessionRecord) : SessionRecord :=
  { session with
    refreshTokenHash := nextHash
    expiresAt := expiresAt
    updatedAt := now
    userAgent := client.userAgent.or session.userAgent
    ipAddress := client.ipAddress.or session.ipAddress }

/-- The update is conditional: the row must still have the hash that was read
and must not be revoked. -/
def rotateSessionRefreshToken (sessionId : Uuid) (currentHash nextHash : String)
    (expiresAt now : DateTime) (client : ClientInfo) : Option (SessionTable × SessionRecord) :=
  match sessions.find? sessionId with
  | none => none
  | some session =>
    if session.refreshTokenHash = currentHash ∧ session.revokedAt = none then
      some (sessions.modify sessionId (rotatedSession nextHash expiresAt now client)
        (fun _ => rfl), rotatedSession nextHash expiresAt now client session)
    else none

/-- The first revocation stands. -/
def revokeSession (sessionId : Uuid) (revokedAt now : DateTime) : SessionTable :=
  sessions.modify sessionId (fun session =>
    { session with revokedAt := session.revokedAt.or (some revokedAt), updatedAt := now })
    fun _ => rfl

end Statements

section Hashes
variable {before after : SessionTable}
variable {sessions : SessionTable} {sessionId other : Uuid} {hash : String}
  {expiresAt now : DateTime} {client : ClientInfo} {nextHash : String}

/-- The row of this session waits for a refresh token with this hash. -/
def CurrentHash (sessions : SessionTable) (sessionId : Uuid) (hash : String) : Prop :=
  ∃ session, sessions.find? sessionId = some session ∧ session.refreshTokenHash = hash

def Revoked (sessions : SessionTable) (sessionId : Uuid) : Prop :=
  ∃ session, sessions.find? sessionId = some session ∧ session.revokedAt.isSome

/-- The row of the session now waits for this hash, and the row of no other
session has changed. -/
structure Rehashed (before after : SessionTable) (sessionId : Uuid) (hash : String) : Prop where
  current : CurrentHash after sessionId hash
  other : ∀ other, other ≠ sessionId → after.find? other = before.find? other
  revoked : Revoked before sessionId → Revoked after sessionId

theorem CurrentHash.eq {first second : String} (hFirst : CurrentHash sessions sessionId first)
    (hSecond : CurrentHash sessions sessionId second) : first = second := by
  obtain ⟨session, hFind, rfl⟩ := hFirst
  obtain ⟨other, hOther, rfl⟩ := hSecond
  rw [hFind] at hOther
  cases hOther
  rfl

theorem Rehashed.currentHash {otherHash : String} (hRehashed : Rehashed before after sessionId hash)
    (hCurrent : CurrentHash after other otherHash) :
    other = sessionId ∧ otherHash = hash ∨
      other ≠ sessionId ∧ CurrentHash before other otherHash := by
  by_cases hSame : other = sessionId
  · subst hSame
    exact .inl ⟨rfl, hCurrent.eq hRehashed.current⟩
  · right
    refine ⟨hSame, ?_⟩
    rw [CurrentHash, hRehashed.other other hSame] at hCurrent
    exact hCurrent

theorem Rehashed.isSome (hRehashed : Rehashed before after sessionId hash)
    (hFound : (before.find? other).isSome) : (after.find? other).isSome := by
  by_cases hSame : other = sessionId
  · obtain ⟨session, hFind, -⟩ := hRehashed.current
    rw [hSame, hFind]
    rfl
  · rwa [hRehashed.other other hSame]

theorem Rehashed.keeps_revoked (hRehashed : Rehashed before after sessionId hash)
    (hRevoked : Revoked before other) : Revoked after other := by
  by_cases hSame : other = sessionId
  · subst hSame
    exact hRehashed.revoked hRevoked
  · rwa [Revoked, hRehashed.other other hSame]

theorem insertSession_isSome {id userId : Uuid} :
    (insertSession sessions id userId hash expiresAt now client).isSome ↔
      sessions.find? id = none := by
  unfold insertSession Table.insert?
  split
  · simpa using ‹_›
  · simpa using ‹_›

theorem insertSession_rehashed {id userId : Uuid}
    (hAfter : insertSession before id userId hash expiresAt now client = some after) :
    Rehashed before after id hash where
  current := ⟨_, Table.find?_insert?_self hAfter, rfl⟩
  other := fun _ hOther => Table.find?_insert?_of_ne hAfter hOther
  revoked := by
    rintro ⟨session, hFind, -⟩
    have hUnused := (Table.insert?_eq_some.mp hAfter).1
    rw [hFind] at hUnused
    cases hUnused

section
variable {currentHash : String} {session : SessionRecord}
  (hAfter : rotateSessionRefreshToken before sessionId currentHash nextHash expiresAt now client = some (after, session))
include hAfter

theorem rotateSessionRefreshToken_eq_some :
    ∃ old, before.find? sessionId = some old ∧ old.refreshTokenHash = currentHash ∧
      old.revokedAt = none ∧ session = rotatedSession nextHash expiresAt now client old ∧
      after = before.modify sessionId (rotatedSession nextHash expiresAt now client)
        (fun _ => rfl) := by
  unfold rotateSessionRefreshToken at hAfter
  cases hFind : before.find? sessionId with
  | none =>
    rw [hFind] at hAfter
    cases hAfter
  | some old =>
    rw [hFind] at hAfter
    dsimp only at hAfter
    split at hAfter
    · rename_i hLive
      cases hAfter
      exact ⟨old, rfl, hLive.1, hLive.2, rfl, rfl⟩
    · cases hAfter

theorem rotateSessionRefreshToken_rehashed :
    CurrentHash before sessionId currentHash ∧ Rehashed before after sessionId nextHash := by
  obtain ⟨old, hFind, hHash, hLive, rfl, rfl⟩ := rotateSessionRefreshToken_eq_some hAfter
  refine ⟨⟨old, hFind, hHash⟩, ?_, ?_, ?_⟩
  · exact ⟨rotatedSession nextHash expiresAt now client old,
      Table.find?_modify_self.trans (congrArg (Option.map _) hFind), rfl⟩
  · intro other hOther
    exact Table.find?_modify_of_ne hOther
  · rintro ⟨session, hSession, hRevoked⟩
    rw [hFind] at hSession
    cases hSession
    rw [hLive] at hRevoked
    cases hRevoked

end

theorem find?_revokeSession (sessions : SessionTable) (sessionId other : Uuid)
    (revokedAt now : DateTime) :
    (revokeSession sessions sessionId revokedAt now).find? other =
      (sessions.find? other).map fun session =>
        if other = sessionId then
          { session with revokedAt := session.revokedAt.or (some revokedAt), updatedAt := now }
        else session := by
  by_cases hSame : other = sessionId
  · subst hSame
    simp only [revokeSession, Table.find?_modify_self, if_true]
  · rw [revokeSession, Table.find?_modify_of_ne hSame]
    simp [hSame]

@[simp] theorem currentHash_revokeSession {revokedAt : DateTime} :
    CurrentHash (revokeSession sessions sessionId revokedAt now) other hash ↔
      CurrentHash sessions other hash := by
  rw [CurrentHash, CurrentHash, find?_revokeSession]
  cases sessions.find? other with
  | none => simp
  | some session =>
    by_cases hSame : other = sessionId
    · simp [hSame]
    · simp [hSame]

theorem Revoked.revokeSession (hRevoked : Revoked sessions other) (revokedAt now : DateTime) :
    Revoked (Auth.revokeSession sessions sessionId revokedAt now) other := by
  obtain ⟨session, hFind, hSome⟩ := hRevoked
  rw [Revoked, find?_revokeSession, hFind]
  refine ⟨_, rfl, ?_⟩
  split
  · simp
  · exact hSome

theorem revoked_revokeSession (hFound : (sessions.find? sessionId).isSome)
    (revokedAt now : DateTime) :
    Revoked (revokeSession sessions sessionId revokedAt now) sessionId := by
  obtain ⟨session, hFind⟩ := isSome_iff_exists.mp hFound
  rw [Revoked, find?_revokeSession, hFind]
  exact ⟨_, rfl, by simp⟩

end Hashes

section Login

def invalidCredentials : AuthFailure := ⟨401, "invalid_credentials", "Invalid email or password."⟩

def checkLogin (libraries : AuthLibraries) (users : UserTable) (email password : String) :
    Except AuthFailure User :=
  match getUserByEmail users (toAsciiLowercase (trim email)) with
  | none => .error invalidCredentials
  | some record => match userFromRecord record with
      | .error _ =>
        .error ⟨500, "failed_to_login", "Login failed due to an internal mapping error."⟩
      | .ok user =>
        if !libraries.verifyPassword password record.passwordHash ∨ user.status ≠ .active then
          .error invalidCredentials
        else .ok user

/-- The status of the row that is returned is not looked at again. -/
def touchLogin (users : UserTable) (userId : Uuid) (now : DateTime) :
    UserTable × Except AuthFailure User :=
  let touched := updateUserLastLogin users userId now
  (touched, match touched.find? userId with
    | none => .error ⟨500, "failed_to_login", "Login failed due to a database error."⟩
    | some record => match userFromRecord record with
        | .error _ =>
          .error ⟨500, "failed_to_login", "Login failed due to an internal mapping error."⟩
        | .ok user => .ok user)

end Login

section Refresh
variable (libraries : AuthLibraries)

def invalidRefreshToken : AuthFailure :=
  ⟨401, "invalid_refresh_token", "Refresh token is invalid."⟩

/-- The cookie goes before the body. -/
def presentedRefreshToken (cookie body : Option String) : Option String :=
  cookie.or (body.filter fun value => trim value ≠ "")

/-- The token with the session it belongs to, as it is read. -/
def checkRefresh (sessions : SessionTable) (cookie body : Option String) (now : DateTime) :
    Except AuthFailure (String × SessionRecord) :=
  match presentedRefreshToken cookie body with
  | none => .error ⟨401, "missing_refresh_token", "Refresh token is required."⟩
  | some raw => match parseRefreshToken libraries raw with
      | none => .error invalidRefreshToken
      | some sessionId =>
        match getSessionByIdAndHash sessions sessionId (libraries.hashRefreshToken raw) with
        | none => .error invalidRefreshToken
        | some session =>
          if session.revokedAt.isSome ∨ session.expiresAt ≤ now then
            .error ⟨401, "expired_refresh_token", "Refresh token is expired."⟩
          else .ok (raw, session)

def refreshedUser (users : UserTable) (userId : Uuid) : Except AuthFailure User :=
  match users.find? userId with
  | none => .error invalidRefreshToken
  | some record => match userFromRecord record with
      | .error _ =>
        .error ⟨500, "failed_to_refresh", "Refresh failed due to an internal mapping error."⟩
      | .ok user => .ok user

theorem refreshedUser_eq_ok {users : UserTable} {userId : Uuid} {user : User} :
    refreshedUser users userId = .ok user ↔
      ∃ record, users.find? userId = some record ∧ userFromRecord record = .ok user := by
  unfold refreshedUser
  cases users.find? userId with
  | none => simp
  | some record =>
    dsimp only
    cases hUser : userFromRecord record with
    | error err => simp [hUser]
    | ok loaded => simp [hUser]

end Refresh

section Authorization

def devActor : AuthenticatedActor where
  userId := ⟨0⟩
  email := "auth-disabled@local.aegis"
  role := .owner
  sessionId := none

def authenticationRequired (error : String) : AuthFailure :=
  ⟨401, error, "Authentication is required."⟩

def permitted (access : RouteAccess) (role : UserRole) : Bool :=
  match access with
  | .public | .authenticated => true
  | .operator => role = .owner || role = .operator
  | .owner => role = .owner

/-- The actor of a request. The session is looked up; the user is not. -/
def authorizeRequest (libraries : AuthLibraries) (config : AuthConfig) (sessions : SessionTable)
    (issued : List AccessTokenClaims) (access : RouteAccess) (token : Option AccessTokenClaims)
    (now : DateTime) : Except AuthFailure (Option AuthenticatedActor) :=
  if config.disabled then .ok (if access = .public then none else some devActor)
  else if access = .public then .ok none
  else match token with
    | none => .error (authenticationRequired "unauthorized")
    | some token =>
      match (decodeAccessToken libraries issued token now).bind (actorFromClaims libraries) with
      | none => .error (authenticationRequired "invalid_access_token")
      | some actor => match actor.sessionId with
          | none => .error (authenticationRequired "invalid_access_token")
          | some sessionId =>
            if (sessions.find? sessionId).any fun session =>
                session.revokedAt.isNone && now < session.expiresAt then
              if permitted access actor.role then .ok (some actor)
              else .error ⟨403, "forbidden", "You do not have permission to perform this action."⟩
            else .error (authenticationRequired "expired_or_revoked_session")

def LiveSession (sessions : SessionTable) (sessionId : Uuid) (now : DateTime) : Prop :=
  ∃ session, sessions.find? sessionId = some session ∧ session.revokedAt = none ∧
    now < session.expiresAt

/-- The token is one of a live session, and its role suffices. -/
structure Bears (libraries : AuthLibraries) (config : AuthConfig) (sessions : SessionTable)
    (issued : List AccessTokenClaims) (access : RouteAccess) (token : Option AccessTokenClaims)
    (now : DateTime) (actor : AuthenticatedActor) (sessionId : Uuid) : Prop where
  enabled : config.disabled = false
  guarded : access ≠ .public
  decoded : (token.bind fun token => (decodeAccessToken libraries issued token now).bind
    (actorFromClaims libraries)) = some actor
  session : actor.sessionId = some sessionId
  live : LiveSession sessions sessionId now
  role : permitted access actor.role = true

theorem any_live_iff {sessions : SessionTable} {sessionId : Uuid} {now : DateTime} :
    ((sessions.find? sessionId).any fun session =>
      session.revokedAt.isNone && now < session.expiresAt) = true ↔
        LiveSession sessions sessionId now := by
  unfold LiveSession
  cases sessions.find? sessionId with
  | none => simp
  | some session => simp

theorem authorizeRequest_accepts_iff {libraries : AuthLibraries} {config : AuthConfig}
    {sessions : SessionTable} {issued : List AccessTokenClaims} {access : RouteAccess}
    {token : Option AccessTokenClaims} {now : DateTime} {actor : AuthenticatedActor}
    {sessionId : Uuid} :
    authorizeRequest libraries config sessions issued access token now = .ok (some actor) ∧
        actor.sessionId = some sessionId ↔
      Bears libraries config sessions issued access token now actor sessionId := by
  constructor
  · rintro ⟨hAccepted, hSession⟩
    unfold authorizeRequest at hAccepted
    cases hEnabled : config.disabled with
    | true =>
      rw [hEnabled, if_pos rfl] at hAccepted
      split at hAccepted
      · cases hAccepted
      · cases hAccepted
        cases hSession
    | false =>
      rw [hEnabled, if_neg Bool.false_ne_true] at hAccepted
      by_cases hGuarded : access = .public
      · rw [if_pos hGuarded] at hAccepted
        cases hAccepted
      rw [if_neg hGuarded] at hAccepted
      cases token with
      | none => cases hAccepted
      | some token =>
        dsimp only at hAccepted
        cases hDecoded : (decodeAccessToken libraries issued token now).bind
            (actorFromClaims libraries) with
        | none =>
          rw [hDecoded] at hAccepted
          cases hAccepted
        | some decoded =>
          rw [hDecoded] at hAccepted
          dsimp only at hAccepted
          split at hAccepted
          · cases hAccepted
          rename_i decodedId hDecodedId
          split at hAccepted
          · rename_i hLive
            split at hAccepted
            · rename_i hRole
              cases hAccepted
              rw [hSession] at hDecodedId
              cases hDecodedId
              exact ⟨hEnabled, hGuarded, hDecoded, hSession, any_live_iff.mp hLive, hRole⟩
            · cases hAccepted
          · cases hAccepted
  · intro hBears
    obtain ⟨hEnabled, hGuarded, hDecoded, hSession, hLive, hRole⟩ := hBears
    refine ⟨?_, hSession⟩
    cases token with
    | none => cases hDecoded
    | some token =>
      rw [bind_some] at hDecoded
      unfold authorizeRequest
      rw [hEnabled, if_neg Bool.false_ne_true, if_neg hGuarded]
      dsimp only
      rw [hDecoded]
      dsimp only
      rw [hSession]
      dsimp only
      rw [if_pos (any_live_iff.mpr hLive), if_pos hRole]

end Authorization

end AegisQuant.Auth
