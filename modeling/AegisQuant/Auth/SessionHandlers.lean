import AegisQuant.Auth.Sessions

/-! Logins, refreshes, logouts and requests that run at the same time, with
changes of a user's status between them, one statement of the database per step.
What the handlers compute after a statement belongs to its step. -/
namespace AegisQuant.Auth

structure AuthService where
  libraries : AuthLibraries
  config : AuthConfig

/-- What a handler holds between two statements. -/
inductive AuthHandler where
  | loginChecked (user : User)
  | loginTouched (user : User)
  | refreshing (raw : String) (session : SessionRecord)
  | rotated (raw : String) (next : RefreshToken) (session : SessionRecord)
  | authorized (actor : AuthenticatedActor)

/-- `issued` are the access tokens, `drawn` the hashes of all refresh tokens
that were generated, `exchanged` the refresh tokens that were answered with a new
pair and `loggedOut` the sessions whose revocation by a logout has committed. -/
structure AuthSystem where
  users : UserTable
  sessions : SessionTable
  handlers : Nat → Option AuthHandler
  issued : List AccessTokenClaims
  drawn : List String
  exchanged : List String
  loggedOut : List Uuid

namespace AuthSystem

def start (users : UserTable) : AuthSystem where
  users := users
  sessions := Table.empty
  handlers := fun _ => none
  issued := []
  drawn := []
  exchanged := []
  loggedOut := []

def setHandler (system : AuthSystem) (id : Nat) (handler : Option AuthHandler) : AuthSystem :=
  { system with handlers := Function.update system.handlers id handler }

end AuthSystem

inductive AuthStep where
  | checkLogin (id : Nat) (email password : String)
  | touchLogin (id : Nat) (now : DateTime)
  | openSession (id : Nat) (sessionId : Uuid) (secret : String) (client : ClientInfo)
      (now : DateTime)
  | readSession (id : Nat) (cookie body : Option String) (now : DateTime)
  | rotateSession (id : Nat) (secret : String) (client : ClientInfo) (now : DateTime)
  | readUser (id : Nat) (now : DateTime)
  | authorize (id : Nat) (access : RouteAccess) (token : Option AccessTokenClaims)
      (now : DateTime)
  | logout (id : Nat) (now : DateTime)
  | setStatus (userId : Uuid) (status : String)

inductive AuthAnswer where
  | loggedIn (user : User) (access : AccessTokenClaims) (refresh : RefreshToken)
  | refreshed (user : User) (session : SessionRecord) (presented : String)
      (access : AccessTokenClaims) (refresh : RefreshToken)
  | accepted (actor : AuthenticatedActor)

variable (service : AuthService)

def drawnToken? (system : AuthSystem) : AuthStep → Option RefreshToken
  | .openSession id sessionId secret _ _ => match system.handlers id with
      | some (.loginTouched _) => some (issueRefreshToken service.libraries sessionId secret)
      | _ => none
  | .rotateSession id secret _ _ => match system.handlers id with
      | some (.refreshing _ session) =>
        some (issueRefreshToken service.libraries session.id secret)
      | _ => none
  | _ => none

def answer? (system : AuthSystem) : AuthStep → Option AuthAnswer
  | .openSession id sessionId secret client now => match system.handlers id with
      | some (.loginTouched user) =>
        let token := issueRefreshToken service.libraries sessionId secret
        (insertSession system.sessions sessionId user.id token.hash
          (now + service.config.refreshTokenTtl) now client).map fun _ =>
            .loggedIn user (issueAccessToken service.config user sessionId now) token
      | _ => none
  | .readUser id now => match system.handlers id with
      | some (.rotated raw next session) => match refreshedUser system.users session.userId with
          | .error _ => none
          | .ok user =>
            some (.refreshed user session raw
              (issueAccessToken service.config user session.id now) next)
      | _ => none
  | .authorize id access token now => match system.handlers id with
      | none => match authorizeRequest service.libraries service.config system.sessions
            system.issued access token now with
          | .ok (some actor) => some (.accepted actor)
          | _ => none
      | _ => none
  | _ => none

/-- What an answer adds to the history. -/
def AuthSystem.record (system : AuthSystem) : Option AuthAnswer → AuthSystem
  | some (.loggedIn _ access _) => { system with issued := system.issued ++ [access] }
  | some (.refreshed _ _ presented access _) => { system with
      issued := system.issued ++ [access]
      exchanged := system.exchanged ++ [presented] }
  | _ => system

def AuthSystem.draw (system : AuthSystem) (token : RefreshToken) : AuthSystem :=
  { system with drawn := system.drawn ++ [token.hash] }

def authStep (system : AuthSystem) (step : AuthStep) : AuthSystem :=
  match step with
  | .checkLogin id email password => match system.handlers id with
      | none => match checkLogin service.libraries system.users email password with
          | .error _ => system
          | .ok user => system.setHandler id (some (.loginChecked user))
      | _ => system
  | .touchLogin id now => match system.handlers id with
      | some (.loginChecked user) =>
        let touched := touchLogin system.users user.id now
        ({ system with users := touched.1 } : AuthSystem).setHandler id (match touched.2 with
          | .error _ => none
          | .ok user => some (.loginTouched user))
      | _ => system
  | .openSession id sessionId secret client now => match system.handlers id with
      | some (.loginTouched user) =>
        let token := issueRefreshToken service.libraries sessionId secret
        let opened := insertSession system.sessions sessionId user.id token.hash
          (now + service.config.refreshTokenTtl) now client
        (({ system with sessions := opened.getD system.sessions }.draw token).setHandler id
          none).record (answer? service system step)
      | _ => system
  | .readSession id cookie body now => match system.handlers id with
      | none => match checkRefresh service.libraries system.sessions cookie body now with
          | .error _ => system
          | .ok (raw, session) => system.setHandler id (some (.refreshing raw session))
      | _ => system
  | .rotateSession id secret client now => match system.handlers id with
      | some (.refreshing raw session) =>
        let next := issueRefreshToken service.libraries session.id secret
        match rotateSessionRefreshToken system.sessions session.id
            (service.libraries.hashRefreshToken raw) next.hash
            (now + service.config.refreshTokenTtl) now client with
        | none => (system.draw next).setHandler id none
        | some (sessions, session) =>
          ({ system with sessions := sessions }.draw next).setHandler id
            (some (.rotated raw next session))
      | _ => system
  | .readUser id _ => match system.handlers id with
      | some (.rotated ..) => (system.setHandler id none).record (answer? service system step)
      | _ => system
  | .authorize id _ _ _ => match answer? service system step with
      | some (.accepted actor) => system.setHandler id (some (.authorized actor))
      | _ => system
  | .logout id now => match system.handlers id with
      | some (.authorized actor) => match actor.sessionId with
          | none => system.setHandler id none
          | some sessionId => ({ system with
              sessions := revokeSession system.sessions sessionId now now
              loggedOut := system.loggedOut ++ [sessionId] } : AuthSystem).setHandler id none
      | _ => system
  | .setStatus userId status => { system with users := updateUserStatus system.users userId status }

end AegisQuant.Auth
