import MicrotunSigner.Api.AdminSocket
import MicrotunSigner.Api.AdminAnswers
import MicrotunSigner.Client.Endpoint
import MicrotunSigner.Client.Sign

/-!
# The command `unlock` (`main.rs`)

The command is a program (`Command`) that asks the operator for a passphrase and calls the admin API
over its socket. What is behind the socket is the admin API with all its requests (`Backend.world`):
the handler of a request takes its steps between the calls of the command, as do the handlers of
others.

* `UnlockLib`: the crates the command is written with.
* `send` of `reqwest` is two calls: the request goes out on a connection, and a response comes back
  on it or not.
* The router of the admin API (`adminRoute`) answers a path that it does not know, and a body over
  its limit.
-/

namespace MicrotunSigner

namespace AdminClient

open Lib Lib.Text Lib.UrlPath

structure UnlockArgs where
  keyId : Option String
  keyring : Option String
  socket : Option String

/-- `reqwest::Url`, and the JSON of the request and the responses. -/
structure UnlockLib where
  url : UrlLib
  toJson : UnlockRequest → List UInt8
  statusText : StatusCode → String
  errorBody : List UInt8 → Option ErrorBody
  keyringResponse : List UInt8 → Except String KeyringUnlockResponse

/-- The other end of a request: its handler, or the router's refusal. -/
inductive Connection where
  | handler (c : Nat)
  | refused (status : StatusCode)
  deriving DecidableEq

inductive Op where
  | loadConfig (path : String)
  | metadata (path : String)
  | promptPassword (prompt : String)
  | buildClient (socket : String) (timeout : Nat)
  | post (socket : String) (url : ReqwestUrl) (body : List UInt8)
  | response (connection : Connection)
  | println (line : String)

@[reducible] def Op.Ans : Op → Type
  | .loadConfig _ => Except String String
  | .metadata _ => Except String Metadata
  | .promptPassword _ => Except String String
  | .buildClient _ _ => Except String Unit
  | .post _ _ _ => Except String Connection
  | .response _ => Except String Client.ApiResponse
  | .println _ => Unit

abbrev Command := Prog Op Op.Ans String

def call (op : Op) : Command op.Ans := Prog.op op

/-- The `admin_socket_path` of a configuration that loads. -/
def loadConfig (path : String) : Command (Except String String) := call (.loadConfig path)

def metadata (path : String) : Command (Except String Metadata) := call (.metadata path)

def promptPassword (prompt : String) : Command (Except String String) :=
  call (.promptPassword prompt)

/-- `admin_client`, before its context. -/
def buildClient (socket : String) (timeout : Nat) : Command (Except String Unit) :=
  call (.buildClient socket timeout)

def post (socket : String) (url : ReqwestUrl) (body : List UInt8) :
    Command (Except String Connection) :=
  call (.post socket url body)

def response (connection : Connection) : Command (Except String Client.ApiResponse) :=
  call (.response connection)

def println (line : String) : Command Unit := call (.println line)

/-! ## The command -/

def defaultAdminSocketPath : String := "/run/microtun-signer/admin.sock"

def keyUnlockTimeout : Nat := 30

def keyringUnlockTimeout : Nat := 300

def adminSocketPath (socket configPath : Option String) : Command String :=
  match socket, configPath with
  | some socket, _ => return socket
  | none, some configPath => do return ← (← loadConfig configPath)
  | none, none => return defaultAdminSocketPath

def resolveAdminSocket (socket configPath : Option String) : Command String := do
  let socket ← adminSocketPath socket configPath
  let socketMetadata ← withContext (← metadata socket) s!"admin socket {socket} is not available"
  bailIf (socketMetadata.fileType != .socket) s!"admin socket path {socket} is not a Unix socket"
  return socket

def unlockPrompt : UnlockTarget → String
  | .key keyId => s!"Passphrase for firmware signing key {keyId}:"
  | .keyring keyring => s!"Passphrase for keyring {keyring}:"

def unlockTimeout : UnlockTarget → Nat
  | .key _ => keyUnlockTimeout
  | .keyring _ => keyringUnlockTimeout

def askPassword (prompt : String) : Command String := do
  let value ← withContext (← promptPassword s!"{prompt} ")
    "failed to read signing-key passphrase from the terminal"
  return value

def resultText (result : String) : String :=
  if result = "unlocked" then "is unlocked"
  else if result = "already-unlocked" then "was already unlocked"
  else if result = "skipped-inactive" then "was skipped (not active)"
  else result

def keyLine (key : KeyringUnlockKey) : String := s!"key {key.keyId} {resultText key.result}"

def printKeys : List KeyringUnlockKey → Command Unit
  | [] => return ()
  | key :: keys => do
    println (keyLine key)
    printKeys keys

variable (lib : UnlockLib)

def sendUnlock (socket : String) (target : UnlockTarget) (passphrase : String) :
    Command Client.ApiResponse := do
  withContext (← buildClient socket (unlockTimeout target)) "failed to create admin API client"
  let url ← okOr (lib.url.parse (unlockUrl target))
    s!"failed to call admin API over Unix socket {socket}"
  let connection ← withContext (← post socket url (lib.toJson ⟨passphrase⟩))
    s!"failed to call admin API over Unix socket {socket}"
  let answer ← withContext (← response connection)
    s!"failed to call admin API over Unix socket {socket}"
  return answer

/-- What the command prints of a response. -/
def report (target : UnlockTarget) (answer : Client.ApiResponse) : Command Unit := do
  bailIf (!answer.status.isSuccess)
    (responseError (lib.statusText answer.status) (answer.bytes.map lib.errorBody) "unlock")
  match target with
  | .key keyId => println s!"key {keyId} is unlocked"
  | .keyring _ =>
    let body ← withContext (answer.parse lib.keyringResponse)
      "failed to read keyring unlock response"
    printKeys body.keys

def unlock (args : UnlockArgs) (configPath : Option String) : Command Unit := do
  let target ← unlockTarget args.keyId args.keyring
  let socket ← resolveAdminSocket args.socket configPath
  let passphrase ← askPassword (unlockPrompt target)
  bailIf (isEmpty passphrase) "empty passphrase refused"
  let answer ← sendUnlock lib socket target passphrase
  report lib target answer

/-! ## Behind the socket -/

/-- The route of a path, with its parameter decoded. -/
def matchRoute (decodeParam : String → Option String) (path : String) :
    Except StatusCode AdminRoute :=
  match routeParam "/v1/unlock/" path, routeParam "/v1/unlock-keyring/" path with
  | some keyId, _ => (okOr (decodeParam keyId) StatusCode.badRequest).map .unlockKey
  | none, some keyring => (okOr (decodeParam keyring) StatusCode.badRequest).map .unlockKeyring
  | none, none => .error .notFound

/-- The router of the admin API, with the limit of its bodies. -/
def adminRoute (decodeParam : String → Option String) (path : String) (body : List UInt8) :
    Except StatusCode AdminRoute := do
  let route ← matchRoute decodeParam path
  bailIf (body.length > 8 * 1024) ⟨413⟩
  return route

/-- The admin API: its key store, the crates it is written with, and the ids that it makes up. -/
structure Backend (P S R : Type) where
  crates : KeyCrates P S R
  store : KeyStore
  fromSlice : List UInt8 → Option UnlockRequest
  decodeParam : String → Option String
  responseJson : KeyringUnlockResponse → List UInt8
  errorJson : ErrorBody → List UInt8
  requestIds : Nat → String

namespace Backend

variable {P S R : Type} (b : Backend P S R)

abbrev sys : Sys (AdminSt P S R) AdminAct := adminSys b.crates b.store b.fromSlice

/-- `into_response` -/
def intoResponse : Except ApiError AdminResponse → StatusCode × List UInt8
  | .ok .noContent => (.noContent, [])
  | .ok (.keyring response) => (⟨200⟩, b.responseJson response)
  | .error error => (error.status, b.errorJson error.body)

/-- The response arrives, but its body may not. -/
def isResponse (result : Except ApiError AdminResponse) (answer : Client.ApiResponse) : Bool :=
  answer.status == (b.intoResponse result).1 && match answer.bytes with
    | .ok body => body == (b.intoResponse result).2
    | .error _ => true

/-- The request that a handler gets from the command. -/
def request (c : Nat) (route : AdminRoute) (body : List UInt8) : AdminRequest :=
  ⟨b.requestIds c, route, jsonHeaders, body⟩

def call (s : AdminSt P S R) (e : Prog.Event Op.Ans) : Option (AdminSt P S R) :=
  match e with
  | ⟨.post _ url body, .ok connection⟩ =>
    match adminRoute b.decodeParam url.pathText body, connection with
    | .ok route, .handler c => b.sys.step s (.arrive c (b.request c route body))
    | .error status, .refused status' => if status' = status then some s else none
    | _, _ => none
  | ⟨.response (.handler c), .ok answer⟩ =>
    match s.handlers c with
    | .answered _ result => if b.isResponse result answer then some s else none
    | _ => none
  | ⟨.response (.refused status), .ok answer⟩ => if answer.status = status then some s else none
  | _ => some s

/-- The command among all that happens at the admin API. -/
def world : World Op Op.Ans (AdminSt P S R) AdminAct where
  call := b.call
  other := b.sys.step

end Backend

end AdminClient

end MicrotunSigner
