/-
A gateway behind a network.

Every call is one request to the address of the gateway.  What went wrong tells the stages apart: no
request could be made or no reply came, the gateway refused, or its reply makes no sense.  Only
variables that are no document are found out before anything is sent.
-/
import JobWorker.Gateway
import JobWorker.Rest.Activated
import JobWorker.Rest.Body
import JobWorker.Url

namespace JobWorker.Rest

/-- A request over the network. -/
structure Post where
  url : Url
  /-- The user and the password that the address of the gateway names. -/
  login : Option (String × Option String)
  authorization : Option String
  contentType : String
  body : String
  deriving DecidableEq, Repr

/-- What comes back. -/
structure Reply where
  status : UInt16
  body : List UInt8
  deriving DecidableEq, Repr

/-- Whether the request was accepted. -/
def Reply.isSuccess (r : Reply) : Bool := 200 ≤ r.status && r.status < 300

/-- How requests are answered, if a reply comes at all, and what becomes of the network. -/
class Network (ν : Type) where
  exchange : ν → Post → ν × Option Reply

/-- Where a gateway is and how it is spoken to. -/
structure Endpoint where
  /-- The address, without the slashes at its end. -/
  base : String
  token : Option String
  /-- For how many milliseconds the gateway may hold requests for jobs open; -1 for not at all. -/
  requestTimeout : Int64
  deriving DecidableEq, Repr

namespace Endpoint

/-- A text without the slashes at its end. -/
def trimSlashes (text : String) : String :=
  String.ofList (text.toList.reverse.dropWhile (· = '/')).reverse

/-- The gateway at an address. -/
def ofAddress (address : String) : Endpoint := ⟨trimSlashes address, none, -1⟩

/-- The gateway that is shown a token. -/
def withToken (e : Endpoint) (token : String) : Endpoint := { e with token := some token }

/-- The gateway that may hold requests for jobs open for some time. -/
def withLongPolling (e : Endpoint) (timeout : Duration) : Endpoint :=
  { e with requestTimeout := timeout.signedMillisWord }

/-- Whether a token can be sent. -/
def isSendable (token : String) : Bool :=
  token.toList.all fun c => c = '\t' || (0x20 ≤ c.toNat && c.toNat ≠ 0x7F)

/-- Why no request can be made, with the address if there is one. -/
def unmade (u : Option Url) : GatewayError :=
  .unavailable <|
    match u with
    | none => "builder error"
    | some u => "builder error for url (" ++ u.text ++ ")"

/-- The error when no reply comes. -/
def unanswered (p : Post) : GatewayError :=
  .unavailable ("error sending request for url (" ++ p.url.text ++ ")")

/-- The request to a path with a body. -/
def post (e : Endpoint) (path : String) (body : Json.Value) : Except GatewayError Post :=
  match Url.read? (e.base ++ path) with
  | none => .error (unmade none)
  | some address =>
    let url := address.withoutLogin
    if !url.hasHost then .error (unmade (some url))
    else if !(e.token.all isSendable) then .error (unmade none)
    else if !(url.isWeb && url.isSendable) then .error (unmade (some url))
    else .ok
      { url
        login := address.login?
        authorization := e.token.map ("Bearer " ++ ·)
        contentType := "application/json"
        body := body.text }

/-- The request for jobs. -/
def activation (e : Endpoint) (r : ActivateRequest) : Except GatewayError Post :=
  e.post activationPath (activationBody e.requestTimeout r)

/-- The request that carries a command. -/
def command (e : Endpoint) : Command → Except GatewayError Post
  | .complete r =>
    match variablesValue r.variablesText with
    | .error error => .error (.invalidRequest ("variables are not valid JSON: " ++ error.message))
    | .ok value => e.post (completionPath r.key) (completionBody value)
  | .fail r => e.post (failurePath r.key) (failureBody r)

end Endpoint

/-- What a reply comes to: the body, if the request was accepted. -/
def received (p : Post) : Option Reply → Except GatewayError (List UInt8)
  | none => .error (Endpoint.unanswered p)
  | some reply =>
    if reply.isSuccess then .ok reply.body
    else .error (.rejected reply.status (Text.Utf8.lossy reply.body))

/-- The jobs in the body of a reply. -/
def granted (body : List UInt8) : Grant :=
  match decodeJobs body with
  | .ok jobs => .ok jobs
  | .error _ => .error (.invalidResponse "error decoding response body")

/-- A gateway behind a network. -/
structure Remote (ν : Type) where
  endpoint : Endpoint
  network : ν

namespace Remote

variable {ν : Type} [Network ν]

/-- Makes a request, if it can be made, and waits for the reply. -/
def exchange (g : Remote ν) :
    Except GatewayError Post → Remote ν × Except GatewayError (List UInt8)
  | .error e => (g, .error e)
  | .ok p =>
    let (network, reply) := Network.exchange g.network p
    ({ g with network }, received p reply)

instance : Gateway (Remote ν) where
  activate g request :=
    let (g, body) := g.exchange (g.endpoint.activation request)
    (g, some (body.bind granted))
  perform g command :=
    let (g, body) := g.exchange (g.endpoint.command command)
    (g, body.map fun _ => ())

/-- A gateway behind a network always answers. -/
theorem isSome_activate (g : Remote ν) (request : ActivateRequest) :
    (Gateway.activate g request).2.isSome = true := rfl

end Remote

end JobWorker.Rest
