import SwitchTestbed.Config
import SwitchTestbed.Http.Target
import SwitchTestbed.Text.Basic

/-!
# HTTP clients for traffic generators

* `HttpRequest`, `HttpResponse` : what is sent and what comes back;
* `HttpServer` : how a server behaves;
* `HttpClient.execute` : sends a request and waits for the response within the bounds of the
  configuration, and tells what the server saw. Contexts play no part in it;
* `HttpClient.close` : does nothing, as all clients share their connections.
-/

namespace SwitchTestbed

/-- What is sent. -/
structure HttpRequest where
  method : String
  /-- Path and query. -/
  target : String
  body : String := ""
  deriving DecidableEq, Repr, Inhabited

/-- What comes back. -/
structure HttpResponse where
  status : Nat
  body : String := ""
  deriving DecidableEq, Repr, Inhabited

/-- How a server behaves. -/
inductive HttpServer where
  | answers (r : HttpResponse)
  /-- It takes requests and never answers. -/
  | silent
  /-- Nothing listens. -/
  | down
  deriving DecidableEq, Repr, Inhabited

/-- A request as a server sees it. -/
structure SeenRequest where
  line : String
  userAgent : String
  body : String
  deriving DecidableEq, Repr, Inhabited

/-- An HTTP client for one address. -/
structure HttpClient where
  config : HttpConfig
  address : String
  deriving DecidableEq, Repr, Inhabited

namespace HttpClient

/-- How clients call themselves. -/
def userAgent : String := "pinsbind/0.1.0"

/-- A client for an address; nothing is sent. -/
def dial (c : HttpConfig) (address : String) : Except Error HttpClient := .ok ⟨c, address⟩

/-- Releases what the client holds, which is nothing. -/
def close (_ : HttpClient) : Except Error Unit := .ok ()

/-- What a request names in its first line: the address itself if it asks for a tunnel, else the
target. -/
def requestTarget (c : HttpClient) (r : HttpRequest) : String :=
  if r.method = "CONNECT" then c.address else (Http.Target.ofText r.target).sent

/-- The first line of a request. -/
def requestLine (c : HttpClient) (r : HttpRequest) : String :=
  r.method ++ " " ++ c.requestTarget r ++ " HTTP/1.1"

/-- The request could not be sent or has no proper answer. -/
def requestFailed (c : HttpClient) (r : HttpRequest) : Error :=
  .transport (.requestFailed ("http://" ++ c.address ++ (Http.Target.ofText r.target).written))

/-- Whether a status ends an exchange. It has three digits, and those of the first hundred only
announce another one, save for the one that changes the protocol. -/
def isFinal (status : Nat) : Bool := status = 101 || (200 ≤ status && status ≤ 999)

/-- Whether a response to the method and with the status has a body. -/
def hasBody (method : String) (status : Nat) : Bool :=
  method ≠ "HEAD" && status ≠ 101 && status ≠ 204 && status ≠ 304
    && !(method = "CONNECT" && 200 ≤ status && status ≤ 299)

/-- What the sender makes of a response. -/
def receive (c : HttpClient) (r : HttpRequest) (response : HttpResponse) :
    Except Error HttpResponse :=
  if !isFinal response.status then .error (c.requestFailed r)
  else if hasBody r.method response.status then
    .ok { response with body := String.ofList (Text.skipMark response.body.toList) }
  else .ok { response with body := "" }

/-- Sends a request. -/
def execute (c : HttpClient) (server : HttpServer) (r : HttpRequest) :
    Except Error HttpResponse × Option SeenRequest :=
  let seen : SeenRequest := ⟨c.requestLine r, userAgent, r.body⟩
  if c.config.timeoutMillis = 0 then (.error .timeout, none)
  else
    match server with
    | .down => (.error (c.requestFailed r), none)
    | .silent =>
      (.error .timeout, if c.config.connectTimeoutMillis = 0 then none else some seen)
    | .answers response =>
      if c.config.connectTimeoutMillis = 0 then (.error .timeout, none)
      else (c.receive r response, some seen)

end HttpClient

end SwitchTestbed
