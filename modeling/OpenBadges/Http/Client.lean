import OpenBadges.Http.CookieJar
import OpenBadges.Json.Decoder
import OpenBadges.Json.Printer
import OpenBadges.Transport.Request

/-!
# The client

Requests as a server gets to see them. The client resolves paths against its base
address, introduces itself, asks for JSON, and sends a token against forged
requests: the one it was configured with, or else the one in a cookie. What the
server answers, and whether there is one, is up to the network.
-/

namespace OpenBadges

/-! ## Configuration -/

/-- Where the server is and how the client introduces itself. -/
structure ClientConfig where
  /-- The address that paths are resolved against. -/
  baseUrl : String := "http://localhost:8000"
  /-- The cookie that holds the token against forged requests. -/
  csrfCookieName : String := "csrftoken"
  /-- A token to send instead of the one in the cookie. -/
  csrfToken : Option String := none
  /-- What the client calls itself. -/
  userAgent : String := "badgeflow/0.1.0"
deriving DecidableEq, Repr

namespace ClientConfig

def decode : Decoder ClientConfig := fun d => do
  let field ← Decoder.record ["baseUrl", "csrfCookieName", "csrfToken", "userAgent"] d
  let standard : ClientConfig := {}
  return {
    baseUrl := ← Decoder.orDefault standard.baseUrl Decoder.string (field "baseUrl")
    csrfCookieName :=
      ← Decoder.orDefault standard.csrfCookieName Decoder.string (field "csrfCookieName")
    csrfToken := ← Decoder.orNone Decoder.string (field "csrfToken")
    userAgent := ← Decoder.orDefault standard.userAgent Decoder.string (field "userAgent") }

def encode (c : ClientConfig) : Json := .ofFields [
  ("baseUrl", .str c.baseUrl),
  ("csrfCookieName", .str c.csrfCookieName),
  ("csrfToken", .ofOption .str c.csrfToken),
  ("userAgent", .str c.userAgent)]

end ClientConfig

end OpenBadges

namespace OpenBadges.Http

/-! ## Requests and responses -/

/-- A request as a server sees it. -/
structure WireRequest where
  /-- The address it goes to. -/
  address : Url.Address
  method : Method
  /-- The token against forged requests. -/
  csrf : Option String
  /-- What the client calls itself. -/
  userAgent : String
  /-- The kind of body, if there is one. -/
  contentType : Option String
  body : List UInt8

/-- The first line of a request. -/
def WireRequest.line (r : WireRequest) : String := r.method.text ++ " " ++ r.address.target

/-- The kind of answer that every request asks for. -/
def WireRequest.accept : String := "application/json"

/-- What comes back from a server. -/
structure WireResponse where
  status : Status
  body : String
  /-- The cookies that the server sets. -/
  cookies : List String := []

/-- What becomes of a request in a world of servers; nothing if nobody can be reached. -/
abbrev Network (ν : Type) := ν → WireRequest → Option WireResponse × ν

/-- The network that reaches nobody. -/
def Network.unreachable : Network Unit := fun world _ => (none, world)

/-! ### Bodies -/

/-- What stands between the parts of a form. -/
def boundary : String := "BOUNDARY"

def bytesOf (s : String) : List UInt8 := s.toUTF8.toList

def partBytes : FormPart → List UInt8
  | .text name value =>
    bytesOf s!"--{boundary}\r\nContent-Disposition: form-data; name=\"{name}\"\r\n\r\n{value}\r\n"
  | .file name filename bytes =>
    bytesOf (s!"--{boundary}\r\nContent-Disposition: form-data; name=\"{name}\"" ++
      s!"; filename=\"{filename}\"\r\n\r\n") ++ bytes ++ bytesOf "\r\n"

/-- The parts of a form; without any, there is nothing. -/
def multipartBytes (parts : List FormPart) : List UInt8 :=
  if parts.isEmpty then []
  else parts.flatMap partBytes ++ bytesOf s!"--{boundary}--\r\n"

/-- The kind of a body and its bytes. -/
def encodeBody : RequestBody → Option String × List UInt8
  | .empty => (none, [])
  | .json v => (some "application/json", bytesOf v.text)
  | .multipart parts => (some "multipart/form-data", multipartBytes parts)

/-! ### Clients -/

/-- Why there is no client. -/
inductive ClientError where
  /-- The base address is none. -/
  | invalidBaseUrl (url : String) (reason : Url.UrlError)
  /-- The client cannot introduce itself like that. -/
  | invalidUserAgent
deriving DecidableEq, Repr

def ClientError.message : ClientError → String
  | invalidBaseUrl url reason => s!"invalid base url `{url}`: {reason.message}"
  | invalidUserAgent => "builder error"

/-- Whether a text can be the value of a header: it has no controls but tabs. -/
def isHeaderValue (s : String) : Bool :=
  s.toList.all fun c => (0x20 ≤ c.toNat && c.toNat ≠ 0x7F) || c = '\t'

/-- A client with its cookies. -/
structure Client where
  config : ClientConfig
  /-- The address that paths are resolved against. -/
  base : Url.Address
  jar : CookieJar := []

namespace Client

/-- The client of a configuration. -/
def new (config : ClientConfig) : Except ClientError Client :=
  match Url.parse config.baseUrl with
  | .error reason => .error (.invalidBaseUrl config.baseUrl reason)
  | .ok base =>
    if isHeaderValue config.userAgent then .ok { config := config, base := base }
    else .error .invalidUserAgent

/-- The token to send to an address. -/
def csrfToken? (c : Client) (a : Url.Address) : Option String :=
  match c.config.csrfToken with
  | some token => some token
  | none => do
    let header ← c.jar.header? a
    guard (header.toList.all fun ch => (0x20 ≤ ch.toNat && ch.toNat < 0x7F) || ch = '\t')
    Cookie.value? header c.config.csrfCookieName

/-- Takes in the cookies that a server sets. -/
def setCookies (c : Client) (a : Url.Address) (cookies : List String) : Client :=
  { c with jar := cookies.foldl (·.set a ·) c.jar }

/-- The greatest number of bytes in the address of a request. -/
def longestAddress : Nat := 65534

/-- Whether requests can go to an address; some characters of a host stand in no request. -/
def canReach (a : Url.Address) : Bool :=
  ["http", "https"].contains (String.ofList a.scheme) &&
    (a.authority.all fun au => !au.host.any "\"`\x7b\x7d".toList.contains) &&
    a.withoutCredentials.text.utf8ByteSize ≤ longestAddress

/-- A request as a server would see it. -/
def wire (c : Client) (r : Request) : Except TransportError WireRequest :=
  match Url.join c.base r.path with
  | .error reason => .error (.invalidUrl r.path reason.message)
  | .ok address =>
    let csrf := c.csrfToken? address
    if !csrf.all isHeaderValue then .error (.failed "builder error")
    else if !canReach address then
      .error (.failed s!"builder error for url ({address.withoutCredentials.text})")
    else
      let (contentType, body) := encodeBody r.body
      .ok ⟨address, r.method, csrf, c.config.userAgent, contentType, body⟩

/-- Sends requests over a network. -/
def send {ν : Type} (network : Network ν) : Transport (Client × ν) := fun (c, world) r =>
  match c.wire r with
  | .error e => (.error e, c, world)
  | .ok w =>
    match network world w with
    | (none, world) =>
      let url := w.address.withoutCredentials.text
      (.error (.failed s!"error sending request for url ({url})"), c, world)
    | (some response, world) =>
      (.ok ⟨response.status, response.body⟩, c.setCookies w.address response.cookies, world)

end Client

end OpenBadges.Http
