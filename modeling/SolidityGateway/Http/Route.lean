import SolidityGateway.Http.Request
import SolidityGateway.Text.Decimal

/-!
Where a request goes. A path is an endpoint's to the letter, but for one line feed that may end it; on
an endpoint's path only its own method is allowed. A path that is an endpoint's with slashes after it
is sent on to the path without them, whatever the method.

The pages in which the framework describes the endpoints, at `/docs`, `/docs/oauth2-redirect`, `/redoc`
and `/openapi.json`, are left out: their paths are unknown here. A page is made without the service and
its compiler, so what is said of calls and of what a request leaves behind would hold of it as well;
what is said of its response would not.
-/

namespace SolidityGateway

/-- What a gateway offers. -/
inductive Endpoint
  | compile
  | health
  | version
deriving DecidableEq

namespace Endpoint

def all : List Endpoint := [compile, health, version]

def path : Endpoint → Text
  | compile => "/compile"
  | health => "/health"
  | version => "/version"

def method : Endpoint → Text
  | compile => "POST"
  | health => "GET"
  | version => "GET"

/-- Whether a path is that of an endpoint, a line feed at its end or not. -/
def hasPath (e : Endpoint) (path : Text) : Bool := path = e.path || path = e.path ++ ("\n" : Text)

def ofPath? (path : Text) : Option Endpoint := all.find? fun e => e.hasPath path

end Endpoint

/-- Where a request goes. -/
inductive Route
  | endpoint (endpoint : Endpoint)
  | wrongMethod (endpoint : Endpoint)
  | sentOn (path : Text)
  | unknown
deriving DecidableEq

namespace Route

def withoutSlashes (path : Text) : Text :=
  (path.reverse.dropWhile (· = CodePoint.ofChar '/')).reverse

def of (method path : Text) : Route :=
  match Endpoint.ofPath? path with
  | some e => if method = e.method then endpoint e else wrongMethod e
  | none =>
    if (Endpoint.ofPath? (withoutSlashes path)).isSome then sentOn (withoutSlashes path) else unknown

/-- What stands as it is in an address: letters, digits and the marks that have a meaning there. -/
def isAddressPoint (c : CodePoint) : Bool :=
  c.isAsciiLetter || c.isAsciiDigit ||
    (":/%#?=@[]!$&'()*+,;_.-~" : Text).contains c

/-- A code point of an address; what may not stand there is written by its bytes. -/
def addressPoint (c : CodePoint) : Text :=
  if isAddressPoint c then [c]
  else (Encoding.utf8Point c).flatMap fun b => '%' :: (Text.hex 2 b.toNat).map fun d =>
    if d.isAsciiLetter then CodePoint.ofNat (d.val - 0x20) else d

/-- The address of a path at a host, with a query; without a host it is the path alone. -/
def address (path : Text) (host : Option Text) (query : Text) : Text :=
  let origin : Text := match host with
    | some name => ("http://" : Text) ++ name
    | none => []
  let tail : Text := if query = [] then [] else '?' :: query
  (origin ++ path ++ tail).flatMap addressPoint

end Route

end SolidityGateway
