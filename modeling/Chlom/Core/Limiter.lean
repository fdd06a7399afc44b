import Chlom.Library.Js.Text
import Chlom.Library.Runs
import Chlom.Library.Table

/-!
# Admission of requests to the core

A request is first matched with a route and its methods and checked for its origin,
then counted in the bucket of its client and route.  All of this happens before the
first `await`, so requests pass through it one after the other.
-/

namespace Chlom.Core

open Js

/-- What `new URL` reads from a text. -/
class Urls where
  /-- The `route` parameter of the URL of a request, none where the URL is invalid. -/
  routeOf : Str → Option (Option Str)
  /-- The protocol and the origin of a URL, none where it is invalid. -/
  originOf : Str → Option (Str × Str)

structure Headers where
  forwardedFor : Option Str
  origin : Option Str
  host : Option Str
  authorization : Option Str

structure Request where
  url : Str
  method : Str
  headers : Headers

/-- An answer that is no work of a route. -/
structure Failure where
  code : String
  message : String
  status : Nat
  deriving DecidableEq

inductive Answer where
  | refused (failure : Failure) (allow : List Str) (retryAfter : Option Nat)
  | admitted (route : Str)
  deriving DecidableEq

/-! ## Routes and origins -/

def ROUTES : List (Str × List Str) :=
  [(lit "health", [lit "GET"]), (lit "status", [lit "GET"]), (lit "resolve", [lit "GET"]),
    (lit "session", [lit "GET"]), (lit "signin", [lit "POST"]), (lit "refresh", [lit "POST"]),
    (lit "logout", [lit "POST"]), (lit "operator", [lit "GET", lit "POST"])]

def coreSameOrigin [Urls] (headers : Headers) : Bool :=
  match headers.origin with
  | none => false
  | some text =>
      match Urls.originOf text with
      | none => false
      | some (protocol, origin) =>
          protocol = lit "https:" ∧ origin = text ∧
            origin = lit "https://" ++ headers.host.getD (lit "undefined")

/-- A code unit in `[A-Za-z0-9._~-]`. -/
def isTokenUnit (c : CodeUnit) : Bool :=
  (unit 'A' ≤ c && c ≤ unit 'Z') || (unit 'a' ≤ c && c ≤ unit 'z') ||
    (unit '0' ≤ c && c ≤ unit '9') || decide (c ∈ lit "._~-")

def isBearer (header : Str) : Bool :=
  let token := header.drop 7
  decide (header.take 7 = lit "Bearer ") && token.all isTokenUnit && 20 ≤ token.length &&
    token.length ≤ 8192

def bearer (headers : Headers) : Except Failure (Option Str) :=
  match headers.authorization with
  | none => .ok none
  | some header =>
      if isBearer header then .ok (some (header.drop 7))
      else .error ⟨"INVALID_BEARER", "Use a valid access token.", 401⟩

def sameOriginRequired : Failure :=
  ⟨"SAME_ORIGIN_REQUIRED", "Same-origin request required.", 403⟩

/-- Who may post: pages of the same origin, and other programs with a token for
operator calls. -/
def postAllowed [Urls] (request : Request) (route : Str) : Except Failure Unit :=
  if request.method = lit "POST" ∧ coreSameOrigin request.headers = false then
    if route = lit "operator" ∧ (request.headers.origin.getD [] = []) then
      match bearer request.headers with
      | .error failure => .error failure
      | .ok none => .error sameOriginRequired
      | .ok (some _) => .ok ()
    else .error sameOriginRequired
  else .ok ()

/-- What the handler checks before it counts: the route of a request, or a failure and
the methods to allow. -/
def routed [Urls] (request : Request) : Except (Failure × List Str) Str :=
  match Urls.routeOf request.url with
  | none => .error (⟨"ERR_INVALID_URL", "Invalid URL", 502⟩, [])
  | some parameter =>
      let given := parameter.getD []
      let route := if given = [] then lit "health" else given
      match ROUTES.lookup route with
      | none => .error (⟨"ROUTE_NOT_FOUND", "Route not found.", 404⟩, [])
      | some methods =>
          if request.method ∉ methods then
            .error (⟨"METHOD_NOT_ALLOWED", "Method not allowed.", 405⟩, methods)
          else
            match postAllowed request route with
            | .error failure => .error (failure, [])
            | .ok () => .ok route

/-! ## Buckets -/

/-- The requests of one client to one route in one window. -/
structure Bucket where
  name : Str
  count : Nat
  untilTime : Int
  deriving DecidableEq

/-- The bucket with one more request. -/
def Bucket.hit (bucket : Bucket) : Bucket :=
  { bucket with count := bucket.count + 1 }

/-- The map of buckets in the order in which their keys were first set. -/
abbrev Buckets : Type := Table Bucket.name

/-- The client a request is counted for. -/
def clientOf (forwardedFor : Option Str) : Str :=
  let given := forwardedFor.getD []
  let text := if given = [] then lit "unknown" else given
  (trim (text.takeWhile fun c => c ≠ unit ',')).take 128

def keyOf (client route : Str) : Str := client ++ lit ":" ++ route

/-- The bucket under a key whose window has not ended, else a new one. -/
def opened (buckets : Buckets) (key : Str) (time : Int) : Bucket × Buckets :=
  let fresh : Bucket := ⟨key, 0, time + 60000⟩
  match buckets.find key with
  | none => (fresh, buckets.put fresh)
  | some bucket =>
      if bucket.untilTime ≤ time then (fresh, buckets.put fresh) else (bucket, buckets)

/-- Forget the windows that have ended once there are many buckets. -/
def swept (buckets : Buckets) (time : Int) : Buckets :=
  if 4096 < buckets.rows.length then buckets.filter fun row => ¬ row.untilTime ≤ time else buckets

/-- Forget the first bucket when there are too many. -/
def evicted (buckets : Buckets) : Buckets :=
  if 8192 < buckets.rows.length then buckets.tail else buckets

/-- The bucket as the map has it after it was counted up, if the map still has it. -/
def counted (buckets : Buckets) (bucket : Bucket) : Buckets :=
  if (buckets.find bucket.name).isSome then buckets.put bucket else buckets

def limit (route : Str) : Nat := if route = lit "signin" then 8 else 120

def rateLimited : Failure :=
  ⟨"RATE_LIMITED", "Request limit reached. Retry after one minute.", 429⟩

def rateLimit (buckets : Buckets) (client route : Str) (time : Int) :
    Buckets × Except Failure Unit :=
  let found := opened buckets (keyOf client route) time
  let bucket := found.1.hit
  (counted (evicted (swept found.2 time)) bucket,
    if limit route < bucket.count then .error rateLimited else .ok ())

/-! ## Requests one after the other -/

/-- A request at the time the handler reads from its clock. -/
structure Visit where
  request : Request
  time : Int

/-- The part of the handler that runs before the work of the route. -/
def handler [Urls] (buckets : Buckets) (visit : Visit) : Buckets × Answer :=
  match routed visit.request with
  | .error (failure, allow) => (buckets, .refused failure allow none)
  | .ok route =>
      match rateLimit buckets (clientOf visit.request.headers.forwardedFor) route visit.time with
      | (buckets, .error failure) => (buckets, .refused failure [] (some 60))
      | (buckets, .ok ()) => (buckets, .admitted route)

/-- The client and route a request is counted for, if it is counted at all. -/
def Visit.sender [Urls] (visit : Visit) : Option (Str × Str) :=
  match routed visit.request with
  | .error _ => none
  | .ok route => some (clientOf visit.request.headers.forwardedFor, route)

end Chlom.Core
