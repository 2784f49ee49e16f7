import MicrotunSigner.Lib.Text

/-!
# HTTP

What the handlers read of a request and write of a response: two header fields and the status
codes.
-/

namespace MicrotunSigner

open Lib.Text

/-- The bytes of a header value. -/
abbrev HeaderValue := List UInt8

/-- The text of a header value, if all its bytes are visible ASCII characters, spaces or tabs. -/
def HeaderValue.toStr (value : HeaderValue) : Option String :=
  if value.all fun b => (32 ≤ b && b < 127) || b == 9 then
    some (String.ofList (value.map fun b => Char.ofNat b.toNat))
  else none

/-- The header fields the handlers read. -/
structure HeaderMap where
  authorization : Option HeaderValue
  contentType : Option HeaderValue

structure StatusCode where
  code : Nat
  deriving DecidableEq, Repr

namespace StatusCode

def noContent : StatusCode := ⟨204⟩
def badRequest : StatusCode := ⟨400⟩
def unauthorized : StatusCode := ⟨401⟩
def forbidden : StatusCode := ⟨403⟩
def notFound : StatusCode := ⟨404⟩
def conflict : StatusCode := ⟨409⟩
def unsupportedMediaType : StatusCode := ⟨415⟩
def unprocessableEntity : StatusCode := ⟨422⟩
def locked : StatusCode := ⟨423⟩
def tooManyRequests : StatusCode := ⟨429⟩
def internalServerError : StatusCode := ⟨500⟩
def serviceUnavailable : StatusCode := ⟨503⟩

def isSuccess (status : StatusCode) : Bool := 200 ≤ status.code && status.code < 300

/-- A client or a server error. -/
def isError (status : StatusCode) : Bool := 400 ≤ status.code && status.code < 600

end StatusCode

/-- The media type is `application/json`, parameters and case aside. -/
def isJsonContentType (headers : HeaderMap) : Bool :=
  match headers.contentType.bind HeaderValue.toStr with
  | none => false
  | some value => match (split ';' value).head? with
    | none => false
    | some mediaType => eqIgnoreAsciiCase (trim mediaType) "application/json"

end MicrotunSigner
