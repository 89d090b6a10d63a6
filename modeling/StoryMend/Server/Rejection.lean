import StoryMend.Json.Form
import StoryMend.Server.MediaType
import StoryMend.Server.Request
import StoryMend.Server.Response
import StoryMend.Text.Line

/-!
Requests whose bodies cannot be used.  The reason is a line of text first; before the
answer leaves the service the text is put into the envelope of a failure.
-/

namespace StoryMend.Server

open Text

/-- Why the body of a request cannot be used. -/
inductive Rejection where
  /-- The request does not say that its body is JSON. -/
  | mediaType
  | tooLong
  /-- The body is not JSON. -/
  | malformed (error : Json.ReadError)
  /-- The body is JSON of another form. -/
  | misfit (error : Json.ReadError)
deriving Repr, DecidableEq

namespace Rejection

/-- The status of the answer to a request that is rejected. -/
def status : Rejection → Nat
  | mediaType => 415
  | tooLong => 413
  | malformed _ => 400
  | misfit _ => 422

/-- Why a request is rejected, in words. -/
def message : Rejection → String
  | mediaType => "Expected request with `Content-Type: application/json`"
  | tooLong => "Failed to buffer the request body: length limit exceeded"
  | malformed e => "Failed to parse the request body as JSON: " ++ e.messageWithPath
  | misfit e =>
    "Failed to deserialize the JSON body into the target type: " ++ e.messageWithPath

/-- The rejection of a body that does not read. -/
def ofReadError (e : Json.ReadError) : Rejection :=
  if e.fault.isMisfit then .misfit e else .malformed e

end Rejection

/-- The length of the longest body that is taken. -/
def maxBody : Nat := 2097152

/-- Reads the body of a request. -/
def Request.read {α : Type} (r : Request) (form : Json.Form α) : Except Rejection α :=
  let isJson := match r.header? "content-type" with
    | some value => isPlainValue value && MediaType.isJson value
    | none => false
  if !isJson then .error .mediaType
  else if maxBody < r.body.length then .error .tooLong
  else
    match form.shape.read r.body with
    | .ok j => .ok (form.build j)
    | .error e => .error (.ofReadError e)

/-- The text after the first place where another text stands. -/
def afterFirst? (needle : List Char) : List Char → Option (List Char)
  | [] => after? needle []
  | c :: rest => (after? needle (c :: rest)).or (afterFirst? needle rest)

/-- The field that a message names between backquotes. -/
def namedField? (message : List Char) : Option String :=
  match afterFirst? "field `".toList message with
  | none => none
  | some rest =>
    if rest.contains '\x60' then some (String.ofList (rest.takeWhile (· != '\x60'))) else none

/-- What may help the sender of a request that a message is about. -/
def hint? (message : List Char) : Option String :=
  let holds := fun s => contains (String.toList s) message
  if holds "unknown variant" then
    some "`framework` must be one of react, vue, angular, svelte, web-components."
  else if holds "expected a string" then some "Expected a JSON string for this field."
  else if holds "expected struct" || holds "expected a map" then
    some "Expected a JSON object here (e.g. \x7b \"code\": \"...\" \x7d)."
  else if holds "Content-Type" then some "Send the body with `Content-Type: application/json`."
  else none

/-- What a message points to in the request that it is about. -/
def detailsOf (message : List Char) : List Detail :=
  match namedField? message, hint? message with
  | none, none => []
  | path, hint => [{ path, hint }]

/-- The name of a kind of rejections. -/
def rejectionCode (status : Nat) : String :=
  if status = 422 then "UNPROCESSABLE_ENTITY"
  else if status = 415 then "UNSUPPORTED_MEDIA_TYPE"
  else "BAD_REQUEST"

/-- The length in bytes of the longest text that is kept. -/
def maxKept : Nat := 65536

/-- Puts the text of a rejection into the envelope of a failure and marks the answer; other
answers stay as they are. -/
def Response.enveloped (r : Response) : Response :=
  match r.content with
  | .text s =>
    if r.status = 400 || r.status = 415 || r.status = 422 then
      let kept := if s.utf8ByteSize ≤ maxKept then s.toList else []
      let message := String.ofList (trim kept)
      { ofJson r.status (failureEnvelope (rejectionCode r.status) message (detailsOf kept)) with
        isMarked := true }
    else r
  | _ => r

end StoryMend.Server
