import TraceMining.Rendition
import TraceMining.Schema.Reader
import TraceMining.Text.Encoding
import TraceMining.Value.Reader

/-
  This file defines requests and responses.  A body is a
  document; one that is required and missing, or that is not
  a document at all, is refused like a field would be.  One
  that cannot be decoded, or goes beyond what can be read, is
  refused as a whole.

  Key definitions include:
    * `Service.Payload`
    * `Service.Request`
    * `Service.Response`
    * `Service.Response.written`
    * `Service.Refusal`
    * `Service.Request.body`
    * `Service.Request.optionalBody`
    * `Service.Request.parameter`
-/

------------------------------------------------------------
-- Messages
------------------------------------------------------------

namespace TraceMining

namespace Service

/- What a request brings along: nothing, text or a document. -/
inductive Payload where
  | nothing
  | text (s : String)
  | document (v : Value)

/- A request; its path is decoded and its query taken apart. -/
structure Request where
  method : String
  path : String
  query : List (String × String)
  payload : Payload

/- A response; without a body it is null. -/
structure Response where
  status : Nat
  body : Value

namespace Response

/- Everything went well. -/
def ok
    (body : Value) : Response :=
  ⟨200, body⟩

/- A status with one line of explanation. -/
def detail
    (status : Nat)
    (text : String) : Response :=
  ⟨status, .object [("detail", .text text)]⟩

/- A request that violates its schema. -/
def refused
    (vs : List Schema.Violation) : Response :=
  ⟨422,
    .object
      [("detail", .list (vs.map Schema.Violation.toValue))]⟩

/- A document that leaves, if it can be written. -/
def written
    (status : Nat)
    (r : Rendition) : Except Failure Response :=
  match r.render with
  | .ok body => .ok ⟨status, body⟩
  | .error f => .error (.unwritable f.message)

end Response

end Service

end TraceMining

------------------------------------------------------------
-- Refusals
------------------------------------------------------------

namespace TraceMining

namespace Service

/- Why a request is not taken. -/
inductive Refusal where
  | unreadable
  | violating (vs : List Schema.Violation)

/-
  The response to a request that is not taken.  It repeats
  what was given, so that it needs finite numbers.
-/
def Refusal.answer :
    Refusal → Except Failure Response
  | .unreadable =>
      .ok (.detail 400 "There was an error parsing the body")
  | .violating vs =>
      if vs.all fun v => v.given.isFinite then
        .ok (.refused vs)
      else .error .notFinite

/- The result of a reading, or the refusal. -/
def taken
    {α : Type} :
    Schema.Checked α → Except Refusal α
  | .valid a => .ok a
  | .invalid vs => .error (.violating vs)

end Service

end TraceMining

------------------------------------------------------------
-- Bodies
------------------------------------------------------------

namespace TraceMining

namespace Service

/- The place of the body in violations. -/
def bodyPlace : Schema.Place :=
  .field "body"

/- The place of the query in violations. -/
def queryPlace : Schema.Place :=
  .field "query"

/- The document that text stands for. -/
def readText
    (s : String) : Except Refusal Value :=
  match Text.reread s with
  | none => .error .unreadable
  | some cs =>
      match Value.read cs with
      | .ok v => .ok v
      | .error .excessive => .error .unreadable
      | .error .malformed =>
          .error
            (.violating
              [⟨[bodyPlace], .invalidDocument, .object []⟩])

/- The document of a payload, if there is one. -/
def Payload.read :
    Payload → Except Refusal (Option Value)
  | .nothing => .ok none
  | .document v => .ok (some v)
  | .text s =>
      if s.isEmpty then .ok none else (readText s).map some

namespace Request

variable {α : Type}

/- Read the fields of a body that has to be there. -/
def body
    (r : Request)
    (read : Fields → Schema.Checked α) :
    Except Refusal α := do
  let result : Schema.Checked α :=
    match ← r.payload.read with
    | none => .fail .missing .null
    | some v => Schema.model .modelAttributesType read v
  taken (result.within bodyPlace)

/- Read the fields of a body; null is no body. -/
def optionalBody
    (r : Request)
    (read : Fields → Schema.Checked α) :
    Except Refusal (Option α) := do
  let result : Schema.Checked (Option α) :=
    match ← r.payload.read with
    | none => .valid none
    | some v =>
        Schema.nullable
          (Schema.model .modelAttributesType read) v
  taken (result.within bodyPlace)

/- Read a parameter of the query, if it is there. -/
def parameter
    (r : Request)
    (name : String)
    (otherwise : α)
    (read : Value → Schema.Checked α) : Schema.Checked α :=
  match r.query.lookup name with
  | none => .valid otherwise
  | some s =>
      ((read (.text s)).within (.field name)).within queryPlace

end Request

end Service

end TraceMining
