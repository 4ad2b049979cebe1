import RobotMaze.Failure
import RobotMaze.Json.Printer
import RobotMaze.Web.Request

/-! # Responses and refusals

    * `Response` — what is sent back;
    * `Refusal` — why a request gets no answer, as a response. -/

/-! ## Responses

    A response has a status, header fields and a body.

    * `Response.json`, `Response.page`, `Response.file`, `Response.redirect` —
      the kinds of answers;
    * `Response.withField` puts a field in, in place of one of the same name. -/

namespace RobotMaze.Web

/-- What a response carries. -/
inductive Body where
  | empty
  | json (value : Json)
  | text (content : String)
  deriving Repr

/-- A response.  The names of its fields are in lower case. -/
structure Response where
  status : Nat
  fields : List (String × String)
  body : Body
  deriving Repr

namespace Response

/-- A response without a body. -/
def bare (status : Nat) (fields : List (String × String)) : Response := ⟨status, fields, .empty⟩

/-- A value. -/
def json (value : Json) (status : Nat := 200) : Response :=
  ⟨status, [("content-type", "application/json")], .json value⟩

/-- A web page. -/
def page (html : String) : Response :=
  ⟨200, [("content-type", "text/html; charset=utf-8")], .text html⟩

/-- A message for people. -/
def plain (status : Nat) (message : String) : Response :=
  ⟨status, [("content-type", "text/plain; charset=utf-8")], .text message⟩

/-- The reference to another page. -/
def redirect (path : String) : Response := bare 303 [("location", path)]

/-- The response with a field in place of the one of the same name. -/
def withField (r : Response) (name value : String) : Response :=
  { r with fields := r.fields.filter (fun field => field.1 != name) ++ [(name, value)] }

/-- The response as something to be saved under a name. -/
def saved (r : Response) (fileName : String) : Response :=
  r.withField "content-disposition" ("attachment; filename=\"" ++ fileName ++ "\"")

/-- A text of some type to be saved under a name. -/
def file (type fileName content : String) : Response :=
  saved ⟨200, [("content-type", type)], .text content⟩ fileName

/-- The response without its body. -/
def withoutBody (r : Response) : Response := { r with body := .empty }

end Response

/-! ## Refusals — requests that get no answer

    A `Refusal` says why.  What went wrong inside is not told to the client.

    * `Refusal.ofFailure` is the refusal for an operation that failed;
    * `Refusal.response` is what the client gets, with the words of the library that read the
      request, where it was one. -/

/-- Why a request gets no answer. -/
inductive Refusal where
  /-- The request breaks a rule of the game. -/
  | rejected (message : String)
  /-- What the request is about does not exist. -/
  | unknown (message : String)
  | loginRequired
  | denied
  /-- Something went wrong that is none of the client's business. -/
  | internal
  /-- The query cannot be read. -/
  | query
  /-- The body is not announced as JSON. -/
  | contentType
  /-- The body is no JSON. -/
  | malformed
  /-- The body is JSON of another shape. -/
  | mismatch
  /-- A part of the path is not what it stands for. -/
  | path
  /-- The body is not announced as a form. -/
  | notAForm
  /-- The form, whose fields have these names, lacks a field or has one twice. -/
  | form (names : List String)
  /-- A header field of the answer cannot be sent. -/
  | unsendable
  deriving DecidableEq, Repr

namespace Refusal

/-- The status of a refusal. -/
def status : Refusal → Nat
  | .rejected _ => 400
  | .unknown _ => 404
  | .loginRequired => 401
  | .denied => 403
  | .internal => 500
  | .query => 400
  | .contentType => 400
  | .malformed => 400
  | .mismatch => 400
  | .path => 400
  | .notAForm => 415
  | .form _ => 422
  | .unsendable => 500

/-- What the wording of a refusal starts with. -/
def heading : Refusal → String
  | .rejected message => message
  | .unknown message => message
  | .loginRequired => "Authentication required"
  | .denied => "Access denied"
  | .internal => "Internal server error"
  | .query => "Failed to deserialize query string"
  | .contentType => "Expected request with \x60Content-Type: application/json\x60"
  | .malformed => "Failed to parse the request body as JSON"
  | .mismatch => "Failed to deserialize the JSON body into the target type"
  | .path => "Invalid URL"
  | .notAForm =>
      "Form requests must have \x60Content-Type: application/x-www-form-urlencoded\x60"
  | .form _ => "Failed to deserialize form body"
  | .unsendable => "failed to parse header value"

/-- The wording of a refusal, with the cause of it that a library tells. -/
def message (r : Refusal) (cause? : Option String) : String :=
  r.heading ++ (cause?.map (": " ++ ·)).getD ""

/-- Whether the wording is sent as plain text rather than as an object. -/
def isPlainText : Refusal → Bool
  | .path => true
  | .notAForm => true
  | .form _ => true
  | .unsendable => true
  | _ => false

/-- The response to a refused request. -/
def response (r : Refusal) (cause? : Option String := none) : Response :=
  if r.isPlainText then .plain r.status (r.message cause?)
  else .json (.object [("error", .string (r.message cause?))]) r.status

/-- The refusal for a class of failures. -/
def ofCategory (category : FailureCategory) (message : String) : Refusal :=
  match category with
  | .validation => .rejected message
  | .conflict => .rejected message
  | .invalidState => .rejected message
  | .notFound => .unknown message
  | .credentials => .loginRequired
  | _ => .internal

/-- The refusal for an operation that failed. -/
def ofFailure (f : Failure) : Refusal := ofCategory f.category f.message

end Refusal

end RobotMaze.Web
