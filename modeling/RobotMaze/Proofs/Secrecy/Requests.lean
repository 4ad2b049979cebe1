import RobotMaze.Proofs.Secrecy.Accounts
import RobotMaze.Proofs.Web.Handling

/-! # Requests that supply passwords

    A password is supplied at four addresses: to log in, for a new user, with
    changes to a user, and as a new password.  Two requests are alike when they
    are the same but for passwords whose checks have the same outcomes:

    * `Request.SameHead` — all that comes before the body is the same, apart from
      its announced length;
    * `Request.SameBody` — so is the body, as far as it is not a password;
    * `Request.verdict` — the outcome of the attempt that a login is, which
      depends on the store;
    * `Response.Alike` — responses that are the same but for the words in which the
      body that was sent is said to be no JSON, or other JSON than is asked for;
    * `twins_perform`, `twins_require`, `TwinsWhen.respond` — how twins carry over from
      operations to handlers, and to their responses. -/

namespace RobotMaze

open Time (Instant)

/-- The settings with another password for the first account. -/
def Settings.withFirstPassword (s : Settings) (password : String) : Settings :=
  { s with auth := { s.auth with firstAdmin := { s.auth.firstAdmin with password } } }

namespace Web

/-- What the site brings to a request, with another password for the first account. -/
def Context.withFirstPassword (c : Context) (password : String) : Context :=
  { c with settings := c.settings.withFirstPassword password }

/-! ## The head of a request -/

/-- Two requests are the same before their bodies, apart from the field that announces the length of
    the body. -/
structure Request.SameHead (r r' : Request) : Prop where
  method : r'.method = r.method
  path : r'.path = r.path
  query : r'.query = r.query
  peer : r'.peer = r.peer
  values : ∀ name, name ≠ "content-length" → r'.values name = r.values name

namespace Request.SameHead

variable {r r' : Request} (h : r.SameHead r')
include h

/-- A header other than the length of the body is the same. -/
theorem text? {name : String} (hname : name ≠ "content-length") : r'.text? name = r.text? name := by
  simp only [Request.text?, Request.header?, h.values name hname]

/-- So is one that may be blank. -/
theorem filled? {name : String} (hname : name ≠ "content-length") :
    r'.filled? name = r.filled? name := by
  simp only [Request.filled?, h.text? hname]

/-- The two requests tell the same of the client. -/
theorem client : r'.client = r.client := by
  simp only [Request.client, clientAddress?, forwardedFor?, h.peer,
    h.filled? (show "user-agent" ≠ "content-length" by decide),
    h.filled? (show "x-forwarded-for" ≠ "content-length" by decide),
    h.filled? (show "x-real-ip" ≠ "content-length" by decide)]

/-- The two requests bring the same token. -/
theorem token? (cookieName : String) : r'.token? cookieName = r.token? cookieName := by
  simp only [Request.token?, texts, h.values "cookie" (by decide)]

/-- The two requests ask for the same in their addresses. -/
theorem queried {α : Type} (ofText? : String → Option α) (name : String) :
    r'.queried ofText? name = r.queried ofText? name := by
  simp only [Request.queried, queryForm, h.query]

/-- The two requests ask for the same listing. -/
theorem listing : r'.listing = r.listing := by
  simp only [Request.listing, h.queried]

/-- The two requests come from the same origin. -/
theorem allowedOrigin? (s : ServerSettings) : allowedOrigin? s r' = Web.allowedOrigin? s r := by
  simp only [Web.allowedOrigin?, header?, h.values "origin" (by decide)]

/-- The two requests act as the same user, from the same place. -/
theorem actor (p : Principal) : Office.actor r' p = Office.actor r p := by
  simp only [Office.actor, h.client]

/-- A body that is the same is read in the same way. -/
theorem decode (hbody : r'.body = r.body) {α : Type} (d : Json.Decoder α) :
    r'.decode d = r.decode d := by
  simp only [Request.decode, h.text? (show "content-type" ≠ "content-length" by decide), hbody]

end Request.SameHead

/-! ## The body of a request -/

/-- What a request supplies a password for. -/
inductive Supply where
  | login
  | newUser
  | edit
  | newPassword
  deriving DecidableEq, Repr

/-- A field of a form, without its value if that is the password. -/
def Form.shownField (field : String × String) : String × String :=
  if field.1 == "password" then (field.1, "") else field

/-- The fields of a form without the password. -/
def Form.shown (f : Form) : Form := f.map shownField

/-- The changes to an account without the password, and whether that is long enough unless it is
    blank. -/
def Office.UserEdit.shown (e : UserEdit) : UserEdit × Option (Except Violation Unit) :=
  ({ e with password := none },
    (e.password.filter fun p => !Text.isBlankText p).map User.checkPassword)

namespace Request

/-- What a request supplies a password for, if it does. -/
def supply? (r : Request) : Option Supply :=
  match Route.ofPath? r.path, r.method with
  | some (.entrance .login), .post => some .login
  | some (.office (.users .listing)), .post => some .newUser
  | some (.office (.users (.one _))), .put => some .edit
  | some (.office (.users (.password _))), .patch => some .newPassword
  | _, _ => none

/-- Two bodies are the same, or they are so but for a password that is supplied, and the checks of
    the two passwords by themselves have one outcome. -/
def SameBody (r r' : Request) : Prop :=
  match r.supply? with
  | none => r'.body = r.body
  | some .login => r.form.map Form.shown = r'.form.map Form.shown
  | some .newUser => (r.decode Office.newUserDecoder).map NewUser.shown
      = (r'.decode Office.newUserDecoder).map NewUser.shown
  | some .edit => (r.decode Office.UserEdit.decoder).map Office.UserEdit.shown
      = (r'.decode Office.UserEdit.decoder).map Office.UserEdit.shown
  | some .newPassword => (r.decode Office.newPasswordDecoder).map User.checkPassword
      = (r'.decode Office.newPasswordDecoder).map User.checkPassword

/-- The username and the password with which a request tries to log in. -/
def attempt (r : Request) : Except Refusal (String × String) := do
  let form ← r.form
  return (← Entrance.formText form "username", ← Entrance.formText form "password")

/-- The outcome of the password check that a request makes in a store, if it makes one. -/
def verdict (r : Request) (s : Store) : Option Bool :=
  match r.supply?, r.attempt with
  | some .login, .ok (username, password) =>
      Users.verdict (Text.trim username) password s.database
  | _, _ => none

end Request

/-! ## Responses -/

/-- Two bodies are the same, or what was sent differs and they refuse it for one reason, each in the
    words that the JSON reader has for what was sent. -/
inductive Body.Alike (sent sent' : String) : Body → Body → Prop where
  | same (b : Body) : Alike sent sent' b b
  | refused (differ : sent ≠ sent') {e : Refusal} (unreadable : e = .malformed ∨ e = .mismatch)
      (x : Explanations) (m : Method) (path : String) :
      Alike sent sent' (e.response (some (x.json m path sent))).body
        (e.response (some (x.json m path sent'))).body

/-- Two responses are the same, but for words about the bodies that were sent. -/
structure Response.Alike (sent sent' : String) (a a' : Response) : Prop where
  status : a.status = a'.status
  fields : a.fields = a'.fields
  body : a.body.Alike sent sent' a'.body

namespace Response

variable {sent sent' : String} {a a' : Response}

theorem Alike.refl (a : Response) : a.Alike sent sent' a := ⟨rfl, rfl, .same a.body⟩

theorem Alike.of_eq (h : a = a') : a.Alike sent sent' a' := h ▸ refl a

/-- More fields make no difference. -/
theorem Alike.withFields (h : a.Alike sent sent' a') (more : List (String × String)) :
    Alike sent sent' { a with fields := a.fields ++ more }
      { a' with fields := a'.fields ++ more } :=
  ⟨h.status, congrArg (· ++ more) h.fields, h.body⟩

/-- Without their bodies they are the same. -/
theorem Alike.withoutBody (h : a.Alike sent sent' a') :
    a.withoutBody.Alike sent sent' a'.withoutBody := ⟨h.status, h.fields, .same .empty⟩

end Response

section Refused

variable {c : Context} {r r' : Request} {password : String} {e : Refusal}

/-- What is said about a request that could not be read is the same, unless it is said about a body
    of JSON. -/
theorem Request.SameHead.cause?_eq (hr : r.SameHead r')
    (hreadable : ¬ (e = .malformed ∨ e = .mismatch)) :
    (c.withFirstPassword password).cause? r' e = c.cause? r e := by
  cases e with
  | query => exact congrArg some (congrArg₂ c.explanations.query hr.path hr.query)
  | path => exact congrArg (fun path => some (c.explanations.path path)) hr.path
  | malformed => exact absurd (.inl rfl) hreadable
  | mismatch => exact absurd (.inr rfl) hreadable
  | _ => rfl

/-- One reason for a refusal makes for responses that are alike. -/
theorem Refusal.alike_response (hr : r.SameHead r') (e : Refusal) :
    (e.response (c.cause? r e)).Alike r.body r'.body
      (e.response ((c.withFirstPassword password).cause? r' e)) := by
  by_cases hunreadable : e = .malformed ∨ e = .mismatch
  case neg => exact .of_eq (by rw [hr.cause?_eq hunreadable])
  have hcause : c.cause? r e = some (c.explanations.json r.method r.path r.body)
      ∧ (c.withFirstPassword password).cause? r' e
        = some (c.explanations.json r.method r.path r'.body) := by
    rcases hunreadable with rfl | rfl <;>
      simp only [Context.cause?, Context.withFirstPassword, hr.method, hr.path, and_self]
  rw [hcause.1, hcause.2]
  by_cases hsent : r.body = r'.body
  · exact .of_eq (by rw [hsent])
  refine ⟨?_, ?_, .refused hsent hunreadable c.explanations r.method r.path⟩
  all_goals rcases hunreadable with rfl | rfl <;> rfl

end Refused

/-! ## Handlers -/

section Handling

variable {α β γ : Type} {look : α → γ} {guard : Store → Store → Prop}

/-- Handlers that perform twins, under a condition on the first step, are twins under it. -/
theorem twinsWhen_perform {x y : Op α} (h : TwinsWhen guard look x y) :
    TwinsWhen guard look (perform x) (perform y) := by
  refine Steps.Twins.bind h fun a b hab => ?_
  rcases map_eq_map_iff.mp hab with ⟨e, rfl, rfl⟩ | ⟨a, b, rfl, rfl, hlook⟩
  · exact .done rfl
  · exact .done (congrArg Except.ok hlook)

/-- Handlers that perform twins are twins. -/
theorem twins_perform {x y : Op α} (h : Twins look x y) : Twins look (perform x) (perform y) :=
  twinsWhen_perform h

@[grind ←]
theorem blind_perform {x : Op α} (h : Blind x) : Blind (perform x) := twinsWhen_perform h

/-- Demands with results that look the same are twins. -/
theorem twins_require {x y : Except Refusal α} (h : x.map look = y.map look) :
    Twins look (require x) (require y) := .done h

@[grind ←]
theorem blind_require (x : Except Refusal α) : Blind (require x) := twins_require rfl

/-- Handlers that are twins have responses that are alike. -/
theorem TwinsWhen.respond {c : Context} {r r' : Request} {password : String} (hr : r.SameHead r')
    {h h' : Handling Response} (hh : TwinsWhen guard id h h') :
    Steps.Twins Store.withoutHashes (Response.Alike r.body r'.body) guard (respond c r h)
      (respond (c.withFirstPassword password) r' h') := by
  refine Steps.Twins.bind hh fun a b hab => ?_
  obtain rfl := map_id_eq.mp hab
  cases a with
  | ok response => exact .done (.refl response)
  | error e => exact .done (e.alike_response hr)

namespace Office

/-- What looks the same is written in the same way. -/
theorem twins_answer {x y : Op α} (h : Twins look x y) {encode : α → Json}
    (hencode : ∀ a b, look a = look b → encode a = encode b) :
    Twins id (answer encode x) (answer encode y) :=
  (twins_perform h).bind fun a b hab => twins_pure (by rw [hencode a b hab])

/-- An answer made of what is blind is blind. -/
@[grind ←]
theorem blind_answer {encode : α → Json} {x : Op α} (h : Blind x) : Blind (answer encode x) :=
  twins_answer h fun _ _ hab => congrArg encode hab

@[grind ←]
theorem blind_done {x : Op Unit} (h : Blind x) (message : String) : Blind (done x message) :=
  blind_bind (blind_perform h) fun _ => blind_pure _

end Office

end Handling

end Web

end RobotMaze
