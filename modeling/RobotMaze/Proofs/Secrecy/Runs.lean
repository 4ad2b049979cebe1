import Mathlib.Data.List.Forall2
import RobotMaze.Proofs.Secrecy.Commands
import RobotMaze.Proofs.Secrecy.Site

/-! # Runs of the application

    The site answers requests, logins that have ended are forgotten now and then,
    and commands are carried out on the same store; the site itself is started by
    one.  All of this goes on at the same time, step by step.

    * `Application.next` — one turn of all this, `Application.run` — a run;
    * `Application.verdicts` — the outcomes of the password checks on the way that
      depend on hashes;
    * `Application.SeenAlike` — the same can be seen of two of them: all that is
      stored but hashes, the files, and the answers, but for the words in which
      bodies that differ are refused;
    * `Application.seen_run_of_alike` — of two runs that are the same but for
      passwords, on which the checks of passwords have the same outcomes, the same
      can be seen, by induction on their turns;
    * `Application.seen_unalike` — where the words for a refused body differ, and
      passwords that are read differently although their checks are the same. -/

namespace RobotMaze

open Time (Instant)
open Console (Bench Command Fault OutputFormat Salts Work)

/-! ## Actions -/

/-- Something that the application does. -/
inductive Action where
  /-- Answers a request. -/
  | request (c : Web.Context) (r : Web.Request)
  /-- Forgets the logins that have ended. -/
  | purge (now : Instant)
  /-- Carries out a command. -/
  | command (settings : Settings) (format : OutputFormat) (salts : Salts) (now : Instant)
      (wanted : Command)

/-- What comes of an action. -/
inductive Answer where
  | response (r : Web.Response)
  | purged (result : Except Failure Nat)
  /-- What a command has to show, or why it has not succeeded. -/
  | shown (result : Except Fault String)

/-- Two answers are the same, but for the words in which responses refuse bodies that differ, as no
    JSON or as other JSON than is asked for. -/
inductive Answer.Alike (sent sent' : String) : Answer → Answer → Prop where
  | response {r r' : Web.Response} (same : r.Alike sent sent' r') :
      Alike sent sent' (.response r) (.response r')
  | purged (result : Except Failure Nat) : Alike sent sent' (.purged result) (.purged result)
  | shown (result : Except Fault String) : Alike sent sent' (.shown result) (.shown result)

namespace Action

/-- The body that is sent for an action; nothing is sent for one that is no request. -/
def sent : Action → String
  | .request _ r => r.body
  | _ => ""

/-- The steps of an action. -/
def steps : Action → Steps Bench Answer
  | .request c r => do return .response (← Work.stepsOnStore (Web.answer c r))
  | .purge now => do return .purged (← Work.stepsOnStore (ExceptT.run (Logins.purge now)))
  | .command settings format salts now wanted => do
      return .shown (← ExceptT.run (wanted.work settings format salts now))

/-- The outcome of the password check to which the first step of an action leads, if it leads to one
    that depends on a hash.  No later step does. -/
def verdict : Action → Store → Option Bool
  | .request _ r, s => r.verdict s
  | _, _ => none

/-- Two actions are the same, or they are so but for passwords, and the checks of these passwords by
    themselves have the same outcomes. -/
inductive Alike : Action → Action → Prop where
  | request {r r' : Web.Request} (head : r.SameHead r') (body : r.SameBody r') (c : Web.Context)
      (first : String) : Alike (.request c r) (.request (c.withFirstPassword first) r')
  | purge (now : Instant) : Alike (.purge now) (.purge now)
  | command {settings : Settings} {first : String} {wanted wanted' : Command}
      (check : User.checkPassword first = User.checkPassword settings.auth.firstAdmin.password)
      (same : wanted.Alike wanted') (format : OutputFormat) (salts : Salts) (now : Instant) :
      Alike (.command settings format salts now wanted)
        (.command (settings.withFirstPassword first) format salts now wanted')

/-- Actions that are alike are twins, where the password checks have one outcome. -/
theorem Alike.twins_steps {a a' : Action} (h : a.Alike a') :
    Steps.Twins Bench.withoutHashes (Answer.Alike a.sent a'.sent)
      (fun b b' => a.verdict b.store = a'.verdict b'.store) a.steps a'.steps := by
  cases h with
  | request head body c first =>
      refine Steps.Twins.bind (Work.twins_stepsOnStore (Web.twins_answer c first head body))
        fun response _ hsame => ?_
      exact .done (.response hsame)
  | purge now =>
      refine Steps.Twins.bind (Work.twins_stepsOnStore (Logins.blind_purge now)).when
        fun result _ hsame => ?_
      exact .done (map_id_eq.mp hsame ▸ .purged result)
  | command check same format salts now =>
      refine Steps.Twins.bind (same.twins_work check).when fun result _ hsame => ?_
      exact .done (map_id_eq.mp hsame ▸ .shown result)

end Action

/-! ## Turns -/

/-- An action that has been taken up. -/
structure Job where
  action : Action
  /-- Whether the first step has been taken. -/
  isBegun : Bool
  rest : Steps Bench Answer

namespace Job

/-- An action of which no step has been taken yet. -/
def ofAction (a : Action) : Job := ⟨a, false, a.steps⟩

/-- What has come of the action, if it has ended. -/
def answer? (j : Job) : Option Answer :=
  match j.rest with
  | .done answer => some answer
  | .step _ _ => none

/-- The outcome of the password check to which the next step leads, if it leads to one. -/
def verdict (j : Job) (b : Bench) : Option Bool :=
  if j.isBegun then none else j.action.verdict b.store

/-- What is left after the next step, and what that step leaves behind. -/
def advance (j : Job) (b : Bench) : Job × Bench :=
  let (rest, b) := j.rest.advance b
  ({ j with isBegun := true, rest }, b)

end Job

/-- A store and a disk, and the actions that were taken up, in their order. -/
structure Application where
  bench : Bench
  jobs : List Job := []

namespace Application

/-- What may happen next. -/
inductive Turn where
  /-- An action is taken up. -/
  | begin (a : Action)
  /-- The action in a place takes its next step. -/
  | step (place : Nat)

/-- The application after a turn. -/
def next (a : Application) : Turn → Application
  | .begin action => { a with jobs := a.jobs ++ [.ofAction action] }
  | .step place =>
      match a.jobs[place]? with
      | none => a
      | some job =>
          let (job, bench) := job.advance a.bench
          { bench, jobs := a.jobs.set place job }

/-- The application after a run. -/
def run (a : Application) (turns : List Turn) : Application := turns.foldl next a

/-- The outcome of the password check to which a turn leads, if it leads to one that depends on a
    hash. -/
def verdict (a : Application) : Turn → Option Bool
  | .begin _ => none
  | .step place => a.jobs[place]?.bind fun job => job.verdict a.bench

/-- The outcomes of the password checks on a run, turn by turn. -/
def verdicts (a : Application) : List Turn → List (Option Bool)
  | [] => []
  | turn :: rest => a.verdict turn :: (a.next turn).verdicts rest

/-- The same can be seen of two applications: what is stored, apart from hashes, the files, and for
    every action that was taken up what has come of it so far, but for the words in which the body
    that was sent for it is refused. -/
structure SeenAlike (a a' : Application) : Prop where
  bench : a.bench.withoutHashes = a'.bench.withoutHashes
  answers : List.Forall₂ (fun j j' : Job =>
    Option.Rel (Answer.Alike j.action.sent j'.action.sent) j.answer? j'.answer?) a.jobs a'.jobs

/-- Turns at which actions that are alike are taken up, or the same one goes on. -/
inductive Turn.Alike : Turn → Turn → Prop where
  | begin {action action' : Action} (same : action.Alike action') :
      Alike (.begin action) (.begin action')
  | step (place : Nat) : Alike (.step place) (.step place)

end Application

/-! ## One turn -/

/-- Two actions that go on in the same way, as far as can be seen. -/
structure Job.Alike (j j' : Job) : Prop where
  isBegun : j.isBegun = j'.isBegun
  rest : Steps.Twins Bench.withoutHashes (Answer.Alike j.action.sent j'.action.sent)
    (fun b b' => j.verdict b = j'.verdict b') j.rest j'.rest

namespace Job

variable {j j' : Job}

theorem alike_ofAction {a a' : Action} (h : a.Alike a') : (ofAction a).Alike (ofAction a') :=
  ⟨rfl, h.twins_steps⟩

theorem Alike.advance (h : j.Alike j') {b b' : Bench} (hview : b.withoutHashes = b'.withoutHashes)
    (hverdict : j.verdict b = j'.verdict b') :
    (j.advance b).1.Alike (j'.advance b').1
      ∧ (j.advance b).2.withoutHashes = (j'.advance b').2.withoutHashes := by
  obtain ⟨hbench, hrest⟩ := h.rest.advance hview hverdict
  -- what is left has begun, so there is no verdict any more that it would have to wait for
  exact ⟨⟨rfl, hrest.when⟩, hbench⟩

theorem Alike.answer? (h : j.Alike j') :
    Option.Rel (Answer.Alike j.action.sent j'.action.sent) j.answer? j'.answer? := by
  obtain ⟨action, isBegun, rest⟩ := j
  obtain ⟨action', isBegun', rest'⟩ := j'
  cases h.rest with
  | done answers => exact .some answers
  | step now later => exact .none

end Job

section Related

variable {α β : Type} {R : α → β → Prop} {as : List α} {bs : List β}

/-- Lists that are related entry by entry have related entries in a place, or none. -/
theorem rel_getElem? (h : List.Forall₂ R as bs) (place : Nat) :
    Option.Rel R as[place]? bs[place]? := by
  induction h generalizing place with
  | nil => exact .none
  | cons hab hrest ih =>
      cases place with
      | zero => exact .some hab
      | succ place => exact ih place

/-- Lists stay related when related entries are put in a place. -/
theorem forall₂_set (h : List.Forall₂ R as bs) {a : α} {b : β} (hab : R a b) (place : Nat) :
    List.Forall₂ R (as.set place a) (bs.set place b) := by
  induction h generalizing place with
  | nil => exact .nil
  | cons hfirst hrest ih =>
      cases place with
      | zero => exact .cons hab hrest
      | succ place => exact .cons hfirst (ih place)

end Related

namespace Application

/-- Two applications of which the same can be seen, and which go on in the same way. -/
structure Alike (a a' : Application) : Prop where
  bench : a.bench.withoutHashes = a'.bench.withoutHashes
  jobs : List.Forall₂ Job.Alike a.jobs a'.jobs

variable {a a' : Application} {turn turn' : Turn}

/-- The action in a place, if there is one, goes on in the same way. -/
theorem Alike.step (h : a.Alike a') {place : Nat}
    (hverdict : a.verdict (.step place) = a'.verdict (.step place)) :
    (a.next (.step place)).Alike (a'.next (.step place)) := by
  -- actions are taken up at the same turns of both runs, so that places name the same actions
  have hplace := rel_getElem? h.jobs place
  simp only [next, verdict] at hverdict ⊢
  cases hjob : a.jobs[place]? with
  | none =>
      cases hjob' : a'.jobs[place]? with
      | none => exact h
      | some job' => rw [hjob, hjob'] at hplace; cases hplace
  | some job =>
      cases hjob' : a'.jobs[place]? with
      | none => rw [hjob, hjob'] at hplace; cases hplace
      | some job' =>
          rw [hjob, hjob'] at hplace hverdict
          cases hplace with
          | some hsame =>
              obtain ⟨hrest, hbench⟩ := hsame.advance h.bench hverdict
              exact ⟨hbench, forall₂_set h.jobs hrest place⟩

/-- Applications that are alike stay so at turns that are alike. -/
theorem Alike.next (h : a.Alike a') (hturn : turn.Alike turn')
    (hverdict : a.verdict turn = a'.verdict turn') : (a.next turn).Alike (a'.next turn') := by
  cases hturn with
  | begin same =>
      exact ⟨h.bench, List.rel_append h.jobs (.cons (Job.alike_ofAction same) .nil)⟩
  | step place => exact h.step hverdict

/-! ## Runs -/

theorem Alike.run {turns turns' : List Turn} (h : a.Alike a')
    (hturns : List.Forall₂ Turn.Alike turns turns')
    (hverdicts : a.verdicts turns = a'.verdicts turns') : (a.run turns).Alike (a'.run turns') := by
  induction hturns generalizing a a' with
  | nil => exact h
  | cons hturn hrest ih =>
      obtain ⟨hverdict, hverdicts⟩ := List.cons.inj hverdicts
      exact ih (h.next hturn hverdict) hverdicts

/-- Of applications that are alike the same can be seen. -/
theorem Alike.seen (h : a.Alike a') : a.SeenAlike a' :=
  ⟨h.bench, h.jobs.imp fun _ _ hjob => hjob.answer?⟩

/-- Two runs from what looks the same, with turns that are the same but for passwords, and in which
    the password checks have the same outcomes, cannot be told apart: all that is stored but hashes,
    the lines of the audit trail, the files that were exported, and all that commands have shown is
    the same in both, and so is every response, but for the words in which the JSON reader explains
    what is wrong with a body that supplies a password. -/
theorem seen_run_of_alike {b b' : Bench} {turns turns' : List Turn}
    (hbench : b.withoutHashes = b'.withoutHashes) (hturns : List.Forall₂ Turn.Alike turns turns')
    (hverdicts : (Application.mk b []).verdicts turns = (Application.mk b' []).verdicts turns') :
    ((Application.mk b []).run turns).SeenAlike ((Application.mk b' []).run turns') := by
  have hstart : (Application.mk b []).Alike (Application.mk b' []) := ⟨hbench, .nil⟩
  exact (hstart.run hturns hverdicts).seen

/-- The first account logs in. -/
def firstLoginRequest (password : String) : Web.Request :=
  let body := "username=admin&password=" ++ password
  { method := .post
    path := "/login"
    fields := [("Content-Type", "application/x-www-form-urlencoded"),
      ("Content-Length", toString body.utf8ByteSize)]
    body }

/-- The site is started on an empty store, and the first account logs in. -/
def firstLogin (password : String) : List Turn :=
  let now : Instant := ⟨1772370000, 0⟩
  let c : Web.Context :=
    { explanations := default, hashing := ⟨10, [17]⟩, now, sessionId := "", token := "a-token",
      number := 0 }
  .begin (.command (({} : Settings).withFirstPassword password) .json ⟨[18], [19]⟩ now
      (.serve none none))
    :: .begin (.request c (firstLoginRequest password))
    :: (List.replicate 7 (.step 0) ++ List.replicate 5 (.step 1))

/-- Two first passwords, with either of which the first account logs in. -/
theorem seen_run_of_alike_firstLogin :
    let start := Application.mk ⟨{ trail := .files [] }, {}⟩ []
    let checks := List.replicate 9 none ++ some true :: List.replicate 4 none
    start.bench.withoutHashes = start.bench.withoutHashes
      ∧ List.Forall₂ Turn.Alike (firstLogin "baroness") (firstLogin "countess1815")
      ∧ start.verdicts (firstLogin "baroness") = checks
      ∧ start.verdicts (firstLogin "countess1815") = checks
      ∧ (start.run (firstLogin "baroness")).SeenAlike
        (start.run (firstLogin "countess1815")) := by
  intro start checks
  have head : (firstLoginRequest "baroness").SameHead (firstLoginRequest "countess1815") := by
    refine ⟨rfl, rfl, rfl, rfl, fun name hname => ?_⟩
    have hlength : (Text.asciiLower "Content-Length" == name) = false := by
      rw [show Text.asciiLower "Content-Length" = "content-length" by decide +kernel]
      simpa using hname.symm
    simp only [firstLoginRequest, Web.Request.values, List.filter, hlength]
  have body : (firstLoginRequest "baroness").SameBody (firstLoginRequest "countess1815") := by
    have hsupply : (firstLoginRequest "baroness").supply? = some .login := by decide +kernel
    simp only [Web.Request.SameBody, hsupply]
    decide +kernel
  have hserve : Action.Alike
      (.command (({} : Settings).withFirstPassword "baroness") .json ⟨[18], [19]⟩ ⟨1772370000, 0⟩
        (.serve none none))
      (.command (({} : Settings).withFirstPassword "countess1815") .json ⟨[18], [19]⟩
        ⟨1772370000, 0⟩ (.serve none none)) := .command (by decide +kernel) (.same _) _ _ _
  have hsteps : ∀ n place, List.Forall₂ Turn.Alike (List.replicate n (.step place))
      (List.replicate n (.step place)) := fun n place =>
    List.forall₂_same.mpr fun turn hturn => List.eq_of_mem_replicate hturn ▸ .step place
  have hturns : List.Forall₂ Turn.Alike (firstLogin "baroness") (firstLogin "countess1815") :=
    .cons (.begin hserve)
      (.cons (.begin (.request head body _ ({} : Settings).auth.firstAdmin.password))
        (List.rel_append (hsteps 7 0) (hsteps 5 1)))
  have hchecks : start.verdicts (firstLogin "baroness") = checks := by decide +kernel
  have hchecks' : start.verdicts (firstLogin "countess1815") = checks := by decide +kernel
  exact ⟨rfl, hturns, hchecks, hchecks',
    seen_run_of_alike rfl hturns (hchecks.trans hchecks'.symm)⟩

/-! ## What can tell passwords apart -/

/-- A fresh folder, where a variable gives the password of the first account. -/
def freshFolder (password : String) : Console.Surroundings where
  disk := {}
  environment := [("GFD_AUTH__BOOTSTRAP_ADMIN__PASSWORD", password)]
  configHome := ""
  salts := ⟨[17], [18]⟩

/-- Whether a command line succeeds there, and the accounts that are stored then. -/
def accountsAfter (words : List String) (folder : Console.Surroundings) :
    Bool × Option (List String) :=
  let (reply, s) := Console.reply words ⟨1773144000, 0⟩ folder
  (match reply with
    | .shown _ => true
    | _ => false,
    (s.disk.openStore ".gfd/gfd.db").toOption.map fun (db, _) => db.users.rows.map (·.username))

/-- The command line that creates an account with a password. -/
def creation (password : String) : List String :=
  ["user", "create", "ada", "--email", "ada@maze.example", "--password", password]

/-- An administrator asks for a new account, and sends no address for it. -/
def incompleteRequest (password : String) : Web.Request :=
  { method := .post
    path := "/api/admin/users"
    fields := [("Content-Type", "application/json"),
      ("Cookie", "GFD_SESSION=AAAAAAAAAAAAAAAAAAAAAAAAAAAAAAAAAAAAAAAAAAA")]
    body := "\x7b\"username\":\"eve\",\"password\":\"" ++ password ++ "\"\x7d" }

/-- The wording of the refusal of this request, by a JSON reader that tells where a body ends. -/
def wordingOf (password : String) : String :=
  let now : Instant := ⟨1773144000, 0⟩
  let json := fun _ _ body =>
    "missing field \x60email\x60 at line 1 column " ++ toString (String.length body)
  let c : Web.Context := { explanations := { (default : Web.Explanations) with json },
                           hashing := ⟨4, [17]⟩, now, sessionId := "", token := "", number := 0 }
  let s := (Store.empty .disabled).after
    [⟨now, .users (.create ⟨"ada", "ada@maze.example", "countess", none, .admin, true⟩
        ⟨4, [17]⟩ {})⟩,
      ⟨now, .logins (.logIn "ada" "countess" "AAAAAAAAAAAAAAAAAAAAAAAAAAAAAAAAAAAAAAAAAAA" 3600
        {})⟩]
  match ((Web.answer c (incompleteRequest password)).run s).1.body with
  | .json value => value.render
  | _ => ""

/-- Passwords that pass all the checks, and have nothing stored that could be compared with them,
    make a difference: where a variable holds one that reads as a number, where a command line holds
    one that starts like an option, and by its length where a body of JSON is refused. -/
theorem seen_unalike :
    ["12345678", "countess", "-countess", "countess1815"].map User.checkPassword
        = List.replicate 4 (.ok ())
      ∧ accountsAfter ["migrate"] (freshFolder "12345678") = (false, some [])
      ∧ accountsAfter ["migrate"] (freshFolder "countess") = (true, some ["admin"])
      ∧ accountsAfter (creation "-countess") (freshFolder "countess") = (false, some [])
      ∧ accountsAfter (creation "countess") (freshFolder "countess") = (true, some ["admin", "ada"])
      ∧ wordingOf "countess" = "\x7b\"error\":\"Failed to deserialize the JSON body into the target "
        ++ "type: missing field \x60email\x60 at line 1 column 40\"\x7d"
      ∧ wordingOf "countess1815" = "\x7b\"error\":\"Failed to deserialize the JSON body into the "
        ++ "target type: missing field \x60email\x60 at line 1 column 44\"\x7d" := by
  decide +kernel

end Application

end RobotMaze
