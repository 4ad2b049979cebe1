import RobotMaze.Console.Arguments
import RobotMaze.Console.Output
import RobotMaze.Text.Number

/-! # Commands — what the program can be told to do

    A command serves the game, prepares the store, or looks after accounts,
    tracks, the audit log and figures.

    * `Command.grammar` says how each is written;
    * `Invocation.read` reads the words of a command line. -/

namespace RobotMaze.Console

/-- Which entries of the audit log are wanted, as written. -/
structure AuditChoice where
  username : Option String
  action : Option String
  resourceType : Option String
  since : Option String
  upTo : Option String
  deriving DecidableEq, Repr

/-- Something to do. -/
inductive Command where
  /-- Serves the game, perhaps at another address than the settings say. -/
  | serve (host : Option String) (port : Option UInt16)
  /-- Prepares the store. -/
  | migrate
  | createUser (username email password : String) (fullName : Option String) (role : String)
  | listUsers (search role : Option String) (page : UInt32) (size : Option UInt32)
  | setPassword (username password : String)
  | listTracks
  /-- Exports one track, or the active ones, or all, to a file or the output. -/
  | exportTracks (id : Option Int) (all : Bool) (file : Option String)
  | importTracks (file : String)
  | recentAudit (limit : UInt32)
  | exportAudit (choice : AuditChoice) (file : Option String)
  | report
  /-- Shows the figures of days, perhaps as comma-separated values. -/
  | daily (days : UInt32) (commas : Bool)
  deriving DecidableEq, Repr

/-- What every command can be told. -/
structure CommonOptions where
  format : OutputFormat
  quiet : Bool
  verbose : Bool
  /-- The file of the store, in place of that of the settings. -/
  database : Option String
  deriving DecidableEq, Repr

/-- A command with what every command can be told. -/
structure Invocation where
  command : Command
  options : CommonOptions
  deriving DecidableEq, Repr

/-! ## Numbers -/

/-- A number from zero on, of 32 bits; a sign may stand in front. -/
def size? (text : String) : Option UInt32 :=
  ((Text.int64? text).filter fun n => 0 ≤ n && n < 0x100000000).map fun n => UInt32.ofNat n.toNat

/-- A port number; a sign may stand in front. -/
def port? (text : String) : Option UInt16 :=
  ((Text.int64? text).filter fun n => 0 ≤ n && n < 0x10000).map fun n => UInt16.ofNat n.toNat

/-! ## Grammar -/

namespace Command

/-- How the server is started. -/
def serveGrammar : Grammar Command :=
  .command [.text "host" none, .typed "port" none port?] 0 fun l =>
    some (.serve (l.value? "host") (l.typed? port? "port"))

/-- How accounts are looked after. -/
def userGrammar : Grammar Command :=
  .group [
    ("create", .command
      [.text "email" none, .text "password" none, .text "full-name" none, .text "role" none] 1
      fun l => do
        return .createUser (← l.words.head?) (← l.value? "email") (← l.value? "password")
          (l.value? "full-name") ((l.value? "role").getD "admin")),
    ("list", .command
      [.text "search" none, .text "role" none, .typed "page" none size?,
        .typed "size" none size?] 0
      fun l =>
        some (.listUsers (l.value? "search") (l.value? "role") ((l.typed? size? "page").getD 0)
          (l.typed? size? "size"))),
    ("passwd", .command [.text "password" none] 1 fun l => do
      return .setPassword (← l.words.head?) (← l.value? "password"))]

/-- How tracks are looked after. -/
def trackGrammar : Grammar Command :=
  .group [
    ("list", .command [] 0 fun _ => some .listTracks),
    ("export", .command
      [.typed "id" none Text.int64?, .switch "all" none, .text "output" (some 'o')] 0
      fun l =>
        some (.exportTracks (l.typed? Text.int64? "id") (l.has "all") (l.value? "output"))),
    ("import", .command [] 1 fun l => do return .importTracks (← l.words.head?))]

/-- How the audit log is looked at. -/
def auditGrammar : Grammar Command :=
  .group [
    ("recent", .command [.typed "limit" none size?] 0 fun l =>
      some (.recentAudit ((l.typed? size? "limit").getD 20))),
    ("export", .command
      [.text "username" none, .text "action" none, .text "entity" none, .text "from" none,
        .text "to" none, .text "output" (some 'o')] 0
      fun l =>
        some (.exportAudit ⟨l.value? "username", l.value? "action", l.value? "entity",
          l.value? "from", l.value? "to"⟩ (l.value? "output")))]

/-- How figures are looked at. -/
def statsGrammar : Grammar Command :=
  .group [
    ("report", .command [] 0 fun _ => some .report),
    ("daily", .command [.typed "days" none size?, .switch "csv" none] 0 fun l =>
      some (.daily ((l.typed? size? "days").getD 30) (l.has "csv")))]

/-- How commands are written. -/
def grammar : Grammar Command :=
  .group [
    ("serve", serveGrammar),
    ("migrate", .command [] 0 fun _ => some .migrate),
    ("user", userGrammar),
    ("track", trackGrammar),
    ("audit", auditGrammar),
    ("stats", statsGrammar)]

end Command

namespace Invocation

/-- The options that all commands share. -/
def sharedOptions : List OptionRule :=
  [.typed "format" (some 'f') OutputFormat.ofName?, .switch "quiet" (some 'q'),
    .switch "verbose" (some 'v'), .text "database" none]

/-- Reads the words of a command line. -/
def read (words : List String) : Except Declined Invocation := do
  let (command, l) ← Command.grammar.read sharedOptions words
  let format := (l.typed? OutputFormat.ofName? "format").getD .json
  return ⟨command, ⟨format, l.has "quiet", l.has "verbose", l.value? "database"⟩⟩

end Invocation

end RobotMaze.Console
