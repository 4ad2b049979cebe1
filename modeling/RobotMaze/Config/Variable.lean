import RobotMaze.Json.Basic
import RobotMaze.Text.Blank
import RobotMaze.Text.LowerCase
import RobotMaze.Text.Number
import RobotMaze.Text.Split
import RobotMaze.Toml.Quoted

/-! # Layers of settings, and the one of the environment

    * `overlay` — one layer over another;
    * `environmentLayer` — the layer that variables of the environment make. -/

/-! ## Layers of settings

    Settings come in layers, each an object: what a higher layer says counts,
    what it leaves out shows through from below.

    * `overlay` puts a value over another: objects member by member, anything
      else in its place;
    * `nested` is a value under a path of names. -/

namespace RobotMaze.Config

/-- Puts a member under its name: in the place of the old one, or at the end. -/
def put (name : String) (j : Json) : List (String × Json) → List (String × Json)
  | [] => [(name, j)]
  | (n, old) :: rest => if n = name then (name, j) :: rest else (n, old) :: put name j rest

mutual

/-- A value over another one. -/
def overlay (low : Json) : Json → Json
  | .object members =>
      match low with
      | .object below => .object (overlayMembers below members)
      | _ => .object members
  | high => high

/-- Members over others. -/
def overlayMembers (below : List (String × Json)) :
    List (String × Json) → List (String × Json)
  | [] => below
  | (name, high) :: rest =>
      let j := match below.lookup name with
        | some low => overlay low high
        | none => high
      overlayMembers (put name j below) rest

end

/-- A value under a path of names. -/
def nested (path : List String) (j : Json) : Json :=
  path.foldr (fun name j => .object [(name, j)]) j

/-! ## Settings in environment variables

    A variable whose name starts with `GFD_` is a setting: two underscores lead
    into a group, and cases do not matter.

    * `settingPath?` is the path that a name stands for;
    * `settingValue` is the value that a text stands for: a truth value, a
      number, a quoted text, a list `[…]` or a table of `key=value`, and any
      other text itself;
    * `environmentLayer` collects the variables into one layer. -/

/-- The variables of an environment, in the order in which they were set. -/
abbrev Environment := List (String × String)

/-! ## Names -/

/-- What the names of settings start with. -/
def nameStart : String := "gfd_"

/-- A text with two underscores turned into a point, from the left. -/
def pointsForScores : List Char → List Char
  | '_' :: '_' :: rest => '.' :: pointsForScores rest
  | c :: rest => c :: pointsForScores rest
  | [] => []

/-- The names of the groups and of the setting that a variable stands for. -/
def settingPath? (name : String) : Option (List String) :=
  let name := Text.asciiLower (Text.trim name)
  if name.startsWith nameStart then
    let rest := Text.trim (String.ofList (name.toList.drop nameStart.length))
    let path := Text.split '.' (String.ofList (pointsForScores rest.toList))
    if path.any String.isEmpty then none else some path
  else none

/-! ## Values -/

/-- White space between the parts of a value. -/
def isSpace (c : Char) : Bool := c.isWhitespace || c.toNat == 12

/-- A text without the white space at its start. -/
def skipSpace (cs : List Char) : List Char := cs.dropWhile isSpace

/-- The opening brace of a table. -/
def openBrace : Char := Char.ofNat 0x7B

/-- The closing brace of a table. -/
def closeBrace : Char := Char.ofNat 0x7D

/-- A character that ends a value without quotes. -/
def isSeparator (c : Char) : Bool :=
  c == ',' || c == '[' || c == ']' || c == openBrace || c == closeBrace

/-- The number of a text with a point. -/
def pointed? (cs : List Char) : Option Number := do
  let (isNegative, cs) := Text.sign true cs
  let mantissa := cs.takeWhile fun c => c != 'e' && c != 'E'
  let (whole, fraction) ← Text.splitOnceChars? '.' mantissa
  let exponent ← match cs.drop mantissa.length with
    | [] => some none
    | _ :: rest =>
        let (isNegative, ds) := Text.sign true rest
        if ds.isEmpty || !ds.all Char.isDigit then none else some (some (isNegative, ds))
  let ds := whole ++ fraction
  if ds.isEmpty || !ds.all Char.isDigit then none
  else
    match (Json.Reading.Literal.mk isNegative whole (some fraction) exponent).value with
    | .number n => some n
    | _ => some (.float (if isNegative then -1.0 / 0.0 else 1.0 / 0.0))

/-- The meaning of a text without quotes. -/
def bareValue (cs : List Char) : Json :=
  match pointed? cs with
  | some n => .number n
  | none =>
      let text := String.ofList cs
      let fits := fun n : Int => -0x8000000000000000 ≤ n && n < 0x10000000000000000
      match (Text.whole? true text).filter fits with
      | some n => .whole n
      | none => .string text

/-- Reads a quoted text after its opening quote. -/
def quoted? (cs : List Char) : Option (String × List Char) :=
  (Toml.text? false .plain cs).map fun (text, rest) => (String.ofList text, rest)

/-- A character of a key without quotes. -/
def isKeyChar (c : Char) : Bool := c.isAlphanum || c == '_' || c == '-'

/-- Reads the key of an entry of a table, with the white space around it. -/
def entryKey? (cs : List Char) : Option (String × List Char) :=
  let found := match skipSpace cs with
    | '"' :: rest => quoted? rest
    | cs =>
        let letters := cs.takeWhile isKeyChar
        if letters.isEmpty then none else some (String.ofList letters, cs.drop letters.length)
  found.map fun (key, rest) => (key, skipSpace rest)

/-- Whether a text starts with a word, and what follows it. -/
def afterWord? (word : String) (cs : List Char) : Option (List Char) :=
  if word.toList.isPrefixOf cs then some (cs.drop word.length) else none

/-- Reads a value that is neither list nor table, after any white space. -/
def single? (cs : List Char) : Option (Json × List Char) :=
  match afterWord? "true" cs, afterWord? "false" cs, cs with
  | some rest, _, _ => some (.bool true, rest)
  | _, some rest, _ => some (.bool false, rest)
  | _, _, '"' :: rest => (quoted? rest).map fun (text, rest) => (.string text, rest)
  | _, _, '\'' :: c :: '\'' :: rest => some (.string (String.singleton c), rest)
  | _, _, '\'' :: _ => none
  | _, _, cs =>
      let letters := cs.takeWhile fun c => !isSeparator c
      some (bareValue (Text.trimChars letters), cs.drop letters.length)

mutual

/-- Reads a value with the white space around it.  The fuel is twice the characters left, and one
    more. -/
def value? (fuel : Nat) (cs : List Char) : Option (Json × List Char) :=
  match fuel with
  | 0 => none
  | fuel + 1 =>
      let found : Option (Json × List Char) := match skipSpace cs with
        | '[' :: rest => (items? fuel rest).map fun (items, rest) => (.array items, rest)
        | c :: rest =>
            if c = openBrace then
              (entries? fuel [] rest).map fun (members, rest) => (.object members, rest)
            else single? (c :: rest)
        | [] => single? []
      found.map fun (j, rest) => (j, skipSpace rest)

/-- Reads the items of a list up to its closing bracket. -/
def items? (fuel : Nat) (cs : List Char) : Option (List Json × List Char) :=
  match fuel with
  | 0 => none
  | fuel + 1 =>
      match cs with
      | ']' :: rest => some ([], rest)
      | cs =>
          match value? fuel cs with
          | some (item, ',' :: rest) =>
              (items? fuel rest).map fun (items, rest) => (item :: items, rest)
          | some (item, ']' :: rest) => some ([item], rest)
          | _ => none

/-- Reads the entries of a table up to its closing brace, behind those already read. -/
def entries? (fuel : Nat) (done : List (String × Json)) (cs : List Char) :
    Option (List (String × Json) × List Char) :=
  match fuel with
  | 0 => none
  | fuel + 1 =>
      match cs with
      | [] => none
      | c :: rest =>
          if c = closeBrace then some (done, rest)
          else
            match entryKey? (c :: rest) with
            | some (key, '=' :: rest) =>
                match value? fuel rest with
                | some (j, d :: rest) =>
                    let done := put key j done
                    if d = ',' then entries? fuel done rest
                    else if d = closeBrace then some (done, rest)
                    else none
                | _ => none
            | _ => none

end

/-- The value that the text of a variable stands for. -/
def settingValue (text : String) : Json :=
  let cs := text.toList
  match value? (2 * cs.length + 1) cs with
  | some (j, []) => j
  | _ => .string text

/-! ## The layer -/

/-- The settings of an environment; of two that meet the later one counts. -/
def environmentLayer (env : Environment) : Json :=
  env.foldl
    (fun low (name, text) =>
      match settingPath? name with
      | some path => overlay low (nested path (settingValue text))
      | none => low)
    (.object [])

end RobotMaze.Config
