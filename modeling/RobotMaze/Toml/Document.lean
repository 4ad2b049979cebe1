import RobotMaze.Toml.Quoted
import RobotMaze.Toml.Scalar
import RobotMaze.Toml.Table

/-! # Settings files

    A settings file is a list of lines: a header opens a table, an assignment
    sets a key of the table that is open.  Values are words, quoted texts, lists
    and tables on one line.

    * `key?`, `value?` and `assignment?` read the parts of a line;
    * `Document.line?` reads a line into the tables read so far;
    * `parse?` reads a whole file. -/

namespace RobotMaze.Toml

/-! ## Between the parts -/

/-- A text without the blanks at its start. -/
def skipBlanks (cs : List Char) : List Char := cs.dropWhile isBlank

/-- A text without the comment at its start. -/
def skipComment : List Char → List Char
  | '#' :: rest => rest.dropWhile isPrintable
  | cs => cs

/-- What follows the end of a line. -/
def endLine? (cs : List Char) : Option (List Char) :=
  match skipComment (skipBlanks cs) with
  | [] => some []
  | cs => afterBreak? cs

/-- A text without the blanks, line breaks and comments at its start. -/
def skipGap (inComment : Bool) : List Char → List Char
  | [] => []
  | c :: rest =>
      if inComment && isPrintable c then skipGap true rest
      else if isBlank c ∨ c = '\n' then skipGap false rest
      else if c = '\r' ∧ rest.head? = some '\n' then skipGap false rest
      else if c = '#' then skipGap true rest
      else c :: rest

/-- What follows a given character. -/
def after? (c : Char) : List Char → Option (List Char)
  | d :: rest => if d = c then some rest else none
  | [] => none

/-! ## Keys -/

/-- A character of a name without quotes. -/
def isNameChar (c : Char) : Bool := c.isAlphanum || c == '_' || c == '-'

/-- Reads one name of a key. -/
def name? (cs : List Char) : Option (String × List Char) :=
  let found := match cs with
    | '"' :: rest => text? false .plain rest
    | '\'' :: rest => plain? rest
    | cs =>
        let letters := cs.takeWhile isNameChar
        if letters.isEmpty then none else some (letters, cs.drop letters.length)
  found.map fun (letters, rest) => (String.ofList letters, rest)

/-- Reads the names of a key, with points between them, and the blanks behind it.  The fuel is one
    more than the characters left. -/
def names? (fuel : Nat) (cs : List Char) : Option (List String × List Char) :=
  match fuel with
  | 0 => none
  | fuel + 1 => do
      let (name, rest) ← name? (skipBlanks cs)
      match skipBlanks rest with
      | '.' :: rest =>
          let (names, rest) ← names? fuel rest
          return (name :: names, rest)
      | rest => return ([name], rest)

/-- Reads a key: the names of the tables that it leads through, and its own. -/
def key? (cs : List Char) : Option (List String × String × List Char) := do
  let (names, rest) ← names? (cs.length + 1) cs
  let name ← names.getLast?
  return (names.dropLast, name, rest)

/-! ## Values -/

/-- A text that was read as a value. -/
def textValue (found : Option (List Char × List Char)) : Option (Json × List Char) :=
  found.map fun (letters, rest) => (.string (String.ofList letters), rest)

/-- The closing brace of a table on one line. -/
def closing : Char := Char.ofNat 0x7D

mutual

/-- Reads a value.  The fuel is one more than the characters left. -/
def value? (fuel : Nat) (cs : List Char) : Option (Json × List Char) :=
  match fuel with
  | 0 => none
  | fuel + 1 =>
      match cs with
      | '"' :: '"' :: '"' :: rest => textValue (text? true .plain (dropBreak rest))
      | '"' :: rest => textValue (text? false .plain rest)
      | '\'' :: '\'' :: '\'' :: rest => textValue (plainLines? (dropBreak rest))
      | '\'' :: rest => textValue (plain? rest)
      | '[' :: rest => (items? fuel rest).map fun (items, rest) => (.array items, rest)
      | c :: rest =>
          if c.toNat = 0x7B then
            match skipBlanks rest with
            | d :: more =>
                if d = closing then some (.object [], more)
                else (entries? fuel [] (d :: more)).map fun (t, rest) => (t.toJson, rest)
            | [] => none
          else word? (c :: rest)
      | [] => none

/-- Reads the items of a list up to its closing bracket. -/
def items? (fuel : Nat) (cs : List Char) : Option (List Json × List Char) :=
  match fuel with
  | 0 => none
  | fuel + 1 =>
      match skipGap false cs with
      | ']' :: rest => some ([], rest)
      | cs => do
          let (item, rest) ← value? fuel cs
          match skipGap false rest with
          | ',' :: rest =>
              let (items, rest) ← items? fuel rest
              return (item :: items, rest)
          | ']' :: rest => return ([item], rest)
          | _ => none

/-- Reads the entries of a table on one line, of which one must follow, up to its closing brace. -/
def entries? (fuel : Nat) (t : Table) (cs : List Char) : Option (Table × List Char) :=
  match fuel with
  | 0 => none
  | fuel + 1 => do
      let (path, name, rest) ← key? cs
      let (j, rest) ← value? fuel (skipBlanks (← after? '=' rest))
      let t ← t.put path name j
      match skipBlanks rest with
      | ',' :: rest => entries? fuel t rest
      | c :: rest => if c = closing then return (t, rest) else none
      | [] => none

end

/-- Reads a key with its value. -/
def assignment? (cs : List Char) : Option (List String × String × Json × List Char) := do
  let (path, name, rest) ← key? cs
  let (j, rest) ← value? (cs.length + 1) (skipBlanks (← after? '=' rest))
  return (path, name, j, rest)

/-! ## Lines -/

/-- The tables read so far, and the names that lead to the one that is open. -/
structure Document where
  root : Table := []
  header : List String := []

namespace Document

/-- Opens a table by its header. -/
def openTable (d : Document) (isSeries : Bool) (path : List String) (name : String) :
    Option Document :=
  let change := if isSeries then Table.append name else Table.state name
  (d.root.within change path).map fun root => ⟨root, path ++ [name]⟩

/-- Sets the value of a key of the open table. -/
def assign (d : Document) (path : List String) (name : String) (j : Json) : Option Document :=
  (d.root.within (fun t => t.put path name j) d.header).map fun root => ⟨root, d.header⟩

/-- Reads a line. -/
def line? (d : Document) (cs : List Char) : Option (Document × List Char) :=
  match skipBlanks cs with
  | '[' :: '[' :: rest => do
      let (path, name, rest) ← key? rest
      let rest ← endLine? (← after? ']' (← after? ']' rest))
      return (← d.openTable true path name, rest)
  | '[' :: rest => do
      let (path, name, rest) ← key? rest
      let rest ← endLine? (← after? ']' rest)
      return (← d.openTable false path name, rest)
  | cs =>
      match endLine? cs with
      | some rest => some (d, rest)
      | none => do
          let (path, name, j, rest) ← assignment? cs
          return (← d.assign path name j, ← endLine? rest)

/-- Reads the lines of a file.  The fuel is the number of characters left. -/
def lines? (fuel : Nat) (d : Document) (cs : List Char) : Option Document :=
  match cs, fuel with
  | [], _ => some d
  | _, 0 => none
  | cs, fuel + 1 =>
      match d.line? cs with
      | some (d, rest) => lines? fuel d rest
      | none => none

end Document

/-- A text without the mark that its bytes are in order. -/
def dropByteOrderMark : List Char → List Char
  | c :: rest => if c.toNat = 0xFEFF then rest else c :: rest
  | [] => []

/-- The tables of a file as one object. -/
def parse? (text : String) : Option Json :=
  let cs := dropByteOrderMark text.toList
  (Document.lines? cs.length {} cs).map fun d => d.root.toJson

end RobotMaze.Toml
