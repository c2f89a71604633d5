import Household.Settings.Basic
import Household.Text.Alphanumeric

/-!
# Files of Variables

A file of variables has one assignment `NAME=value` a line, `export` in front of it allowed. Blank
lines and lines that start with `#` are skipped, and so is a ` #` comment after a value. A value may
be quoted: between single quotes every character stands for itself, between double quotes and
outside of quotes a backslash escapes the next character and `$NAME` stands for a variable that is
already set. A line goes on over line ends while a quote is open.

A line that is no assignment ends the reading; the assignments before it count. A variable that is
set already keeps its value, so that the process comes before the file and the first of several
assignments before the others.

## Main results

* `overlay_of_set`: a variable of the process is not changed by the file.
* `lookUp?_of_forall`: a name without equals signs is that of a variable.
-/

namespace Household.EnvFile

open Text

/-! ### Lines -/

/-- The lines of a text, each with its line feed. -/
def physicalLines : List Char → List (List Char)
  | [] => []
  | c :: cs =>
    if c = '\n' then [c] :: physicalLines cs
    else
      match physicalLines cs with
      | [] => [[c]]
      | l :: ls => (c :: l) :: ls

/-- What the characters of a line so far leave open. -/
inductive Openness
  /-- Nothing. -/
  | closed
  /-- White space came last, so that a comment may begin. -/
  | blank
  /-- A backslash came last. -/
  | escape
  /-- A single quote, with a backslash last or not. -/
  | single (escaped : Bool)
  /-- A double quote, with a backslash last or not. -/
  | double (escaped : Bool)
deriving DecidableEq, Repr

/-- What is open after one more character that begins no comment. -/
def Openness.next : Openness → Char → Openness
  | .escape, _ => .closed
  | .single true, _ => .single false
  | .single false, c =>
    if c = '\\' then .single true else if c = '\'' then .closed else .single false
  | .double true, _ => .double false
  | .double false, c =>
    if c = '\\' then .double true else if c = '"' then .closed else .double false
  | .blank, c =>
    if c = '\\' then .escape else if c = '"' then .double false
    else if c = '\'' then .single false else .closed
  | .closed, c =>
    if isBlank c ∧ c ≠ '\n' ∧ c ≠ '\r' then .blank
    else if c = '\\' then .escape else if c = '"' then .double false
    else if c = '\'' then .single false else .closed

/-- What is open at the end of a line, or the part of the line before a comment. -/
def scanLine : Openness → List Char → List Char ⊕ Openness
  | o, [] => .inr o
  | o, c :: cs =>
    if o = .blank ∧ c = '#' then .inl []
    else
      match scanLine (o.next c) cs with
      | .inl before => .inl (c :: before)
      | .inr o => .inr o

/-- A line without its line feed and a carriage return before that. -/
def dropLineEnd (cs : List Char) : List Char :=
  match cs.reverse with
  | '\n' :: '\r' :: r => r.reverse
  | '\n' :: r => r.reverse
  | _ => cs

/-- Joins lines for as long as something is open. The last entry is `none` if something is open at
the end of the file. -/
def joinLines : Openness → List Char → List (List Char) → List (Option (List Char))
  | .closed, _, [] => []
  | _, _, [] => [none]
  | o, before, l :: ls =>
    if (trimStart (before ++ l)).head? = some '#' then some [] :: joinLines .closed [] ls
    else
      match scanLine o l with
      | .inl kept => some (before ++ kept) :: joinLines .closed [] ls
      | .inr .closed => some (dropLineEnd (before ++ l)) :: joinLines .closed [] ls
      | .inr o => joinLines o (before ++ l) ls

/-! ### Values -/

/-- How the next character of a value is read. -/
inductive Mode
  | plain
  | double
  | single
  /-- After a backslash, outside of quotes or in double quotes. -/
  | escaped (inDouble : Bool)
  /-- After the value: only blanks and a comment may follow. -/
  | after
  /-- In the name of a variable, with or without braces; the name so far, last character first. -/
  | name (braced inDouble : Bool) (read : List Char)
deriving DecidableEq, Repr

/-- The mode outside of names and escapes. -/
def Mode.base (inDouble : Bool) : Mode :=
  if inDouble then .double else .plain

/-- What follows a name and an equals sign in the assignments of the variables that are set. A name
may itself go on behind an equals sign, into the value of a variable. -/
def lookUp? (vars : Variables) (name : List Char) : Option (List Char) := do
  let value ← vars (String.ofList (name.takeWhile (· ≠ '=')))
  match name.dropWhile (· ≠ '=') with
  | [] => some value.toList
  | _ :: start =>
    if (start ++ ['=']).isPrefixOf value.toList then some (value.toList.drop (start.length + 1))
    else none

/-- What is put in for a name, of which the last character comes first; nothing if it is not set. -/
def substitute (vars : Variables) (name : List Char) : List Char :=
  (lookUp? vars name.reverse).getD []

/-- One character of a value in a given mode: the mode after it and the characters that it adds, or
`none` if the value is ill-formed. -/
def readChar? (vars : Variables) : Mode → Char → Option (Mode × List Char)
  | .after, c => if c = ' ' ∨ c = '\t' then some (.after, []) else none
  | .escaped inDouble, c =>
    if c = '\\' ∨ c = '\'' ∨ c = '"' ∨ c = '$' ∨ c = ' ' then some (.base inDouble, [c])
    else if c = 'n' then some (.base inDouble, ['\n'])
    else none
  | .single, c => if c = '\'' then some (.plain, []) else some (.single, [c])
  | .name braced inDouble read, c =>
    if isAlphanumeric c then some (.name braced inDouble (c :: read), [])
    else if braced then
      if c = '\x7d' then some (.base inDouble, substitute vars read)
      else some (.name true inDouble (c :: read), [])
    else if c = '\x7b' ∧ read = [] then some (.name true inDouble [], [])
    else if c = '$' then some (.name false inDouble [], substitute vars read)
    else some (.base inDouble, substitute vars read ++ [c])
  | .double, c =>
    if c = '$' then some (.name false true [], [])
    else if c = '"' then some (.plain, [])
    else if c = '\\' then some (.escaped true, [])
    else some (.double, [c])
  | .plain, c =>
    if c = '$' then some (.name false false [], [])
    else if c = '\'' then some (.single, [])
    else if c = '"' then some (.double, [])
    else if c = '\\' then some (.escaped false, [])
    else if c = ' ' ∨ c = '\t' then some (.after, [])
    else some (.plain, [c])

/-- What is left to add at the end of a value; `none` if a quote or a brace is open. -/
def finish? (vars : Variables) : Mode → Option (List Char)
  | .single => none
  | .double => none
  | .escaped true => none
  | .name true _ _ => none
  | .name _ true _ => none
  | .name false false read => some (substitute vars read)
  | _ => some []

/-- Reads a value. -/
def readValue? (vars : Variables) : Mode → List Char → Option (List Char)
  | m, [] => finish? vars m
  | m, c :: cs =>
    if m = .after ∧ c = '#' then some []
    else do
      let (m, added) ← readChar? vars m c
      return added ++ (← readValue? vars m cs)

/-! ### Assignments -/

/-- A name and its value. -/
structure Assignment where
  name : String
  value : String
deriving DecidableEq, Repr

/-- The name that a line starts with: letters, digits, underscores and points, the first one a
letter or an underscore. -/
def readName? (cs : List Char) : Option (List Char × List Char) :=
  match cs with
  | c :: _ =>
    if c.isAlpha ∨ c = '_' then
      some (cs.takeWhile fun c => c.isAlphanum || c = '_' || c = '.',
        cs.dropWhile fun c => c.isAlphanum || c = '_' || c = '.')
    else none
  | [] => none

/-- The name of an assignment and what follows its equals sign. The word `export` in front of a name
is skipped, but may be the name itself. -/
def readTarget? (cs : List Char) : Option (List Char × List Char) := do
  let (name, rest) ← readName? cs
  match trimStart rest with
  | '=' :: rest => some (name, rest)
  | rest =>
    if name = "export".toList then
      let (name, rest) ← readName? rest
      match trimStart rest with
      | '=' :: rest => some (name, rest)
      | _ => none
    else none

/-- Reads a line: nothing on it, an assignment, or `none` if it is neither. -/
def readLine? (vars : Variables) (line : List Char) : Option (Option Assignment) :=
  match trimStart (trimEnd line) with
  | [] => some none
  | '#' :: _ => some none
  | cs => do
    let (name, rest) ← readTarget? cs
    let value ← match trimStart rest with
      | [] => some []
      | '#' :: _ => some []
      | rest => readValue? vars .plain rest
    return some ⟨String.ofList name, String.ofList value⟩

/-- The variables with one more, which keeps its value if it is set. -/
def overlay (vars : Variables) (a : Assignment) : Variables :=
  fun name => if name = a.name then (vars name).or (some a.value) else vars name

/-- The variables after the lines of a file, up to the first one that cannot be read. -/
def readLines (vars : Variables) : List (Option (List Char)) → Variables
  | [] => vars
  | none :: _ => vars
  | some line :: lines =>
    match readLine? vars line with
    | none => vars
    | some none => readLines vars lines
    | some (some a) => readLines (overlay vars a) lines

/-- A text without the mark that it is UTF-8. -/
def dropMark : List Char → List Char
  | '\ufeff' :: cs => cs
  | cs => cs

/-- The variables of the process and those that the text of a file adds. -/
def read (vars : Variables) (text : List Char) : Variables :=
  readLines vars (joinLines .closed [] (physicalLines (dropMark text)))

/-- A name without equals signs is that of a variable. -/
theorem lookUp?_of_forall (vars : Variables) {name : List Char} (h : ∀ c ∈ name, c ≠ '=') :
    lookUp? vars name = (vars (String.ofList name)).map String.toList := by
  have htake : name.takeWhile (· ≠ '=') = name := by
    induction name with
    | nil => rfl
    | cons c cs ih =>
      simpa [h c List.mem_cons_self] using ih fun d m => h d (List.mem_cons_of_mem _ m)
  have hdrop : name.dropWhile (· ≠ '=') = [] := by
    have hsplit : name.takeWhile (· ≠ '=') ++ name.dropWhile (· ≠ '=') = name :=
      List.takeWhile_append_dropWhile
    rw [htake] at hsplit
    simpa using hsplit
  rw [lookUp?, htake, hdrop]
  cases vars (String.ofList name) <;> rfl

/-- A variable that is set already is not changed. -/
theorem overlay_of_set {vars : Variables} {name value : String} (h : vars name = some value)
    (a : Assignment) : overlay vars a name = some value := by
  simp [overlay, h]

end Household.EnvFile
