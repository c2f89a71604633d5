import Household.Remote.Host

/-!
# URLs

A URL of the web names a scheme, a host, perhaps a port, a path and perhaps a query and a fragment.
Reading brings it into its normal form: the characters that cannot stand in a URL are percent
encoded, the folders `.` and `..` are resolved, a backslash counts as a slash, and a port that the
scheme implies is left out. White space around a URL and line breaks in it do not count, nor do the
name and password of a user.

## Main results

* `withoutDots_of_forall`: a path without dots is left as it is.
-/

namespace Household.Remote

open Text

/-- The schemes of the web. -/
inductive Scheme
  | http
  | https
deriving DecidableEq, Repr

/-- The name in front of the colon. -/
def Scheme.name : Scheme → List Char
  | .http => "http".toList
  | .https => "https".toList

/-- The port that goes without saying. -/
def Scheme.port : Scheme → Nat
  | .http => 80
  | .https => 443

/-- A URL in its normal form. -/
structure Url where
  scheme : Scheme
  host : List Char
  /-- The port, unless the scheme implies it. -/
  port : Option Nat
  /-- The parts of the path, each after a slash. -/
  folders : List (List Char)
  query : Option (List Char)
  fragment : Option (List Char)
deriving DecidableEq, Repr

namespace Url

/-! ### Characters -/

/-- Characters that need not be encoded: visible ASCII characters but for some. -/
def isPlain (others : List Char) (c : Char) : Bool :=
  ' ' < c && c < '\x7f' && !others.contains c

/-- The characters that are encoded in a path. -/
def encodedInPath : List Char := "\"#<>?\x7b\x7d\x60".toList

/-- The characters that are encoded in a query. -/
def encodedInQuery : List Char := "\"#<>'".toList

/-- The characters that are encoded in a fragment. -/
def encodedInFragment : List Char := "\"<>\x60".toList

/-- Slashes, which separate folders. -/
def isSlash (c : Char) : Bool := c = '/' || c = '\\'

/-- What a text is without the white space and controls around it and the tabs and line breaks in
it. -/
def clean (cs : List Char) : List Char :=
  let cs := (cs.dropWhile (· ≤ ' ')).reverse.dropWhile (· ≤ ' ')
  cs.reverse.filter fun c => c ≠ '\t' && c ≠ '\n' && c ≠ '\r'

/-! ### Paths -/

/-- A dot, perhaps encoded, and what follows it. -/
def dot? : List Char → Option (List Char)
  | '.' :: cs => some cs
  | '%' :: '2' :: 'e' :: cs => some cs
  | '%' :: '2' :: 'E' :: cs => some cs
  | _ => none

/-- The folder `.`, which is the one it is in. -/
def isHere (folder : List Char) : Bool := dot? folder = some []

/-- The folder `..`, which is the one around it. -/
def isAbove (folder : List Char) : Bool := (dot? folder).bind dot? = some []

/-- A folder named like a drive, which is not left. -/
def isDrive : List Char → Bool
  | [c, d] => c.isAlpha && (d = ':' || d = '|')
  | _ => false

/-- The path to the folder around the last one. -/
def leave (folders : List (List Char)) : List (List Char) :=
  if (folders.getLast?.map isDrive).getD false then folders else folders.dropLast

/-- The path after going on to a folder. -/
def enter (folders : List (List Char)) (folder : List Char) : List (List Char) :=
  if isHere folder then folders
  else if isAbove folder then leave folders
  else folders ++ [folder]

/-- A path with its dots resolved. If it ends in dots it ends in a slash. -/
def withoutDots (folders : List (List Char)) : List (List Char) :=
  let around := folders.dropLast.foldl enter []
  match folders.getLast? with
  | some last =>
    if isHere last || isAbove last then enter around last ++ [[]] else around ++ [last]
  | none => [[]]

/-- Reads a path; a slash at its start goes without saying. -/
def readPath (cs : List Char) : List (List Char) :=
  let cs := if (cs.head?.map isSlash).getD false then cs.drop 1 else cs
  withoutDots ((splitAt isSlash cs).map (percentEncode (isPlain encodedInPath)))

/-! ### Reading -/

/-- Reads the scheme and the colon after it. -/
def readScheme? (cs : List Char) : Option (Scheme × List Char) :=
  let name := (cs.takeWhile (· ≠ ':')).map Char.toLower
  match cs.dropWhile (· ≠ ':') with
  | ':' :: rest =>
    if name = Scheme.name .http then some (.http, rest)
    else if name = Scheme.name .https then some (.https, rest)
    else none
  | _ => none

/-- The greatest port. -/
def greatestPort : Nat := 65535

/-- Reads the port after its colon. -/
def readPort? (scheme : Scheme) (ds : List Char) : Option (Option Nat) :=
  if ds.all Char.isDigit ∧ value ds ≤ greatestPort then
    some (if ds = [] ∨ value ds = scheme.port then none else some (value ds))
  else none

/-- The text of a host and what follows it; the colons of an address in brackets belong to it. -/
def spanHost (cs : List Char) : List Char × List Char :=
  if cs.head? = some '[' then
    let inside := cs.takeWhile (· ≠ ']')
    let rest := cs.drop inside.length
    (inside ++ rest.takeWhile (· ≠ ':'), rest.dropWhile (· ≠ ':'))
  else (cs.takeWhile (· ≠ ':'), cs.dropWhile (· ≠ ':'))

/-- Reads a host and a port. -/
def readHostAndPort? (scheme : Scheme) (cs : List Char) : Option (List Char × Option Nat) := do
  let (host, rest) := spanHost cs
  return (← readHost? host, ← readPort? scheme (rest.drop 1))

/-- What follows the last at sign, in front of which a user may be named. -/
def withoutUser (cs : List Char) : List Char :=
  (cs.reverse.takeWhile (· ≠ '@')).reverse

/-- What ends host and port. -/
def endsHost (c : Char) : Bool := isSlash c || c = '?' || c = '#'

/-- What follows a mark at the start of a text. -/
def after? (mark : Char) : List Char → Option (List Char)
  | c :: cs => if c = mark then some cs else none
  | [] => none

/-- Reads a URL. -/
def read? (cs : List Char) : Option Url := do
  let (scheme, cs) ← readScheme? (clean cs)
  let cs := cs.dropWhile isSlash
  let (host, port) ← readHostAndPort? scheme (withoutUser (cs.takeWhile (!endsHost ·)))
  let cs := cs.dropWhile (!endsHost ·)
  let path := cs.takeWhile fun c => c ≠ '?' && c ≠ '#'
  let cs := cs.dropWhile fun c => c ≠ '?' && c ≠ '#'
  let query := (after? '?' cs).map (·.takeWhile (· ≠ '#'))
  let fragment := after? '#' (cs.dropWhile (· ≠ '#'))
  return {
    scheme, host, port
    folders := readPath path
    query := query.map (percentEncode (isPlain encodedInQuery))
    fragment := fragment.map (percentEncode (isPlain encodedInFragment)) }

/-! ### Writing -/

/-- The path as it is written. -/
def path (u : Url) : List Char :=
  u.folders.flatMap ('/' :: ·)

/-- An optional part of a URL after its mark. -/
def optionalPart (mark : Char) (part : Option (List Char)) : List Char :=
  (part.map (mark :: ·)).getD []

/-- The URL as it is written. -/
def text (u : Url) : List Char :=
  u.scheme.name ++ "://".toList ++ u.host ++ optionalPart ':' (u.port.map digits) ++ u.path
    ++ optionalPart '?' u.query ++ optionalPart '#' u.fragment

/-! ### Requests -/

/-- Characters that a URL allows in a host but a request does not. -/
def unsendableInHost : List Char := "\"\x60\x7b\x7d".toList

/-- The greatest length of the URL of a request. -/
def greatestLength : Nat := 65534

/-- A request can be sent to the URL. -/
def isSendable (u : Url) : Bool :=
  u.host.all (!unsendableInHost.contains ·) && u.text.length ≤ greatestLength

/-! ### Paths without dots -/

/-- Entering folders that are no dots appends them. -/
theorem foldl_enter_of_forall {folders : List (List Char)}
    (h : ∀ f ∈ folders, isHere f = false ∧ isAbove f = false) (around : List (List Char)) :
    folders.foldl enter around = around ++ folders := by
  induction folders generalizing around with
  | nil => simp
  | cons f fs ih =>
    have hf := h f List.mem_cons_self
    rw [List.foldl_cons, ih fun g m => h g (List.mem_cons_of_mem _ m)]
    simp [enter, hf]

/-- A path without dots is left as it is. -/
theorem withoutDots_of_forall {folders : List (List Char)} (hne : folders ≠ [])
    (h : ∀ f ∈ folders, isHere f = false ∧ isAbove f = false) : withoutDots folders = folders := by
  have hd : folders.dropLast.foldl enter [] = [] ++ folders.dropLast :=
    foldl_enter_of_forall (fun f m => h f (List.dropLast_subset _ m)) []
  have hl := h _ (List.getLast_mem hne)
  rw [withoutDots, hd, List.getLast?_eq_some_getLast hne]
  simp [hl, List.dropLast_concat_getLast]

end Url

end Household.Remote
