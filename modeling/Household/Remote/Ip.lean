import Household.Text.Decimal
import Household.Text.Percent
import Household.Text.Split

/-!
# Addresses of Hosts

An IPv4 address has four octets, of which the last ones can be written as one number, each in
decimal, octal or hexadecimal digits. It is shown as four decimal numbers. An IPv6 address has eight
groups of up to four hexadecimal digits; two colons stand for any number of groups that are zero,
and the last two groups can be written like an IPv4 address. It is shown with the longest run of
zeros left out.

## Main results

* `addressOf?_lt`: an IPv4 address has four octets.
* `length_of_groups?`: an IPv6 address has eight groups.
-/

namespace Household.Remote

open Text

/-! ### IPv4 addresses -/

/-- The number that digits to a base write; none if one of them is too great. -/
def numberToBase? (base : Nat) (ds : List Char) : Option Nat :=
  ds.foldlM (fun n c => do
    let d ← Json.hexValue? c
    if d < base then some (base * n + d) else none) 0

/-- A number in an address: hexadecimal after `0x`, octal after another zero, decimal otherwise. -/
def addressNumber? : List Char → Option Nat
  | [] => none
  | '0' :: 'x' :: ds => numberToBase? 16 ds
  | '0' :: d :: ds => numberToBase? 8 (d :: ds)
  | ds => numberToBase? 10 ds

/-- The address of some numbers: all but the last are octets, the last fills the remaining ones. -/
def addressOf? (numbers : List Nat) : Option Nat :=
  match numbers.reverse with
  | [] => none
  | last :: before =>
    if numbers.length ≤ 4 ∧ before.all (· < 256) ∧ last < Nat.pow 256 (4 - before.length) then
      some (before.reverse.foldl (256 * · + ·) 0 * Nat.pow 256 (4 - before.length) + last)
    else none

/-- The four decimal numbers of an address. -/
def addressText (address : Nat) : List Char :=
  digits (address / Nat.pow 256 3 % 256) ++ '.' :: digits (address / Nat.pow 256 2 % 256)
    ++ '.' :: digits (address / 256 % 256) ++ '.' :: digits (address % 256)

/-! ### IPv6 addresses -/

/-- A group of up to four hexadecimal digits. -/
def group? (ds : List Char) : Option Nat :=
  if ds ≠ [] ∧ ds.length ≤ 4 then numberToBase? 16 ds else none

/-- An octet in decimal digits, without leading zeros. -/
def octet? (ds : List Char) : Option Nat := do
  let n ← numberToBase? 10 ds
  if digits n = ds ∧ n < 256 then some n else none

/-- Two groups written as four octets. -/
def dottedGroups? (cs : List Char) : Option (List Nat) := do
  match ← (splitAt (· = '.') cs).mapM octet? with
  | [a, b, c, d] => some [256 * a + b, 256 * c + d]
  | _ => none

/-- Groups between colons, of which the last may stand for two. -/
def someGroups? (mayBeDotted : Bool) (cs : List Char) : Option (List Nat) :=
  if cs = [] then some []
  else do
    let parts := splitAt (· = ':') cs
    let before ← parts.dropLast.mapM group?
    let last := parts.getLastD []
    match group? last with
    | some n => return before ++ [n]
    | none => if mayBeDotted then return before ++ (← dottedGroups? last) else none

/-- What stands before the first two colons in a row, and what after them. -/
def splitAtGap : List Char → List Char × Option (List Char)
  | ':' :: ':' :: cs => ([], some cs)
  | c :: cs => let (before, after) := splitAtGap cs; (c :: before, after)
  | [] => ([], none)

/-- The eight groups of an address. -/
def groups? (cs : List Char) : Option (List Nat) :=
  match splitAtGap cs with
  | (all, none) => (someGroups? true all).filter (·.length = 8)
  | (before, some after) => do
    let before ← someGroups? false before
    let after ← someGroups? true after
    let n := before.length + after.length
    if n < 8 then some (before ++ List.replicate (8 - n) 0 ++ after) else none

/-- How many zeros there are in a row. -/
def zerosAt (groups : List Nat) (start : Nat) : Nat :=
  ((groups.drop start).takeWhile (· = 0)).length

/-- Where the longest run of zeros starts, the first one of several. -/
def longestZeros (groups : List Nat) : Nat :=
  (List.range groups.length).foldl
    (fun best i => if zerosAt groups best < zerosAt groups i then i else best) 0

/-- Groups with colons between them. -/
def groupsText (groups : List Nat) : List Char :=
  [':'].intercalate (groups.map (Nat.toDigits 16))

/-- An address as it is shown; a zero alone is not left out. -/
def longAddressText (groups : List Nat) : List Char :=
  let start := longestZeros groups
  let n := zerosAt groups start
  if n < 2 then groupsText groups
  else groupsText (groups.take start) ++ "::".toList ++ groupsText (groups.drop (start + n))

/-! ### An address has four octets -/

/-- Octets one after the other write a number of as many octets. -/
theorem foldl_octets_lt {ns : List Nat} (h : ∀ n ∈ ns, n < 256) {start k : Nat}
    (hs : start < Nat.pow 256 k) :
    ns.foldl (256 * · + ·) start < Nat.pow 256 (k + ns.length) := by
  induction ns generalizing start k with
  | nil => exact hs
  | cons n ns ih =>
    have hn := h n List.mem_cons_self
    have hstep : 256 * start + n < Nat.pow 256 (k + 1) := by
      change _ < Nat.pow 256 k * 256
      omega
    have := ih (fun m hm => h m (List.mem_cons_of_mem _ hm)) hstep
    rwa [List.foldl_cons, List.length_cons, Nat.add_comm ns.length 1, ← Nat.add_assoc]

/-- An address has four octets. -/
theorem addressOf?_lt {ns : List Nat} {address : Nat} (h : addressOf? ns = some address) :
    address < Nat.pow 256 4 := by
  unfold addressOf? at h
  split at h
  · contradiction
  · next last before hr =>
    split at h
    · next hc =>
      obtain ⟨hlen, hbefore, hlast⟩ := hc
      have hl : ns.length = before.length + 1 := by simpa using congrArg List.length hr
      have hb : ∀ n ∈ before.reverse, n < 256 := by simpa using hbefore
      have hx := foldl_octets_lt hb (show 0 < Nat.pow 256 0 by decide)
      rw [Nat.zero_add, List.length_reverse] at hx
      obtain rfl := Option.some.inj h
      have hp : Nat.pow 256 4 = Nat.pow 256 before.length * Nat.pow 256 (4 - before.length) := by
        simp only [Nat.pow_eq]
        rw [← Nat.pow_add, show before.length + (4 - before.length) = 4 by omega]
      rw [hp]
      calc _ < _ * Nat.pow 256 (4 - before.length) + Nat.pow 256 (4 - before.length) :=
            Nat.add_lt_add_left hlast _
        _ = (_ + 1) * Nat.pow 256 (4 - before.length) := (Nat.succ_mul _ _).symm
        _ ≤ _ := Nat.mul_le_mul_right _ hx
    · contradiction

/-! ### An address has eight groups -/

/-- An IPv6 address has eight groups. -/
theorem length_of_groups? {cs : List Char} {gs : List Nat} (h : groups? cs = some gs) :
    gs.length = 8 := by
  unfold groups? at h
  split at h
  · exact of_decide_eq_true (Option.filter_eq_some_iff.1 h).2
  · next before after _ =>
    obtain ⟨xs, _, h⟩ := Option.bind_eq_some_iff.1 h
    obtain ⟨ys, _, h⟩ := Option.bind_eq_some_iff.1 h
    dsimp only at h
    split at h
    · next hn =>
      obtain rfl := Option.some.inj h
      simp only [List.length_append, List.length_replicate]
      omega
    · contradiction

end Household.Remote
