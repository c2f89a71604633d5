import Household.Remote.HostName.Label
import Household.Remote.Ip
import Household.Text.Percent

/-!
# Hosts

The host in a URL is a name, an IPv4 address or, in brackets, an IPv6 address. Names can be percent
encoded. A host of which the last part is a number is meant as an address.

## Main results

* `readHost?_ne_nil`: a host is not empty.
-/

namespace Household.Remote

open Text

/-- The parts of a host between its points; a point at the end does not count. -/
def hostParts (host : List Char) : List (List Char) :=
  let parts := splitAt (· = '.') host
  if parts.getLast? = some [] then parts.dropLast else parts

/-- The host is meant as an address: its last part is a number, or has only digits. -/
def isNumbered (host : List Char) : Bool :=
  match (hostParts host).getLast? with
  | some ds => ds ≠ [] && (ds.all Char.isDigit || (addressNumber? ds).isSome)
  | none => false

/-- The name in a host as it is sent. -/
def hostName? (cs : List Char) : Option (List Char) :=
  ((percentText? cs).bind HostName.asciiName?).filter (· ≠ [])

/-- The host between brackets, or none if there are no brackets. -/
def bracketed? : List Char → Option (List Char)
  | '[' :: cs => some cs
  | _ => none

/-- Reads a host as it is shown in a URL. -/
def readHost? (cs : List Char) : Option (List Char) :=
  match bracketed? cs with
  | some inside =>
    if inside.getLast? = some ']' then
      (groups? inside.dropLast).map fun gs => '[' :: longAddressText gs ++ [']']
    else none
  | none => do
    let name ← hostName? cs
    if isNumbered name then
      return addressText (← addressOf? (← (hostParts name).mapM addressNumber?))
    else return name

/-! ### Hosts are not empty -/

/-- A host is not empty. -/
theorem readHost?_ne_nil {cs host : List Char} (h : readHost? cs = some host) : host ≠ [] := by
  unfold readHost? at h
  split at h
  · split at h
    · obtain ⟨gs, _, rfl⟩ := Option.map_eq_some_iff.1 h
      simp
    · contradiction
  · obtain ⟨name, hname, h⟩ := Option.bind_eq_some_iff.1 h
    split at h
    · obtain ⟨ns, _, h⟩ := Option.bind_eq_some_iff.1 h
      obtain ⟨address, _, h⟩ := Option.bind_eq_some_iff.1 h
      obtain rfl := Option.some.inj h
      simp [addressText]
    · obtain rfl := Option.some.inj h
      exact of_decide_eq_true (Option.filter_eq_some_iff.1 hname).2

end Household.Remote
