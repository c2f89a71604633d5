import Household.Text.Decimal

/-!
# Status Codes

The three-digit codes with which a server says how a call went, and the registered phrase that names
each of them.

## Main results

* `isSuccess_iff`: success is the range from 200 to 299.
* `refuses_not_isSuccess`: a server that does not know who is asking has not done what was asked.
-/

namespace Household.Remote

/-- The registered codes with their phrases. -/
def phrases : List (Nat × String) :=
  [(100, "Continue"), (101, "Switching Protocols"), (102, "Processing"), (103, "Early Hints"),
    (200, "OK"), (201, "Created"), (202, "Accepted"), (203, "Non Authoritative Information"),
    (204, "No Content"), (205, "Reset Content"), (206, "Partial Content"), (207, "Multi-Status"),
    (208, "Already Reported"), (226, "IM Used"),
    (300, "Multiple Choices"), (301, "Moved Permanently"), (302, "Found"), (303, "See Other"),
    (304, "Not Modified"), (305, "Use Proxy"), (307, "Temporary Redirect"),
    (308, "Permanent Redirect"),
    (400, "Bad Request"), (401, "Unauthorized"), (402, "Payment Required"), (403, "Forbidden"),
    (404, "Not Found"), (405, "Method Not Allowed"), (406, "Not Acceptable"),
    (407, "Proxy Authentication Required"), (408, "Request Timeout"), (409, "Conflict"),
    (410, "Gone"), (411, "Length Required"), (412, "Precondition Failed"),
    (413, "Payload Too Large"), (414, "URI Too Long"), (415, "Unsupported Media Type"),
    (416, "Range Not Satisfiable"), (417, "Expectation Failed"), (418, "I'm a teapot"),
    (421, "Misdirected Request"), (422, "Unprocessable Entity"), (423, "Locked"),
    (424, "Failed Dependency"), (425, "Too Early"), (426, "Upgrade Required"),
    (428, "Precondition Required"), (429, "Too Many Requests"),
    (431, "Request Header Fields Too Large"), (451, "Unavailable For Legal Reasons"),
    (500, "Internal Server Error"), (501, "Not Implemented"), (502, "Bad Gateway"),
    (503, "Service Unavailable"), (504, "Gateway Timeout"), (505, "HTTP Version Not Supported"),
    (506, "Variant Also Negotiates"), (507, "Insufficient Storage"), (508, "Loop Detected"),
    (510, "Not Extended"), (511, "Network Authentication Required")]

/-- The phrase of a code. -/
def phrase? (code : Nat) : Option String :=
  (phrases.find? (·.1 = code)).map (·.2)

/-- A code and its phrase, as they stand in a message. -/
def statusText (code : Nat) : String :=
  String.ofList (Text.digits code) ++ " " ++ (phrase? code).getD "<unknown status code>"

/-- Whether a code says that the call was carried out. -/
def isSuccess (code : Nat) : Bool :=
  200 ≤ code && code < 300

/-- Whether a code says that the server does not know who is asking, or does not let them. -/
def refuses (code : Nat) : Bool :=
  code = 401 || code = 403

/-- Success is the range from 200 to 299. -/
theorem isSuccess_iff (code : Nat) : isSuccess code = true ↔ 200 ≤ code ∧ code < 300 := by
  simp [isSuccess]

/-- A server that does not know who is asking has not done what was asked. -/
theorem refuses_not_isSuccess {code : Nat} (h : refuses code = true) : isSuccess code = false := by
  simp only [refuses, Bool.or_eq_true, decide_eq_true_eq] at h
  rcases h with rfl | rfl <;> rfl

end Household.Remote
