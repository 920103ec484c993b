import PropertyMacros.Text.Split

/-!
The accounts of a system, and which of them a process runs under.

A list of accounts has a line for each, with fields between colons. The status of a process has
lines of a name, a colon and values between tabs.
-/

namespace PropertyMacros.Accounts

/-- The number of the account in the status of a process. -/
def userId? (status : String) : Option String :=
  (Text.splitAll '\n' status.toList).findSome? fun line =>
    match Text.splitAll '\t' line with
    | name :: id :: _ => if name = "Uid:".toList then some (String.ofList id) else none
    | _ => none

/-- The directory of the account with a number, in a list of accounts. -/
def home? (accounts userId : String) : Option String :=
  (Text.splitAll '\n' accounts.toList).findSome? fun line =>
    match Text.splitAll ':' line with
    | [_, _, id, _, _, home, _] => if id = userId.toList then some (String.ofList home) else none
    | _ => none

end PropertyMacros.Accounts
