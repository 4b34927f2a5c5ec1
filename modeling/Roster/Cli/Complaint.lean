import Roster.Fault

/-!
# Complaints

Why a command failed: what it was about, and what lies behind that, the nearest cause first. Several
causes are numbered. The lines of a cause stand below each other.
-/

namespace Roster.Cli

/-- Why a command failed. -/
structure Complaint where
  /-- What failed. -/
  message : String
  /-- What lies behind it, the nearest cause first. -/
  causes : List String := []
  deriving DecidableEq, Repr

namespace Complaint

/-- The complaint about a fault. -/
def ofFault (fault : Fault) : Complaint := ⟨fault.message, fault.cause?.toList⟩

/-- The complaint that something failed because of another one. -/
def within (message : String) (c : Complaint) : Complaint := ⟨message, c.message :: c.causes⟩

/-- The lines of a cause behind the given begin of its first line; further ones are indented. -/
def causeText (start indentation cause : String) : String :=
  "\n" ++ start ++ ("\n" ++ indentation).intercalate (Text.splitOn '\n' cause)

/-- The number of a cause in five columns. -/
def numberText (n : Nat) : String :=
  let digits := toString n
  String.ofList (List.replicate (5 - digits.length) ' ') ++ digits ++ ": "

/-- The complaint in words. -/
def text (c : Complaint) : String :=
  let causes := match c.causes with
    | [] => ""
    | [cause] => "\n\nCaused by:" ++ causeText "    " "    " cause
    | causes =>
      "\n\nCaused by:" ++
        String.join (causes.zipIdx.map fun (cause, n) => causeText (numberText n) "       " cause)
  "Error: " ++ c.message ++ causes ++ "\n"

end Complaint

end Roster.Cli
