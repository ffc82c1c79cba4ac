import OpenBadges.Transport.Request

/-!
# Rehearsed answers

A transport that answers from a list for each method and path. Answers are given
in the order in which they were put there; the last one is kept and given again.
Where nothing was put, nothing is found.
-/

namespace OpenBadges

/-- An answer put there in advance. -/
inductive Reply where
  | respond (response : Response)
  | fail (reason : String)
deriving DecidableEq, Repr

/-- The answers to give, and the requests that were made. -/
structure Rehearsal where
  /-- The answers for each method and path, first the next. -/
  replies : Method → String → List Reply := fun _ _ => []
  /-- The requests, first the oldest. -/
  requests : List Request := []

namespace Rehearsal

/-- Puts answers in the place of those for a method and path. -/
def setReplies (r : Rehearsal) (method : Method) (path : String) (replies : List Reply) :
    Rehearsal :=
  { r with replies := fun m p => if m = method ∧ p = path then replies else r.replies m p }

/-- Puts one more answer behind those for a method and path. -/
def put (r : Rehearsal) (method : Method) (path : String) (reply : Reply) : Rehearsal :=
  r.setReplies method path (r.replies method path ++ [reply])

/-- What is answered where no answer was put. -/
def notFound : Response := ⟨404, "Not found"⟩

/-- The next answer and those after it. -/
def nextReply : List Reply → Reply × List Reply
  | [] => (.respond notFound, [])
  | [reply] => (reply, [reply])
  | reply :: rest => (reply, rest)

/-- Notes a request and answers it. -/
def send : Transport Rehearsal := fun r request =>
  let (reply, rest) := nextReply (r.replies request.method request.path)
  let answer := match reply with
    | .respond response => .ok response
    | .fail reason => .error (.unavailable reason)
  (answer, { r.setReplies request.method request.path rest with
    requests := r.requests ++ [request] })

/-- How often a request was made. -/
def requestCount (r : Rehearsal) (method : Method) (path : String) : Nat :=
  r.requests.countP fun q => q.method = method ∧ q.path = path

end Rehearsal

end OpenBadges
