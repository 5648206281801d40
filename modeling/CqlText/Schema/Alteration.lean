import CqlText.Schema.Request

/-!
# Alterations

A statement that alters a table is written change by change: its clauses follow one another in a
buffer with a separator between neighbours. The main statements are `buffer_append`, which gives the
text of many changes, and `state_of_run`, by which requests leave what the changes that they build
leave, whatever is refused among them.
-/

namespace CqlText

/-- A statement in the making. -/
structure Alteration where
  /-- The text written so far. -/
  buffer : Text
  /-- The text between clauses. -/
  separator : Text
  /-- The changes written so far, from first to last. -/
  changes : List ColumnChange
deriving DecidableEq

namespace Alteration

/-- A statement that starts with a text. -/
def start (buffer separator : Text) : Alteration :=
  ⟨buffer, separator, []⟩

/-- The separator, where a clause is already written. -/
def gap (alteration : Alteration) : Text :=
  if alteration.changes.isEmpty then [] else alteration.separator

/-- Write one more change. -/
def push (alteration : Alteration) (change : ColumnChange) : Alteration :=
  { alteration with
    buffer := change.write (alteration.buffer ++ alteration.gap)
    changes := alteration.changes ++ [change] }

/-- Write changes one after the other. -/
def append (alteration : Alteration) (changes : List ColumnChange) : Alteration :=
  changes.foldl push alteration

/-- What becomes of a request. -/
inductive Outcome where
  /-- The change is written; it may repeat the change at an earlier position. -/
  | written (change : ColumnChange) (repeated : Option Nat)
  /-- The request is refused. -/
  | refused (error : RequestError)
deriving DecidableEq

/-- Write the change asked for; a refusal leaves the statement as it is. -/
def answer (alteration : Alteration) (request : ChangeRequest) : Alteration × Outcome :=
  match request.build with
  | .ok change => (alteration.push change, .written change (alteration.changes.idxOf? change))
  | .error error => (alteration, .refused error)

/-- The statements after the requests, each with the outcome of its request. -/
def run (alteration : Alteration) : List ChangeRequest → List (Alteration × Outcome)
  | [] => []
  | request :: requests =>
      let answered := alteration.answer request
      answered :: answered.1.run requests

@[simp] theorem append_nil (alteration : Alteration) : alteration.append [] = alteration := rfl

@[simp] theorem append_cons (alteration : Alteration) (change : ColumnChange)
    (changes : List ColumnChange) :
    alteration.append (change :: changes) = (alteration.push change).append changes := rfl

theorem append_append (alteration : Alteration) (changes others : List ColumnChange) :
    alteration.append (changes ++ others) = (alteration.append changes).append others :=
  List.foldl_append

theorem push_buffer (alteration : Alteration) (change : ColumnChange) :
    (alteration.push change).buffer = alteration.buffer ++ alteration.gap ++ change.clause :=
  change.write_eq_append_clause _

theorem push_separator (alteration : Alteration) (change : ColumnChange) :
    (alteration.push change).separator = alteration.separator := rfl

theorem push_gap (alteration : Alteration) (change : ColumnChange) :
    (alteration.push change).gap = alteration.separator := by
  simp [gap, push]

/-- Behind a first clause, each change is written behind the separator. -/
theorem buffer_append (alteration : Alteration) (change : ColumnChange)
    (changes : List ColumnChange) :
    (alteration.append (change :: changes)).buffer =
      alteration.buffer ++ alteration.gap ++ change.clause ++
        changes.flatMap fun other => alteration.separator ++ other.clause := by
  rw [append_cons]
  induction changes generalizing alteration change with
  | nil => simp [push_buffer]
  | cons next changes induction =>
      rw [append_cons, induction, push_gap, push_separator, List.flatMap_cons, push_buffer]
      simp only [List.append_assoc]

section

variable {alteration : Alteration} {request : ChangeRequest}

theorem answer_of_ok {change : ColumnChange} (built : request.build = .ok change) :
    alteration.answer request =
      (alteration.push change, .written change (alteration.changes.idxOf? change)) := by
  rw [answer, built]

/-- A request that is refused leaves the statement as it is. -/
theorem answer_of_error {error : RequestError} (refused : request.build = .error error) :
    alteration.answer request = (alteration, .refused error) := by
  rw [answer, refused]

end

/-- A request leaves what the change that it builds leaves, if it builds one. -/
theorem answer_state (alteration : Alteration) (request : ChangeRequest) :
    (alteration.answer request).1 = alteration.append (ChangeRequest.built [request]) := by
  cases outcome : request.build with
  | ok change => simp [answer_of_ok outcome, ChangeRequest.built, outcome, Except.toOption]
  | error error => simp [answer_of_error outcome, ChangeRequest.built, outcome, Except.toOption]

theorem length_run (alteration : Alteration) (requests : List ChangeRequest) :
    (alteration.run requests).length = requests.length := by
  induction requests generalizing alteration with
  | nil => rfl
  | cons request requests induction => rw [run, List.length_cons, induction, List.length_cons]

/-- Each request is answered by the statement that the changes built before it leave. -/
theorem answer_of_run {alteration : Alteration} {requests : List ChangeRequest} {ordinal : Nat}
    {request : ChangeRequest} (asked : requests[ordinal]? = some request) :
    (alteration.run requests)[ordinal]? =
      some ((alteration.append (ChangeRequest.built (requests.take ordinal))).answer request) := by
  induction requests generalizing alteration ordinal with
  | nil => simp at asked
  | cons first requests induction =>
      cases ordinal with
      | zero =>
          obtain rfl : first = request := by simpa using asked
          rfl
      | succ ordinal =>
          have next : requests[ordinal]? = some request := asked
          have split : (first :: requests).take (ordinal + 1) = [first] ++ requests.take ordinal :=
            List.take_succ_cons
          rw [run, List.getElem?_cons_succ, induction next, answer_state, split,
            ChangeRequest.built_append, append_append]

/-- Behind each request the statement holds the changes built so far, written in turn. -/
theorem state_of_run {alteration after : Alteration} {requests : List ChangeRequest}
    {ordinal : Nat} {outcome : Outcome}
    (reached : (alteration.run requests)[ordinal]? = some (after, outcome)) :
    after = alteration.append (ChangeRequest.built (requests.take (ordinal + 1))) := by
  obtain ⟨inside, -⟩ := List.getElem?_eq_some_iff.mp reached
  rw [length_run] at inside
  rw [answer_of_run (List.getElem?_eq_getElem inside), Option.some.injEq] at reached
  rw [List.take_succ_eq_append_getElem inside, ChangeRequest.built_append, append_append,
    ← answer_state, reached]

/-- Behind the last request the statement holds all the changes built. -/
theorem last_of_run {alteration after : Alteration} {requests : List ChangeRequest}
    {outcome : Outcome} (last : (alteration.run requests).getLast? = some (after, outcome)) :
    after = alteration.append (ChangeRequest.built requests) := by
  rw [List.getLast?_eq_getElem?, length_run] at last
  have all : requests.length ≤ requests.length - 1 + 1 := by omega
  rw [state_of_run last, List.take_of_length_le all]

end Alteration
end CqlText
