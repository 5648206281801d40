import CqlText.Options
import CqlText.Query.MarkerStyle
import CqlText.Query.Parse

/-!
# Sessions

A session keeps a policy, a list of collected bindings and the last query, and carries out commands
on them one after the other. A command that is refused leaves the session as it is.
-/

namespace CqlText

/-- The state between commands. -/
structure Session where
  /-- The policy for templates. -/
  policy : TailPolicy
  /-- The bindings collected so far. -/
  bindings : List Binding
  /-- The last query. -/
  last : Query
deriving DecidableEq

namespace Session

/-- A session before its first command. -/
def start (policy : TailPolicy) (bindings : List Binding) : Session :=
  ⟨policy, bindings, Query.empty⟩

/-- A step of a session. -/
inductive Command where
  /-- Set the policy by an options text. -/
  | options (options : Text)
  /-- Set the policy. -/
  | policy (policy : TailPolicy)
  /-- Parse a template. -/
  | parse (template : Text)
  /-- Parse a template that must have no fault. -/
  | parseStrict (template : Text)
  /-- Parse the text of the last query. -/
  | reparse
  /-- Collect the bindings of a template. -/
  | collect (template : Text)
  /-- Collect the bindings of the text of the last query. -/
  | collectLast
  /-- Render the last query. -/
  | render (style : MarkerStyle)
  /-- Render the last query and parse what comes out. -/
  | renderParse (style : MarkerStyle)
  /-- Collect the bindings of the last query and forget it. -/
  | takeLast
deriving DecidableEq

/-- What a command answers. -/
inductive Reply where
  /-- The command is carried out. -/
  | done
  /-- The offsets of the markers of the query parsed. -/
  | sites (offsets : List Nat)
  /-- A normalised or rendered text. -/
  | text (text : Text)
  /-- The options are refused. -/
  | badOptions (error : OptionError)
  /-- The template is refused. -/
  | faulty (fault : Fault)
  /-- The last query cannot be cut at its sites; no query that parsing gives is such. -/
  | unmarked
deriving DecidableEq

/-- Make a query the last one. -/
def keep (session : Session) (query : Query) : Session × Reply :=
  ({ session with last := query }, .sites query.sites)

/-- Collect the bindings of a template. -/
def gather (session : Session) (template : Text) : Session × Reply :=
  let collected := Query.collect session.policy session.bindings template
  ({ session with bindings := collected.2 }, .text collected.1)

/-- Carry out a command. -/
def step (session : Session) : Command → Session × Reply
  | .options options =>
      match Options.read options with
      | .ok policy => ({ session with policy }, .done)
      | .error error => (session, .badOptions error)
  | .policy policy => ({ session with policy }, .done)
  | .parse template => session.keep (Query.parse session.policy template)
  | .parseStrict template =>
      match Query.parseStrict session.policy template with
      | .ok query => session.keep query
      | .error fault => (session, .faulty fault)
  | .reparse => session.keep (Query.parse session.policy session.last.text)
  | .collect template => session.gather template
  | .collectLast => session.gather session.last.text
  | .render style =>
      match session.last.render style with
      | some rendered => (session, .text rendered)
      | none => (session, .unmarked)
  | .renderParse style =>
      match session.last.render style with
      | some rendered =>
          ({ session with last := Query.parse session.policy rendered }, .text rendered)
      | none => (session, .unmarked)
  | .takeLast =>
      ({ session with
          bindings := session.bindings ++ session.last.bindings
          last := Query.empty },
        .text session.last.text)

/-- The states after the commands, each with the answer to its command. -/
def run (session : Session) : List Command → List (Session × Reply)
  | [] => []
  | command :: commands =>
      let answered := session.step command
      answered :: answered.1.run commands

end Session
end CqlText
