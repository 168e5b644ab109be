import SchemaScaffold.Code.Statement

/-! The statements of a request handler: what they are written as, and which
responses they send. A handler makes one call of the datastore, and its flow
depends on nothing but the outcome of that call. -/

namespace SchemaScaffold.Controller

open Code

/-! ## What a handler sends -/

inductive ResponseBody where
  /-- A success with the value of an expression. -/
  | data (expression : String)
  /-- A failure, explained by the value of an expression. -/
  | error (expression : String)
deriving DecidableEq

namespace ResponseBody

def isSuccess : ResponseBody → Bool
  | data _ => true
  | error _ => false

def text : ResponseBody → String
  | data expression => "\x7b success: true, data: " ++ expression ++ " \x7d"
  | error expression => "\x7b success: false, error: " ++ expression ++ " \x7d"

end ResponseBody

structure Response where
  status : Nat
  body : ResponseBody
deriving DecidableEq

def Response.text (response : Response) : String :=
  "res.status(" ++ toString response.status ++ ").json(" ++ response.body.text ++ ");"

/-! ## What it depends on -/

/-- The failures that a handler can tell from others. -/
inductive Failure where
  /-- A malformed id. -/
  | cast
  | validation
  /-- A value that a unique field already has. -/
  | duplicate
deriving DecidableEq

def Failure.test : Failure → String
  | cast => "error.name === \"CastError\" && error.kind === \"ObjectId\""
  | validation => "error.name === \"ValidationError\""
  | duplicate => "error.code === 11000"

/-- What the call of the datastore comes to. -/
inductive Outcome where
  | value
  | noRecord
  /-- A failure, unless it is one of its own kind. -/
  | failed (failure : Option Failure)
deriving DecidableEq

inductive Test where
  | isMissing (record : String)
  | failedBy (failure : Failure)
deriving DecidableEq

namespace Test

def text : Test → String
  | isMissing record => "!" ++ record
  | failedBy failure => failure.test

def holds : Test → Outcome → Bool
  | isMissing _, outcome => outcome == .noRecord
  | failedBy failure, outcome => outcome == .failed (some failure)

end Test

/-! ## Statements -/

inductive Step where
  /-- A statement that sends nothing. -/
  | silent (fragment : Fragment)
  /-- The call of the datastore. -/
  | call (fragment : Fragment)
  | respond (response : Response)
  /-- Responds and ends the handler. -/
  | leave (response : Response)
  | provided (test : Test) (body : List Step)
  /-- `rescue` follows a failure in `body`. -/
  | attempt (errorType : Option String) (body rescue : List Step)

mutual

def Step.fragments : Step → List Fragment
  | .silent fragment => [fragment]
  | .call fragment => [fragment]
  | .respond response => [.line response.text]
  | .leave response => [.line ("return " ++ response.text)]
  | .provided test body => [.braced ("if (" ++ test.text ++ ") ") (fragmentsOf body)]
  | .attempt errorType body rescue =>
      [.block "try \x7b" (fragmentsOf body) none,
       .braced ("\x7d catch (" ++ annotated "error" errorType ++ ") ") (fragmentsOf rescue)]

def fragmentsOf : List Step → List Fragment
  | [] => []
  | step :: rest => step.fragments ++ fragmentsOf rest

end

/-! ## Their effect -/

inductive Ending where
  /-- The next statement is reached. -/
  | next
  | returned
  | thrown
deriving DecidableEq

mutual

/-- The responses that are sent, in order, and how the statement ends. -/
def Step.run (outcome : Outcome) : Step → List Response × Ending
  | .silent _ => ([], .next)
  | .call _ =>
      match outcome with
      | .failed _ => ([], .thrown)
      | _ => ([], .next)
  | .respond response => ([response], .next)
  | .leave response => ([response], .returned)
  | .provided test body => if test.holds outcome then runAll outcome body else ([], .next)
  | .attempt _ body rescue =>
      match runAll outcome body with
      | (sent, .thrown) =>
          let rescued := runAll outcome rescue
          (sent ++ rescued.1, rescued.2)
      | ended => ended

def runAll (outcome : Outcome) : List Step → List Response × Ending
  | [] => ([], .next)
  | step :: rest =>
      match step.run outcome with
      | (sent, .next) =>
          let later := runAll outcome rest
          (sent ++ later.1, later.2)
      | ended => ended

end

/-- What a handler answers. -/
def responses (steps : List Step) (outcome : Outcome) : List Response := (runAll outcome steps).1

example :
    responses [.leave ⟨404, .error "missing"⟩, .respond ⟨200, .data "found"⟩] .value
      = [⟨404, .error "missing"⟩] := by decide

end SchemaScaffold.Controller
