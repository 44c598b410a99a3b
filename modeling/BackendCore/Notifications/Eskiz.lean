import BackendCore.Notifications.Models

/-!
# The Eskiz channel

`EskizSmsChannel.send` inside `call_resilient`: two attempts, each of which logs
in where it has no token, submits the message and, after a 401, logs in and
submits once more.  What the provider answers and where the timeout strikes is
given; every request to submit is a step of its own that leaves an event.
-/

set_option autoImplicit false

namespace BackendCore.Notifications

open BackendCore.Requests

/-- What becomes of a request over HTTP; the timeout is the one of `call_resilient`. -/
inductive HttpAnswer (B : Type) where
  | response (status : Nat) (body : B)
  | transportError (text : String)
  | timedOut

def HttpAnswer.status? {B : Type} : HttpAnswer B → Option Nat
  | .response status _ => some status
  | _ => none

/-- What the body of an answer to a login says: its token, if there is one, or how the
body fails to parse. -/
abbrev LoginBody := Except String (Option String)

structure SendBody where
  isError : Bool
  message : String
  id : String

/-- How one attempt ends. -/
inductive OpResult where
  | ok (messageId : String)
  | temporary (text : String)
  | timeout
  | permanent (text : String)
  | unexpected (text : String)

/-- How `send` ends for the dispatcher. -/
inductive SendOutcome where
  | sent (messageId : Option String)
  | permanent (text : String)
  | failed (text : String)

/-- One attempt: whether the breaker lets it go on, the token at hand, and the answers to the
requests it may make. -/
structure EskizAttempt where
  allowed : Bool
  token : Option String
  login : HttpAnswer LoginBody
  first : HttpAnswer (Except String SendBody)
  relogin : HttpAnswer LoginBody
  second : HttpAnswer (Except String SendBody)

/-- Whether the number is one, and the two attempts. -/
structure EskizScript where
  phone : Except String Unit
  first : EskizAttempt
  second : EskizAttempt

def isUnavailable (status : Nat) : Bool := 500 ≤ status || status = 429

def transportText (text : String) : String := "eskiz transport error: " ++ text

/-- `_ensure_token`. -/
def ensureToken (token : Option String) (login : HttpAnswer LoginBody) : Except OpResult Unit :=
  match token with
  | some _ => .ok ()
  | none =>
    match login with
    | .timedOut => .error .timeout
    | .transportError text => .error (.temporary (transportText text))
    | .response status body =>
      if isUnavailable status then
        .error (.temporary ("eskiz auth http " ++ toString status))
      else if 400 ≤ status then
        .error (.permanent ("eskiz auth rejected: http " ++ toString status))
      else
        match body with
        | .error text => .error (.unexpected text)
        | .ok none => .error (.temporary "eskiz auth returned no token")
        | .ok (some text) =>
          if text = "" then .error (.temporary "eskiz auth returned no token") else .ok ()

/-- `_parse_send`. -/
def parseSend (status : Nat) (body : Except String SendBody) : OpResult :=
  if isUnavailable status then .temporary ("eskiz http " ++ toString status)
  else if 400 ≤ status then .permanent ("eskiz rejected: http " ++ toString status)
  else
    match body with
    | .error text => .unexpected text
    | .ok answer =>
      if answer.isError then .permanent ("eskiz error: " ++ answer.message) else .ok answer.id

section Steps

variable {S L A : Type} (submit : Option Nat → L)

/-- `_post_sms`. -/
def postSms (token : Option String) (login : HttpAnswer LoginBody)
    (answer : HttpAnswer (Except String SendBody))
    (next : Except OpResult (Nat × Except String SendBody) → Proc S L A) : Proc S L A :=
  match ensureToken token login with
  | .error result => next (.error result)
  | .ok () =>
    .act (fun _ => some (submit answer.status?)) id fun _ =>
      match answer with
      | .timedOut => next (.error .timeout)
      | .transportError text => next (.error (.temporary (transportText text)))
      | .response status body => next (.ok (status, body))

/-- `_op`. -/
def eskizOp (attempt : EskizAttempt) (next : OpResult → Proc S L A) : Proc S L A :=
  postSms submit attempt.token attempt.login attempt.first fun
    | .error result => next result
    | .ok (status, body) =>
      if status = 401 then
        postSms submit none attempt.relogin attempt.second fun
          | .error result => next result
          | .ok (again, answer) => next (parseSend again answer)
      else next (parseSend status body)

/-- The loop of `call_resilient` over its attempts; `last` is the last error. -/
def callResilient (next : SendOutcome → Proc S L A) :
    List EskizAttempt → (last : String) → Proc S L A
  | [], last => next (.failed last)
  | attempt :: rest, _ =>
    if attempt.allowed then
      eskizOp submit attempt fun
        | .ok messageId => next (.sent (some messageId))
        | .temporary text => callResilient next rest text
        | .timeout => callResilient next rest ""
        | .permanent text => next (.permanent text)
        | .unexpected text => next (.failed text)
    else next (.failed "circuit open for sms_eskiz")

/-- `EskizSmsChannel.send` of a configured channel. -/
def eskizSend (script : EskizScript) (next : SendOutcome → Proc S L A) : Proc S L A :=
  match script.phone with
  | .error text => next (.permanent text)
  | .ok () => callResilient submit next [script.first, script.second] ""

end Steps

end BackendCore.Notifications
