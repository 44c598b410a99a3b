import BackendCore.Python.Text

/-!
# The cap on request bodies

`app/middleware.py`: `BodySizeLimitMiddleware` and the exchange it hands to the
wrapped application.  An ASGI application is a tree: it receives, and may go on
from the error a `receive` raises, it sends, and it ends.  What the server delivers
is any sequence of messages.  `PayloadTooLargeError` and `ValueError` are the
exceptions of the middleware itself, all others belong to the application; the
headers and the text of the rendered 413 answer are a parameter.
-/

set_option autoImplicit false

namespace BackendCore.BodyLimit

open BackendCore.Python

/-! ## Exchanges -/

inductive Inbound where
  | request (body : Option (List UInt8)) (moreBody : Bool)
  | disconnect
  deriving DecidableEq

inductive Outbound where
  | start (status : Nat) (headers : List (String × String))
  | body (chunk : List UInt8) (moreBody : Bool)
  | other (type : String)
  deriving DecidableEq

inductive Failure (E : Type) where
  | payloadTooLarge (detail : String)
  | valueError
  | own (error : E)

inductive App (E : Type) where
  | ret
  | raise (error : Failure E)
  | receive (next : Except (Failure E) Inbound → App E)
  | send (message : Outbound) (next : App E)

variable {E : Type}

/-- `len(message.get("body", b""))`. -/
def Inbound.bytes : Inbound → Nat
  | .request body _ => (body.getD []).length
  | .disconnect => 0

def totalBytes (messages : List Inbound) : Nat := (messages.map Inbound.bytes).sum

/-- The messages the application got, those the client got, and how the call ended. -/
structure Trace (E : Type) where
  delivered : List Inbound
  sent : List Outbound
  outcome : Except (Failure E) Unit

def Trace.afterReceiving (message : Inbound) (trace : Trace E) : Trace E :=
  { trace with delivered := message :: trace.delivered }

def Trace.afterSending (message : Outbound) (trace : Trace E) : Trace E :=
  { trace with sent := message :: trace.sent }

/-- The application on the server's own `receive` and `send`. -/
def App.run (inbound : Nat → Inbound) : App E → Nat → Trace E
  | .ret, _ => ⟨[], [], .ok ()⟩
  | .raise error, _ => ⟨[], [], .error error⟩
  | .receive next, position =>
    ((next (.ok (inbound position))).run inbound (position + 1)).afterReceiving
      (inbound position)
  | .send message next, position => (next.run inbound position).afterSending message

/-! ## The capped exchange -/

structure Exchange where
  received : Nat
  overflow : Bool
  started : Bool

def Exchange.new : Exchange := ⟨0, false, false⟩

def Exchange.replaceable (exchange : Exchange) : Bool :=
  exchange.overflow && !exchange.started

/-- `_CappedExchange.receive` for the message the server delivers. -/
def Exchange.receive (exchange : Exchange) (limit : Nat) (message : Inbound) :
    Except (Failure E) Inbound × Exchange :=
  match message with
  | .request body moreBody =>
    let exchange := { exchange with received := exchange.received + (body.getD []).length }
    if limit < exchange.received then
      (.error (.payloadTooLarge ("request body over " ++ toString limit ++ " bytes")),
        { exchange with overflow := true })
    else (.ok (.request body moreBody), exchange)
  | .disconnect => (.ok .disconnect, exchange)

def Outbound.isStart : Outbound → Bool
  | .start _ _ => true
  | _ => false

/-- `_CappedExchange.send`: the message is swallowed or passed on. -/
def Exchange.send (exchange : Exchange) (message : Outbound) : Bool × Exchange :=
  if exchange.replaceable then (false, exchange)
  else if message.isStart then (true, { exchange with started := true })
  else (true, exchange)

def App.runCapped (limit : Nat) (inbound : Nat → Inbound) :
    App E → Exchange → Nat → Trace E × Exchange
  | .ret, exchange, _ => (⟨[], [], .ok ()⟩, exchange)
  | .raise error, exchange, _ => (⟨[], [], .error error⟩, exchange)
  | .receive next, exchange, position =>
    let (answer, after) := exchange.receive limit (inbound position)
    let (trace, final) := (next answer).runCapped limit inbound after (position + 1)
    match answer with
    | .ok message => (trace.afterReceiving message, final)
    | .error _ => (trace, final)
  | .send message next, exchange, position =>
    let (passed, after) := exchange.send message
    let (trace, final) := next.runCapped limit inbound after position
    if passed then (trace.afterSending message, final) else (trace, final)

/-! ## The middleware -/

structure Scope where
  http : Bool
  path : String
  contentLength : Option String
  acceptLanguage : Option String

structure Middleware where
  defaultLimit : Nat
  pathLimits : List (String × Nat)

def Middleware.limit (middleware : Middleware) (scope : Scope) : Nat :=
  (middleware.pathLimits.lookup scope.path).getD middleware.defaultLimit

/-- What one call of the middleware did, and whether the application ran. -/
structure Handled (E : Type) where
  ran : Bool
  trace : Trace E

/-- `declared is not None and declared.isdigit() and int(declared) > limit`. -/
def declaredOver (limit : Nat) : Option String → Except (Failure E) Bool
  | none => .ok false
  | some declared =>
    if isdigit declared then
      match Python.int declared with
      | none => .error .valueError
      | some length => .ok (decide ((limit : Int) < length))
    else .ok false

section Calls

variable (render : Option String → List (String × String) × List UInt8)

/-- `_reject`: the JSON response sends its start and its whole body. -/
def reject (scope : Scope) : List Outbound :=
  [.start 413 (render scope.acceptLanguage).1, .body (render scope.acceptLanguage).2 false]

def Middleware.call (middleware : Middleware) (scope : Scope) (app : App E)
    (inbound : Nat → Inbound) : Handled E :=
  if scope.http then
    match declaredOver (middleware.limit scope) scope.contentLength with
    | .error error => ⟨false, ⟨[], [], .error error⟩⟩
    | .ok true => ⟨false, ⟨[], reject render scope, .ok ()⟩⟩
    | .ok false =>
      let (trace, exchange) := app.runCapped (middleware.limit scope) inbound .new 0
      if exchange.replaceable then
        ⟨true, ⟨trace.delivered, trace.sent ++ reject render scope, .ok ()⟩⟩
      else ⟨true, trace⟩
  else ⟨true, app.run inbound 0⟩

end Calls

/-! ## What the cap is for -/

/-- The length a header of digits declares, whatever its size. -/
def declaredLength : Option String → Option Nat
  | none => none
  | some declared =>
    if isdigit declared then
      some (ofDigitList 10 (declared.toList.map fun c => (decimalValue c).getD 0))
    else none

/-- The bytes of the body among the first messages. -/
def bodyUpTo (inbound : Nat → Inbound) (count : Nat) : Nat :=
  totalBytes ((List.range count).map inbound)

/-- Whether the message takes a body of so many bytes over the limit. -/
def Inbound.exceeds (limit received : Nat) : Inbound → Bool
  | .request body _ => limit < received + (body.getD []).length
  | .disconnect => false

/-- What the application sends before a `receive` takes the body over the limit, if that
comes before it starts a response. -/
def App.beforeOverflow (limit : Nat) (inbound : Nat → Inbound) :
    App E → Nat → Nat → Option (List Outbound)
  | .ret, _, _ => none
  | .raise _, _, _ => none
  | .receive next, received, position =>
    if (inbound position).exceeds limit received then some []
    else (next (.ok (inbound position))).beforeOverflow limit inbound
      (received + (inbound position).bytes) (position + 1)
  | .send message next, received, position =>
    if message.isStart then none
    else (next.beforeOverflow limit inbound received position).map (message :: ·)

/-- The order of ASGI messages: no part of a body before the start of the response. -/
def App.Conforms : App E → Prop
  | .ret => True
  | .raise _ => True
  | .receive next => ∀ answer, (next answer).Conforms
  | .send message next =>
    match message with
    | .start _ _ => True
    | .body _ _ => False
    | .other _ => next.Conforms

def Outbound.isResponse : Outbound → Bool
  | .other _ => false
  | _ => true

/-! ## One step of the exchange -/

section Steps

variable {limit : Nat} {inbound : Nat → Inbound} {exchange : Exchange} {position : Nat}

theorem receive_of_fits {message : Inbound}
    (fits : message.exceeds limit exchange.received = false) :
    (exchange.receive limit message : Except (Failure E) Inbound × Exchange) =
      (.ok message, { exchange with received := exchange.received + message.bytes }) := by
  cases message with
  | request body moreBody =>
    simp only [Exchange.receive]
    exact if_neg (of_decide_eq_false fits)
  | disconnect => rfl

theorem receive_of_exceeds {message : Inbound}
    (exceeds : message.exceeds limit exchange.received = true) :
    (exchange.receive limit message : Except (Failure E) Inbound × Exchange) =
      (.error (.payloadTooLarge ("request body over " ++ toString limit ++ " bytes")),
        ⟨exchange.received + message.bytes, true, exchange.started⟩) := by
  cases message with
  | request body moreBody =>
    simp only [Exchange.receive]
    exact if_pos (of_decide_eq_true exceeds)
  | disconnect => nomatch exceeds

theorem exceeds_bound {received : Nat} {message : Inbound}
    (exceeds : message.exceeds limit received = true) : limit < received + message.bytes := by
  cases message with
  | request body moreBody => exact of_decide_eq_true exceeds
  | disconnect => nomatch exceeds

theorem fits_bound {received : Nat} {message : Inbound}
    (fits : message.exceeds limit received = false) :
    message.bytes = 0 ∨ received + message.bytes ≤ limit := by
  cases message with
  | request body moreBody => exact .inr (Nat.not_lt.mp (of_decide_eq_false fits))
  | disconnect => exact .inl rfl

theorem runCapped_fits {next : Except (Failure E) Inbound → App E}
    (fits : (inbound position).exceeds limit exchange.received = false) :
    (App.receive next).runCapped limit inbound exchange position =
      ((((next (.ok (inbound position))).runCapped limit inbound
          { exchange with received := exchange.received + (inbound position).bytes }
          (position + 1)).1.afterReceiving (inbound position)),
        ((next (.ok (inbound position))).runCapped limit inbound
          { exchange with received := exchange.received + (inbound position).bytes }
          (position + 1)).2) := by
  simp only [App.runCapped, receive_of_fits fits]

theorem runCapped_exceeds {next : Except (Failure E) Inbound → App E}
    (exceeds : (inbound position).exceeds limit exchange.received = true) :
    (App.receive next).runCapped limit inbound exchange position =
      (next (.error (.payloadTooLarge ("request body over " ++ toString limit ++
        " bytes")))).runCapped limit inbound
          ⟨exchange.received + (inbound position).bytes, true, exchange.started⟩
          (position + 1) := by
  simp only [App.runCapped, receive_of_exceeds exceeds]

theorem runCapped_swallowed {message : Outbound} {next : App E}
    (replaceable : exchange.replaceable = true) :
    (App.send message next).runCapped limit inbound exchange position =
      next.runCapped limit inbound exchange position := by
  simp [App.runCapped, Exchange.send, replaceable]

theorem runCapped_passed {message : Outbound} {next : App E}
    (kept : exchange.replaceable = false) :
    (App.send message next).runCapped limit inbound exchange position =
      ((next.runCapped limit inbound
          { exchange with started := exchange.started || message.isStart }
          position).1.afterSending message,
        (next.runCapped limit inbound
          { exchange with started := exchange.started || message.isStart } position).2) := by
  cases starts : message.isStart with
  | true => simp [App.runCapped, Exchange.send, kept, starts]
  | false => simp [App.runCapped, Exchange.send, kept, starts]

end Steps

/-! ## Whole runs -/

section Runs

variable {limit : Nat} {inbound : Nat → Inbound}

theorem runCapped_bytes (app : App E) (exchange : Exchange) (position : Nat) :
    totalBytes (app.runCapped limit inbound exchange position).1.delivered ≤
      limit - exchange.received := by
  induction app generalizing exchange position with
  | ret => exact Nat.zero_le _
  | raise error => exact Nat.zero_le _
  | receive next ih =>
    cases exceeds : (inbound position).exceeds limit exchange.received with
    | true =>
      rw [runCapped_exceeds exceeds]
      refine (ih _ _ _).trans ?_
      simp only
      omega
    | false =>
      rw [runCapped_fits exceeds]
      have rest := ih (.ok (inbound position))
        { exchange with received := exchange.received + (inbound position).bytes } (position + 1)
      have bound := fits_bound exceeds
      simp only [Trace.afterReceiving, totalBytes, List.map_cons, List.sum_cons] at rest ⊢
      omega
  | send message next ih =>
    cases replaceable : exchange.replaceable with
    | true =>
      rw [runCapped_swallowed replaceable]
      exact ih exchange position
    | false =>
      rw [runCapped_passed replaceable]
      exact ih { exchange with started := exchange.started || message.isStart } position

theorem runCapped_replaceable (app : App E) (exchange : Exchange) (position : Nat)
    (replaceable : exchange.replaceable = true) :
    (app.runCapped limit inbound exchange position).1.sent = [] ∧
      (app.runCapped limit inbound exchange position).2.replaceable = true := by
  induction app generalizing exchange position with
  | ret => exact ⟨rfl, replaceable⟩
  | raise error => exact ⟨rfl, replaceable⟩
  | receive next ih =>
    obtain ⟨overflowed, waiting⟩ := Bool.and_eq_true_iff.mp replaceable
    cases exceeds : (inbound position).exceeds limit exchange.received with
    | true =>
      rw [runCapped_exceeds exceeds]
      exact ih _ _ _ waiting
    | false =>
      rw [runCapped_fits exceeds]
      exact ih _ _ _ replaceable
  | send message next ih =>
    rw [runCapped_swallowed replaceable]
    exact ih exchange position replaceable

theorem runCapped_started (app : App E) (exchange : Exchange) (position : Nat)
    (started : exchange.started = true) :
    (app.runCapped limit inbound exchange position).2.replaceable = false := by
  have kept : ∀ exchange : Exchange, exchange.started = true → exchange.replaceable = false := by
    intro exchange started
    rw [Exchange.replaceable, started]
    exact Bool.and_false _
  induction app generalizing exchange position with
  | ret => exact kept exchange started
  | raise error => exact kept exchange started
  | receive next ih =>
    cases exceeds : (inbound position).exceeds limit exchange.received with
    | true =>
      rw [runCapped_exceeds exceeds]
      exact ih _ _ _ started
    | false =>
      rw [runCapped_fits exceeds]
      exact ih _ _ _ started
  | send message next ih =>
    rw [runCapped_passed (kept exchange started)]
    refine ih _ _ ?_
    simp only [started, Bool.true_or]

/-- The exchange ends replaceable exactly when the limit is exceeded before a start, with
what was sent until then. -/
theorem runCapped_beforeOverflow (app : App E) (received position : Nat) :
    match app.beforeOverflow limit inbound received position with
    | some before =>
      (app.runCapped limit inbound ⟨received, false, false⟩ position).1.sent = before ∧
        (app.runCapped limit inbound ⟨received, false, false⟩ position).2.replaceable = true
    | none =>
      (app.runCapped limit inbound ⟨received, false, false⟩ position).2.replaceable = false := by
  induction app generalizing received position with
  | ret => rfl
  | raise error => rfl
  | receive next ih =>
    rw [App.beforeOverflow]
    cases exceeds : (inbound position).exceeds limit received with
    | true =>
      rw [if_pos rfl, runCapped_exceeds exceeds]
      exact runCapped_replaceable _ _ _ rfl
    | false =>
      rw [if_neg Bool.false_ne_true, runCapped_fits exceeds]
      exact ih _ _ _
  | send message next ih =>
    rw [App.beforeOverflow, runCapped_passed rfl]
    cases starts : message.isStart with
    | true =>
      rw [if_pos rfl]
      exact runCapped_started _ _ _ rfl
    | false =>
      rw [if_neg Bool.false_ne_true]
      have rest := ih received position
      cases found : next.beforeOverflow limit inbound received position with
      | none =>
        rw [found] at rest
        exact rest
      | some before =>
        rw [found] at rest
        exact ⟨congrArg (message :: ·) rest.1, rest.2⟩

theorem bodyUpTo_succ (count : Nat) :
    bodyUpTo inbound (count + 1) = bodyUpTo inbound count + (inbound count).bytes := by
  simp [bodyUpTo, totalBytes, List.range_succ]

theorem runCapped_within (within : ∀ count, bodyUpTo inbound count ≤ limit) (app : App E)
    (position : Nat) (started : Bool) :
    (app.runCapped limit inbound ⟨bodyUpTo inbound position, false, started⟩ position).1 =
        app.run inbound position ∧
      (app.runCapped limit inbound ⟨bodyUpTo inbound position, false, started⟩
        position).2.replaceable = false := by
  induction app generalizing position started with
  | ret => exact ⟨rfl, rfl⟩
  | raise error => exact ⟨rfl, rfl⟩
  | receive next ih =>
    have fits : (inbound position).exceeds limit (bodyUpTo inbound position) = false := by
      rw [Bool.eq_false_iff]
      intro exceeds
      have bound := exceeds_bound exceeds
      have next := within (position + 1)
      rw [bodyUpTo_succ] at next
      omega
    have rest := ih (.ok (inbound position)) (position + 1) started
    rw [bodyUpTo_succ] at rest
    rw [runCapped_fits fits, App.run]
    exact ⟨congrArg (Trace.afterReceiving (inbound position)) rest.1, rest.2⟩
  | send message next ih =>
    have rest := ih position (started || message.isStart)
    rw [runCapped_passed rfl, App.run]
    exact ⟨congrArg (Trace.afterSending message) rest.1, rest.2⟩

theorem beforeOverflow_conforms {app : App E} (conforms : app.Conforms) {received position : Nat}
    {before : List Outbound}
    (found : app.beforeOverflow limit inbound received position = some before) :
    before.filter Outbound.isResponse = [] := by
  induction app generalizing received position before with
  | ret => nomatch found
  | raise error => nomatch found
  | receive next ih =>
    rw [App.beforeOverflow] at found
    split at found
    · rw [← Option.some.inj found]
      rfl
    · exact ih _ (conforms _) found
  | send message next ih =>
    cases message with
    | start status headers => nomatch found
    | body chunk moreBody => exact conforms.elim
    | other type =>
      obtain ⟨rest, later, rfl⟩ := Option.map_eq_some_iff.mp found
      rw [List.filter_cons_of_neg Bool.false_ne_true]
      exact ih conforms later

end Runs

/-! ## The declared length -/

theorem ascii_digit_range {c : Char} (ascii : isAsciiChar c = true)
    (digit : isDigitChar c = true) : 48 ≤ c.toNat ∧ c.toNat ≤ 57 := by
  have decimals : ∀ start ∈ decimalZeros, start = 48 ∨ 128 ≤ start := by decide +kernel
  have others : ∀ range ∈ digitOnlyRanges, 128 ≤ range.1 := by decide +kernel
  have small : c.toNat < 128 := of_decide_eq_true ascii
  rw [isDigitChar, Bool.or_eq_true, decimalValue, Option.isSome_map, List.find?_isSome,
    List.any_eq_true] at digit
  rcases digit with ⟨start, listed, within⟩ | ⟨range, listed, within⟩
  · have known := decimals start listed
    simp only [Bool.and_eq_true, decide_eq_true_eq] at within
    omega
  · have known := others range listed
    simp only [Bool.and_eq_true, decide_eq_true_eq] at within
    omega

theorem decimalValue_of_range {c : Char} (range : 48 ≤ c.toNat ∧ c.toNat ≤ 57) :
    (decimalValue c).isSome = true := by
  rw [decimalValue, Option.isSome_map, List.find?_isSome]
  exact ⟨48, by decide, by simpa using range⟩

/-- `int()` reads an ASCII text of digits unless it is too long. -/
theorem int_ascii_digits {text : String} (ascii : isascii text = true)
    (digits : isdigit text = true) :
    Python.int text =
      if text.toList.length ≤ maxStrDigits then
        some (ofDigitList 10 (text.toList.map fun c => (decimalValue c).getD 0) : Int)
      else none := by
  rw [isdigit, Bool.and_eq_true, Bool.not_eq_true', List.all_eq_true] at digits
  have nonempty : text.toList ≠ [] := by
    intro empty
    rw [empty] at digits
    exact absurd digits.1 (by decide)
  have ranges : ∀ c ∈ text.toList, 48 ≤ c.toNat ∧ c.toNat ≤ 57 := fun c member =>
    ascii_digit_range (List.all_eq_true.mp ascii c member) (digits.2 c member)
  have kept : stripWhere isIntSpaceChar text.toList = text.toList :=
    stripWhere_eq_self fun c member => not_isIntSpaceChar_of_isDigitChar (digits.2 c member)
  unfold Python.int
  rw [kept, splitSign_of_digits ranges]
  simp only
  rw [scanDigits_digits nonempty digits.2,
    if_pos fun c member => decimalValue_of_range (ranges c member)]
  simp only [List.length_map, Bool.false_eq_true, if_false]

/-- A header that `int()` reads, or that declares more than the limit. -/
def Readable (limit : Nat) (contentLength : Option String) : Prop :=
  ∀ text length, contentLength = some text → declaredLength contentLength = some length →
    length ≤ limit → text.toList.length ≤ maxStrDigits

theorem declaredLength_some {declared : String} (digits : isdigit declared = true) :
    declaredLength (some declared) =
      some (ofDigitList 10 (declared.toList.map fun c => (decimalValue c).getD 0)) :=
  if_pos digits

section Declared

variable {limit : Nat} {contentLength : Option String}

theorem declaredOver_within (ascii : ∀ text, contentLength = some text → isascii text = true)
    (readable : Readable limit contentLength)
    (within : ∀ length, declaredLength contentLength = some length → length ≤ limit) :
    declaredOver limit contentLength = (.ok false : Except (Failure E) Bool) := by
  cases contentLength with
  | none => rfl
  | some declared =>
    rw [declaredOver]
    by_cases digits : isdigit declared = true
    · have known := declaredLength_some digits
      have small := within _ known
      rw [if_pos digits, int_ascii_digits (ascii declared rfl) digits,
        if_pos (readable declared _ rfl known small)]
      simp only [Except.ok.injEq, decide_eq_false_iff_not]
      omega
    · rw [if_neg digits]

theorem declaredOver_beyond (ascii : ∀ text, contentLength = some text → isascii text = true)
    {length : Nat} (known : declaredLength contentLength = some length) (beyond : limit < length) :
    declaredOver limit contentLength = (.ok true : Except (Failure E) Bool) ∨
      declaredOver limit contentLength = (.error .valueError : Except (Failure E) Bool) := by
  cases contentLength with
  | none => nomatch known
  | some declared =>
    by_cases digits : isdigit declared = true
    · rw [declaredLength_some digits] at known
      rw [declaredOver, if_pos digits, int_ascii_digits (ascii declared rfl) digits,
        Option.some.inj known]
      by_cases short : declared.toList.length ≤ maxStrDigits
      · left
        rw [if_pos short]
        simp only [Except.ok.injEq, decide_eq_true_eq]
        omega
      · right
        rw [if_neg short]
    · rw [declaredLength, if_neg digits] at known
      nomatch known

/-- A header of digits within the limit that is too long for `int()`. -/
theorem declaredOver_unreadable
    (ascii : ∀ text, contentLength = some text → isascii text = true) {text : String}
    {length : Nat} (header : contentLength = some text)
    (known : declaredLength contentLength = some length)
    (long : ¬text.toList.length ≤ maxStrDigits) :
    declaredOver limit contentLength = (.error .valueError : Except (Failure E) Bool) := by
  subst header
  by_cases digits : isdigit text = true
  · rw [declaredOver, if_pos digits, int_ascii_digits (ascii text rfl) digits, if_neg long]
  · rw [declaredLength, if_neg digits] at known
    nomatch known

end Declared

/-! ## The middleware on every exchange -/

/-- The guarantees of one call. -/
structure Guarded (render : Option String → List (String × String) × List UInt8)
    (middleware : Middleware) (scope : Scope) (app : App E) (inbound : Nat → Inbound) : Prop where
  bounded : totalBytes (middleware.call render scope app inbound).trace.delivered ≤
    middleware.limit scope
  refused : ∀ length, declaredLength scope.contentLength = some length →
    middleware.limit scope < length → (middleware.call render scope app inbound).ran = false
  replaced : (∀ length, declaredLength scope.contentLength = some length →
      length ≤ middleware.limit scope) →
    ∀ before, app.beforeOverflow (middleware.limit scope) inbound 0 0 = some before →
      (middleware.call render scope app inbound).trace.sent = before ++ reject render scope ∧
        (middleware.call render scope app inbound).trace.outcome.isOk = true ∧
        (app.Conforms →
          (middleware.call render scope app inbound).trace.sent.filter Outbound.isResponse =
            reject render scope)
  identical : (∀ length, declaredLength scope.contentLength = some length →
      length ≤ middleware.limit scope) →
    (∀ count, bodyUpTo inbound count ≤ middleware.limit scope) →
      middleware.call render scope app inbound = ⟨true, app.run inbound 0⟩

section Guarantees

variable {render : Option String → List (String × String) × List UInt8} {middleware : Middleware}
  {scope : Scope} {app : App E} {inbound : Nat → Inbound}

theorem call_of_error {error : Failure E} (http : scope.http = true)
    (answer : declaredOver (middleware.limit scope) scope.contentLength = .error error) :
    middleware.call render scope app inbound = ⟨false, ⟨[], [], .error error⟩⟩ := by
  rw [Middleware.call, if_pos http, answer]

theorem call_of_over (http : scope.http = true)
    (answer : declaredOver (middleware.limit scope) scope.contentLength =
      (.ok true : Except (Failure E) Bool)) :
    middleware.call render scope app inbound =
      ⟨false, ⟨[], reject render scope, .ok ()⟩⟩ := by
  rw [Middleware.call, if_pos http, answer]

theorem call_of_within (http : scope.http = true)
    (answer : declaredOver (middleware.limit scope) scope.contentLength =
      (.ok false : Except (Failure E) Bool)) :
    middleware.call render scope app inbound =
      if (app.runCapped (middleware.limit scope) inbound .new 0).2.replaceable then
        ⟨true, ⟨(app.runCapped (middleware.limit scope) inbound .new 0).1.delivered,
          (app.runCapped (middleware.limit scope) inbound .new 0).1.sent ++ reject render scope,
          .ok ()⟩⟩
      else ⟨true, (app.runCapped (middleware.limit scope) inbound .new 0).1⟩ := by
  rw [Middleware.call, if_pos http, answer]

theorem call_bytes (http : scope.http = true) :
    totalBytes (middleware.call render scope app inbound).trace.delivered ≤
      middleware.limit scope := by
  cases answer : (declaredOver (middleware.limit scope) scope.contentLength :
      Except (Failure E) Bool) with
  | error error =>
    rw [call_of_error http answer]
    exact Nat.zero_le _
  | ok exceeds =>
    cases exceeds with
    | true =>
      rw [call_of_over http answer]
      exact Nat.zero_le _
    | false =>
      have bytes : totalBytes
          (app.runCapped (middleware.limit scope) inbound .new 0).1.delivered ≤
            middleware.limit scope := runCapped_bytes app .new 0
      rw [call_of_within http answer]
      split
      · exact bytes
      · exact bytes

variable (render) in
theorem call_replaced (http : scope.http = true)
    (answer : declaredOver (middleware.limit scope) scope.contentLength =
      (.ok false : Except (Failure E) Bool)) {before : List Outbound}
    (found : app.beforeOverflow (middleware.limit scope) inbound 0 0 = some before) :
    (middleware.call render scope app inbound).trace.sent = before ++ reject render scope ∧
      (middleware.call render scope app inbound).trace.outcome.isOk = true := by
  obtain ⟨sent, replaceable⟩ :
      (app.runCapped (middleware.limit scope) inbound ⟨0, false, false⟩ 0).1.sent = before ∧
        (app.runCapped (middleware.limit scope) inbound ⟨0, false, false⟩ 0).2.replaceable =
          true := by
    have capped := @runCapped_beforeOverflow E (middleware.limit scope) inbound app 0 0
    rw [found] at capped
    exact capped
  rw [call_of_within http answer, Exchange.new, if_pos replaceable, sent]
  exact ⟨rfl, rfl⟩

theorem reject_isResponse :
    (reject render scope).filter Outbound.isResponse = reject render scope := rfl

end Guarantees

/-- The middleware guards every exchange of the request exactly when the Content-Length
header can be read or declares too much. -/
theorem middleware_guards_iff
    (render : Option String → List (String × String) × List UInt8) (middleware : Middleware)
    (scope : Scope) (http : scope.http = true)
    (ascii : ∀ text, scope.contentLength = some text → isascii text = true) :
    (∀ (app : App E) (inbound : Nat → Inbound), Guarded render middleware scope app inbound) ↔
      Readable (middleware.limit scope) scope.contentLength := by
  constructor
  · intro guarded text length header known within
    by_contra long
    have same := (guarded .ret fun _ => .disconnect).identical
      (fun other found => by
        rw [known] at found
        rw [← Option.some.inj found]
        exact within)
      (fun count => by simp [bodyUpTo, totalBytes, Inbound.bytes])
    rw [call_of_error http (declaredOver_unreadable ascii header known long)] at same
    nomatch congrArg Handled.ran same
  · intro readable app inbound
    refine ⟨call_bytes http, ?_, ?_, ?_⟩
    · intro length known beyond
      rcases declaredOver_beyond (E := E) ascii known beyond with answer | answer
      · rw [call_of_over http answer]
      · rw [call_of_error http answer]
    · intro within before found
      have answer := declaredOver_within (E := E) ascii readable within
      obtain ⟨sent, ended⟩ := call_replaced render http answer found
      refine ⟨sent, ended, ?_⟩
      intro conforms
      rw [sent, List.filter_append, beforeOverflow_conforms conforms found, List.nil_append,
        reject_isResponse]
    · intro within body
      have answer := declaredOver_within (E := E) ascii readable within
      have same := runCapped_within body app 0 false
      rw [call_of_within http answer]
      exact (if_neg (by rw [Exchange.new]; exact Bool.eq_false_iff.mp same.2)).trans
        (congrArg (Handled.mk true) same.1)

namespace Sample

def render (_ : Option String) : List (String × String) × List UInt8 :=
  ([("content-type", "application/problem+json")], [])

def cap : Middleware := ⟨1024, [("/uploads", 4)]⟩

/-- A Content-Length of zero, written with more digits than `int()` converts. -/
def zeros : List Char := List.replicate 4301 '0'

def padded : Scope := ⟨true, "/uploads", some (String.ofList zeros), none⟩

def silent (_ : Nat) : Inbound := .disconnect

theorem zeros_isdigit : isdigit (String.ofList zeros) = true := by
  rw [isdigit, String.toList_ofList]
  decide +kernel

theorem zeros_isascii : isascii (String.ofList zeros) = true := by
  rw [isascii, String.toList_ofList]
  decide +kernel

theorem zeros_declared : declaredLength (some (String.ofList zeros)) = some 0 := by
  rw [declaredLength_some zeros_isdigit, String.toList_ofList]
  decide +kernel

/-- An empty body whose length is declared as zero ends in a `ValueError`. -/
theorem padded_zero_length_fails :
    isascii (String.ofList zeros) = true ∧
      declaredLength padded.contentLength = some 0 ∧
      (∀ count, bodyUpTo silent count = 0) ∧
      cap.call render padded (.ret : App Empty) silent =
        ⟨false, ⟨[], [], .error .valueError⟩⟩ ∧
      (App.ret : App Empty).run silent 0 = ⟨[], [], .ok ()⟩ := by
  have ascii : ∀ text, padded.contentLength = some text → isascii text = true := by
    intro text header
    rw [← Option.some.inj header]
    exact zeros_isascii
  have long : ¬(String.ofList zeros).toList.length ≤ maxStrDigits := by
    rw [String.toList_ofList]
    decide +kernel
  refine ⟨zeros_isascii, zeros_declared, ?_, ?_, rfl⟩
  · intro count
    induction count with
    | zero => rfl
    | succ count ih => rw [bodyUpTo_succ, ih, silent, Inbound.bytes]
  · exact call_of_error rfl (declaredOver_unreadable ascii rfl zeros_declared long)

/-- An upload that understates its body. -/
def understated : Scope := ⟨true, "/uploads", some "3", none⟩

def chunks : Nat → Inbound
  | 0 => .request (some [1, 2, 3]) true
  | 1 => .request (some [4, 5]) false
  | _ => .disconnect

/-- Reads twice, swallows the error and answers all the same. -/
def stubborn : App Empty :=
  .receive fun _ => .receive fun _ => .send (.start 200 []) (.send (.body [79, 75] false) .ret)

theorem understated_upload_guarded :
    (cap.call render understated stubborn chunks).trace.sent = reject render understated := by
  have guarded := (middleware_guards_iff render cap understated rfl (by
    intro text header
    rw [← Option.some.inj header]
    decide +kernel)).mpr (by
      intro text length header known within
      rw [← Option.some.inj header]
      decide +kernel) stubborn chunks
  have within : ∀ length, declaredLength understated.contentLength = some length →
      length ≤ cap.limit understated := by
    intro length known
    rw [show declaredLength understated.contentLength = some 3 by decide +kernel] at known
    rw [← Option.some.inj known]
    decide +kernel
  exact (guarded.replaced within [] rfl).1

end Sample

end BackendCore.BodyLimit
