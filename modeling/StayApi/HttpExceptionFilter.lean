import StayApi.ApiError
import StayApi.Json

/-!
# The exception filter

`http-exception.filter.ts`, the last handler of what a request throws: it logs
the value, reading properties of it, and then responds.
-/

namespace StayApi

namespace HttpExceptionFilter

/-- A value that is looked at only through `JSON.stringify`, which may throw or give `undefined`. -/
structure JsValue where
  stringify : Except JsError (Option String)

def returns {α : Type} (x : Except JsError α) (p : α → Bool) : Bool :=
  match x with
  | .ok a => p a
  | .error _ => false

def JsValue.hasText (v : JsValue) : Bool := returns v.stringify fun _ => true

/-- An exception of a class below `HttpException`: whether the class is `NotFoundException`, and its status. -/
structure HttpException where
  notFound : Bool
  getStatus : Nat

/-- A thrown value with what its properties read as. Of `error_code` only the codes of the program are told apart;
any other value is `none`. -/
inductive Exception where
  | null
  | undefined
  | primitive
  | apiError (error : ApiError) (stack responseData : JsValue)
  | object (http : Option HttpException) (error_code : Except JsError (Option ErrorCode))
      (stack responseData : Except JsError JsValue)

namespace Exception

def typeError (value key : String) : JsError :=
  ⟨"Cannot read properties of " ++ value ++ " (reading '" ++ key ++ "')"⟩

def error_code : Exception → Except JsError (Option ErrorCode)
  | null => .error (typeError "null" "error_code")
  | undefined => .error (typeError "undefined" "error_code")
  | primitive => .ok none
  | apiError error _ _ => .ok (some error.error_code)
  | object _ error_code _ _ => error_code

def stack : Exception → Except JsError JsValue
  | null => .error (typeError "null" "stack")
  | undefined => .error (typeError "undefined" "stack")
  | primitive => .ok ⟨.ok none⟩
  | apiError _ stack _ => .ok stack
  | object _ _ stack _ => stack

def responseData : Exception → Except JsError JsValue
  | null => .error (typeError "null" "responseData")
  | undefined => .error (typeError "undefined" "responseData")
  | primitive => .ok ⟨.ok none⟩
  | apiError _ _ responseData => .ok responseData
  | object _ _ _ responseData => responseData

end Exception

structure Request where
  method : String
  body : JsValue
  params : JsValue
  query : JsValue

structure ReqObj where
  method : String
  body : Option String
  params : Option String
  query : Option String

inductive LogMessage where
  | code (errorCode : ErrorCode)
  | request (errorCode : ErrorCode) (reqObj : ReqObj)
  | response (errorCode : ErrorCode) (responseData : Option String)
  | exception (exception : Exception)

def LogMessage.isText : LogMessage → Bool
  | exception _ => false
  | _ => true

/-- What becomes of `logger.error` given a message and, in some calls, a stack. The logger of the framework calls a
message that is a function and inspects one that is an object, and both may throw. -/
abbrev Logger : Type := LogMessage → Option JsValue → Except JsError Unit

/-- A text given alone is only written out. -/
def PrintsTexts (logger : Logger) : Prop := ∀ message, message.isText = true → logger message none = .ok ()

structure ErrorBody where
  errorCode : String
  details : Option (OrdMap String String) := none
  message : Option String := none

structure Handling where
  logs : List (LogMessage × Option JsValue) := []
  sent : List (Nat × ErrorBody) := []

abbrev Filter (α : Type) : Type := ExceptT JsError (StateM Handling) α

def logError (logger : Logger) (message : LogMessage) (stack : Option JsValue) : Filter Unit := do
  liftExcept (logger message stack)
  modify fun h => { h with logs := h.logs ++ [(message, stack)] }

def respond (status : Nat) (body : ErrorBody) : Filter Unit :=
  modify fun h => { h with sent := h.sent ++ [(status, body)] }

/-- `c ? JSON.stringify(v) : undefined`. -/
def stringifyIf (c : Prop) [Decidable c] (v : JsValue) : Filter (Option String) :=
  if c then liftExcept v.stringify else pure none

section
variable (logger : Logger)

def logResponseData (errorCode : ErrorCode) (exception : Exception) : Filter Unit := do
  let responseData ← liftExcept exception.responseData
  logError logger (.response errorCode (← liftExcept responseData.stringify)) none

def exceptionLogger (exception : Exception) (request : Request) : Filter Unit := do
  let errorCode ← liftExcept exception.error_code
  match errorCode with
  | some .INVALID_ARGUMENT_ERROR =>
    let body ← stringifyIf (request.method = "POST") request.body
    let params ← stringifyIf (request.method = "GET") request.params
    let query ← stringifyIf (request.method = "GET") request.query
    logError logger (.request .INVALID_ARGUMENT_ERROR ⟨request.method, body, params, query⟩) none
  | some .BAD_REQUEST_ERROR => logError logger (.code .BAD_REQUEST_ERROR) (some (← liftExcept exception.stack))
  | some .INTERNAL_SERVER_ERROR => logError logger (.code .INTERNAL_SERVER_ERROR) (some (← liftExcept exception.stack))
  | some .UNAUTHORIZED => logError logger (.code .UNAUTHORIZED) none
  | some .SEND_BIRD_API_ERROR => logResponseData logger .SEND_BIRD_API_ERROR exception
  | some .SEND_BIRD_UNKNOWN_ERROR => logResponseData logger .SEND_BIRD_UNKNOWN_ERROR exception
  | _ => logError logger (.exception exception) (some (← liftExcept exception.stack))

/-- `catch`, for a request that has not been answered yet. -/
def catchException (exception : Exception) (request : Request) : Filter Unit := do
  exceptionLogger logger exception request
  match exception with
  | .apiError error _ _ => respond error.status ⟨error.error_code.text, error.details, error.message⟩
  | .object (some ⟨true, _⟩) _ _ _ => respond HttpStatus.NOT_FOUND { errorCode := "NOT_FOUND_ERROR" }
  | _ => respond HttpStatus.INTERNAL_SERVER_ERROR { errorCode := "INTERNAL_SERVER_ERROR" }

end

/-! ## What the logger reads -/

def prints (logger : Logger) (message : LogMessage) (stack : Option JsValue) : Bool :=
  returns (logger message stack) fun _ => true

/-- None of what is read of the value and of the request throws, nor does the logger, given more than a text. -/
def readable (logger : Logger) (exception : Exception) (request : Request) : Bool :=
  returns exception.error_code fun
    | some .INVALID_ARGUMENT_ERROR =>
      (request.method ≠ "POST" ∨ request.body.hasText) ∧ (request.method ≠ "GET" ∨ request.params.hasText) ∧
        (request.method ≠ "GET" ∨ request.query.hasText)
    | some .UNAUTHORIZED => true
    | some .SEND_BIRD_API_ERROR => returns exception.responseData JsValue.hasText
    | some .SEND_BIRD_UNKNOWN_ERROR => returns exception.responseData JsValue.hasText
    | some .BAD_REQUEST_ERROR => returns exception.stack fun stack => prints logger (.code .BAD_REQUEST_ERROR) (some stack)
    | some .INTERNAL_SERVER_ERROR =>
      returns exception.stack fun stack => prints logger (.code .INTERNAL_SERVER_ERROR) (some stack)
    | _ => returns exception.stack fun stack => prints logger (.exception exception) (some stack)

/-- `x` returns with one more entry logged if `ok`, and throws with nothing done otherwise. -/
def Logs (x : Filter Unit) (ok : Bool) : Prop :=
  ∀ h, if ok then ∃ entry, x.run h = (.ok (), { h with logs := h.logs ++ [entry] }) else ∃ error, x.run h = (.error error, h)

section
variable {α : Type} {logger : Logger} {exception : Exception} {request : Request}

theorem logs_read {x : Except JsError α} {f : α → Filter Unit} {p : α → Bool} (hf : ∀ a, Logs (f a) (p a)) :
    Logs (liftExcept x >>= f) (returns x p) := by
  intro h
  cases x with
  | ok a => exact hf a h
  | error error => exact ⟨error, rfl⟩

theorem logs_logError (message : LogMessage) (stack : Option JsValue) :
    Logs (logError logger message stack) (prints logger message stack) :=
  logs_read fun _ _ => ⟨(message, stack), rfl⟩

theorem logs_text (hl : PrintsTexts logger) {message : LogMessage} (hm : message.isText = true) :
    Logs (logError logger message none) true := by
  have hlog : Logs (logError logger message none) (prints logger message none) := logs_logError message none
  rw [prints, hl message hm] at hlog
  exact hlog

theorem logs_stringifyIf {c : Prop} [Decidable c] {v : JsValue} {f : Option String → Filter Unit} {ok : Bool}
    (hf : ∀ text, Logs (f text) ok) : Logs (stringifyIf c v >>= f) ((¬ c ∨ v.hasText) ∧ ok) := by
  unfold stringifyIf
  by_cases hc : c
  · have hread : Logs (liftExcept v.stringify >>= f) (returns v.stringify fun _ => ok) := logs_read hf
    have hok : decide ((¬ c ∨ v.hasText = true) ∧ ok = true) = returns v.stringify fun _ => ok := by
      cases hv : v.stringify <;> simp [JsValue.hasText, returns, hv, hc]
    rw [if_pos hc, hok]
    exact hread
  · have hok : decide ((¬ c ∨ v.hasText = true) ∧ ok = true) = ok := by simp [hc]
    rw [if_neg hc, hok]
    exact hf none

theorem logs_responseData (hl : PrintsTexts logger) (errorCode : ErrorCode) :
    Logs (logResponseData logger errorCode exception) (returns exception.responseData JsValue.hasText) :=
  logs_read fun _ => logs_read fun _ => logs_text hl rfl

theorem logs_stack (message : LogMessage) : Logs (do logError logger message (some (← liftExcept exception.stack)))
    (returns exception.stack fun stack => prints logger message (some stack)) :=
  logs_read fun _ => logs_logError _ _

theorem logs_exceptionLogger (hl : PrintsTexts logger) (exception : Exception) (request : Request) :
    Logs (exceptionLogger logger exception request) (readable logger exception request) := by
  apply logs_read
  intro errorCode
  cases errorCode with
  | none => exact logs_stack _
  | some code =>
    cases code with
    | INVALID_ARGUMENT_ERROR =>
      have htext (r : ReqObj) : Logs (logError logger (.request .INVALID_ARGUMENT_ERROR r) none) true := logs_text hl rfl
      have hrequest := logs_stringifyIf (c := request.method = "POST") (v := request.body) fun body =>
        logs_stringifyIf (c := request.method = "GET") (v := request.params) fun params =>
          logs_stringifyIf (c := request.method = "GET") (v := request.query) fun query =>
            htext ⟨request.method, body, params, query⟩
      simpa using hrequest
    | UNAUTHORIZED => exact logs_text hl rfl
    | SEND_BIRD_API_ERROR => exact logs_responseData hl _
    | SEND_BIRD_UNKNOWN_ERROR => exact logs_responseData hl _
    | BAD_REQUEST_ERROR => exact logs_stack _
    | INTERNAL_SERVER_ERROR => exact logs_stack _
    | ORDER_BAD_REQUEST_ERROR => exact logs_stack _
    | ORDER_STATUS_FORBIDDEN_ERROR => exact logs_stack _
    | TRADING_API_ERROR => exact logs_stack _
    | FORBIDDEN => exact logs_stack _

end

/-- The status of an HTTP exception, and 500 of any other value. -/
def ownStatus : Exception → Nat
  | .apiError error _ _ => error.status
  | .object (some http) _ _ _ => http.getStatus
  | _ => HttpStatus.INTERNAL_SERVER_ERROR

/-- `catch` returns, and has sent one response, with the value's own status. -/
def Answered (logger : Logger) (exception : Exception) (request : Request) : Prop :=
  ∃ h body, (catchException logger exception request).run {} = (.ok (), h) ∧ h.sent = [(ownStatus exception, body)]

/-- An HTTP exception that is no `ApiError` has the status that the filter gives to its class. -/
def hasFilterStatus : Exception → Bool
  | .object (some http) _ _ _ =>
    http.getStatus = if http.notFound then HttpStatus.NOT_FOUND else HttpStatus.INTERNAL_SERVER_ERROR
  | _ => true

def filterStatus : Exception → Nat
  | .apiError error _ _ => error.status
  | .object (some ⟨true, _⟩) _ _ _ => HttpStatus.NOT_FOUND
  | _ => HttpStatus.INTERNAL_SERVER_ERROR

section
variable {logger : Logger} {exception : Exception} {request : Request}

theorem run_bind_ok {α β : Type} {x : Filter α} {f : α → Filter β} {h h' : Handling} {a : α}
    (hx : x.run h = (.ok a, h')) : (x >>= f).run h = (f a).run h' := by
  rw [ExceptT.run_bind]
  simp only [bind, StateT.bind, hx]

theorem run_bind_error {α β : Type} {x : Filter α} {f : α → Filter β} {h h' : Handling} {error : JsError}
    (hx : x.run h = (.error error, h')) : (x >>= f).run h = (.error error, h') := by
  rw [ExceptT.run_bind]
  simp only [bind, StateT.bind, hx]
  rfl

theorem catch_readable (hl : PrintsTexts logger) (hr : readable logger exception request = true) :
    ∃ logs body, (catchException logger exception request).run {} =
      (.ok (), ⟨logs, [(filterStatus exception, body)]⟩) := by
  have hlog := logs_exceptionLogger hl exception request {}
  rw [if_pos hr] at hlog
  obtain ⟨entry, hlog⟩ := hlog
  unfold catchException
  rw [run_bind_ok hlog]
  refine ⟨[entry], ?_⟩
  cases exception with
  | null => exact ⟨_, rfl⟩
  | undefined => exact ⟨_, rfl⟩
  | primitive => exact ⟨_, rfl⟩
  | apiError error stack responseData => exact ⟨_, rfl⟩
  | object http error_code stack responseData =>
    rcases http with _ | ⟨notFound, status⟩
    · exact ⟨_, rfl⟩
    · cases notFound with
      | true => exact ⟨_, rfl⟩
      | false => exact ⟨_, rfl⟩

theorem catch_unreadable (hl : PrintsTexts logger) (hr : readable logger exception request = false) :
    ∃ error, (catchException logger exception request).run {} = (.error error, {}) := by
  have hlog := logs_exceptionLogger hl exception request {}
  rw [if_neg (by simp [hr])] at hlog
  obtain ⟨error, hlog⟩ := hlog
  exact ⟨error, run_bind_error hlog⟩

theorem ownStatus_eq : ownStatus exception = filterStatus exception ↔ hasFilterStatus exception = true := by
  cases exception with
  | null => simp [ownStatus, filterStatus, hasFilterStatus]
  | undefined => simp [ownStatus, filterStatus, hasFilterStatus]
  | primitive => simp [ownStatus, filterStatus, hasFilterStatus]
  | apiError error stack responseData => simp [ownStatus, filterStatus, hasFilterStatus]
  | object http error_code stack responseData =>
    rcases http with _ | ⟨notFound, status⟩
    · simp [ownStatus, filterStatus, hasFilterStatus]
    · cases notFound <;> simp [ownStatus, filterStatus, hasFilterStatus]

end

/-- **When a failure is answered with its own status.** Exactly if the value can be logged, and an HTTP exception
that is no `ApiError` has the status that the filter gives to its class. -/
theorem answered_iff (logger : Logger) (hl : PrintsTexts logger) (exception : Exception) (request : Request) :
    Answered logger exception request ↔ readable logger exception request = true ∧ hasFilterStatus exception = true := by
  rw [← ownStatus_eq]
  constructor
  · rintro ⟨h, body, hrun, hsent⟩
    by_cases hr : readable logger exception request = true
    · obtain ⟨logs, body', hrun'⟩ := catch_readable hl hr
      rw [hrun'] at hrun
      obtain rfl := (Prod.mk.inj hrun).2
      exact ⟨hr, (Prod.mk.inj (List.cons.inj hsent).1).1.symm⟩
    · obtain ⟨error, hrun'⟩ := catch_unreadable hl (by simpa using hr)
      rw [hrun'] at hrun
      cases hrun
  · intro ⟨hr, hs⟩
    obtain ⟨logs, body, hrun⟩ := catch_readable hl hr
    exact ⟨⟨logs, [(filterStatus exception, body)]⟩, body, hrun, by rw [hs]⟩

def getRequest : Request := ⟨"GET", ⟨.ok none⟩, ⟨.ok (some "{}")⟩, ⟨.ok (some "{}")⟩⟩

/-- What the body parser throws on malformed JSON. -/
def badRequest : Exception :=
  .object (some ⟨false, HttpStatus.BAD_REQUEST⟩) (.ok none) (.ok ⟨.ok (some "BadRequestException: Bad Request")⟩) (.ok ⟨.ok none⟩)

/-- A thrown function. -/
def thrownFunction : Exception := .object none (.ok none) (.ok ⟨.ok none⟩) (.ok ⟨.ok none⟩)

/-- A logger that takes an object of no error class and without a stack for a function, calls it, and is thrown at. -/
def callingLogger : Logger
  | .exception (.object none _ (.ok ⟨.ok none⟩) _), _ => .error ⟨"called"⟩
  | _, _ => .ok ()

theorem callingLogger_prints : PrintsTexts callingLogger := by
  intro message hm
  cases message with
  | exception exception => cases hm
  | _ => rfl

theorem answered_iff_notFound :
    Answered callingLogger (.object (some ⟨true, 404⟩) (.ok none) (.ok ⟨.ok none⟩) (.ok ⟨.ok none⟩)) getRequest :=
  (answered_iff callingLogger callingLogger_prints _ getRequest).mpr (by decide)

/-- A thrown null and a function that throws go unanswered, and a bad request is answered as a server error. -/
theorem failure_misreported :
    (¬ Answered callingLogger .null getRequest ∧
      ((catchException callingLogger .null getRequest).run {}).2.sent = []) ∧
    (¬ Answered callingLogger thrownFunction getRequest ∧
      ((catchException callingLogger thrownFunction getRequest).run {}).2.sent = []) ∧
    ¬ Answered callingLogger badRequest getRequest ∧
      ((catchException callingLogger badRequest getRequest).run {}).2.sent =
        [(500, { errorCode := "INTERNAL_SERVER_ERROR" })] := by
  refine ⟨⟨?_, rfl⟩, ⟨?_, rfl⟩, ?_, rfl⟩
  · rintro ⟨h, body, hrun, -⟩
    cases hrun
  · rintro ⟨h, body, hrun, -⟩
    cases hrun
  · rintro ⟨h, body, hrun, hsent⟩
    cases hrun
    cases hsent

end HttpExceptionFilter

end StayApi
