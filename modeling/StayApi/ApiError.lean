import StayApi.OrdMap

/-!
# API errors

`error.ts`.
-/

namespace StayApi

namespace HttpStatus

def BAD_REQUEST : Nat := 400
def UNAUTHORIZED : Nat := 401
def FORBIDDEN : Nat := 403
def NOT_FOUND : Nat := 404
def INTERNAL_SERVER_ERROR : Nat := 500
def SERVICE_UNAVAILABLE : Nat := 503

end HttpStatus

inductive ErrorCode where
  | BAD_REQUEST_ERROR
  | INVALID_ARGUMENT_ERROR
  | INTERNAL_SERVER_ERROR
  | UNAUTHORIZED
  | ORDER_BAD_REQUEST_ERROR
  | SEND_BIRD_API_ERROR
  | SEND_BIRD_UNKNOWN_ERROR
  | ORDER_STATUS_FORBIDDEN_ERROR
  | TRADING_API_ERROR
  | FORBIDDEN
  deriving DecidableEq

def ErrorCode.text : ErrorCode → String
  | BAD_REQUEST_ERROR => "BAD_REQUEST_ERROR"
  | INVALID_ARGUMENT_ERROR => "INVALID_ARGUMENT_ERROR"
  | INTERNAL_SERVER_ERROR => "INTERNAL_SERVER_ERROR"
  | UNAUTHORIZED => "UNAUTHORIZED"
  | ORDER_BAD_REQUEST_ERROR => "ORDER_BAD_REQUEST_ERROR"
  | SEND_BIRD_API_ERROR => "SEND_BIRD_API_ERROR"
  | SEND_BIRD_UNKNOWN_ERROR => "SEND_BIRD_UNKNOWN_ERROR"
  | ORDER_STATUS_FORBIDDEN_ERROR => "ORDER_STATUS_FORBIDDEN_ERROR"
  | TRADING_API_ERROR => "TRADING_API_ERROR"
  | FORBIDDEN => "FORBIDDEN"

def errorCodeMap : ErrorCode → Nat
  | .BAD_REQUEST_ERROR => HttpStatus.BAD_REQUEST
  | .INVALID_ARGUMENT_ERROR => HttpStatus.BAD_REQUEST
  | .ORDER_BAD_REQUEST_ERROR => HttpStatus.BAD_REQUEST
  | .INTERNAL_SERVER_ERROR => HttpStatus.INTERNAL_SERVER_ERROR
  | .UNAUTHORIZED => HttpStatus.UNAUTHORIZED
  | .SEND_BIRD_API_ERROR => HttpStatus.BAD_REQUEST
  | .SEND_BIRD_UNKNOWN_ERROR => HttpStatus.INTERNAL_SERVER_ERROR
  | .ORDER_STATUS_FORBIDDEN_ERROR => HttpStatus.FORBIDDEN
  | .TRADING_API_ERROR => HttpStatus.SERVICE_UNAVAILABLE
  | .FORBIDDEN => HttpStatus.FORBIDDEN

structure ApiErrorResponse where
  error_code : ErrorCode
  details : Option (OrdMap String String) := none
  message : Option String := none

structure ApiError where
  error_code : ErrorCode
  details : Option (OrdMap String String)
  message : Option String
  status : Nat

/-- The constructor of `ApiError`. -/
def ApiError.new (response : ApiErrorResponse) : ApiError :=
  let statusCode := errorCodeMap response.error_code
  ⟨response.error_code, response.details, response.message, statusCode⟩

end StayApi
