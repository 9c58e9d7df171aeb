import StayApi.Async
import StayApi.Json

/-!
# Logging service

`logging.service.ts`: `applicationLog`, `flushLogs` and the buffer between them.
-/

namespace StayApi

inductive LogLevelType where
  | info
  | warn
  | error
  | debug
  deriving DecidableEq

/-- What a caller logs; a field that is `none` is undefined or null. -/
structure ApplicationLog where
  level : LogLevelType
  service : String
  userId : Option String
  sessionId : Option String
  action : String
  metadata : Option Json
  message : String
  stackTrace : Option String

/-- `ref` is the identity of the object `applicationLog` builds. -/
structure LogEntry where
  ref : Nat
  timestamp : Nat
  level : LogLevelType
  service : String
  userId : Option String
  sessionId : Option String
  action : String
  metadata : Json
  message : String
  stackTrace : Option String

/-- What `setInterval` answers, with the period it was given. -/
structure Timeout where
  handle : Nat
  period : Nat
  deriving DecidableEq

structure LogBuffer where
  logs : List LogEntry
  flushTimer : Option Timeout

/-- The service, the intervals the runtime keeps for it, and how many entries it has built. -/
structure LoggingService where
  logBuffer : LogBuffer
  intervals : List Timeout
  built : Nat

/-- `insertMany(docs, {ordered: false})` on the collection of application logs. -/
structure InsertMany where
  docs : List LogEntry

abbrev Inserted : InsertMany → Type := fun _ => Unit

abbrev Logging : Type := Async LoggingService InsertMany Inserted JsError Unit

namespace LoggingService

def BUFFER_SIZE : Nat := 100
def FLUSH_INTERVAL : Nat := 5000

def setLogs (logs : List LogEntry) (s : LoggingService) : LoggingService :=
  { s with logBuffer := { s.logBuffer with logs := logs } }

def startFlushTimer (s : LoggingService) : LoggingService :=
  let flushTimer : Timeout := ⟨s.intervals.length, FLUSH_INTERVAL⟩
  { s with
    logBuffer := { s.logBuffer with flushTimer := some flushTimer }
    intervals := s.intervals ++ [flushTimer] }

def start : LoggingService := startFlushTimer ⟨⟨[], none⟩, [], 0⟩

/-- `logs.unshift(...logsToFlush.slice(0, BUFFER_SIZE))`. -/
def reAdd (logsToFlush : List LogEntry) (s : LoggingService) : LoggingService :=
  setLogs (logsToFlush.take BUFFER_SIZE ++ s.logBuffer.logs) s

def flushLogs : Logging := do
  let logs := (← Async.get).logBuffer.logs
  if logs.length = 0 then
    return
  let logsToFlush := logs
  Async.modify (setLogs [])
  tryCatch (Async.await ⟨logsToFlush⟩) fun _ => Async.modify (reAdd logsToFlush)

def logEntry (ref : Nat) (data : ApplicationLog) (now : Nat) : LogEntry where
  ref := ref
  timestamp := now
  level := data.level
  service := data.service
  userId := data.userId
  sessionId := data.sessionId
  action := data.action
  metadata := data.metadata.getD (.obj [])
  message := data.message
  stackTrace := data.stackTrace

def push (data : ApplicationLog) (now : Nat) (s : LoggingService) : LoggingService :=
  { setLogs (s.logBuffer.logs ++ [logEntry s.built data now]) s with built := s.built + 1 }

def applicationLog (data : ApplicationLog) (now : Nat) : Logging := do
  Async.modify (push data now)
  if (← Async.get).logBuffer.logs.length ≥ BUFFER_SIZE ∨ data.level = .error then
    flushLogs

def clearInterval (t : Timeout) (s : LoggingService) : LoggingService :=
  { s with intervals := s.intervals.filter fun u => u ≠ t }

/-- The first part of `onModuleDestroy`. -/
def stopFlushTimer (s : LoggingService) : LoggingService :=
  match s.logBuffer.flushTimer with
  | some t => clearInterval t s
  | none => s

def onModuleDestroy : Logging := do
  Async.modify stopFlushTimer
  flushLogs

end LoggingService

end StayApi
