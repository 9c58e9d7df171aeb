import StayApi.LoggingService
import StayApi.Process
import StayApi.Run

/-!
# The logging system

A `LoggingService` and the collection it writes to. The outcome of each
`insertMany` is free: it stores its whole batch, or any part of the batch and
then rejects; and any number of them may be pending at once.
-/

namespace StayApi

open LoggingService

/-- The call a pending `insertMany` belongs to. -/
inductive LogOrigin where
  | applicationLog (ref : Nat)
  | timer
  | onModuleDestroy
  deriving DecidableEq

structure LogWorld where
  collection : List LogEntry
  process : Process LogOrigin LoggingService InsertMany Inserted JsError

/-- `written` says of each document of the batch whether it was stored. -/
inductive InsertOutcome where
  | success
  | failure (written : List Bool) (error : JsError)

inductive LogEvent where
  | applicationLog (data : ApplicationLog) (now : Nat)
  | timer (t : Timeout)
  | onModuleDestroy
  | exec (i : Nat) (outcome : InsertOutcome)
  | resume (j : Nat)

def writtenOf (docs : List LogEntry) (written : List Bool) : List LogEntry :=
  (docs.zip written).filterMap fun (e, b) => if b then some e else none

def insertMany (outcome : InsertOutcome) (c : InsertMany) (collection : List LogEntry) :
    List LogEntry × Except JsError Unit :=
  match outcome with
  | .success => (collection ++ c.docs, .ok ())
  | .failure written error => (collection ++ writtenOf c.docs written, .error error)

namespace LogWorld

def start : LogWorld := ⟨[], .start LoggingService.start⟩

def service (w : LogWorld) : LoggingService := w.process.state

def logs (w : LogWorld) : List LogEntry := w.service.logBuffer.logs

def call (l : LogOrigin) (p : Logging) (w : LogWorld) : LogWorld :=
  { w with process := w.process.call l p.detached }

end LogWorld

def logStep (w : LogWorld) : LogEvent → Option LogWorld
  | .applicationLog data now => some (w.call (.applicationLog w.service.built) (applicationLog data now))
  | .timer t => if t ∈ w.service.intervals then some (w.call .timer flushLogs) else none
  | .onModuleDestroy => some (w.call .onModuleDestroy onModuleDestroy)
  | .exec i outcome =>
    (w.process.answer (fun c d => some (insertMany outcome c d)) i w.collection).map fun (d, P) =>
      { w with collection := d, process := P }
  | .resume j => (w.process.resume j).map fun P => { w with process := P }

end StayApi
