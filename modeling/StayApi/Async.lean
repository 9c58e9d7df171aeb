/-!
# Asynchronous programs

The body of an asynchronous function, as the sequence of what it does between
two suspensions. `Proc` is a whole program: it reads and writes the state of
the process it runs in, awaits commands `c : κ` whose replies lie in `ρ c`, and
starts other programs without waiting for them. `Async α` is the body of a
function whose promise resolves with an `α` or rejects with an `ε`, written
against the two continuations the promise can take.
-/

namespace StayApi

inductive Proc (σ κ : Type) (ρ : κ → Type) (ε : Type) : Type where
  | done
  /-- The promise of a program nobody awaits was rejected. -/
  | rejected (e : ε)
  | read (k : σ → Proc σ κ ρ ε)
  | write (f : σ → σ) (k : Proc σ κ ρ ε)
  | await (c : κ) (k : Except ε (ρ c) → Proc σ κ ρ ε)
  | fork (child rest : Proc σ κ ρ ε)

/-- A program stopped at an `await`: the command and what follows its reply. -/
abbrev Suspension (σ κ : Type) (ρ : κ → Type) (ε : Type) : Type :=
  Σ c : κ, (Except ε (ρ c) → Proc σ κ ρ ε)

/-- What is left after running up to the next `await`s: the state, the
suspended programs, and the rejections nobody handles. -/
structure Turn (σ κ : Type) (ρ : κ → Type) (ε : Type) where
  state : σ
  suspended : List (Suspension σ κ ρ ε)
  unhandled : List ε

section
variable {σ κ ε : Type} {ρ : κ → Type}

/-- Run a program up to its next `await`. A forked child runs first, up to its
own first `await`: an asynchronous function starts synchronously. -/
def Proc.run : Proc σ κ ρ ε → σ → Turn σ κ ρ ε
  | .done, s => ⟨s, [], []⟩
  | .rejected e, s => ⟨s, [], [e]⟩
  | .read k, s => (k s).run s
  | .write f k, s => k.run (f s)
  | .await c k, s => ⟨s, [⟨c, k⟩], []⟩
  | .fork child rest, s =>
    let first := child.run s
    let second := rest.run first.state
    ⟨second.state, first.suspended ++ second.suspended, first.unhandled ++ second.unhandled⟩

@[simp] theorem Proc.run_read (k : σ → Proc σ κ ρ ε) (s : σ) : (Proc.read k).run s = (k s).run s := rfl

@[simp] theorem Proc.run_write (f : σ → σ) (k : Proc σ κ ρ ε) (s : σ) :
    (Proc.write f k).run s = k.run (f s) := rfl

/-- A child whose promise nobody uses leaves nothing behind in its parent. -/
@[simp] theorem Proc.run_fork_done (p : Proc σ κ ρ ε) (s : σ) : (Proc.fork p .done).run s = p.run s := by
  simp [Proc.run]

end

def Async (σ κ : Type) (ρ : κ → Type) (ε α : Type) : Type :=
  (α → Proc σ κ ρ ε) → (ε → Proc σ κ ρ ε) → Proc σ κ ρ ε

namespace Async

section
variable {σ κ ε : Type} {ρ : κ → Type}

instance : Monad (Async σ κ ρ ε) where
  pure a := fun ok _ => ok a
  bind x f := fun ok err => x (fun a => f a ok err) err

instance : MonadExcept ε (Async σ κ ρ ε) where
  throw e := fun _ err => err e
  tryCatch body handler := fun ok err => body ok fun e => handler e ok err

def settle {α : Type} (ok : α → Proc σ κ ρ ε) (err : ε → Proc σ κ ρ ε) : Except ε α → Proc σ κ ρ ε
  | .ok a => ok a
  | .error e => err e

def await (c : κ) : Async σ κ ρ ε (ρ c) := fun ok err => .await c (settle ok err)

def get : Async σ κ ρ ε σ := fun ok _ => .read ok

def modify (f : σ → σ) : Async σ κ ρ ε Unit := fun ok _ => .write f (ok ())

/-- A whole program: a call whose promise is neither awaited, returned nor caught. -/
def detached (x : Async σ κ ρ ε Unit) : Proc σ κ ρ ε := x (fun _ => .done) .rejected

def start (x : Async σ κ ρ ε Unit) : Async σ κ ρ ε Unit := fun ok _ => .fork x.detached (ok ())

@[simp] theorem pure_apply {α : Type} (a : α) (ok : α → Proc σ κ ρ ε) (err : ε → Proc σ κ ρ ε) :
    (pure a : Async σ κ ρ ε α) ok err = ok a := rfl

@[simp] theorem bind_apply {α β : Type} (x : Async σ κ ρ ε α) (f : α → Async σ κ ρ ε β)
    (ok : β → Proc σ κ ρ ε) (err : ε → Proc σ κ ρ ε) : (x >>= f) ok err = x (fun a => f a ok err) err := rfl

@[simp] theorem tryCatch_apply {α : Type} (x : Async σ κ ρ ε α) (h : ε → Async σ κ ρ ε α)
    (ok : α → Proc σ κ ρ ε) (err : ε → Proc σ κ ρ ε) :
    (tryCatch x h) ok err = x ok fun e => h e ok err := rfl

@[simp] theorem get_apply (ok : σ → Proc σ κ ρ ε) (err : ε → Proc σ κ ρ ε) :
    (get : Async σ κ ρ ε σ) ok err = .read ok := rfl

@[simp] theorem modify_apply (f : σ → σ) (ok : Unit → Proc σ κ ρ ε) (err : ε → Proc σ κ ρ ε) :
    (modify f : Async σ κ ρ ε Unit) ok err = .write f (ok ()) := rfl

@[simp] theorem settle_ok {α : Type} (ok : α → Proc σ κ ρ ε) (err : ε → Proc σ κ ρ ε) (a : α) :
    settle ok err (.ok a) = ok a := rfl

end

end Async

/-! ## A program on its own -/

/-- How a command turns out. One that is rejected may have been carried out or not. -/
inductive Outcome (ε : Type) where
  | answered
  | rejected (carriedOut : Bool) (e : ε)

structure Finished (σ δ ε : Type) where
  state : σ
  store : δ
  unused : List (Outcome ε)
  unhandled : List ε

section
variable {σ κ ε δ : Type} {ρ : κ → Type}

def Outcome.carriedOut : Outcome ε → Bool
  | .answered => true
  | .rejected carriedOut _ => carriedOut

/-- The store and the reply, if `served` is what an answered command would give. -/
def Outcome.settle {α : Type} (d : δ) (served : δ × Except ε α) : Outcome ε → δ × Except ε α
  | .answered => served
  | .rejected carriedOut e => (if carriedOut then served.1 else d, .error e)

/-- Run a program to its end with nothing else going on. Its commands turn out
as the list says, and those beyond the list are answered. -/
def Proc.drive (serve : (c : κ) → δ → δ × Except ε (ρ c)) :
    Proc σ κ ρ ε → List (Outcome ε) → σ → δ → Finished σ δ ε
  | .done, os, s, d => ⟨s, d, os, []⟩
  | .rejected e, os, s, d => ⟨s, d, os, [e]⟩
  | .read k, os, s, d => (k s).drive serve os s d
  | .write f k, os, s, d => k.drive serve os (f s) d
  | .await c k, os, s, d =>
    let settled := (os.headD .answered).settle d (serve c d)
    (k settled.2).drive serve os.tail s settled.1
  | .fork child rest, os, s, d =>
    let first := child.drive serve os s d
    let second := rest.drive serve first.unused first.state first.store
    { second with unhandled := first.unhandled ++ second.unhandled }

end

end StayApi
