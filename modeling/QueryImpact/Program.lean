/-!
# Programs over calls

A program either is done with a value, or makes a call and goes on in a way that depends on the
answer.  Programs say which calls are made in which order and nothing about who answers them, so
one program serves every store, and a statement about all stores is an induction over the
program.
-/

namespace QueryImpact

/-- A computation that makes calls with answers. -/
inductive Program (Call : Type) (Answer : Call → Type) (α : Type) where
  /-- The computation is over. -/
  | done (value : α)
  /-- A call, and how to go on with its answer. -/
  | call (request : Call) (next : Answer request → Program Call Answer α)

namespace Program

variable {Call : Type} {Answer : Call → Type} {α β γ : Type}

/-- Make one call and return its answer. -/
def ask (request : Call) : Program Call Answer (Answer request) :=
  call request done

/-- One program after another. -/
def bind (program : Program Call Answer α) (next : α → Program Call Answer β) :
    Program Call Answer β :=
  match program with
  | done value => next value
  | call request rest => call request fun answer => (rest answer).bind next

instance : Monad (Program Call Answer) where
  pure := done
  bind := bind

/-- Run a program; every call is answered by the handler. -/
def run {m : Type → Type} [Monad m] (handle : (request : Call) → m (Answer request)) :
    Program Call Answer α → m α
  | done value => pure value
  | call request next => do
      let answer ← handle request
      (next answer).run handle

@[simp]
theorem done_bind (value : α) (next : α → Program Call Answer β) :
    (done value).bind next = next value :=
  rfl

@[simp]
theorem call_bind (request : Call) (rest : Answer request → Program Call Answer α)
    (next : α → Program Call Answer β) :
    (call request rest).bind next = call request fun answer => (rest answer).bind next :=
  rfl

/-- Going on by doing nothing changes nothing. -/
theorem bind_done (program : Program Call Answer α) : program.bind done = program := by
  induction program with
  | done value => rfl
  | call request next ih =>
      simp only [call_bind, call.injEq, heq_eq_eq, true_and]
      exact funext ih

/-- Three programs in a row can be bracketed either way. -/
theorem bind_assoc (program : Program Call Answer α) (second : α → Program Call Answer β)
    (third : β → Program Call Answer γ) :
    (program.bind second).bind third = program.bind fun value => (second value).bind third := by
  induction program with
  | done value => rfl
  | call request next ih =>
      simp only [call_bind, call.injEq, heq_eq_eq, true_and]
      exact funext ih

instance : LawfulMonad (Program Call Answer) :=
  LawfulMonad.mk' (Program Call Answer) bind_done (fun _ _ => rfl) bind_assoc

/-- Running a program that goes on is running its two parts. -/
theorem run_bind {m : Type → Type} [Monad m] [LawfulMonad m]
    (handle : (request : Call) → m (Answer request)) (program : Program Call Answer α)
    (next : α → Program Call Answer β) :
    (program.bind next).run handle =
      (program.run handle) >>= fun value => (next value).run handle := by
  induction program with
  | done value => simp only [done_bind, run, pure_bind]
  | call request rest ih =>
      simp only [call_bind, run, LawfulMonad.bind_assoc]
      exact congrArg _ (funext ih)

end Program

end QueryImpact
