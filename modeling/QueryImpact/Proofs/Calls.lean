import QueryImpact.Simulation

/-!
# The calls that a program makes

A program can note its calls while it runs, and is the same program otherwise.  Some programs avoid
a call however they are answered.  A simulated run of a program comes with the calls that it makes.
-/

namespace QueryImpact

namespace Program

variable {Call : Type} {Answer : Call → Type} {α β : Type}

/-- The program that also tells which calls it has made, in their order. -/
def traced : Program Call Answer α → Program Call Answer (α × List Call)
  | done value => done (value, [])
  | call request next =>
      call request fun answer =>
        (next answer).traced.bind fun result => done (result.1, request :: result.2)

/-- Noting the calls changes nothing else. -/
theorem traced_bind_fst (program : Program Call Answer α) :
    program.traced.bind (fun result => done result.1) = program := by
  induction program with
  | done value => rfl
  | call request next ih =>
      simp only [traced, call_bind, bind_assoc, done_bind, call.injEq, heq_eq_eq, true_and]
      exact funext ih

/-- Two programs in a row make the calls of the first and then those of the second. -/
theorem traced_bind (program : Program Call Answer α) (next : α → Program Call Answer β) :
    (program.bind next).traced = program.traced.bind fun first =>
      (next first.1).traced.bind fun second => done (second.1, first.2 ++ second.2) := by
  induction program with
  | done value =>
      simp only [traced, done_bind, List.nil_append]
      exact (bind_done _).symm
  | call request rest ih =>
      simp only [traced, call_bind, call.injEq, heq_eq_eq, true_and]
      funext answer
      rw [ih answer]
      simp only [bind_assoc, done_bind, List.cons_append]

/-- The program never makes the call. -/
def Avoids (avoided : Call) : Program Call Answer α → Prop
  | done _ => True
  | call request next => request ≠ avoided ∧ ∀ answer, (next answer).Avoids avoided

theorem Avoids.bind {avoided : Call} {program : Program Call Answer α}
    {next : α → Program Call Answer β} (first : program.Avoids avoided)
    (second : ∀ value, (next value).Avoids avoided) : (program.bind next).Avoids avoided := by
  induction program with
  | done value => exact second value
  | call request rest ih =>
      constructor
      · exact first.1
      · intro answer
        exact ih answer (first.2 answer)

end Program

namespace Simulation

/-! ## Runs with their calls -/

section Runs

variable {α β : Type} {program : Writing α} {simulation middle after : Simulation} {value : α}
  {calls : List WriteCall}

theorem write_bind (program : Writing α) (next : α → Writing β) (simulation : Simulation) :
    write (program.bind next) simulation =
      (write program simulation).bind fun result => write (next result.1) result.2 := by
  have parts := @Program.run_bind _ _ _ _ (StateT Simulation Option) _ _ handle program next
  exact congrFun parts simulation

theorem write_of_traced (ran : write program.traced simulation = some ((value, calls), after)) :
    write program simulation = some (value, after) := by
  have parts := write_bind program.traced (fun result => .done result.1) simulation
  rw [Program.traced_bind_fst, ran] at parts
  exact parts

theorem write_traced_bind {next : α → Writing β} {result : β} {later : List WriteCall}
    (first : write program.traced simulation = some ((value, calls), middle))
    (second : write (next value).traced middle = some ((result, later), after)) :
    write (program >>= next).traced simulation = some ((result, calls ++ later), after) := by
  change write (program.bind next).traced simulation = _
  rw [Program.traced_bind, write_bind, first]
  dsimp only [Option.bind_some]
  rw [write_bind, second]
  rfl

theorem write_traced_ask {call : WriteCall} {answer : call.Answer}
    (answered : handle call simulation = some (answer, after)) :
    write (Writing.ask call).traced simulation = some ((answer, [call]), after) := by
  change (handle call simulation).bind _ = _
  rw [answered]
  rfl

end Runs

end Simulation

end QueryImpact
