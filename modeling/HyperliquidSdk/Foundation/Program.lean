/-!
# Programs that call fallible functions

A computation is given as the tree of the calls it makes: what it does next depends
on the answer. Running it under an interpretation of the calls stops at the first
call that the interpretation refuses; whether one is refused can be told from the calls
that it makes when none is.
-/

set_option autoImplicit false

namespace Foundation

inductive Program (Call : Type) (Answer : Call → Type) (α : Type) where
  | pure (value : α)
  | perform (call : Call) (next : Answer call → Program Call Answer α)

namespace Program

variable {Call ε : Type} {Answer : Call → Type} {α β : Type}

def bind (next : α → Program Call Answer β) : Program Call Answer α → Program Call Answer β
  | .pure value => next value
  | .perform call continuation => .perform call fun answer => bind next (continuation answer)

instance : Monad (Program Call Answer) where
  pure := .pure
  bind program next := bind next program

theorem bind_assoc {γ : Type} (program : Program Call Answer α) (next : α → Program Call Answer β)
    (last : β → Program Call Answer γ) :
    bind last (bind next program) = bind (fun value => bind last (next value)) program := by
  induction program with
  | pure value => rfl
  | perform call continuation ih => exact congrArg (perform call) (funext ih)

theorem bind_pure (program : Program Call Answer α) : bind .pure program = program := by
  induction program with
  | pure value => rfl
  | perform call continuation ih => exact congrArg (perform call) (funext ih)

instance : LawfulMonad (Program Call Answer) :=
  LawfulMonad.mk' _ bind_pure (fun _ _ => rfl) bind_assoc

/-- The program that makes one call and returns its answer. -/
def ask (call : Call) : Program Call Answer (Answer call) := .perform call .pure

section

variable (interpretation : (call : Call) → Except ε (Answer call))
  (answer : (call : Call) → Answer call)

def run : Program Call Answer α → Except ε α
  | .pure value => .ok value
  | .perform call next =>
      match interpretation call with
      | .ok answer => run (next answer)
      | .error exception => .error exception

/-- The calls that are made if every call is answered. -/
def calls : Program Call Answer α → List Call
  | .pure _ => []
  | .perform call next => call :: calls (next (answer call))

def Accepted (call : Call) : Prop := ∃ answer, interpretation call = .ok answer

/-- The answers are those of the interpretation where it does not refuse. -/
def Agrees : Prop := ∀ call result, interpretation call = .ok result → answer call = result

end

variable {interpretation : (call : Call) → Except ε (Answer call)}
  {answer : (call : Call) → Answer call}

theorem run_bind (program : Program Call Answer α) (next : α → Program Call Answer β) :
    (program >>= next).run interpretation =
      (program.run interpretation >>= fun value => (next value).run interpretation) := by
  induction program with
  | pure value => rfl
  | perform call continuation ih =>
      show (perform call fun result => continuation result >>= next).run interpretation = _
      rw [run, run]
      cases interpretation call with
      | error exception => rfl
      | ok result => exact ih result

theorem run_map (change : α → β) (program : Program Call Answer α) :
    (change <$> program).run interpretation = change <$> program.run interpretation :=
  (run_bind program (fun value => .pure (change value))).trans
    (by cases program.run interpretation <;> rfl)

/-- A run returns exactly if none of the calls is refused. -/
theorem run_returns_iff (agrees : Agrees interpretation answer) (program : Program Call Answer α) :
    (∃ value, program.run interpretation = .ok value) ↔
      ∀ call ∈ program.calls answer, Accepted interpretation call := by
  induction program with
  | pure value => exact ⟨fun _ _ impossible => absurd impossible List.not_mem_nil,
      fun _ => ⟨value, rfl⟩⟩
  | perform call next ih =>
      simp only [run, calls, List.forall_mem_cons]
      cases answered : interpretation call with
      | error exception =>
          constructor
          · rintro ⟨value, returned⟩
            cases returned
          · rintro ⟨⟨result, accepted⟩, -⟩
            rw [answered] at accepted
            cases accepted
      | ok result =>
          rw [agrees call result answered, ih result]
          constructor
          · exact fun later => ⟨⟨result, answered⟩, later⟩
          · exact fun all => all.2

end Program

end Foundation
