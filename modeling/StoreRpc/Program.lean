/-!
Programs that ask for operations and go on with the answers.

A program is data: `run` carries it out with any way of answering its operations, and running is
compatible with putting programs one after another.
-/

namespace StoreRpc

inductive Program (Op : Type) (Answer : Op → Type) (α : Type) : Type
  | done (value : α)
  | ask (op : Op) (next : Answer op → Program Op Answer α)

namespace Program

variable {Op : Type} {Answer : Op → Type} {α β γ : Type}

protected def bind (p : Program Op Answer α) (f : α → Program Op Answer β) :
    Program Op Answer β :=
  match p with
  | done a => f a
  | ask op next => ask op fun answer => (next answer).bind f

instance : Monad (Program Op Answer) where
  pure := done
  bind := Program.bind

/-- One operation. -/
def perform (op : Op) : Program Op Answer (Answer op) := ask op done

@[simp] theorem done_bind (a : α) (f : α → Program Op Answer β) : (done a >>= f) = f a := rfl

@[simp] theorem ask_bind (op : Op) (next : Answer op → Program Op Answer α)
    (f : α → Program Op Answer β) : (ask op next >>= f) = ask op fun x => next x >>= f := rfl

theorem bind_done (p : Program Op Answer α) : (p >>= done) = p := by
  induction p with
  | done a => rfl
  | ask op next ih => rw [ask_bind]; exact congrArg _ (funext ih)

theorem bind_assoc (p : Program Op Answer α) (f : α → Program Op Answer β)
    (g : β → Program Op Answer γ) : p >>= f >>= g = p >>= fun a => f a >>= g := by
  induction p with
  | done a => rfl
  | ask op next ih => simp only [ask_bind]; exact congrArg _ (funext ih)

instance : LawfulMonad (Program Op Answer) :=
  LawfulMonad.mk' (Program Op Answer) bind_done (fun _ _ => rfl) bind_assoc

/-- Carries a program out. -/
def run {m : Type → Type} [Monad m] (handle : (op : Op) → m (Answer op)) :
    Program Op Answer α → m α
  | done a => pure a
  | ask op next => handle op >>= fun answer => run handle (next answer)

variable {m : Type → Type} [Monad m] (handle : (op : Op) → m (Answer op))

@[simp] theorem run_pure (a : α) : run handle (pure a) = pure a := rfl

variable [LawfulMonad m]

@[simp] theorem run_perform (op : Op) : run handle (perform op) = handle op := by
  simp [perform, run]

@[simp] theorem run_bind (p : Program Op Answer α) (f : α → Program Op Answer β) :
    run handle (p >>= f) = run handle p >>= fun a => run handle (f a) := by
  induction p with
  | done a => simp [run]
  | ask op next ih => simp [run, ih]

end Program

end StoreRpc
