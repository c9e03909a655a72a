import StoreRpc.Client

/-!
Work on a store that takes several requests.

A procedure is a program over requests. It ends with the first request that fails, and with that
request's error.
-/

namespace StoreRpc

/-- What a procedure asks for. -/
inductive Procedure.Op
  | send (r : Request)
  | log (line : LogLine)
  /-- Seconds since 1970. -/
  | now

@[reducible] def Procedure.Op.Answer : Procedure.Op → Type
  | .send r => Except Error r.reply.Value
  | .log _ => Unit
  | .now => Int64

abbrev Procedure := ExceptT Error (Program Procedure.Op Procedure.Op.Answer)

namespace Procedure

def perform (op : Op) : Program Op Op.Answer op.Answer := Program.perform op

/-- Sends a request and takes its reply. -/
def send (r : Request) : Procedure r.reply.Value := ExceptT.mk (perform (.send r))

def log (level : LogLevel) (text : String) : Procedure Unit :=
  ExceptT.lift (perform (.log ⟨level, text⟩))

/-- The current time as a timestamp. -/
def now : Procedure UInt64 := ExceptT.lift (Filetime.ofUnix <$> perform .now)

/-- An error ends the procedure. -/
def ofExcept {α : Type} (e : Except Error α) : Procedure α := ExceptT.mk (pure e)

/-- How a client answers. -/
def answer : (op : Op) → ClientM op.Answer
  | .send r => Client.send r
  | .log line => fun c => Dialogue.perform (.log line) >>= fun _ => pure ((), c)
  | .now => fun c => Dialogue.perform .now >>= fun t => pure (t, c)

/-- Carries a procedure out with a client. -/
def run {α : Type} (p : Procedure α) : ClientM (Except Error α) :=
  Program.run answer (ExceptT.run p)

end Procedure

end StoreRpc
