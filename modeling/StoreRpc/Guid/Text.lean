import StoreRpc.Guid.Basic
import StoreRpc.Guid.Uuid

/-!
The text of a GUID.

The clock sequence and the node are what stands behind the three numbers of the text.
-/

namespace StoreRpc.Guid

def toUuid (g : Guid) : Uuid := .ofFields g.timeLow g.timeMid g.timeHigh (g.clockSeq ++ g.node)

def ofUuid (u : Uuid) : Guid :=
  let (timeLow, timeMid, timeHigh, tail) := u.fields
  ⟨timeLow, timeMid, timeHigh, tail.take 2, tail.drop 2⟩

def text (g : Guid) : String := g.toUuid.text

/-- The GUID that a text stands for. -/
def parse (s : String) : Except Uuid.Fault Guid := (Uuid.parse s).map ofUuid

end StoreRpc.Guid
