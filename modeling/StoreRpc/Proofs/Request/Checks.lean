import StoreRpc.Proofs.Wire.Checks
import StoreRpc.Proofs.Restriction.Readable
import StoreRpc.Proofs.Request.Signature

/-!
Which requests can be written.

Everything that may be refused in a request is listed, through values, names and filters.
-/

namespace StoreRpc

open Encoding (Checked)

/-! ### Values and names -/

namespace Payload

def checks : Payload → List Check
  | string v => [.text v.content]
  | binary v => [.long v.content.length]
  | shorts v => [.long v.content.length]
  | longs v => [.long v.content.length]
  | longLongs v => [.long v.content.length]
  | floats v => [.long v.content.length]
  | doubles v => [.long v.content.length]
  | strings v => .long v.length :: v.flatMap fun s => [.text s.content]
  | binaries v => .long v.length :: v.flatMap fun b => [.long b.content.length]
  | _ => []

end Payload

namespace Propval

def checks (p : Propval) : List Check := p.payload.checks

lemma encodeBinary_checked (bs : List UInt8) : (encodeBinary bs).Checked [.long bs.length] :=
  (Checked.count32 .valueItems bs.length).append_free rfl

/-- Numbers behind their count can only be too many. -/
lemma numbers_checked {α : Type} {encode : α → Encoding} (h : ∀ a, (encode a).failure = none)
    (as : List α) : (Encoding.list32 encode as).Checked [.long as.length] :=
  (Checked.count32 .listItems as.length).append_free (Checked.all_free h as)

lemma encodePayload_checked (v : Payload) : (encodePayload v).Checked v.checks := by
  cases v with
  | byte v => exact .free rfl
  | short v => exact .free rfl
  | long v => exact .free rfl
  | longLong v => exact .free rfl
  | float v => exact .free rfl
  | double v => exact .free rfl
  | string v => exact .text v.content
  | binary v => exact encodeBinary_checked v.content
  | shorts v => exact numbers_checked (fun _ => rfl) v.content
  | longs v => exact numbers_checked (fun _ => rfl) v.content
  | longLongs v => exact numbers_checked (fun _ => rfl) v.content
  | floats v => exact numbers_checked (fun _ => rfl) v.content
  | doubles v => exact numbers_checked (fun _ => rfl) v.content
  | strings v =>
    have hitems (s : Held String) : (Encoding.text s.content).Checked [.text s.content] :=
      .text s.content
    exact .list32 hitems .valueItems v
  | binaries v =>
    have hitems (b : Held (List UInt8)) :
        (encodeBinary b.content).Checked [.long b.content.length] :=
      encodeBinary_checked b.content
    exact .list32 hitems .valueItems v

lemma encode_checked (p : Propval) : p.encode.Checked p.checks := by
  refine .free_append ?_ (encodePayload_checked p.payload)
  rw [Encoding.failure_append_eq_none]
  refine ⟨rfl, ?_⟩
  split <;> rfl

end Propval

namespace PropertyName

def checks : PropertyName → List Check
  | byId _ _ => []
  | byText _ s => [.nameBytes s.utf8ByteSize, .text s]

lemma encode_checked (p : PropertyName) : p.encode.Checked p.checks := by
  cases p with
  | byId g id => exact .free rfl
  | byText g s =>
    have hrest : (.u8 1 ++ g.encode ++ .u8 (UInt8.ofNat s.utf8ByteSize + 1) ++ .text s :
        Encoding).Checked [.text s] := .free_append rfl (.text s)
    have hguard := Checked.guard (c := .nameBytes s.utf8ByteSize) Nat.not_lt.symm hrest
      (.tooMany .nameBytes s.utf8ByteSize maxLength)
    rwa [ite_not] at hguard

end PropertyName

namespace Permission

def checks (p : Permission) : List Check :=
  .short p.propvals.length :: p.propvals.flatMap Propval.checks

lemma encode_checked (p : Permission) : p.encode.Checked p.checks :=
  .free_append rfl (.list16 Propval.encode_checked p.propvals)

end Permission

/-! ### Filters -/

namespace Restriction

/-- The checks of the node itself. -/
def ownChecks : Restriction → List Check
  | and parts => [.long parts.length]
  | or parts => [.long parts.length]
  | content _ _ p => p.checks
  | property _ _ p => p.checks
  | comment ps _ => .annotations ps.length :: ps.flatMap Propval.checks
  | _ => []

def checks (r : Restriction) : List Check := r.nodes.flatMap ownChecks

lemma checks_eq (r : Restriction) : r.checks = r.ownChecks ++ r.parts.flatMap checks := by
  rw [checks, nodes_eq, List.flatMap_cons, ← List.flatMap_def, List.flatMap_assoc]
  rfl

lemma checks_of_parts_eq_nil {r : Restriction} (h : r.parts = []) :
    r.checks = r.ownChecks := by
  rw [checks_eq, h, List.flatMap_nil, List.append_nil]

lemma commentHeader_checked (n : Nat) : (commentHeader n).Checked [.annotations n] :=
  Checked.guard (p := 1 ≤ n ∧ n ≤ 255) Iff.rfl (.free rfl) (.commentCount n)

lemma head_checked {r : Restriction} {h : Head} (hh : r.head? = some h) :
    h.encode.Checked r.ownChecks := by
  cases r <;> cases hh
  case and parts => exact .free_append rfl (.count32 .listItems parts.length)
  case or parts => exact .free_append rfl (.count32 .listItems parts.length)
  case content fuzzy tag p => exact .free_append rfl p.encode_checked
  case property op tag p => exact .free_append rfl p.encode_checked
  case comment ps part =>
    have hvalues := Checked.all fun p (_ : p ∈ ps) => p.encode_checked
    exact ((commentHeader_checked ps.length).append hvalues).append_free rfl
  all_goals exact .free rfl

lemma encode_checked (r : Restriction) : r.encode.Checked r.checks := by
  induction r using parts_induction with
  | node r ih =>
    rw [checks_eq]
    cases hh : r.head? with
    | none =>
      obtain rfl := head?_eq_none_iff.mp hh
      rw [encode]
      exact .free rfl
    | some h =>
      rw [encode_of_head? hh]
      exact (head_checked hh).append (.all ih)

end Restriction

/-! ### Requests -/

namespace Argument

def checks : (s : Argument) → s.Value → List Check
  | text, s => [.text s]
  | tags, ts => [.short ts.length]
  | messages, ms => [.long ms.length]
  | names, ns => .short ns.length :: ns.flatMap PropertyName.checks
  | propvals, ps => .short ps.length :: ps.flatMap Propval.checks
  | permissions, rows => .short rows.length :: rows.flatMap Permission.checks
  | filter, r => r.checks
  | _, _ => []

lemma encode_checked (s : Argument) (v : s.Value) : (s.encode v).Checked (s.checks v) := by
  cases s with
  | byte => exact .free rfl
  | short => exact .free rfl
  | long => exact .free rfl
  | longLong => exact .free rfl
  | flag => exact .free rfl
  | text => exact .text v
  | tags =>
    exact (Checked.count16 .listItems v.length).append_free (Checked.all_free (fun _ => rfl) v)
  | messages => exact Propval.numbers_checked (fun _ => rfl) v
  | names => exact .list16 PropertyName.encode_checked v
  | propvals => exact .list16 Propval.encode_checked v
  | permissions => exact .list16 Permission.encode_checked v
  | filter => exact .free_append rfl (Restriction.encode_checked v)

end Argument

lemma Arguments.encode_checked (sorts : List Argument) (args : Arguments sorts) :
    (encode sorts args).Checked (collect Argument.checks sorts args) := by
  induction sorts with
  | nil => exact .free rfl
  | cons s sorts ih => exact (s.encode_checked args.1).append (ih args.2)

namespace Request

/-- All that is looked at when the request is written. -/
def checks (r : Request) : List Check :=
  Arguments.collect Argument.checks r.call.signature.sorts r.arguments

theorem encode_checked (r : Request) : r.encode.Checked r.checks := by
  rw [encode, encodeArguments_eq]
  exact .free_append rfl (Arguments.encode_checked _ r.arguments)

end Request

end StoreRpc
