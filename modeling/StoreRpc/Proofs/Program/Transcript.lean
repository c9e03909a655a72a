import Mathlib.Tactic.Common
import StoreRpc.Program

/-!
Transcripts of programs.

A transcript lists the operations that a program asked for, each with what it was answered. A
program has a transcript for every way in which its operations can be answered, so that what holds
of all its transcripts holds wherever it is carried out.
-/

namespace StoreRpc.Program

variable {Op : Type} {Answer : Op → Type} {α β : Type}

/-- An operation and what it was answered. -/
abbrev Event (Op : Type) (Answer : Op → Type) : Type := (op : Op) × Answer op

/-- The program comes to a value if it is answered like this. -/
def Runs : Program Op Answer α → List (Event Op Answer) → α → Prop
  | done a, t, b => t = [] ∧ a = b
  | ask op next, t, b => ∃ x rest, t = ⟨op, x⟩ :: rest ∧ (next x).Runs rest b

lemma runs_perform_iff {op : Op} {t : List (Event Op Answer)} {x : Answer op} :
    (perform op).Runs t x ↔ t = [⟨op, x⟩] := by
  constructor
  · rintro ⟨y, rest, rfl, rfl, rfl⟩
    rfl
  · rintro rfl
    exact ⟨x, [], rfl, rfl, rfl⟩

lemma runs_bind_iff {p : Program Op Answer α} {f : α → Program Op Answer β}
    {t : List (Event Op Answer)} {b : β} :
    (p >>= f).Runs t b ↔
      ∃ a front back, p.Runs front a ∧ (f a).Runs back b ∧ t = front ++ back := by
  induction p generalizing t with
  | done a =>
    constructor
    · intro h
      exact ⟨a, [], t, ⟨rfl, rfl⟩, h, rfl⟩
    · rintro ⟨_, _, back, ⟨rfl, rfl⟩, h, rfl⟩
      exact h
  | ask op next ih =>
    constructor
    · rintro ⟨x, rest, rfl, h⟩
      obtain ⟨a, front, back, hfront, hback, rfl⟩ := (ih x).mp h
      exact ⟨a, ⟨op, x⟩ :: front, back, ⟨x, front, rfl, hfront⟩, hback, rfl⟩
    · rintro ⟨a, _, back, ⟨x, front, rfl, hfront⟩, hback, rfl⟩
      exact ⟨x, front ++ back, rfl, (ih x).mpr ⟨a, front, back, hfront, hback, rfl⟩⟩

end StoreRpc.Program
