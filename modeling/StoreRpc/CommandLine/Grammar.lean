/-!
Reading the words of a command line into a draft.

Words are read from left to right, and the first that is out of place, or asks for information,
decides. A value that is joined to its option is set at once. A value that is a word of its own is
set only when the next word is reached, unless that is the name of a command: then it is held until
the command has read its own words.
-/

namespace StoreRpc.CommandLine

/-- Why a line does not say what to do. -/
inductive Stop
  | inquiry
  | misuse
  deriving DecidableEq, Repr

inductive Word
  | plain (text : String)
  /-- What follows two dashes, and what is joined to it by `=`. -/
  | option (name : String) (value : Option String)
  /-- The first letter behind a single dash. -/
  | letter (c : Char)
  /-- Two dashes alone: all later words are plain. -/
  | divider
  deriving DecidableEq, Repr

def Word.ofString (s : String) : Word :=
  match s.toList with
  | ['-', '-'] => .divider
  | '-' :: '-' :: cs =>
    .option (String.ofList (cs.takeWhile (· != '=')))
      (((cs.dropWhile (· != '=')).tail?).map String.ofList)
  | '-' :: c :: _ => .letter c
  | _ => .plain s

/-- The words that a command takes, and how each changes a draft or is refused. -/
structure Grammar (σ : Type) where
  /-- Those with a value. -/
  options : List (String × (String → σ → Option σ))
  /-- Those without. -/
  switches : List (String × (σ → Option σ))
  /-- Those that ask for information, and their letters. -/
  inquiries : List (String × Char)
  /-- A plain word, by how many came before it. -/
  place : Nat → String → σ → Option σ
  /-- The names of the commands that may follow. -/
  commands : List String

/-- How far a line has been read. -/
structure Progress (σ : Type) where
  draft : σ
  /-- The value, a word of its own, that is yet to be set. -/
  held : Option (σ → Option σ)
  placed : Nat
  /-- All words are plain from here on. -/
  divided : Bool

def Progress.start {σ : Type} (draft : σ) : Progress σ := ⟨draft, none, 0, false⟩

/-- Makes a change, or stops. -/
def change {σ : Type} (f : σ → Option σ) (draft : σ) : Except Stop σ :=
  match f draft with
  | some draft => .ok draft
  | none => .error .misuse

/-- Sets the value that is held. -/
def Progress.settle {σ : Type} (p : Progress σ) : Except Stop (Progress σ) :=
  match p.held with
  | none => .ok p
  | some f => (change f p.draft).map fun draft => { p with draft, held := none }

/-- Where a command stops to read. -/
inductive Reading (σ : Type)
  | complete (draft : σ)
  /-- The name of a command, and the words after it. -/
  | command (p : Progress σ) (name : String) (rest : List String)

variable {σ : Type}

/-- The word as it stands here. -/
def Progress.word (p : Progress σ) (s : String) : Word :=
  if p.divided then .plain s else .ofString s

def Grammar.scan (g : Grammar σ) : List String → Progress σ → Except Stop (Reading σ)
  | [], p => p.settle.map (.complete ·.draft)
  | w :: rest, p =>
    match p.word w with
    | .divider => g.scan rest { p with divided := true }
    | .letter c => do
      let _ ← p.settle
      throw (if g.inquiries.any (·.2 = c) then .inquiry else .misuse)
    | .plain s =>
      if !p.divided && g.commands.contains s then .ok (.command p s rest)
      else do
        let p ← p.settle
        let draft ← change (g.place p.placed s) p.draft
        g.scan rest { p with draft, placed := p.placed + 1 }
    | .option name value => do
      let p ← p.settle
      match g.options.lookup name, value, rest with
      | some set, some v, rest =>
        let draft ← change (set v) p.draft
        g.scan rest { p with draft }
      | some set, none, v :: rest =>
        if .ofString v = Word.plain v then g.scan rest { p with held := some (set v) }
        else throw .misuse
      | some _, none, [] => throw .misuse
      | none, some _, _ => throw .misuse
      | none, none, rest =>
        match g.switches.lookup name with
        | some set =>
          let draft ← change set p.draft
          g.scan rest { p with draft }
        | none => throw (if g.inquiries.any (·.1 = name) then .inquiry else .misuse)

end StoreRpc.CommandLine
