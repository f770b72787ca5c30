import PearlReport.Error

/-! Diagnostics. What an operation has to note does not depend on who listens: it gives its notes
beside its outcome, and a log keeps them only if it is verbose. On a terminal they may be coloured. -/

namespace PearlReport

structure Log where
  verbose : Bool
  lines : List String
deriving DecidableEq, Repr

namespace Log

def new (verbose : Bool) : Log := ⟨verbose, []⟩

def write (l : Log) (line : String) : Log := ⟨l.verbose, l.lines ++ [line]⟩

def note (l : Log) (line : String) : Log := if l.verbose then l.write line else l

def noteAll (l : Log) (lines : List String) : Log := lines.foldl note l

theorem noteAll_lines (l : Log) (lines : List String) :
    (l.noteAll lines).lines = l.lines ++ if l.verbose then lines else [] := by
  induction lines generalizing l with
  | nil => simp [noteAll]
  | cons line lines ih =>
    rw [noteAll, List.foldl_cons, ← noteAll, ih, note]
    cases h : l.verbose <;> simp [write, h]

end Log

structure Noted (α : Type) where
  outcome : α
  notes : List String

/-- The check before a batch operation on tapes. No failures pass; with `force` they are noted and
pass; otherwise they are the error. -/
def checkFailures (items : List TapeFailure) (force : Bool) : Noted (Except Error Unit) :=
  if items.isEmpty then ⟨.ok (), []⟩
  else
    match TapeFailures.aggregate items with
    | .error e => ⟨.error e, []⟩
    | .ok failures =>
      if force then
        ⟨.ok (), ["Ignoring " ++ toString failures.items.length ++
          " tape failure(s) because --force was given", failures.message]⟩
      else ⟨.error (.tapeFailures failures), []⟩

/-- What the user wants of colours, by the variables that force them, refuse them and ask for them
on a terminal. A variable set to `0` says no. -/
structure Palette where
  forced : Option String
  refused : Option String
  asked : Option String
  terminal : Bool

def Palette.colour (p : Palette) : Bool :=
  if p.forced.any (· ≠ "0") then true
  else if p.refused.isSome then false
  else p.terminal && p.asked.all (· ≠ "0")

namespace Terminal

def reset : String := "\x1b[0m"
def dim : String := "\x1b[2m"
def red : String := "\x1b[31m"

/-- A text in a style. Where the text itself ends a style, this one is taken up again. -/
def styled (style text : String) : String :=
  style ++ (reset ++ style).intercalate (text.splitOn reset) ++ reset

end Terminal

def Log.text (l : Log) (colour : Bool) : String :=
  String.join (l.lines.map fun line =>
    (if colour then Terminal.styled Terminal.dim line else line) ++ "\n")

end PearlReport
