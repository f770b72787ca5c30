import PearlReport.Json.Double

/-! Generic documents, and ordered maps from text. Members of an object keep the order in which their
keys first came. -/

namespace PearlReport.Json

/-- Integers of the 64-bit ranges, signed and unsigned, are exact; all other numbers are binary
fractions, held by their bits. -/
inductive Number where
  | int (n : Int)
  | float (bits : UInt64)
deriving DecidableEq, Repr

inductive Atom where
  | null
  | bool (b : Bool)
  | num (n : Number)
  | str (s : String)
deriving DecidableEq, Repr

inductive Value where
  | atom (a : Atom)
  | arr (vs : List Value)
  | obj (ms : List (String × Value))
deriving Repr, Inhabited

namespace Value

@[match_pattern] def null : Value := .atom .null
@[match_pattern] def bool (b : Bool) : Value := .atom (.bool b)
@[match_pattern] def num (n : Number) : Value := .atom (.num n)
@[match_pattern] def str (s : String) : Value := .atom (.str s)

def ofInt (n : Int) : Value := .num (.int n)

def get? (key : String) : Value → Option Value
  | .obj ms => ms.lookup key
  | _ => none

end Value

def Number.text : Number → List Char
  | .int n => PearlReport.Decimal.ofInt n
  | .float bits => Double.text bits

def putMember {α : Type} (ms : List (String × α)) (key : String) (a : α) : List (String × α) :=
  match ms with
  | [] => [(key, a)]
  | m :: rest => if m.1 = key then (key, a) :: rest else m :: putMember rest key a

/-- Distinct keys in the order of their first occurrence, each with its last value. -/
def gather {α : Type} (ms : List (String × α)) : List (String × α) :=
  ms.foldl (fun kept m => putMember kept m.1 m.2) []

def Number.same : Number → Number → Bool
  | .int m, .int n => m == n
  | .float a, .float b => Float.ofBits a == Float.ofBits b
  | _, _ => false

def Atom.same : Atom → Atom → Bool
  | .num m, .num n => m.same n
  | a, b => a == b

mutual
def Value.same : Value → Value → Bool
  | .atom a, .atom b => a.same b
  | .arr vs, .arr ws => Value.sameAll vs ws
  | .obj ms, .obj ns => ms.length == ns.length && Value.sameMembers ms ns
  | _, _ => false
def Value.sameAll : List Value → List Value → Bool
  | [], [] => true
  | v :: vs, w :: ws => v.same w && Value.sameAll vs ws
  | _, _ => false
def Value.sameMembers : List (String × Value) → List (String × Value) → Bool
  | [], _ => true
  | (k, v) :: ms, ns =>
    (match ns.lookup k with
      | some w => v.same w
      | none => false) && Value.sameMembers ms ns
end

theorem keys_putMember {α : Type} (ms : List (String × α)) (key : String) (a : α) :
    (putMember ms key a).map Prod.fst =
      if key ∈ ms.map Prod.fst then ms.map Prod.fst else ms.map Prod.fst ++ [key] := by
  induction ms with
  | nil => simp [putMember]
  | cons m rest ih =>
    by_cases h : m.1 = key
    · simp [putMember, h]
    · have h' : ¬ key = m.1 := fun e => h e.symm
      simp only [putMember, h, if_false, List.map_cons, ih, List.mem_cons, h', false_or]
      split <;> simp

theorem nodup_putMember {α : Type} {ms : List (String × α)} (key : String) (a : α)
    (h : (ms.map Prod.fst).Nodup) : ((putMember ms key a).map Prod.fst).Nodup := by
  rw [keys_putMember]
  split
  · exact h
  · rename_i hk
    refine List.nodup_append.2 ⟨h, by simp, ?_⟩
    intro x hx y hy
    rw [List.mem_singleton.1 hy]
    exact fun e => hk (e ▸ hx)

theorem nodup_foldl_putMember {α : Type} (ms kept : List (String × α))
    (h : (kept.map Prod.fst).Nodup) :
    ((ms.foldl (fun kept m => putMember kept m.1 m.2) kept).map Prod.fst).Nodup := by
  induction ms generalizing kept with
  | nil => exact h
  | cons m rest ih => exact ih _ (nodup_putMember m.1 m.2 h)

theorem nodup_gather {α : Type} (ms : List (String × α)) :
    ((gather ms).map Prod.fst).Nodup :=
  nodup_foldl_putMember ms [] (by simp)

structure Dict (α : Type) where
  entries : List (String × α)
  nodup : (entries.map Prod.fst).Nodup

namespace Dict

variable {α : Type}

def empty : Dict α := ⟨[], by simp⟩

def ofList (ms : List (String × α)) : Dict α := ⟨gather ms, nodup_gather ms⟩

def keys (d : Dict α) : List String := d.entries.map Prod.fst

theorem ext {a b : Dict α} (h : a.entries = b.entries) : a = b := by
  cases a; cases b; cases h; rfl

instance [DecidableEq α] : DecidableEq (Dict α) := fun a b =>
  if h : a.entries = b.entries then isTrue (ext h) else isFalse fun e => h (e ▸ rfl)

def same [BEq α] (a b : Dict α) : Bool :=
  a.entries.length == b.entries.length &&
    a.entries.all fun m => b.entries.lookup m.1 == some m.2

end Dict

end PearlReport.Json
