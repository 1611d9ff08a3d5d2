import BrainV2.Lib.Binary64
import BrainV2.Lib.Dict

/-!
# JSON values

* `Json`: the values a JSON text can hold, integers kept apart from reals;
* `Dialect`: what a reader accepts beyond the grammar;
* `Json.WF`: the values a reader of a dialect can return, nested at most
  `depth` deep.
-/

namespace BrainV2

open Binary64 (Double)

inductive Json where
  | null
  | bool (b : Bool)
  | int (n : Int)
  | real (x : Double)
  | str (s : String)
  | arr (items : List Json)
  | obj (members : List (String × Json))

namespace Json

/-- What a reader accepts: how deep containers may nest, how many digits an
integer may have, and whether NaN and the infinities are words. -/
structure Dialect where
  maxDepth : Option Nat
  maxIntDigits : Option Nat
  nonFinite : Bool

def Dialect.fits (d : Dialect) (depth : Nat) : Bool :=
  match d.maxDepth with
  | none => true
  | some most => depth ≤ most

def Dialect.fitsDigits (d : Dialect) (digits : Nat) : Bool :=
  match d.maxIntDigits with
  | none => true
  | some most => digits ≤ most

def Dialect.fitsReal (d : Dialect) : Double → Bool
  | .finite _ => true
  | _ => d.nonFinite

mutual

/-- How deep the containers of a value nest. -/
def depth : Json → Nat
  | .arr items => depthItems items + 1
  | .obj members => depthMembers members + 1
  | _ => 0

def depthItems : List Json → Nat
  | [] => 0
  | j :: rest => max j.depth (depthItems rest)

def depthMembers : List (String × Json) → Nat
  | [] => 0
  | (_, j) :: rest => max j.depth (depthMembers rest)

end

mutual

/-- Well formed: keys are distinct, integers and reals are ones the dialect has. -/
def WF (d : Dialect) : Json → Prop
  | .int n => d.fitsDigits (Nat.toDigits 10 n.natAbs).length = true
  | .real x => d.fitsReal x = true
  | .arr items => WFItems d items
  | .obj members => (Dict.keys members).Nodup ∧ WFMembers d members
  | _ => True

def WFItems (d : Dialect) : List Json → Prop
  | [] => True
  | j :: rest => j.WF d ∧ WFItems d rest

def WFMembers (d : Dialect) : List (String × Json) → Prop
  | [] => True
  | (_, j) :: rest => j.WF d ∧ WFMembers d rest

end

theorem wfItems_iff {d : Dialect} {items : List Json} :
    WFItems d items ↔ ∀ j ∈ items, j.WF d := by
  induction items with
  | nil => simp [WFItems]
  | cons j rest ih => simp [WFItems, ih]

theorem wfMembers_iff {d : Dialect} {members : List (String × Json)} :
    WFMembers d members ↔ ∀ kv ∈ members, kv.2.WF d := by
  induction members with
  | nil => simp [WFMembers]
  | cons kv rest ih => simp [WFMembers, ih]

theorem depthMembers_le_iff {members : List (String × Json)} {n : Nat} :
    depthMembers members ≤ n ↔ ∀ kv ∈ members, kv.2.depth ≤ n := by
  induction members with
  | nil => simp [depthMembers]
  | cons kv rest ih => simp [depthMembers, ih]

end Json

end BrainV2
