import CallWire.Json.Double
/-!
This module contains JSON values. An object keeps its members sorted by key, each key once, so that
two objects with the same members are the same value.
-/

namespace CallWire

/-- A JSON number: an integer between `-2^63` and `2^64 - 1`, or a finite binary64 number. -/
inductive Number where
  | int (i : Int)
  | double (d : Double)
  deriving DecidableEq, Repr, Inhabited

inductive Json where
  | null
  | bool (b : Bool)
  | number (n : Number)
  | string (s : String)
  | array (items : List Json)
  | object (members : List (String × Json))
  deriving Repr, Inhabited

namespace Number

def IntRange (i : Int) : Prop := -2 ^ 63 ≤ i ∧ i < 2 ^ 64

instance (i : Int) : Decidable (IntRange i) := inferInstanceAs (Decidable (_ ∧ _))

end Number

namespace Json

mutual

def decEq : (v w : Json) → Decidable (v = w)
  | .null, w => match w with
    | .null => isTrue rfl
    | .bool _ | .number _ | .string _ | .array _ | .object _ => isFalse nofun
  | .bool b, w => match w with
    | .bool c => decidable_of_iff (b = c) (by simp)
    | .null | .number _ | .string _ | .array _ | .object _ => isFalse nofun
  | .number m, w => match w with
    | .number n => decidable_of_iff (m = n) (by simp)
    | .null | .bool _ | .string _ | .array _ | .object _ => isFalse nofun
  | .string s, w => match w with
    | .string t => decidable_of_iff (s = t) (by simp)
    | .null | .bool _ | .number _ | .array _ | .object _ => isFalse nofun
  | .array vs, w => match w with
    | .array ws => @decidable_of_iff _ (vs = ws) (by simp) (decEqItems vs ws)
    | .null | .bool _ | .number _ | .string _ | .object _ => isFalse nofun
  | .object ms, w => match w with
    | .object ns => @decidable_of_iff _ (ms = ns) (by simp) (decEqMembers ms ns)
    | .null | .bool _ | .number _ | .string _ | .array _ => isFalse nofun

def decEqItems : (vs ws : List Json) → Decidable (vs = ws)
  | [], [] => isTrue rfl
  | [], _ :: _ | _ :: _, [] => isFalse nofun
  | v :: vs, w :: ws =>
    @decidable_of_iff _ (v = w ∧ vs = ws) (by simp)
      (@instDecidableAnd _ _ (decEq v w) (decEqItems vs ws))

def decEqMembers : (ms ns : List (String × Json)) → Decidable (ms = ns)
  | [], [] => isTrue rfl
  | [], _ :: _ | _ :: _, [] => isFalse nofun
  | (k, v) :: ms, (l, w) :: ns =>
    @decidable_of_iff _ ((k = l ∧ v = w) ∧ ms = ns) (by simp)
      (@instDecidableAnd _ _ (@instDecidableAnd _ _ _ (decEq v w)) (decEqMembers ms ns))

end

instance : DecidableEq Json := decEq

/-- Members sorted by key: the value of a key replaces an earlier one. -/
def insertMember (key : String) (value : Json) : List (String × Json) → List (String × Json)
  | [] => [(key, value)]
  | (k, v) :: more =>
    if key < k then (key, value) :: (k, v) :: more
    else if key = k then (key, value) :: more
    else (k, v) :: insertMember key value more

def ofMembers (members : List (String × Json)) : Json :=
  .object (members.foldl (fun sorted (k, v) => insertMember k v sorted) [])

def member? (key : String) (members : List (String × Json)) : Option Json :=
  members.lookup key

def ofNat (n : Nat) : Json := .number (.int n)

end Json
end CallWire
