import LeadFlow.Decimal.Binary

set_option autoImplicit false

/-!
# Value: free-form data

Leads, step settings and stored columns carry data whose shape nobody fixes in advance.  A `Value`
is such data: null, a truth value, a whole number, a double, text, a list, or an object whose
fields keep their order.  Whole numbers and doubles are told apart.
-/

namespace LeadFlow

/-- Free-form data. -/
inductive Value where
  | null
  | bool (b : Bool)
  | int (n : Int)
  | float (x : Float)
  | str (s : String)
  | list (items : List Value)
  | object (fields : List (String × Value))
  deriving Repr, Inhabited

/-- The fields of an object, in order. -/
abbrev Fields := List (String × Value)

namespace Fields

/-- The value under a key. -/
def get? (fields : Fields) (key : String) : Option Value := fields.lookup key

/-- The key is present. -/
def has (fields : Fields) (key : String) : Bool := (fields.get? key).isSome

/-- Puts a value under a key: in place if the key is present, at the end otherwise. -/
def put (key : String) (v : Value) : Fields → Fields
  | [] => [(key, v)]
  | (k, w) :: rest => if k = key then (k, v) :: rest else (k, w) :: put key v rest

/-- The fields without those keys. -/
def without (fields : Fields) (keys : List String) : Fields :=
  fields.filter fun f => !keys.contains f.1

/-- The value under the first of the keys that is present. -/
def first? (fields : Fields) : List String → Option (String × Value)
  | [] => none
  | k :: ks =>
    match fields.get? k with
    | some v => some (k, v)
    | none => first? fields ks

theorem get?_put_self (key : String) (v : Value) (fields : Fields) :
    (put key v fields).get? key = some v := by
  induction fields with
  | nil => simp [put, get?]
  | cons f rest ih =>
    obtain ⟨k, w⟩ := f
    by_cases h : k = key
    · subst h; simp [put, get?]
    · have h' : ¬ key = k := fun e => h e.symm
      simp only [put, if_neg h, get?, List.lookup_cons]
      simpa [beq_false_of_ne h', get?] using ih

theorem get?_put_of_ne {key other : String} (h : other ≠ key) (v : Value) (fields : Fields) :
    (put key v fields).get? other = fields.get? other := by
  induction fields with
  | nil => simp [put, get?, beq_false_of_ne h, List.lookup_cons]
  | cons f rest ih =>
    obtain ⟨k, w⟩ := f
    by_cases hk : k = key
    · subst hk; simp [put, get?, List.lookup_cons, beq_false_of_ne h]
    · by_cases ho : other = k
      · subst ho; simp [put, hk, get?]
      · simpa [put, if_neg hk, get?, List.lookup_cons, beq_false_of_ne ho] using ih

end Fields

namespace Value

/-- The name of the kind of a value. -/
def kindName : Value → String
  | null => "NoneType"
  | bool _ => "bool"
  | int _ => "int"
  | float _ => "float"
  | str _ => "str"
  | list _ => "list"
  | object _ => "dict"

/-- Empty or zero values are false, all others true. -/
def isTruthy : Value → Bool
  | null => false
  | bool b => b
  | int n => n != 0
  | float x => x != 0
  | str s => s != ""
  | list xs => !xs.isEmpty
  | object fs => !fs.isEmpty

/-- There is no value. -/
def isNull : Value → Bool
  | null => true
  | _ => false

/-- The fields of an object. -/
def fields? : Value → Option Fields
  | object fs => some fs
  | _ => none

/-- The text of a string. -/
def text? : Value → Option String
  | str s => some s
  | _ => none

/-- A text, or null in its absence. -/
def ofText? (s : Option String) : Value := (s.map str).getD null

/-- A whole number. -/
def ofNat (n : Nat) : Value := int n

end Value

/-- A number: whole or a double. -/
inductive Num where
  | int (n : Int)
  | float (x : Float)
  deriving Repr, Inhabited, BEq, DecidableEq

namespace Num

/-- The number as a value. -/
def toValue : Num → Value
  | int n => .int n
  | float x => .float x

/-- The number of a value; truth values count as one and zero. -/
def ofValue? : Value → Option Num
  | .int n => some (.int n)
  | .float x => some (.float x)
  | .bool b => some (.int (if b then 1 else 0))
  | _ => none

/-- A number on the exact line: a fraction, an infinity, or nothing for NaN. -/
inductive Exact where
  | fraction (num : Int) (den : Nat)
  | infinity (negative : Bool)
  | nan

/-- The exact place of a number. -/
def exact : Num → Exact
  | int n => .fraction n 1
  | float x =>
    match Decimal.ratio? x with
    | some (n, d) => .fraction n d
    | none => if x.isNaN then .nan else .infinity (Decimal.isNegative x)

/-- Exact order of numbers, whole or not; NaN is in no relation. -/
def le (a b : Num) : Bool :=
  match a.exact, b.exact with
  | .fraction n d, .fraction m e => n * e ≤ m * d
  | .fraction .., .infinity neg => !neg
  | .infinity neg, .fraction .. => neg
  | .infinity neg, .infinity neg' => neg || !neg'
  | _, _ => false

/-- Equality of numbers by value: `1` equals `1.0`. -/
def same (a b : Num) : Bool := a.le b && b.le a

end Num

namespace Value

mutual
/-- Equality by content: numbers by value, objects whatever the order of their fields. -/
def same : Value → Value → Bool
  | null, null => true
  | str s, str t => s == t
  | list xs, list ys => sameList xs ys
  | object fs, object gs => fs.length == gs.length && sameFields fs gs
  | bool b, w => sameNum (.int (if b then 1 else 0)) w
  | int n, w => sameNum (.int n) w
  | float x, w => sameNum (.float x) w
  | _, _ => false

/-- Equality of lists, item by item. -/
def sameList : List Value → List Value → Bool
  | [], [] => true
  | x :: xs, y :: ys => same x y && sameList xs ys
  | _, _ => false

/-- Every field of the first is in the second with an equal value. -/
def sameFields : List (String × Value) → List (String × Value) → Bool
  | [], _ => true
  | (k, v) :: fs, gs =>
    (match gs.lookup k with
      | some w => same v w
      | none => false) && sameFields fs gs

/-- The value is a number equal to `a`. -/
def sameNum (a : Num) (w : Value) : Bool :=
  match Num.ofValue? w with
  | some b => a.same b
  | none => false
end

instance : BEq Value := ⟨same⟩

mutual
/-- No double in the value is infinite or NaN. -/
def isFinite : Value → Bool
  | float x => x.isFinite
  | list xs => areFinite xs
  | object fs => fieldsAreFinite fs
  | _ => true

/-- No double in the items is infinite or NaN. -/
def areFinite : List Value → Bool
  | [] => true
  | x :: xs => x.isFinite && areFinite xs

/-- No double in the fields is infinite or NaN. -/
def fieldsAreFinite : List (String × Value) → Bool
  | [] => true
  | (_, v) :: fs => v.isFinite && fieldsAreFinite fs
end

end Value

end LeadFlow
