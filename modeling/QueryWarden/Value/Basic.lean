import QueryWarden.Calendar.DateTime
import QueryWarden.Number.Decimal
import QueryWarden.Text.Digits

/-!
# Values

A `Value` is a tree of scalars, lists, tuples and mappings, which serves for queries, documents
and answers alike.  A mapping is a list of entries in insertion order; whatever reads or
changes one keeps its keys distinct.  Among the scalars are the native values of the database, for
which plain JSON has no form.
-/

namespace QueryWarden

/-! ## Native values -/

/-- A regular expression with its flags as bits.  Flags that were given by letters are `named`:
the literal lists their names, where it shows other flags as a number. -/
structure Regex where
  pattern : String
  flags : Int
  named : Bool
  deriving DecidableEq

inductive Native where
  | objectId (id : ObjectId)
  | dateTime (d : DateTime)
  | date (d : Date)
  | bytes (data : List UInt8)
  /-- Bytes that say what they hold. -/
  | binary (data : List UInt8) (subtype : Nat)
  | decimal128 (d : Decimal)
  | decimal (d : Decimal)
  | regex (r : Regex)
  | uuid (id : Uuid)
  | timestamp (time increment : Nat)
  | minKey
  | maxKey
  deriving DecidableEq

/-! ## Trees -/

/-- A tree of plain and native values. -/
inductive Value where
  | null
  | bool (b : Bool)
  | int (i : Int)
  | float (x : Double)
  | string (s : String)
  | list (items : List Value)
  /-- A list of the database that no JSON text has. -/
  | tuple (items : List Value)
  | map (entries : List (String × Value))
  | native (n : Native)

/-- The entries of a mapping. -/
abbrev Fields := List (String × Value)

namespace Fields

abbrev get? (fs : Fields) (k : String) : Option Value :=
  fs.lookup k

def has (fs : Fields) (k : String) : Bool :=
  fs.any (·.1 == k)

def keys (fs : Fields) : List String :=
  fs.map (·.1)

/-- Gives a key a value: in the place of the key when it occurs, else at the end. -/
def set : Fields → String → Value → Fields
  | [], k, v => [(k, v)]
  | (k', v') :: fs, k, v => if k' == k then (k, v) :: fs else (k', v') :: set fs k v

/-- The mapping that the entries build one after the other. -/
def ofEntries (es : List (String × Value)) : Fields :=
  es.foldl (fun fs e => set fs e.1 e.2) []

end Fields

namespace Value

def fields? : Value → Option Fields
  | .map fs => some fs
  | _ => none

def items? : Value → Option (List Value)
  | .list vs => some vs
  | _ => none

def string? : Value → Option String
  | .string s => some s
  | _ => none

def isMap (v : Value) : Bool :=
  v.fields?.isSome

def isList (v : Value) : Bool :=
  v.items?.isSome

def isString (v : Value) : Bool :=
  v.string?.isSome

def isNull : Value → Bool
  | .null => true
  | _ => false

/-- The entry of a mapping under a key; other values have no entries. -/
def field? (v : Value) (k : String) : Option Value :=
  v.fields?.bind (·.get? k)

def isEmptyContainer : Value → Bool
  | .list [] => true
  | .map [] => true
  | _ => false

/-! ## Equality -/

mutual

/-- Whether two values are the same tree. -/
def same : Value → Value → Bool
  | .null, .null => true
  | .bool a, .bool b => a == b
  | .int a, .int b => a == b
  | .float a, .float b => a == b
  | .string a, .string b => a == b
  | .list as, .list bs => sameItems as bs
  | .tuple as, .tuple bs => sameItems as bs
  | .map as, .map bs => sameEntries as bs
  | .native a, .native b => a == b
  | _, _ => false

def sameItems : List Value → List Value → Bool
  | [], [] => true
  | a :: as, b :: bs => same a b && sameItems as bs
  | _, _ => false

/-- Whether two mappings hold the same trees under the same keys in the same order. -/
def sameEntries : List (String × Value) → List (String × Value) → Bool
  | [], [] => true
  | (k, a) :: as, (l, b) :: bs => k == l && same a b && sameEntries as bs
  | _, _ => false

end

mutual

theorem same_refl : (a : Value) → same a a = true
  | .null | .bool _ | .int _ | .float _ | .string _ | .native _ => by simp [same]
  | .list as | .tuple as => by rw [same]; exact sameItems_refl as
  | .map as => by rw [same]; exact sameEntries_refl as

theorem sameItems_refl : (as : List Value) → sameItems as as = true
  | [] => rfl
  | a :: as => by rw [sameItems, same_refl a, sameItems_refl as]; rfl

theorem sameEntries_refl : (as : List (String × Value)) → sameEntries as as = true
  | [] => rfl
  | (_, a) :: as => by rw [sameEntries, same_refl a, sameEntries_refl as]; simp

end

mutual

theorem eq_of_same : {a b : Value} → same a b = true → a = b
  | .null, b, h => by cases b <;> simp_all [same]
  | .bool _, b, h => by cases b <;> simp_all [same]
  | .int _, b, h => by cases b <;> simp_all [same]
  | .float _, b, h => by cases b <;> simp_all [same]
  | .string _, b, h => by cases b <;> simp_all [same]
  | .native _, b, h => by cases b <;> simp_all [same]
  | .list as, b, h => by
    cases b with
    | list bs => rw [same] at h; rw [eq_of_sameItems h]
    | _ => simp [same] at h
  | .tuple as, b, h => by
    cases b with
    | tuple bs => rw [same] at h; rw [eq_of_sameItems h]
    | _ => simp [same] at h
  | .map as, b, h => by
    cases b with
    | map bs => rw [same] at h; rw [eq_of_sameEntries h]
    | _ => simp [same] at h

theorem eq_of_sameItems : {as bs : List Value} → sameItems as bs = true → as = bs
  | [], [], _ => rfl
  | [], _ :: _, h => by simp [sameItems] at h
  | _ :: _, [], h => by simp [sameItems] at h
  | a :: as, b :: bs, h => by
    rw [sameItems, Bool.and_eq_true] at h
    rw [eq_of_same h.1, eq_of_sameItems h.2]

theorem eq_of_sameEntries :
    {as bs : List (String × Value)} → sameEntries as bs = true → as = bs
  | [], [], _ => rfl
  | [], _ :: _, h => by simp [sameEntries] at h
  | _ :: _, [], h => by simp [sameEntries] at h
  | (k, a) :: as, (l, b) :: bs, h => by
    rw [sameEntries, Bool.and_eq_true, Bool.and_eq_true, beq_iff_eq] at h
    rw [h.1.1, eq_of_same h.1.2, eq_of_sameEntries h.2]

end

theorem same_iff {a b : Value} : same a b = true ↔ a = b :=
  ⟨eq_of_same, fun h => h ▸ same_refl a⟩

instance : DecidableEq Value := fun a b => decidable_of_iff (same a b = true) same_iff

end Value

end QueryWarden
