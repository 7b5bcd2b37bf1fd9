import Mathlib.Algebra.Group.Nat.Defs
import Mathlib.Data.List.Basic

/-!
# JSON values and the settings kept in them

`merge` puts the members of an update into a value; what the update does not name stays. A
`Setting` is a type whose values are read back from what is written of them; a record reads its
members one by one, where a missing one takes its default.
-/

namespace StreamBox.Lib

/-- A JSON value. A number with a fraction is `float`: no setting takes one. -/
inductive Json
  | null
  | bool (b : Bool)
  | int (n : Int)
  | float
  | str (s : String)
  | arr (items : List Json)
  | obj (members : List (String × Json))

namespace Json

def get? : Json → String → Option Json
  | .obj members, key => members.lookup key
  | _, _ => none

/-- Writes a member, in the place of one with its name. -/
def insert (key : String) (value : Json) : List (String × Json) → List (String × Json)
  | [] => [(key, value)]
  | (k, v) :: rest => if k = key then (k, value) :: rest else (k, v) :: insert key value rest

mutual

/-- Members of objects are merged, any other value is replaced. -/
def merge : Json → Json → Json
  | .obj base, .obj updates => .obj (mergeMembers base updates)
  | _, updates => updates

def mergeMembers (base : List (String × Json)) : List (String × Json) → List (String × Json)
  | [] => base
  | (key, value) :: rest =>
    mergeMembers (insert key
      (match base.lookup key with
        | some old => merge old value
        | none => value) base) rest

end

end Json

/-! ## Settings -/

/-- A value of the type is read back from what is written of it. -/
class Setting (α : Type) where
  toJson : α → Json
  ofJson : Json → Option α
  ofJson_toJson : ∀ a, ofJson (toJson a) = some a

export Setting (toJson ofJson ofJson_toJson)

attribute [simp] ofJson_toJson

instance : Setting Bool where
  toJson := .bool
  ofJson
    | .bool b => some b
    | _ => none
  ofJson_toJson _ := rfl

instance : Setting String where
  toJson := .str
  ofJson
    | .str s => some s
    | _ => none
  ofJson_toJson _ := rfl

instance : Setting (Option String) where
  toJson
    | some s => .str s
    | none => .null
  ofJson
    | .str s => some (some s)
    | .null => some none
    | _ => none
  ofJson_toJson a := by cases a <;> rfl

instance : Setting (List String) where
  toJson items := .arr (items.map .str)
  ofJson
    | .arr items => items.mapM ofJson
    | _ => none
  ofJson_toJson items := by
    show (items.map Json.str).mapM ofJson = some items
    induction items with
    | nil => rfl
    | cons item rest ih =>
      rw [List.map_cons, List.mapM_cons, ih]
      rfl

/-- A natural number below the bound. -/
def Json.nat (bound : Nat) : Json → Option Nat
  | .int n => if 0 ≤ n ∧ n < bound then some n.toNat else none
  | _ => none

theorem Json.nat_int {bound n : Nat} (h : n < bound) :
    Json.nat bound (.int (n : Int)) = some n := by
  have hlt : (n : Int) < bound := by exact_mod_cast h
  simp [Json.nat, hlt]

instance : Setting UInt16 where
  toJson n := .int n.toNat
  ofJson json := (json.nat (2 ^ 16)).map UInt16.ofNat
  ofJson_toJson n := by
    rw [Json.nat_int n.toNat_lt]
    simp

instance : Setting UInt32 where
  toJson n := .int n.toNat
  ofJson json := (json.nat (2 ^ 32)).map UInt32.ofNat
  ofJson_toJson n := by
    rw [Json.nat_int n.toNat_lt]
    simp

instance : Setting UInt64 where
  toJson n := .int n.toNat
  ofJson json := (json.nat (2 ^ 64)).map UInt64.ofNat
  ofJson_toJson n := by
    rw [Json.nat_int n.toNat_lt]
    simp

/-- A variant without data, by its name or as the one member of an object. -/
def Json.variant {α : Type} (names : List (String × α)) : Json → Option α
  | .str name | .obj [(name, .null)] => names.lookup name
  | _ => none

/-- The members of a record, which may be given in their order. -/
def Json.record (names : List String) : Json → Option (List (String × Json))
  | .obj members => some members
  | .arr items => if items.length ≤ names.length then some (names.zip items) else none
  | _ => none

/-! ## Records -/

/-- A member of the record: how it is written, and read into a record. -/
structure Field (σ : Type) where
  name : String
  write : σ → Json
  read : σ → Json → Option σ
  /-- The member has no default. -/
  required : Bool := false

variable {σ α : Type}

def Field.of [Setting α] (name : String) (get : σ → α) (set : σ → α → σ) : Field σ where
  name := name
  write := toJson ∘ get
  read s json := (ofJson json).map (set s)

/-- A member that has to be there. -/
def Field.must [Setting α] (name : String) (get : σ → α) (set : σ → α → σ) : Field σ :=
  { Field.of name get set with required := true }

/-- Reads one member of the record. -/
def Field.readFrom (members : List (String × Json)) (s : σ) (f : Field σ) : Option σ :=
  match members.lookup f.name with
  | some value => f.read s value
  | none => if f.required then none else some s

def Json.ofRecord (fields : List (Field σ)) (s : σ) : Json :=
  .obj (fields.map fun f => (f.name, f.write s))

def Json.readRecord (fields : List (Field σ)) (default : σ) (json : Json) : Option σ :=
  (json.record (fields.map (·.name))).bind fun members =>
    fields.foldlM (Field.readFrom members) default

theorem lookup_written {fields : List (Field σ)} (hnodup : (fields.map (·.name)).Nodup)
    {f : Field σ} (hf : f ∈ fields) (s : σ) :
    (fields.map fun f => (f.name, f.write s)).lookup f.name = some (f.write s) := by
  induction fields with
  | nil => cases hf
  | cons g rest ih =>
    rw [List.map_cons, List.nodup_cons] at hnodup
    rw [List.map_cons, List.lookup_cons]
    rcases List.mem_cons.mp hf with rfl | hf
    · simp
    · have hne : f.name ≠ g.name := by
        intro heq
        exact hnodup.1 (heq ▸ List.mem_map_of_mem hf)
      rw [beq_eq_false_iff_ne.mpr hne]
      exact ih hnodup.2 hf

/-- What is written of a record is read member by member. -/
theorem readRecord_ofRecord {fields : List (Field σ)} (hnodup : (fields.map (·.name)).Nodup)
    (default s : σ) : Json.readRecord fields default (.ofRecord fields s) =
      fields.foldlM (fun t f => f.read t (f.write s)) default := by
  have hread : ∀ (rest : List (Field σ)) (t : σ), (∀ f ∈ rest, f ∈ fields) →
      rest.foldlM (Field.readFrom (fields.map fun f => (f.name, f.write s))) t =
        rest.foldlM (fun t f => f.read t (f.write s)) t := by
    intro rest
    induction rest with
    | nil =>
      intro t _
      rfl
    | cons f rest ih =>
      intro t hrest
      rw [List.foldlM_cons, List.foldlM_cons, Field.readFrom,
        lookup_written hnodup (hrest f List.mem_cons_self)]
      exact bind_congr fun u => ih u fun g hg => hrest g (List.mem_cons_of_mem f hg)
  exact hread fields default fun _ hf => hf

/-- A record all of whose members are written, and which is read from them. -/
@[reducible] def Setting.record (fields : List (Field σ)) (default : σ)
    (hnodup : (fields.map (·.name)).Nodup)
    (hread : ∀ s, fields.foldlM (fun t f => f.read t (f.write s)) default = some s) :
    Setting σ where
  toJson := Json.ofRecord fields
  ofJson := Json.readRecord fields default
  ofJson_toJson s := by rw [readRecord_ofRecord hnodup, hread]

end StreamBox.Lib
