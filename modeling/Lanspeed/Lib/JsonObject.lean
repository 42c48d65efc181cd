import Lanspeed.Lib.Keyed
import Mathlib.Data.Int.Notation

/-!
# JSON values as a C library holds them

An object is a list of fields in the order in which their names were first added. Adding a value
under a name replaces the value that the object has there, and is a new field at the end where it
has none. A value that is no object has no fields, and adding to it does nothing.
-/

/-- A JSON value over texts of type `T`. -/
inductive JsonValue (T : Type*) where
  | null
  | boolean (b : Bool)
  | int (n : ℤ)
  | double (literal : T)
  | string (s : T)
  | array (items : List (JsonValue T))
  | object (fields : List (T × JsonValue T))

namespace JsonValue

variable {T : Type*} [DecidableEq T]

/-- The value of a field (`json_object_object_get_ex`). -/
def get? (name : T) : JsonValue T → Option (JsonValue T)
  | .object fields => (Keyed.lookup Prod.fst name fields).map Prod.snd
  | _ => none

/-- Add a field to a list of fields, or replace its value there. -/
def addField (name : T) (v : JsonValue T) (fields : List (T × JsonValue T)) :
    List (T × JsonValue T) :=
  match Keyed.lookup Prod.fst name fields with
  | some _ => Keyed.modify Prod.fst name (fun field => (field.1, v)) fields
  | none => fields ++ [(name, v)]

/-- Add a field to an object (`json_object_object_add`). -/
def add (obj : JsonValue T) (field : T × JsonValue T) : JsonValue T :=
  match obj with
  | .object fields => .object (addField field.1 field.2 fields)
  | v => v

/-- Add fields to an object, one after the other. -/
def addAll (obj : JsonValue T) (fields : List (T × JsonValue T)) : JsonValue T :=
  fields.foldl add obj

/-- The text of a value (`json_object_get_string`): a string as it is, another value as it is
printed, and nothing for null. -/
def text? (print : JsonValue T → T) : JsonValue T → Option T
  | .null => none
  | .string s => some s
  | v => some (print v)

/-- The number of an integer value. -/
def int? : JsonValue T → Option ℤ
  | .int n => some n
  | _ => none

/-- A value that has fields is an object. -/
theorem exists_fields_of_get? {obj v : JsonValue T} {name : T} (h : obj.get? name = some v) :
    ∃ fields, obj = .object fields := by
  cases obj with
  | object fields => exact ⟨fields, rfl⟩
  | _ => exact absurd h (by simp [get?])

/-- A field that is added replaces the one of its name and leaves the others as they are. -/
theorem lookup_addField (name name' : T) (v : JsonValue T) (fields : List (T × JsonValue T)) :
    (Keyed.lookup Prod.fst name' (addField name v fields)).map Prod.snd =
      if name = name' then some v else (Keyed.lookup Prod.fst name' fields).map Prod.snd := by
  rw [addField]
  cases hfound : Keyed.lookup Prod.fst name fields with
  | some field =>
    have hkeep : ∀ field : T × JsonValue T, Prod.fst (field.1, v) = field.1 := fun _ => rfl
    dsimp only
    rw [Keyed.lookup_modify hkeep, hfound]
    split_ifs
    · rfl
    · rfl
  | none =>
    dsimp only
    have hfresh : Keyed.lookup Prod.fst (Prod.fst (name, v)) fields = none := hfound
    rw [Keyed.lookup_append_fresh hfresh]
    by_cases hname : name = name'
    · rw [if_pos hname, if_pos hname]
      rfl
    · rw [if_neg hname, if_neg hname]

/-- A field is seen under its own name, and under no other. -/
theorem get?_add_object (fields : List (T × JsonValue T)) (field : T × JsonValue T) (name : T) :
    ((JsonValue.object fields).add field).get? name =
      if field.1 = name then some field.2 else (JsonValue.object fields).get? name :=
  lookup_addField field.1 name field.2 fields

/-- Adding a field leaves those of other names as they are. -/
theorem get?_add_of_ne (obj : JsonValue T) {field : T × JsonValue T}
    {name : T} (h : field.1 ≠ name) :
    (obj.add field).get? name = obj.get? name := by
  cases obj with
  | object fields => rw [get?_add_object, if_neg h]
  | _ => rfl

/-- The fields that are added leave the others as they are. -/
theorem get?_addAll_of_notMem (obj : JsonValue T) {fields : List (T × JsonValue T)} {name : T}
    (h : name ∉ fields.map Prod.fst) : (obj.addAll fields).get? name = obj.get? name := by
  induction fields generalizing obj with
  | nil => rfl
  | cons field fields ih =>
    rw [List.map_cons, List.mem_cons, not_or] at h
    rw [addAll, List.foldl_cons, ← addAll, ih _ h.2, get?_add_of_ne _ (Ne.symm h.1)]

/-- Under distinct names, every field that is added to an object has its value then. -/
theorem get?_addAll_of_mem {obj : JsonValue T} (hobj : ∃ fields, obj = .object fields)
    {fields : List (T × JsonValue T)} (hnodup : (fields.map Prod.fst).Nodup)
    {name : T} {v : JsonValue T}
    (h : (name, v) ∈ fields) : (obj.addAll fields).get? name = some v := by
  induction fields generalizing obj with
  | nil => exact absurd h List.not_mem_nil
  | cons field fields ih =>
    obtain ⟨old, rfl⟩ := hobj
    rw [List.map_cons, List.nodup_cons] at hnodup
    rw [addAll, List.foldl_cons, ← addAll]
    rcases List.mem_cons.mp h with rfl | hrest
    · rw [get?_addAll_of_notMem _ hnodup.1, get?_add_object, if_pos rfl]
    · exact ih ⟨_, rfl⟩ hnodup.2 hrest

end JsonValue
