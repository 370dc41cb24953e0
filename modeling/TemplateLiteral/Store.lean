import TemplateLiteral.Data.Written
import TemplateLiteral.Diagnostic.Basic

/-!
# Stores

The values that a template is rendered with, each under a key. The keys are in the order in
which they were first inserted, and no key occurs twice.

What is to be stored may refuse to become data. An insertion then fails and changes nothing.

## Main definitions

* `Refusal`: why something does not become data
* `Store`, `Store.keys`, `Store.get?`
* `Store.tryInsert`, `Store.insert`: an insertion that may fail
* `Store.ofData`, `Store.ofSerialized`: a whole store at once
* `Store.same`: equality of stores
-/

namespace TemplateLiteral

/-- Why something does not become data. -/
inductive Refusal where
  /-- A number needs more than 64 bits. -/
  | numberOutOfRange
  /-- A key is not a text. -/
  | keyNotText
  /-- The reason is its own. -/
  | custom (message : String)
deriving DecidableEq, Repr

/-- The message of a refusal. -/
def Refusal.message : Refusal → String
  | .numberOutOfRange => "number out of range"
  | .keyNotText => "key must be a string"
  | .custom message => message

/-- What is to be stored: data, or a refusal. -/
abbrev Serialized := Except Refusal Data

/-- The values that a template is rendered with. -/
structure Store where
  /-- The keys with their values, in order of first insertion. -/
  fields : List (String × Data)
  /-- No key occurs twice. -/
  distinct : (Fields.keys fields).Nodup

namespace Store

/-- The store that holds nothing. -/
def empty : Store :=
  ⟨[], by simp [Fields.keys]⟩

instance : Inhabited Store := ⟨empty⟩

/-- The keys, in order of first insertion. -/
def keys (store : Store) : List String :=
  Fields.keys store.fields

/-- The value of a key. -/
def get? (store : Store) (key : String) : Option Data :=
  Fields.get? key store.fields

/-- The number of keys. -/
def size (store : Store) : Nat :=
  store.fields.length

/-- The store holds nothing. -/
def isEmpty (store : Store) : Bool :=
  store.fields.isEmpty

/-- The store after a key is given a value. -/
def put (store : Store) (key : String) (value : Data) : Store :=
  ⟨Fields.insert key value store.fields, Fields.nodup_keys_insert store.distinct key value⟩

/-- The store with the given fields; of several with one key the last counts. -/
def ofFields (fields : List (String × Data)) : Store :=
  ⟨Fields.ofList fields, Fields.nodup_keys_ofList fields⟩

/-- The two hold equal values under the same keys. -/
def same (a b : Store) : Bool :=
  Data.same (.object a.fields) (.object b.fields)

/-! ## What may fail -/

/-- The store that an insertion leaves, and what it reports if it fails. It fails if the value
refuses, and then it leaves the store as it was. -/
def tryInsert (store : Store) (key : String) : Serialized → Store × Option Diagnostic
  | .ok value => (store.put key value, none)
  | .error refusal => (store, some
      { kind := .serialization
        reason := "value for `" ++ key ++ "` is unserializable"
        help := refusal.message })

/-- The store handed on by an insertion, if that does not fail. -/
def insert (store : Store) (key : String) (value : Serialized) : Except Diagnostic Store :=
  match store.tryInsert key value with
  | (changed, none) => .ok changed
  | (_, some d) => .error d

/-- The store whose fields are those of an object. -/
def ofData : Data → Except Diagnostic Store
  | .object fields => .ok (ofFields fields)
  | data => .error
      { kind := .serialization
        reason := "values must serialize to a map"
        help := "found `" ++ data.written ++ "`, wrap it in a map with a key" }

/-- The store of something that may refuse to become data. -/
def ofSerialized : Serialized → Except Diagnostic Store
  | .ok data => ofData data
  | .error refusal => .error
      { kind := .serialization
        reason := "value is unserializable"
        help := refusal.message }

end Store

end TemplateLiteral
