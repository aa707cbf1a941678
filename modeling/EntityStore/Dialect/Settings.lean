import EntityStore.Text.Basic

/-!
# Settings of an embedded database

The settings are read from a tree of named and listed parts.  A record of settings may be given by the names of its
fields, where unknown names are ignored, or as the list of its fields in order.  Fields of the settings that are not
given keep their defaults; an attachment has to give both of its fields.
-/

namespace EntityStore

/-- A tree of settings. -/
inductive SettingTree where
  | null
  | bool (b : Bool)
  | integer (i : Int)
  /-- A number with a fraction or an exponent. -/
  | fraction
  | text (t : Text)
  | list (items : List SettingTree)
  | named (fields : List (Text × SettingTree))
  deriving Nonempty

/-- A database file attached under the name of a schema. -/
structure Attachment where
  schema : Text
  path : Text
  deriving DecidableEq, Repr

/-- How an embedded database is opened. -/
structure LiteSettings where
  path : Text := ":memory:".toList
  attachments : List Attachment := []
  busyTimeoutMs : Nat := 5000
  deriving DecidableEq, Repr

namespace SettingTree

/-- A text. -/
def text? : SettingTree → Option Text
  | .text t => some t
  | _ => none

/-- A number of 64 bits without sign. -/
def number? : SettingTree → Option Nat
  | .integer i => if 0 ≤ i ∧ i < UInt64.size then some i.toNat else none
  | _ => none

/-- A list. -/
def list? : SettingTree → Option (List SettingTree)
  | .list items => some items
  | _ => none

end SettingTree

/-- Reads a field if it is given; its default stands for a field that is not. -/
def readOr {α : Type} (default : α) (read : SettingTree → Option α) : Option SettingTree → Option α
  | none => some default
  | some tree => read tree

/-- Reads an attachment. -/
def Attachment.read? : SettingTree → Option Attachment
  | .list [schema, path] => do pure ⟨← schema.text?, ← path.text?⟩
  | .named fields => do
    let schema ← (← fields.lookup "schema".toList).text?
    let path ← (← fields.lookup "path".toList).text?
    pure ⟨schema, path⟩
  | _ => none

namespace LiteSettings

/-- Reads settings from the fields that are given. -/
def ofFields? (path? attachments? busyTimeout? : Option SettingTree) : Option LiteSettings := do
  let defaults : LiteSettings := {}
  let path ← readOr defaults.path SettingTree.text? path?
  let attachments ← readOr defaults.attachments (fun tree => tree.list?.bind (List.mapM Attachment.read?)) attachments?
  let busyTimeoutMs ← readOr defaults.busyTimeoutMs SettingTree.number? busyTimeout?
  pure ⟨path, attachments, busyTimeoutMs⟩

/-- Reads settings. -/
def read? : SettingTree → Option LiteSettings
  | .list items => if items.length ≤ 3 then ofFields? items[0]? items[1]? items[2]? else none
  | .named fields =>
    ofFields? (fields.lookup "path".toList) (fields.lookup "attach".toList) (fields.lookup "busy_timeout_ms".toList)
  | _ => none

end LiteSettings

end EntityStore
