import SpritexPay.Schema
import SpritexPay.Textual.Like

/-! The settings of the dashboard, one table of keys and values. A page reads the
keys of its group through `LIKE`. -/

set_option autoImplicit false

namespace SpritexPay

open Relational Textual

structure Setting where
  key : String
  value : Option String
  deriving DecidableEq

/-- A row of `settings`. -/
structure SettingRow extends Setting where
  updatedAt : Timestamp
  deriving DecidableEq

instance : Indexed SettingRow := .single fun row => row.key

namespace Settings

/-- `WHERE key LIKE '{group}.%' ORDER BY key` -/
def getGroup (settings : Table SettingRow) (group : String) : List Setting :=
  let pattern := group ++ ".%"
  let found := settings.rows.filter fun row => like pattern.toList row.key.toList
  (found.map (·.toSetting)).mergeSort fun left right => decide (left.key ≤ right.key)

def get (settings : Table SettingRow) (key : String) : Option String :=
  (settings.find? (·.key == key)).bind (·.value)

/-- Insert a setting, or overwrite the one that has the key. -/
def set (now : Timestamp) (key value : String) (settings : Table SettingRow) : Table SettingRow :=
  match settings.insert? ⟨⟨key, some value⟩, now⟩ with
  | some inserted => inserted
  | none => settings.update (·.key == key) fun row =>
      { row with value := some value, updatedAt := now }

end Settings

end SpritexPay
