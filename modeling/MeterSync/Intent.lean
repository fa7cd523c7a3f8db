import MeterSync.Table
import MeterSync.CellConfig
import MeterSync.Meter

/-!
# Intents

What each cell is meant to hold. A cell without an intent was never asked for, or was given up.
-/

set_option autoImplicit false

namespace MeterSync

/-- A meter that was asked for, the configuration it resolved to, and the cell it is for. -/
structure Intent where
  meter : Meter
  config : CellConfig
  handle : CellHandle
deriving DecidableEq, Repr

abbrev IntentStore := CellTable Intent

namespace IntentStore

/-- The store with an intent for a cell, in place of an earlier one. -/
def learn (store : IntentStore) (handle : CellHandle) (intent : Intent) : IntentStore :=
  CellTable.put store handle intent

def forget (store : IntentStore) (handle : CellHandle) : IntentStore :=
  CellTable.drop store handle

def lookup (store : IntentStore) (handle : CellHandle) : Option Intent :=
  CellTable.find? store handle

@[simp] theorem lookup_empty (handle : CellHandle) : lookup ∅ handle = none :=
  CellTable.find?_empty handle

@[simp] theorem lookup_learn (store : IntentStore) (handle other : CellHandle) (intent : Intent) :
    (store.learn handle intent).lookup other =
      if handle = other then some intent else store.lookup other :=
  CellTable.find?_put store handle other intent

@[simp] theorem lookup_forget (store : IntentStore) (handle other : CellHandle) :
    (store.forget handle).lookup other = if handle = other then none else store.lookup other :=
  CellTable.find?_drop store handle other

end IntentStore

end MeterSync
