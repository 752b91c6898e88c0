import Dialog.Draft

namespace Dialog.Script

/-!
# Scripts from texts

The records of a text become nodes one by one, in order, and the nodes become a
script. A script that can be played has a node for a session to start at.
-/

/-- The script that drafts describe. -/
def ofDrafts (drafts : List Draft) : Except LoadFault Script := do
  let nodes ← drafts.mapM Draft.node
  (ofNodes nodes).mapError .unusable

/-- The script that records describe. -/
def ofRecords (records : List Record) : Except LoadFault Script :=
  ofDrafts (records.map Record.draft)

/-- The script that a text describes; it may be empty. -/
def read (text : String) : Except LoadFault Script := do
  let records ← (Record.readAll text).mapError .grammar
  ofRecords records

/-- The script itself, when it has a node for a session to start at. -/
def playable (script : Script) : Except LoadFault Script :=
  if script.size = 0 then .error .empty else .ok script

/-- The script that a text describes, which must be playable. -/
def load (text : String) : Except LoadFault Script := do
  (← read text).playable

end Dialog.Script
