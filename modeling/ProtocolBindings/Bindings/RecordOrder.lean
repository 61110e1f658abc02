import ProtocolBindings.Model.Basic

/-!
# Order of the record classes

A class is written after its base, if the base is a record of the model, and the
records keep their order otherwise.  On a cycle of bases the record at which the
cycle is entered comes last.
-/

namespace ProtocolBindings.Bindings

open Model (Record)

/-- The last record of a name. -/
def recordOfName? (records : List Record) (name : Text) : Option Record :=
  records.reverse.find? fun record => record.name = name

/-- The record that is the base of a record; a missing base counts as empty. -/
def baseRecord? (records : List Record) (record : Record) : Option Record :=
  recordOfName? records (record.base.getD "")

/-- Append a record to those in order, after its base, unless it is in order
already or its own base is being appended.  The names being appended are distinct
names of records, so their number bounds the rounds. -/
def appendRecord (records : List Record) :
    (rounds : Nat) → (appending : List Text) → (ordered : List Record) → Record →
      List Record
  | 0, _, ordered, _ => ordered
  | rounds + 1, appending, ordered, record =>
      if (ordered.map Record.name).contains record.name || appending.contains record.name then
        ordered
      else
        let ordered := match baseRecord? records record with
          | some base => appendRecord records rounds (record.name :: appending) ordered base
          | none => ordered
        ordered ++ [record]

/-- The records, each after its base. -/
def orderRecords (records : List Record) : List Record :=
  records.foldl (appendRecord records (records.length + 1) []) []

end ProtocolBindings.Bindings
