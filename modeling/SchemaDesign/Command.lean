import SchemaDesign.Session

/-!
# Commands

The changes that can be asked of a schema, as values.  A command has the same answer on a schema by
itself and in a session, where it is carried over to the database as well.
-/

namespace SchemaDesign

/-- A change that can be asked of a schema. -/
inductive Command where
  | addTable (spec : TableSpec)
  | removeTable (id : TableId)
  | updateTable (id : TableId) (patch : TablePatch)
  | renameTable (id : TableId) (name : String)
  | alterTable (id : TableId) (change : ColumnChange)
  | duplicateTable (id : TableId)
  | insertRow (id : TableId) (row : Row)
  | addRelationship (spec : RelationshipSpec)
  | removeRelationship (id : RelationshipId)
  | addIndex (spec : IndexSpec)
  | removeIndex (id : IndexId)
  | addConstraint (spec : ConstraintSpec)
  | removeConstraint (id : ConstraintId)
  | addUser (spec : UserSpec)
  | removeUser (id : UserId)
  | addPermission (spec : PermissionSpec)
  | removePermission (id : PermissionId)
  | applyFix (finding : Finding)
deriving DecidableEq

/-- What a command answers when it has succeeded. -/
inductive Answer where
  | done
  /-- The identity of what was added or changed. -/
  | id {kind : EntityKind} (id : Id kind)
  | removedTable (table : Table)
  | removedRelationship (relationship : Relationship)
  | removedIndex (index : Index)
  | removedConstraint (constraint : Constraint)
  | removedUser (user : User)
  | removedPermission (permission : Permission)
  /-- What a fix has changed. -/
  | fixed (description : String)
deriving DecidableEq

/-- Carries out a command on a schema by itself. -/
def Edit.perform : Command → Edit (Except SchemaError Answer)
  | .addTable spec => return .ok (.id (← Edit.addTable spec))
  | .removeTable id => return (← Edit.removeTable id).map .removedTable
  | .updateTable id patch => return (← Edit.updateTable id patch).map fun _ => .done
  | .renameTable id name => return (← Edit.renameTable id name).map fun _ => .done
  | .alterTable id change => return (← Edit.alterTable id change).map .id
  | .duplicateTable id => return (← Edit.duplicateTable id).map .id
  | .insertRow id row => return (← Edit.insertRow id row).map fun _ => .done
  | .addRelationship spec => return .ok (.id (← Edit.addRelationship spec))
  | .removeRelationship id => return (← Edit.removeRelationship id).map .removedRelationship
  | .addIndex spec => return .ok (.id (← Edit.addIndex spec))
  | .removeIndex id => return (← Edit.removeIndex id).map .removedIndex
  | .addConstraint spec => return .ok (.id (← Edit.addConstraint spec))
  | .removeConstraint id => return (← Edit.removeConstraint id).map .removedConstraint
  | .addUser spec => return .ok (.id (← Edit.addUser spec))
  | .removeUser id => return (← Edit.removeUser id).map .removedUser
  | .addPermission spec => return .ok (.id (← Edit.addPermission spec))
  | .removePermission id => return (← Edit.removePermission id).map .removedPermission
  | .applyFix finding => return (← Edit.applyFix finding).map .fixed

/-- Carries out a command in a session. -/
def SessionM.perform : Command → SessionM (Except SchemaError Answer)
  | .addTable spec => return .ok (.id (← SessionM.addTable spec))
  | .removeTable id => return (← SessionM.removeTable id).map .removedTable
  | .updateTable id patch => return (← SessionM.updateTable id patch).map fun _ => .done
  | .renameTable id name => return (← SessionM.renameTable id name).map fun _ => .done
  | .alterTable id change => return (← SessionM.alterTable id change).map .id
  | .duplicateTable id => return (← SessionM.duplicateTable id).map .id
  | .insertRow id row => return (← SessionM.insertRow id row).map fun _ => .done
  | .addRelationship spec => return .ok (.id (← SessionM.addRelationship spec))
  | .removeRelationship id => return (← SessionM.removeRelationship id).map .removedRelationship
  | .addIndex spec => return .ok (.id (← SessionM.addIndex spec))
  | .removeIndex id => return (← SessionM.removeIndex id).map .removedIndex
  | .addConstraint spec => return .ok (.id (← SessionM.addConstraint spec))
  | .removeConstraint id => return (← SessionM.removeConstraint id).map .removedConstraint
  | .addUser spec => return .ok (.id (← SessionM.addUser spec))
  | .removeUser id => return (← SessionM.removeUser id).map .removedUser
  | .addPermission spec => return .ok (.id (← SessionM.addPermission spec))
  | .removePermission id => return (← SessionM.removePermission id).map .removedPermission
  | .applyFix finding => return (← SessionM.applyFix finding).map .fixed

end SchemaDesign
