import SchemaDesign.Schema.Edit

/-!
# A small schema

The tables of a blog: users, their posts, and the comments on them.
-/

namespace SchemaDesign.Demo

/-- A place on the drawing. -/
def place (x y : Nat) : Option Position :=
  some { x := .ofNat x, y := .ofNat y }

/-- A nullable column. -/
def column (name dataType : String) : ColumnSpec :=
  { name, dataType }

/-- The people who write. -/
def users : TableSpec where
  name := "users"
  position := place 100 100
  columns :=
    [(column "id" "INT").primaryKey,
      (column "username" "VARCHAR(255)").notNull.unique,
      (column "email" "VARCHAR(255)").notNull.unique,
      (column "created_at" "TIMESTAMP").notNull]

/-- What they publish. -/
def posts : TableSpec where
  name := "posts"
  position := place 400 100
  columns :=
    [(column "id" "INT").primaryKey,
      (column "user_id" "INT").notNull.indexed,
      (column "title" "VARCHAR(255)").notNull,
      column "content" "TEXT",
      (column "created_at" "TIMESTAMP").notNull]

/-- What is said about a post. -/
def comments : TableSpec where
  name := "comments"
  position := place 400 400
  columns :=
    [(column "id" "INT").primaryKey,
      (column "post_id" "INT").notNull.indexed,
      (column "user_id" "INT").notNull.indexed,
      (column "content" "TEXT").notNull]

/-- Relates a named column to the primary key of another table. -/
def link (source : TableId) (columnName : String) (target : TableId) (name : String) :
    Edit Unit := do
  let schema ← Edit.current
  let sourceColumn := (schema.table? source).bind fun table => table.columnNamed? columnName
  let targetColumn := (schema.table? target).bind Table.primaryKey?
  match sourceColumn, targetColumn with
  | some sourceColumn, some targetColumn =>
      let _ ← Edit.addRelationship
        { name := some name
          sourceTable := source
          sourceColumn := sourceColumn.id
          targetTable := target
          targetColumn := targetColumn.id
          cardinality := .oneToMany }
      return ()
  | _, _ => return ()

/-- Draws the blog into a workspace. -/
def draw : Edit Unit := do
  let usersId ← Edit.addTable users
  let postsId ← Edit.addTable posts
  let commentsId ← Edit.addTable comments
  link postsId "user_id" usersId "fk_posts_user_id"
  link commentsId "post_id" postsId "fk_comments_post_id"
  link commentsId "user_id" usersId "fk_comments_user_id"

/-- The workspace of the blog, made at a given time with identities from a given number on. -/
def workspace (firstId : Nat) (now : Timestamp) : Workspace :=
  (draw.run { schema := .new "blog" now, nextId := firstId, now }).2

end SchemaDesign.Demo
