import Mathlib.Algebra.Ring.Nat
import Mathlib.Data.List.InsertIdx
import SchemaDesign.Proofs.Schema.Consistency

/-!
# Places on the drawing grid

A table that is added without a place gets the place that follows as many places as there are
tables.  As long as only the last table is ever removed this place is free; as soon as another one
is removed, the next table that is added lies on top of the last one.
-/

namespace SchemaDesign

/-! ## Whole numbers in double precision -/

namespace Number.Binary64

/-- The exact value of a number is a natural number. -/
def IsExactly (x : Binary64) (n : Nat) : Prop :=
  x.negative = false ∧ x.magnitude = n * x.unit

theorem IsExactly.unique
    {x : Binary64} {n other : Nat} (isN : x.IsExactly n) (isOther : x.IsExactly other) :
    n = other := by
  have positive : 0 < x.unit := Nat.pow_pos (by decide)
  exact Nat.eq_of_mul_eq_mul_right positive (isN.2.symm.trans isOther.2)

theorem scaleDown_fraction (n : Nat) {bits : Nat} (few : bits ≤ 52) :
    scaleDown n 1 ((bits : Int) - 52) = (n * 2 ^ (52 - bits), 1) := by
  obtain ⟨rest, whole⟩ := Nat.exists_eq_add_of_le few
  cases rest with
  | zero =>
      obtain rfl : bits = 52 := by omega
      rw [Nat.sub_self, Nat.pow_zero, Nat.mul_one]
      rfl
  | succ down =>
      have exponent : (bits : Int) - 52 = .negSucc down := by
        rw [Int.negSucc_eq]
        omega
      have places : 52 - bits = down + 1 := by omega
      rw [exponent, places]
      rfl

section

variable {n : Nat} (positive : 0 < n) (small : n < 2 ^ 53)

include positive small

theorem log2_le : n.log2 ≤ 52 :=
  Nat.le_of_lt_succ ((Nat.log2_lt (Nat.pos_iff_ne_zero.mp positive)).mpr small)

theorem shifted_bounds :
    2 ^ 52 ≤ n * 2 ^ (52 - n.log2) ∧ n * 2 ^ (52 - n.log2) < 2 ^ 53 := by
  have few : n.log2 ≤ 52 := log2_le positive small
  have least : 2 ^ n.log2 * 2 ^ (52 - n.log2) = 2 ^ 52 := by
    rw [← Nat.pow_add, Nat.add_sub_cancel' few]
  have greatest : 2 ^ (n.log2 + 1) * 2 ^ (52 - n.log2) = 2 ^ 53 := by
    have bits : n.log2 + 1 + (52 - n.log2) = 53 := by omega
    rw [← Nat.pow_add, bits]
  rw [← least, ← greatest]
  exact ⟨Nat.mul_le_mul_right _ (Nat.log2_self_le (Nat.pos_iff_ne_zero.mp positive)),
    Nat.mul_lt_mul_of_pos_right Nat.lt_log2_self (Nat.pow_pos (by decide))⟩

theorem exponentOf_eq : exponentOf n 1 = (n.log2 : Int) - 52 := by
  have few : n.log2 ≤ 52 := log2_le positive small
  have guess : (n.log2 : Int) - (Nat.log2 1 : Int) - (precision : Int) + 1 = n.log2 - 52 := by
    have one : Nat.log2 1 = 0 := rfl
    have bits : precision = 53 := rfl
    omega
  have enough : ¬ n * 2 ^ (52 - n.log2) / 1 < Nat.pow 2 (precision - 1) := by
    rw [Nat.div_one, Nat.not_lt]
    exact (shifted_bounds positive small).1
  rw [exponentOf]
  simp only [guess, scaleDown_fraction n few, if_neg enough]
  have bound : leastExponent = -1074 := rfl
  omega

/-- A positive number of at most 53 bits is shifted to 53 bits, and nothing is rounded. -/
theorem ofNat_eq :
    ofNat n =
      { negative := false
        significand := n * 2 ^ (52 - n.log2)
        exponent := (n.log2 : Int) - 52 } := by
  have few : n.log2 ≤ 52 := log2_le positive small
  have rounded : roundedQuotient (n * 2 ^ (52 - n.log2)) 1 = n * 2 ^ (52 - n.log2) := by
    rw [roundedQuotient, Nat.mod_one, Nat.div_one]
    rfl
  have noCarry : n * 2 ^ (52 - n.log2) ≠ Nat.pow 2 precision :=
    Nat.ne_of_lt (shifted_bounds positive small).2
  have inRange : ¬ greatestExponent < (n.log2 : Int) - 52 := by
    have bound : greatestExponent = 971 := rfl
    omega
  rw [ofNat, ofQuotient?, if_neg (Nat.pos_iff_ne_zero.mp positive)]
  simp only [exponentOf_eq positive small, scaleDown_fraction n few, rounded, if_neg noCarry,
    if_neg inRange, Option.getD_some]

end

theorem ofNat_isExactly {n : Nat} (small : n < 2 ^ 53) : (ofNat n).IsExactly n := by
  rcases Nat.eq_zero_or_pos n with rfl | positive
  · refine ⟨rfl, ?_⟩
    have nothing : (ofNat 0).significand = 0 := rfl
    rw [magnitude, nothing, Nat.zero_mul, Nat.zero_mul]
  · have few : n.log2 ≤ 52 := log2_le positive small
    have up : ((n.log2 : Int) - 52).toNat = 0 := by omega
    have down : (-((n.log2 : Int) - 52)).toNat = 52 - n.log2 := by omega
    rw [ofNat_eq positive small]
    refine ⟨rfl, ?_⟩
    simp only [magnitude, unit, up, down]
    exact Nat.mul_one _

theorem ofNat_injective
    {n other : Nat} (small : n < 2 ^ 53) (otherSmall : other < 2 ^ 53)
    (same : ofNat n = ofNat other) : n = other :=
  (same ▸ ofNat_isExactly small).unique (ofNat_isExactly otherSmall)

end Number.Binary64

/-! ## The grid -/

/-- A place of the drawing in exact coordinates. -/
structure GridPlace where
  x : Nat
  y : Nat
deriving DecidableEq

/-- The place with each coordinate as the double precision number nearest to it. -/
def GridPlace.position (place : GridPlace) : Position :=
  { x := .ofNat place.x, y := .ofNat place.y }

/-- The places of the grid by their numbers: four in a row, from left to right. -/
def gridPlace (number : Nat) : GridPlace :=
  { x := 100 + number % 4 * (250 + 50)
    y := 100 + number / 4 * (200 + 50) }

theorem gridPlace_injective : gridPlace.Injective := by
  intro number other same
  have columns : 100 + number % 4 * (250 + 50) = 100 + other % 4 * (250 + 50) :=
    congrArg GridPlace.x same
  have rows : 100 + number / 4 * (200 + 50) = 100 + other / 4 * (200 + 50) :=
    congrArg GridPlace.y same
  omega

theorem Schema.nextPosition_eq_position (schema : Schema) :
    schema.nextPosition = (gridPlace schema.tables.length).position :=
  rfl

/-- Places that are not too far down stay apart when their coordinates are rounded. -/
theorem position_gridPlace_injective
    {number other : Nat} (small : number < 2 ^ 46) (otherSmall : other < 2 ^ 46)
    (same : (gridPlace number).position = (gridPlace other).position) : number = other := by
  have inRange {number : Nat} (small : number < 2 ^ 46) :
      (gridPlace number).x < 2 ^ 53 ∧ (gridPlace number).y < 2 ^ 53 := by
    simp only [gridPlace]
    omega
  apply gridPlace_injective
  rw [GridPlace.mk.injEq]
  exact ⟨Number.Binary64.ofNat_injective (inRange small).1 (inRange otherSmall).1
      (congrArg Position.x same),
    Number.Binary64.ofNat_injective (inRange small).2 (inRange otherSmall).2
      (congrArg Position.y same)⟩

/-! ## Drawings -/

theorem eraseP_eq_eraseIdx_findIdx (isMeant : α → Bool) (xs : List α) :
    xs.eraseP isMeant = xs.eraseIdx (xs.findIdx isMeant) := by
  induction xs with
  | nil => rfl
  | cons x xs ih =>
      rw [List.findIdx_cons]
      cases meant : isMeant x with
      | true => rw [List.eraseP_cons_of_pos meant]; rfl
      | false => rw [List.eraseP_cons_of_neg (by simp [meant]), ih]; rfl

/-- A command adds a table without a place or removes one. -/
def Command.IsOnGrid : Command → Prop
  | .addTable spec => spec.position = none
  | .removeTable _ => True
  | _ => False

/-- The number of the table that a removal finds; it is the number of all tables if it finds
none. -/
def Schema.indexOfTable (schema : Schema) (id : TableId) : Nat :=
  schema.tables.findIdx fun table => table.id == id

/-- A workspace with the exact places at which its tables were put, in the order of the tables. -/
structure Drawing where
  workspace : Workspace
  places : List GridPlace

namespace Drawing

/-- What a command makes of a drawing. -/
def after (drawing : Drawing) (command : Command) : Drawing where
  workspace := drawing.workspace.after command
  places :=
    match command with
    | .addTable _ => drawing.places ++ [gridPlace drawing.workspace.schema.tables.length]
    | .removeTable id =>
        drawing.places.eraseIdx (drawing.workspace.schema.indexOfTable id)
    | _ => drawing.places

theorem workspace_foldl_after (drawing : Drawing) (commands : List Command) :
    (commands.foldl after drawing).workspace =
      commands.foldl Workspace.after drawing.workspace := by
  induction commands generalizing drawing with
  | nil => rfl
  | cons command commands ih => exact ih (drawing.after command)

end Drawing

namespace Workspace

variable (workspace : Workspace)

theorem positions_after_addTable (spec : TableSpec) (unplaced : spec.position = none) :
    (workspace.after (.addTable spec)).schema.tables.map (fun table => table.position) =
      workspace.schema.tables.map (fun table => table.position) ++
        [(gridPlace workspace.schema.tables.length).position] := by
  have run : (workspace.after (.addTable spec)).schema.tables =
      workspace.schema.tables ++ [workspace.newTable spec] := by
    rw [after, Edit.perform, Edit.run_bind, Edit.run_addTable]
    rfl
  rw [run, List.map_append, List.map_singleton, newTable, unplaced, Option.getD_none,
    Schema.nextPosition_eq_position]

theorem positions_after_removeTable (id : TableId) :
    (workspace.after (.removeTable id)).schema.tables.map (fun table => table.position) =
      (workspace.schema.tables.map fun table => table.position).eraseIdx
        (workspace.schema.indexOfTable id) := by
  have erased :
      (workspace.after (.removeTable id)).schema.tables.map (fun table => table.position) =
        (workspace.schema.tables.eraseP fun table => table.id == id).map
          fun table => table.position := by
    cases found : workspace.schema.table? id with
    | none =>
        have unchanged : workspace.after (.removeTable id) = workspace := by
          simp only [after, Edit.perform, Edit.removeTable, Edit.run_bind, Edit.run_current, found]
          rfl
        rw [Schema.table?, List.find?_eq_none] at found
        rw [unchanged, List.eraseP_of_forall_not found]
    | some table =>
        have run : (workspace.after (.removeTable id)).schema.tables =
            (workspace.schema.withoutTable id).tables := by
          simp only [after, Edit.perform, Edit.removeTable, Edit.run_bind, Edit.run_current, found]
          rfl
        rw [run, Schema.withoutTable, Schema.markForeignKeys, List.map_map]
        rfl
  rw [erased, eraseP_eq_eraseIdx_findIdx, ← List.eraseIdx_map]
  rfl

end Workspace

namespace Drawing

/-- The tables of a drawing stand at its places, which are places of the grid up to a number. -/
structure Sound (drawing : Drawing) (bound : Nat) : Prop where
  positions : (drawing.workspace.schema.tables.map fun table => table.position) =
    drawing.places.map GridPlace.position
  few : drawing.places.length ≤ bound
  numbered : ∀ place ∈ drawing.places, ∃ number < bound, place = gridPlace number

variable {drawing : Drawing} {bound : Nat} {command : Command} {commands : List Command}

theorem Sound.length_eq (sound : drawing.Sound bound) :
    drawing.workspace.schema.tables.length = drawing.places.length := by
  have lengths := congrArg List.length sound.positions
  rwa [List.length_map, List.length_map] at lengths

theorem Sound.after (sound : drawing.Sound bound) (onGrid : command.IsOnGrid) :
    (drawing.after command).Sound (bound + 1) := by
  have count : drawing.workspace.schema.tables.length ≤ bound := sound.length_eq ▸ sound.few
  have older (place : GridPlace) (member : place ∈ drawing.places) :
      ∃ number < bound + 1, place = gridPlace number := by
    obtain ⟨number, small, same⟩ := sound.numbered place member
    exact ⟨number, Nat.lt_succ_of_lt small, same⟩
  cases command with
  | addTable spec =>
      constructor
      · have added := drawing.workspace.positions_after_addTable spec onGrid
        rw [Drawing.after, List.map_append, ← sound.positions]
        exact added
      · rw [Drawing.after, List.length_append]
        exact Nat.succ_le_succ sound.few
      · intro place member
        rcases List.mem_append.mp member with old | new
        · exact older place old
        · exact ⟨_, Nat.lt_succ_of_le count, List.mem_singleton.mp new⟩
  | removeTable id =>
      constructor
      · have removed := drawing.workspace.positions_after_removeTable id
        rw [Drawing.after, ← List.eraseIdx_map, ← sound.positions]
        exact removed
      · exact Nat.le_succ_of_le (Nat.le_trans (List.length_eraseIdx_le _ _) sound.few)
      · intro place member
        exact older place (List.mem_of_mem_eraseIdx member)
  | _ => exact onGrid.elim

theorem Sound.foldl_after
    (sound : drawing.Sound bound) (onGrid : ∀ command ∈ commands, command.IsOnGrid) :
    (commands.foldl Drawing.after drawing).Sound (bound + commands.length) := by
  induction commands generalizing drawing bound with
  | nil => exact sound
  | cons command commands ih =>
      obtain ⟨first, others⟩ := List.forall_mem_cons.mp onGrid
      rw [List.foldl_cons, List.length_cons, Nat.add_comm commands.length, ← Nat.add_assoc]
      exact ih (sound.after first) others

/-- The places of the tables and the next place are all distinct. -/
def Apart (drawing : Drawing) : Prop :=
  (drawing.places ++ [gridPlace drawing.workspace.schema.tables.length]).Nodup

theorem Sound.nodup_positions_iff_apart (sound : drawing.Sound bound) (small : bound < 2 ^ 46) :
    ((drawing.workspace.schema.tables.map fun table => table.position) ++
        [drawing.workspace.schema.nextPosition]).Nodup ↔ drawing.Apart := by
  have count : drawing.workspace.schema.tables.length ≤ bound := sound.length_eq ▸ sound.few
  have positions : (drawing.workspace.schema.tables.map fun table => table.position) ++
      [drawing.workspace.schema.nextPosition] =
        (drawing.places ++ [gridPlace drawing.workspace.schema.tables.length]).map
          GridPlace.position := by
    rw [sound.positions, List.map_append]
    rfl
  have numbered : ∀ place ∈ drawing.places ++ [gridPlace drawing.workspace.schema.tables.length],
      ∃ number < 2 ^ 46, place = gridPlace number := by
    intro place member
    rcases List.mem_append.mp member with old | next
    · obtain ⟨number, below, same⟩ := sound.numbered place old
      exact ⟨number, Nat.lt_trans below small, same⟩
    · exact ⟨_, Nat.lt_of_le_of_lt count small, List.mem_singleton.mp next⟩
  rw [positions, Apart]
  refine ⟨List.Nodup.of_map _, fun distinct => distinct.map_on ?_⟩
  intro place member other otherMember same
  obtain ⟨number, below, rfl⟩ := numbered place member
  obtain ⟨otherNumber, otherBelow, rfl⟩ := numbered other otherMember
  exact congrArg gridPlace (position_gridPlace_injective below otherBelow same)

/-- The places of a drawing are the first places of the grid, in their order. -/
def Packed (drawing : Drawing) : Prop :=
  drawing.places = (List.range drawing.places.length).map gridPlace

end Drawing

/-! ## Removals -/

/-- A removal takes the last table of a schema, if it finds any. -/
def Command.TakesLast (schema : Schema) : Command → Prop
  | .removeTable id => ∀ table ∈ schema.tables.dropLast, table.id ≠ id
  | _ => True

/-- Each removal of a run takes the last table of the schema that it finds, if any. -/
def Workspace.RemovesLast (workspace : Workspace) : List Command → Prop
  | [] => True
  | command :: commands =>
      command.TakesLast workspace.schema ∧ (workspace.after command).RemovesLast commands

theorem Command.takesLast_removeTable_iff {schema : Schema} {id : TableId} :
    (Command.removeTable id).TakesLast schema ↔
      schema.tables.length ≤ schema.indexOfTable id + 1 := by
  rw [TakesLast, Schema.indexOfTable]
  rcases schema.tables.eq_nil_or_concat with none | ⟨older, last, split⟩
  · rw [none]
    simp
  · rw [split, List.concat_eq_append, List.dropLast_concat, List.findIdx_append,
      List.length_append, List.length_singleton]
    constructor
    · intro others
      have notOlder : ¬ older.findIdx (fun table => table.id == id) < older.length := by
        rw [List.findIdx_lt_length]
        rintro ⟨table, member, meant⟩
        exact others table member (eq_of_beq meant)
      rw [if_neg notOlder]
      omega
    · intro late table member meant
      have early : older.findIdx (fun table => table.id == id) < older.length := by
        rw [List.findIdx_lt_length]
        exact ⟨table, member, beq_iff_eq.mpr meant⟩
      rw [if_pos early] at late
      omega

namespace Drawing

variable {drawing : Drawing} {bound : Nat} {command : Command} {commands : List Command}

theorem Packed.getElem?
    (packed : drawing.Packed) {number : Nat} (inside : number < drawing.places.length) :
    drawing.places[number]? = some (gridPlace number) := by
  rw [packed, List.getElem?_map, List.getElem?_range inside, Option.map_some]

theorem Packed.apart (packed : drawing.Packed) (sound : drawing.Sound bound) : drawing.Apart := by
  have places : drawing.places ++ [gridPlace drawing.workspace.schema.tables.length] =
      (List.range (drawing.places.length + 1)).map gridPlace := by
    rw [List.range_succ, List.map_append, ← packed, sound.length_eq]
    rfl
  rw [Apart, places]
  exact List.nodup_range.map gridPlace_injective

theorem Packed.addTable
    (packed : drawing.Packed) (sound : drawing.Sound bound) (spec : TableSpec) :
    (drawing.after (.addTable spec)).Packed := by
  rw [Packed, after, List.length_append, List.length_singleton, List.range_succ, List.map_append,
    ← packed, sound.length_eq]
  rfl

theorem Packed.removeTable
    (packed : drawing.Packed) (sound : drawing.Sound bound) {id : TableId}
    (last : (Command.removeTable id).TakesLast drawing.workspace.schema) :
    (drawing.after (.removeTable id)).Packed := by
  rw [Command.takesLast_removeTable_iff, sound.length_eq] at last
  rw [Packed, after]
  rcases Nat.lt_or_ge (drawing.workspace.schema.indexOfTable id) drawing.places.length with
    found | missing
  · have isLast : drawing.workspace.schema.indexOfTable id + 1 = drawing.places.length := by omega
    rw [List.eraseIdx_eq_dropLast isLast, List.length_dropLast, ← isLast, Nat.add_sub_cancel]
    conv_lhs => rw [packed, ← isLast, List.range_succ, List.map_append]
    exact List.dropLast_concat
  · rw [List.eraseIdx_of_length_le missing]
    exact packed

/-- When a table is taken from the middle, the last one stands at the next place. -/
theorem Packed.not_apart
    (packed : drawing.Packed) (sound : drawing.Sound bound) {id : TableId}
    (notLast : ¬ (Command.removeTable id).TakesLast drawing.workspace.schema) :
    ¬ (drawing.after (.removeTable id)).Apart := by
  have soundAfter : (drawing.after (.removeTable id)).Sound (bound + 1) := sound.after trivial
  rw [Command.takesLast_removeTable_iff, sound.length_eq, Nat.not_le] at notLast
  have inside : drawing.workspace.schema.indexOfTable id < drawing.places.length := by omega
  have lengthAfter : (drawing.after (.removeTable id)).places.length + 1 =
      drawing.places.length := by
    rw [after, List.length_eraseIdx_of_lt inside]
    omega
  have stillThere : gridPlace (drawing.after (.removeTable id)).places.length ∈
      (drawing.after (.removeTable id)).places := by
    have notTaken : (drawing.after (.removeTable id)).places.length ≠
        drawing.workspace.schema.indexOfTable id := by
      omega
    exact List.mem_eraseIdx_iff_getElem?.mpr ⟨_, notTaken, packed.getElem? (by omega)⟩
  rw [Apart, soundAfter.length_eq, List.nodup_append]
  intro distinct
  exact distinct.2.2 _ stillThere _ List.mem_cons_self rfl

/-- From the first places of the grid on, the next place stays free exactly as long as the last
table is removed. -/
theorem Packed.apart_iff_removesLast
    (packed : drawing.Packed) (sound : drawing.Sound bound)
    (onGrid : ∀ command ∈ commands, command.IsOnGrid) :
    (∀ before, before <+: commands → (before.foldl after drawing).Apart) ↔
      drawing.workspace.RemovesLast commands := by
  induction commands generalizing drawing bound with
  | nil =>
      constructor
      · intro _
        trivial
      · intro _ before isPrefix
        rw [List.prefix_nil.mp isPrefix]
        exact packed.apart sound
  | cons command commands ih =>
      obtain ⟨first, others⟩ := List.forall_mem_cons.mp onGrid
      have soundAfter : (drawing.after command).Sound (bound + 1) := sound.after first
      have split :
          (∀ before, before <+: command :: commands → (before.foldl after drawing).Apart) ↔
            ∀ before, before <+: commands →
              (before.foldl after (drawing.after command)).Apart := by
        constructor
        · intro apart before isPrefix
          exact apart (command :: before) ((List.prefix_cons_inj command).mpr isPrefix)
        · intro apart before isPrefix
          rcases List.prefix_cons_iff.mp isPrefix with rfl | ⟨later, rfl, laterPrefix⟩
          · exact packed.apart sound
          · exact apart later laterPrefix
      rw [split, Workspace.RemovesLast]
      by_cases takesLast : command.TakesLast drawing.workspace.schema
      · have packedAfter : (drawing.after command).Packed := by
          cases command with
          | addTable spec => exact packed.addTable sound spec
          | removeTable id => exact packed.removeTable sound takesLast
          | _ => exact first.elim
        rw [ih packedAfter soundAfter others, and_iff_right takesLast]
        rfl
      · constructor
        · intro apart
          cases command with
          | removeTable id =>
              exact absurd (apart [] List.nil_prefix) (packed.not_apart sound takesLast)
          | _ => exact absurd trivial takesLast
        · intro removesLast
          exact absurd removesLast.1 takesLast

end Drawing

/-- On a schema that starts empty and where tables are added without a place or removed, tables
stand at places of the grid.  In exact coordinates these and the next place are distinct after every
part of a run if and only if each removal takes the last table.  In double precision they are
distinct whenever they are in exact coordinates, unless the run is immensely long. -/
theorem places_apart_iff_removesLast
    {workspace : Workspace} (empty : workspace.schema.tables = []) {commands : List Command}
    (onGrid : ∀ command ∈ commands, command.IsOnGrid) :
    let drawing : Drawing := { workspace, places := [] }
    let last := commands.foldl Drawing.after drawing
    last.workspace = commands.foldl Workspace.after workspace ∧
      (last.workspace.schema.tables.map fun table => table.position) =
        last.places.map GridPlace.position ∧
      last.workspace.schema.nextPosition =
        (gridPlace last.workspace.schema.tables.length).position ∧
      ((∀ before, before <+: commands → (before.foldl Drawing.after drawing).Apart) ↔
        workspace.RemovesLast commands) ∧
      (commands.length < 2 ^ 46 →
        (((last.workspace.schema.tables.map fun table => table.position) ++
            [last.workspace.schema.nextPosition]).Nodup ↔ last.Apart)) := by
  intro drawing last
  have start : drawing.Sound 0 := by
    refine ⟨?_, Nat.le_refl 0, ?_⟩
    · rw [empty]
      rfl
    · intro place member
      exact absurd member List.not_mem_nil
  have packed : drawing.Packed := rfl
  have sound : last.Sound (0 + commands.length) := start.foldl_after onGrid
  rw [Nat.zero_add] at sound
  exact ⟨drawing.workspace_foldl_after commands, sound.positions,
    last.workspace.schema.nextPosition_eq_position, packed.apart_iff_removesLast start onGrid,
    sound.nodup_positions_iff_apart⟩

theorem places_apart_iff_removesLast_shop :
    let workspace : Workspace := { schema := .new "shop" default, nextId := 0, now := default }
    let commands : List Command :=
      [.addTable { name := "users" }, .addTable { name := "orders" }, .removeTable ⟨1⟩,
        .addTable { name := "items" }]
    let schema := (commands.foldl Workspace.after workspace).schema
    workspace.schema.tables = [] ∧ (∀ command ∈ commands, command.IsOnGrid) ∧
      commands.length < 2 ^ 46 ∧ workspace.RemovesLast commands ∧
      ((schema.tables.map fun table => table.position) ++ [schema.nextPosition]).Nodup := by
  intro workspace commands schema
  have onGrid : ∀ command ∈ commands, command.IsOnGrid := by
    simp [commands, Command.IsOnGrid]
  have short : commands.length < 2 ^ 46 := by decide
  have removesLast : workspace.RemovesLast commands := by
    refine ⟨trivial, trivial, ?_, trivial, trivial⟩
    rw [Command.takesLast_removeTable_iff]
    decide
  have empty : workspace.schema.tables = [] := rfl
  obtain ⟨run, _, _, apart, rounded⟩ := places_apart_iff_removesLast empty onGrid
  have distinct := (rounded short).mpr (apart.mpr removesLast commands (List.prefix_refl commands))
  rw [run] at distinct
  exact ⟨empty, onGrid, short, removesLast, distinct⟩

/-- The table that is added after the first of two was removed gets the place of the second. -/
theorem added_on_top :
    let workspace : Workspace := { schema := .new "shop" default, nextId := 0, now := default }
    let commands : List Command :=
      [.addTable { name := "users" }, .addTable { name := "orders" }, .removeTable ⟨0⟩,
        .addTable { name := "items" }]
    (∀ command ∈ commands, command.IsOnGrid) ∧
      ((commands.foldl Workspace.after workspace).schema.tables.map fun table =>
          (table.name, table.position)) =
        [("orders", { x := .ofNat 400, y := .ofNat 100 }),
          ("items", { x := .ofNat 400, y := .ofNat 100 })] ∧
      (commands.foldl Drawing.after { workspace, places := [] }).places =
        [{ x := 400, y := 100 }, { x := 400, y := 100 }] := by
  intro workspace commands
  refine ⟨?_, by decide, by decide⟩
  simp [commands, Command.IsOnGrid]

end SchemaDesign
