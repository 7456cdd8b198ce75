import MeadowOps.Lib.Dict
import MeadowOps.Lib.Program
import MeadowOps.Query.OneTransaction

/-!
# The result grid: `execute_submission` and `components/query-playground.tsx`

What the statements of a submission bring back, from the cursor to the table on the page. A row travels as a
dictionary from column name to value, and each value as JSON. How the database prints a value and what becomes of it
on that way is a parameter, the drivers' and libraries' own; durations and error texts are left out.
-/

namespace MeadowOps.Query

open Lib

def maxResultRows : ℕ := 500

/-- A result set over the values of the driver, `none` for NULL. -/
structure ResultSet (V : Type) where
  columns : List String
  rows : List (List (Option V))
  widths : ∀ row ∈ rows, row.length = columns.length

/-- The cursor after a statement. -/
inductive Cursor (V : Type) where
  | resultSet (result : ResultSet V)
  | noResult (rowcount : ℤ)

abbrev Row (V : Type) := Dict String (Option V)

variable {V : Type}

/-- `dict_row`. -/
def dictRow (columns : List String) (values : List (Option V)) : Row V := Dict.ofList (columns.zip values)

def Cursor.fetchmany (result : ResultSet V) (size : ℕ) : List (Row V) :=
  (result.rows.take size).map (dictRow result.columns)

def truncateRows (rows : List (Row V)) (limit : ℕ) : List (Row V) × Bool :=
  if rows.length > limit then (rows.take limit, true) else (rows, false)

/-- The variables of the loop over the statements. -/
structure Fetched (V : Type) where
  columns : List String
  rows : List (Row V)
  rowCount : ℕ
  truncated : Bool

/-- The body of the loop. -/
def Fetched.statement (_ : Fetched V) : Cursor V → Fetched V
  | .resultSet result =>
    let (rows, truncated) := truncateRows (Cursor.fetchmany result (maxResultRows + 1)) maxResultRows
    ⟨result.columns, rows, rows.length, truncated⟩
  | .noResult rowcount => ⟨[], [], if rowcount > 0 then rowcount.toNat else 0, false⟩

/-- A server in some state: it may refuse any request. -/
structure Server (V σ : Type) where
  /-- The connection, and the lock. -/
  connect : EStateM QueryError σ Unit
  execute : List Char → EStateM QueryError σ (Cursor V)
  commit : EStateM QueryError σ Unit

structure QueryExecutionResult (V : Type) where
  status : QuerySubmissionStatus
  columns : List String
  rows : List (Row V)
  rowCount : ℕ
  truncated : Bool

variable {σ : Type} (lib : Library) (server : Server V σ)

/-- The loop over the statements. -/
def runStatements : List (List Char) → Fetched V → EStateM QueryError σ (Fetched V)
  | [], fetched => pure fetched
  | statement :: statements, fetched => do
    let cursor ← server.execute statement
    runStatements statements (fetched.statement cursor)

def runSubmission (statements : List (List Char)) : EStateM QueryError σ (Fetched V) := do
  server.connect
  let fetched ← runStatements server statements ⟨[], [], 0, false⟩
  server.commit
  pure fetched

/-- `execute_submission`; it raises `QueryConfirmationRequiredError` with the classified statements. -/
def executeSubmission (sql : List Char) (confirmed : Bool) (s : σ) :
    Except (List (List Char × StatementType)) (QueryExecutionResult V) :=
  if lib.requiresConfirmation sql && !confirmed then .error (lib.classifySubmission sql)
  else
    match runSubmission server (lib.splitStatements sql) s with
    | .error e _ => .ok ⟨statusOf e, [], [], 0, false⟩
    | .ok fetched _ => .ok ⟨.success, fetched.columns, fetched.rows, fetched.rowCount, fetched.truncated⟩

/-! ## The page -/

/-- What a cell shows. -/
inductive Cell where
  | null
  | text (value : String)
  | undefined
  deriving DecidableEq, Repr

/-- The way of a value to the page: how the database prints it, and the cell it ends up in behind `JSONResponse`,
`JSON.parse` and `String`, `none` where no response can carry it. -/
structure Transport (V : Type) where
  print : V → String
  arrive : V → Option Cell

/-- What is to be read. -/
def Transport.printed (transport : Transport V) : Option V → Cell
  | none => .null
  | some v => .text (transport.print v)

/-- What is read: NULL travels as `null`. -/
def Transport.deliver (transport : Transport V) : Option V → Option Cell
  | none => some .null
  | some v => transport.arrive v

variable (transport : Transport V)

/-- `row[col] === null ? NULL : String(row[col])`. -/
def Cell.of (row : Row V) (col : String) : Cell := ((row.get? col).bind transport.deliver).getD .undefined

/-- The table and its badge. -/
structure ResultGrid where
  header : List String
  body : List (List Cell)
  truncated : Bool

def resultGrid (result : QueryExecutionResult V) : ResultGrid :=
  match result.status with
  | .success =>
    if result.columns.length > 0 then
      ⟨result.columns, result.rows.map fun row => result.columns.map (.of transport row), result.truncated⟩
    else ⟨[], [], result.truncated⟩
  | .error | .timedOut => ⟨[], [], false⟩

/-- `JSONResponse` renders the response. -/
def QueryExecutionResult.Rendered (result : QueryExecutionResult V) : Prop :=
  ∀ row ∈ result.rows, ∀ item ∈ row.items, (transport.deliver item.2).isSome

instance (result : QueryExecutionResult V) : Decidable (result.Rendered transport) :=
  inferInstanceAs (Decidable (∀ row ∈ result.rows, ∀ item ∈ row.items, (transport.deliver item.2).isSome))

/-- `runQuery`: a response that cannot be rendered is a 500, and the page keeps the grid it has. -/
def shownGrid (result : QueryExecutionResult V) : Option ResultGrid :=
  if result.Rendered transport then some (resultGrid transport result) else none

def ResultGrid.cell? (grid : ResultGrid) (i j : ℕ) : Option Cell := grid.body[i]?.bind fun row => row[j]?

/-! ## What the grid should be -/

def Cursor.result? : Cursor V → Option (ResultSet V)
  | .resultSet result => some result
  | .noResult _ => none

/-- The result set of the last statement that produced one. -/
def lastResult (cursors : List (Cursor V)) : Option (ResultSet V) := (cursors.filterMap Cursor.result?).getLast?

/-- Cell for cell, by position. -/
structure ResultGrid.Shows (grid : ResultGrid) (result : ResultSet V) : Prop where
  header : grid.header = result.columns
  cells : ∀ i j, grid.cell? i j = ((result.rows.take maxResultRows)[i]?.bind fun row => row[j]?).map transport.printed
  truncated : grid.truncated = true ↔ maxResultRows < result.rows.length

def readCursors (statements : List (List Char)) : EStateM QueryError σ (List (Cursor V)) := do
  server.connect
  statements.mapM server.execute

/-- The cursors that a submission reads, one after the other. -/
def cursors (sql : List Char) (s : σ) : List (Cursor V) :=
  match readCursors server (lib.splitStatements sql) s with
  | .ok read _ => read
  | .error _ _ => []

/-- The page shows the result set of the last statement that produced one. -/
def FaithfulGrid (cursors : List (Cursor V)) (shown : Option ResultGrid) : Prop :=
  ∀ result, lastResult cursors = some result → ∃ grid, shown = some grid ∧ grid.Shows transport result

/-- Columns of one name hold values that are printed alike, as far as the rows are shown. -/
def ResultSet.NamesDetermine (result : ResultSet V) : Prop :=
  ∀ row ∈ result.rows.take maxResultRows, ∀ j k : ℕ, result.columns[j]? = result.columns[k]? →
    row[j]?.map transport.printed = row[k]?.map transport.printed

/-- A value arrives as the database prints it, where no later column has the name of its own. -/
def ResultSet.ArrivesAsPrinted (result : ResultSet V) : Prop :=
  ∀ row ∈ result.rows.take maxResultRows, ∀ (j : ℕ) (v : Option V), row[j]? = some v →
    (∀ k : ℕ, j < k → result.columns[k]? ≠ result.columns[j]?) → transport.deliver v = some (transport.printed v)

/-- Nothing of the result set is to be seen. -/
def ResultSet.Invisible (result : ResultSet V) : Prop := result.columns = [] ∧ result.rows.length ≤ maxResultRows

/-- The last statement is the last one with a result set, names tell its columns apart and its values survive the way
to the page. -/
def Representable (cursors : List (Cursor V)) : Prop :=
  ∀ result, lastResult cursors = some result →
    ((∃ last, cursors.getLast? = some (.resultSet last)) ∨ result.Invisible) ∧
      result.NamesDetermine transport ∧ result.ArrivesAsPrinted transport

/-! ## The loop -/

variable {lib} {server} {transport}

theorem runStatements_ok {texts : List (List Char)} {fetched fetched' : Fetched V} {s s' : σ}
    (ran : runStatements server texts fetched s = .ok fetched' s') :
    ∃ read, texts.mapM server.execute s = .ok read s' ∧ fetched' = read.foldl Fetched.statement fetched := by
  induction texts generalizing fetched s with
  | nil =>
    cases ran
    exact ⟨[], rfl, rfl⟩
  | cons text texts ih =>
    obtain ⟨cursor, s₁, executed, later⟩ := bind_eq_ok ran
    obtain ⟨read, all, rfl⟩ := ih later
    refine ⟨cursor :: read, ?_, rfl⟩
    rw [List.mapM_cons, bind_of_ok executed, bind_of_ok all]
    rfl

theorem runSubmission_ok {statements : List (List Char)} {s s' : σ} {fetched : Fetched V}
    (ran : runSubmission server statements s = .ok fetched s') :
    ∃ read s'', readCursors server statements s = .ok read s'' ∧
      fetched = read.foldl Fetched.statement ⟨[], [], 0, false⟩ := by
  obtain ⟨_, s₁, connected, ran⟩ := bind_eq_ok ran
  obtain ⟨fetched', s₂, loop, ran⟩ := bind_eq_ok ran
  obtain ⟨_, s₃, -, ended⟩ := bind_eq_ok ran
  cases ended
  obtain ⟨read, all, rfl⟩ := runStatements_ok loop
  exact ⟨read, s₂, (bind_of_ok connected).trans all, rfl⟩

/-- The response when all statements have been executed. -/
def Fetched.response (fetched : Fetched V) : QueryExecutionResult V :=
  ⟨.success, fetched.columns, fetched.rows, fetched.rowCount, fetched.truncated⟩

theorem response_of_success {sql : List Char} {confirmed : Bool} {s : σ} {response : QueryExecutionResult V}
    (answered : executeSubmission lib server sql confirmed s = .ok response) (success : response.status = .success) :
    response = ((cursors lib server sql s).foldl Fetched.statement ⟨[], [], 0, false⟩).response := by
  unfold executeSubmission at answered
  split at answered
  · cases answered
  · split at answered
    · rename_i e _ refused
      cases answered
      cases e <;> cases success
    · rename_i fetched s' ran
      cases answered
      obtain ⟨read, s'', all, rfl⟩ := runSubmission_ok ran
      rw [cursors, all]
      rfl

/-- Each statement overwrites what the one before has left. -/
theorem foldl_statement (before : List (Cursor V)) (last : Cursor V) (fetched : Fetched V) :
    (before ++ [last]).foldl Fetched.statement fetched = fetched.statement last := by
  rw [List.foldl_append]
  rfl

/-! ## One result set -/

theorem truncateRows_fetchmany (result : ResultSet V) :
    truncateRows (Cursor.fetchmany result (maxResultRows + 1)) maxResultRows =
      (Cursor.fetchmany result maxResultRows, decide (maxResultRows < result.rows.length)) := by
  have length : (Cursor.fetchmany result (maxResultRows + 1)).length = min (maxResultRows + 1) result.rows.length := by
    rw [Cursor.fetchmany, List.length_map, List.length_take]
  by_cases more : maxResultRows < result.rows.length
  · rw [truncateRows, if_pos (by omega), decide_eq_true more, Cursor.fetchmany, ← List.map_take, List.take_take,
      Nat.min_eq_left (Nat.le_succ _), Cursor.fetchmany]
  · rw [truncateRows, if_neg (by omega), decide_eq_false more, Cursor.fetchmany, Cursor.fetchmany,
      List.take_of_length_le (by omega), List.take_of_length_le (by omega)]

theorem response_resultSet (fetched : Fetched V) (result : ResultSet V) :
    (fetched.statement (.resultSet result)).response =
      ⟨.success, result.columns, Cursor.fetchmany result maxResultRows, (Cursor.fetchmany result maxResultRows).length,
        decide (maxResultRows < result.rows.length)⟩ := by
  rw [Fetched.statement, truncateRows_fetchmany]
  rfl

/-- The grid after a statement with a result set. -/
theorem resultGrid_resultSet (fetched : Fetched V) (result : ResultSet V) :
    let grid := resultGrid transport (fetched.statement (.resultSet result)).response
    grid.header = result.columns ∧ grid.truncated = decide (maxResultRows < result.rows.length) ∧
      ∀ i j, grid.cell? i j = (result.rows.take maxResultRows)[i]?.bind fun row =>
        result.columns[j]?.map (.of transport (dictRow result.columns row)) := by
  intro grid
  have grid_eq : grid = resultGrid transport _ := congrArg (resultGrid transport) (response_resultSet fetched result)
  rw [grid_eq, resultGrid]
  dsimp only
  split
  · refine ⟨rfl, rfl, fun i j => ?_⟩
    rw [ResultGrid.cell?, Cursor.fetchmany, List.getElem?_map, List.getElem?_map]
    cases (result.rows.take maxResultRows)[i]? with
    | none => rfl
    | some row => exact List.getElem?_map ..
  · rename_i empty
    have none : result.columns = [] := List.length_eq_zero_iff.1 (Nat.eq_zero_of_not_pos empty)
    refine ⟨none.symm, rfl, fun i j => ?_⟩
    rw [none]
    cases (result.rows.take maxResultRows)[i]? <;> rfl

theorem ResultSet.width {result : ResultSet V} {row : List (Option V)} (mem : row ∈ result.rows.take maxResultRows) :
    row.length = result.columns.length := result.widths row (List.mem_of_mem_take mem)

/-- The dictionary of a row holds the value of the last column of each name. -/
theorem dictRow_last {columns : List String} {row : List (Option V)} {col : String} {v : Option V}
    (found : (dictRow columns row).get? col = some v) :
    ∃ k : ℕ, columns[k]? = some col ∧ row[k]? = some v ∧
      (row.length = columns.length → ∀ n : ℕ, k < n → columns[n]? ≠ some col) := by
  obtain ⟨before, after, split, others⟩ := Dict.split_of_get?_ofList found
  have here : (columns.zip row)[before.length]? = some (col, v) := by
    rw [split, List.getElem?_append_right le_rfl, Nat.sub_self, List.getElem?_cons_zero]
  obtain ⟨name, value⟩ := List.getElem?_zip_eq_some.1 here
  refine ⟨before.length, name, value, fun width n later same => ?_⟩
  have bound : n < row.length := width ▸ (List.getElem?_eq_some_iff.1 same).1
  have pair : (columns.zip row)[n]? = some (col, row[n]) :=
    List.getElem?_zip_eq_some.2 ⟨same, List.getElem?_eq_getElem bound⟩
  obtain ⟨m, rfl⟩ : ∃ m, n = before.length + (m + 1) := ⟨n - before.length - 1, by omega⟩
  rw [split, List.getElem?_append_right (Nat.le_add_right ..), Nat.add_sub_cancel_left, List.getElem?_cons_succ] at pair
  exact others _ (List.mem_of_getElem? pair) rfl

/-- A cell shows what arrives of the last column of its name. -/
theorem dictRow_get? {columns : List String} {row : List (Option V)} (width : row.length = columns.length)
    {j : ℕ} {col : String} (here : columns[j]? = some col) :
    ∃ (k : ℕ) (v : Option V), columns[k]? = some col ∧ row[k]? = some v ∧ (dictRow columns row).get? col = some v ∧
      ∀ n : ℕ, k < n → columns[n]? ≠ some col := by
  have bound : j < columns.length := (List.getElem?_eq_some_iff.1 here).1
  obtain ⟨w, value⟩ : ∃ w, row[j]? = some w := ⟨_, List.getElem?_eq_getElem (width.symm ▸ bound)⟩
  have pair : (columns.zip row)[j]? = some (col, w) := List.getElem?_zip_eq_some.2 ⟨here, value⟩
  obtain ⟨v, found⟩ := Dict.exists_get?_ofList (List.mem_of_getElem? pair)
  obtain ⟨k, name, at_k, last⟩ := dictRow_last found
  exact ⟨k, v, name, at_k, found, last width⟩

theorem rendered_resultSet_iff (fetched : Fetched V) (result : ResultSet V) :
    (fetched.statement (.resultSet result)).response.Rendered transport ↔
      ∀ row ∈ result.rows.take maxResultRows, ∀ col v, (dictRow result.columns row).get? col = some v →
        (transport.deliver v).isSome := by
  rw [response_resultSet]
  constructor
  · intro rendered row mem col v found
    exact rendered _ (List.mem_map_of_mem mem) (col, v) (Dict.mem_items_iff.2 found)
  · intro delivered row mem item held
    obtain ⟨row, shown, rfl⟩ := List.mem_map.1 mem
    exact delivered row shown item.1 item.2 (Dict.mem_items_iff.1 held)

/-- A rendered grid that shows a result set has each value under its position as the dictionary has delivered it. -/
theorem of_shows {result : ResultSet V} {fetched : Fetched V}
    (shows : (resultGrid transport (fetched.statement (.resultSet result)).response).Shows transport result)
    {row : List (Option V)} (mem : row ∈ result.rows.take maxResultRows) {j : ℕ} {col : String}
    (here : result.columns[j]? = some col) :
    row[j]?.map transport.printed = some (.of transport (dictRow result.columns row) col) := by
  obtain ⟨-, -, cells⟩ := @resultGrid_resultSet _ transport fetched result
  obtain ⟨i, at_i⟩ := List.mem_iff_getElem?.1 mem
  have cell := shows.cells i j
  rw [cells, at_i, Option.bind_some, Option.bind_some, here, Option.map_some] at cell
  exact cell.symm

theorem shows_resultSet_iff (fetched : Fetched V) (result : ResultSet V) :
    (∃ grid, shownGrid transport (fetched.statement (.resultSet result)).response = some grid ∧
      grid.Shows transport result) ↔ result.NamesDetermine transport ∧ result.ArrivesAsPrinted transport := by
  constructor
  · rintro ⟨grid, shown, shows⟩
    rw [shownGrid, Option.ite_none_right_eq_some] at shown
    obtain ⟨rendered, ⟨⟩⟩ := shown
    rw [rendered_resultSet_iff] at rendered
    refine ⟨fun row mem j k same => ?_, fun row mem j v value last => ?_⟩
    · cases here : result.columns[j]? with
      | none =>
        have at_j := List.getElem?_eq_none_iff.1 here
        have at_k := List.getElem?_eq_none_iff.1 (same.symm.trans here)
        rw [← ResultSet.width mem] at at_j at_k
        rw [List.getElem?_eq_none at_j, List.getElem?_eq_none at_k]
      | some col => rw [of_shows shows mem here, of_shows shows mem (same.symm.trans here)]
    · have bound : j < result.columns.length := ResultSet.width mem ▸ (List.getElem?_eq_some_iff.1 value).1
      have here : result.columns[j]? = some result.columns[j] := List.getElem?_eq_getElem bound
      obtain ⟨k, w, name, at_k, found, later⟩ := dictRow_get? (ResultSet.width mem) here
      -- The last column of its name is the one at `j` itself.
      have same : k = j := by
        rcases lt_trichotomy j k with after | rfl | before
        · exact absurd (name.trans here.symm) (last k after)
        · rfl
        · exact absurd here (later j before)
      subst same
      obtain rfl : v = w := Option.some.inj (value.symm.trans at_k)
      obtain ⟨cell, arrives⟩ := Option.isSome_iff_exists.1 (rendered row mem _ v found)
      have printed := of_shows shows mem here
      rw [value, Option.map_some, Cell.of, found, Option.bind_some, arrives, Option.getD_some] at printed
      rw [arrives, Option.some.inj printed]
  · rintro ⟨determine, arrives⟩
    have delivered : ∀ row ∈ result.rows.take maxResultRows, ∀ col v, (dictRow result.columns row).get? col = some v →
        transport.deliver v = some (transport.printed v) := by
      intro row mem col v found
      obtain ⟨k, name, value, later⟩ := dictRow_last found
      exact arrives row mem k v value fun n after same => later (ResultSet.width mem) n after (same.trans name)
    have rendered : (fetched.statement (.resultSet result)).response.Rendered transport :=
      (rendered_resultSet_iff fetched result).2 fun row mem col v found =>
        Option.isSome_iff_exists.2 ⟨_, delivered row mem col v found⟩
    obtain ⟨header, truncated, cells⟩ := @resultGrid_resultSet _ transport fetched result
    refine ⟨_, if_pos rendered, header, fun i j => ?_, by rw [truncated, decide_eq_true_iff]⟩
    rw [cells]
    cases at_i : (result.rows.take maxResultRows)[i]? with
    | none => rfl
    | some row =>
      have mem := List.mem_of_getElem? at_i
      rw [Option.bind_some, Option.bind_some]
      cases here : result.columns[j]? with
      | none =>
        have at_j := List.getElem?_eq_none_iff.1 here
        rw [← ResultSet.width mem] at at_j
        rw [List.getElem?_eq_none at_j]
        rfl
      | some col =>
        obtain ⟨k, v, name, value, found, -⟩ := dictRow_get? (ResultSet.width mem) here
        rw [determine row mem j k (here.trans name.symm), value, Option.map_some, Option.map_some, Cell.of, found,
          Option.bind_some, delivered row mem col v found, Option.getD_some]

/-- A statement without a result set leaves an empty grid. -/
theorem shows_noResult_iff (fetched : Fetched V) (rowcount : ℤ) (result : ResultSet V) :
    (∃ grid, shownGrid transport (fetched.statement (.noResult rowcount)).response = some grid ∧
      grid.Shows transport result) ↔ result.Invisible := by
  have rendered : (fetched.statement (.noResult rowcount)).response.Rendered transport := List.forall_mem_nil _
  rw [shownGrid, if_pos rendered]
  constructor
  · rintro ⟨_, ⟨⟩, shows⟩
    exact ⟨shows.header.symm, not_lt.1 fun more => Bool.false_ne_true (shows.truncated.2 more)⟩
  · rintro ⟨no_columns, few⟩
    refine ⟨_, rfl, no_columns.symm, fun i j => ?_,
      ⟨fun more => absurd more Bool.false_ne_true, fun more => absurd few (not_le.2 more)⟩⟩
    cases at_i : (result.rows.take maxResultRows)[i]? with
    | none => rfl
    | some row =>
      have empty : row = [] := by
        rw [← List.length_eq_zero_iff, ResultSet.width (List.mem_of_getElem? at_i), no_columns, List.length_nil]
      rw [empty]
      rfl

/-! ## The submission -/

theorem lastResult_snoc (before : List (Cursor V)) (result : ResultSet V) :
    lastResult (before ++ [.resultSet result]) = some result := by
  rw [lastResult, List.filterMap_append]
  exact List.getLast?_concat

theorem ResultSet.Invisible.row_eq_nil {result : ResultSet V} (invisible : result.Invisible) {row : List (Option V)}
    (mem : row ∈ result.rows.take maxResultRows) : row = [] := by
  rw [← List.length_eq_zero_iff, ResultSet.width mem, invisible.1, List.length_nil]

theorem ResultSet.Invisible.namesDetermine {result : ResultSet V} (invisible : result.Invisible) :
    result.NamesDetermine transport := by
  intro row mem j k _
  rw [invisible.row_eq_nil mem]
  rfl

theorem ResultSet.Invisible.arrivesAsPrinted {result : ResultSet V} (invisible : result.Invisible) :
    result.ArrivesAsPrinted transport := by
  intro row mem j v value
  rw [invisible.row_eq_nil mem] at value
  cases value

/-- A server whose statements leave the given cursors. -/
def replaying : Server V (List (Cursor V)) where
  connect := pure ()
  execute _ := do
    match ← get with
    | [] => throw .other
    | cursor :: rest =>
      set rest
      pure cursor
  commit := pure ()

/-- A few of the types a column can have. -/
inductive Value where
  | varchar (text : String)
  | bigint (n : ℤ)
  | jsonObject (text : String)
  | doubleNaN

/-- The nearest double, ties to even, as far as `2 ^ 54`. -/
def nearestDouble (n : ℤ) : ℤ := if n.natAbs ≤ 2 ^ 53 then n else if n % 4 = 3 then n + 1 else n - n % 2

/-- JSON renders no NaN, `JSON.parse` reads numbers as doubles, and `String` prints any object alike. -/
def json : Transport Value where
  print
    | .varchar text => text
    | .bigint n => toString n
    | .jsonObject text => text
    | .doubleNaN => "NaN"
  arrive
    | .varchar text => some (.text text)
    | .bigint n => some (.text (toString (nearestDouble n)))
    | .jsonObject _ => some (.text "[object Object]")
    | .doubleNaN => none

/-- One order with one line. -/
def orderAndLine : ResultSet Value := ⟨["id", "id"], [[some (.bigint 7), some (.bigint 31)]], by decide⟩

def oneProduct : ResultSet Value := ⟨["name"], [[some (.varchar "Milk")]], by decide⟩

def oneValue (v : Value) : ResultSet Value := ⟨["v"], [[some v]], fun _ mem => by cases List.mem_singleton.1 mem; rfl⟩

/-- A submission ends with status success and its page is not what it should be. -/
def ShowsOther (sql : String) (read : List (Cursor Value)) (shown : Option ResultGrid) : Prop :=
  ∃ response, executeSubmission bySemicolon replaying sql.toList true read = .ok response ∧
    response.status = .success ∧ shownGrid json response = shown ∧
    ¬ FaithfulGrid json (cursors bySemicolon replaying sql.toList read) shown

end MeadowOps.Query
