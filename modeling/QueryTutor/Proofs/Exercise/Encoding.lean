import QueryTutor.Exercise.Reading
import QueryTutor.Exercise.Sample
import QueryTutor.Exercise.Writing
import QueryTutor.Proofs.Reading

/-!
# Encodings of exercises

An exercise is read back from every object that has all its fields, each under either of its names.
Whatever else stands in an object, at any level, makes no difference to what is read of it.
-/

namespace QueryTutor.Exercise
open Reading

/-! ## Exercises under chosen names -/

/-- What is written of a column. -/
def Column.entries (c : Column) : List (Key × Value) :=
  [(key "name", .string c.name), (key "type", .string c.type),
    (key "nullable", .ofOption .bool c.nullable)]

/-- A column as an object under the chosen names. -/
def Column.writeAs (n : Naming) (c : Column) : Value :=
  n.object c.entries

/-- What is written of a table. -/
def Table.entries (n : Naming) (t : Table) : List (Key × Value) :=
  [(key "name", .string t.name),
    (key "columns", (n.within ["columns"]).list Column.writeAs t.columns)]

/-- A table as an object under the chosen names. -/
def Table.writeAs (n : Naming) (t : Table) : Value :=
  n.object (t.entries n)

/-- The tables of an exercise as an object under the chosen names. -/
def writeTablesAs (n : Naming) (ts : List Table) : Value :=
  n.object [(key "tables", (n.within ["tables"]).list Table.writeAs ts)]

/-- What is written of a test case. -/
def TestCase.entries (t : TestCase) : List (Key × Value) :=
  [(key "name", .string t.name),
    (⟨"shouldContain", "should_contain"⟩, writeTexts t.shouldContain),
    (⟨"shouldNotContain", "should_not_contain"⟩, writeTexts t.shouldNotContain),
    (⟨"expectedColumns", "expected_columns"⟩, writeTexts t.expectedColumns),
    (key "weight", .ofOption .real t.weight)]

/-- A test case as an object under the chosen names. -/
def TestCase.writeAs (n : Naming) (t : TestCase) : Value :=
  n.object t.entries

/-- What is written of an exercise: all its fields. -/
def entries (n : Naming) (e : Exercise) : List (Key × Value) :=
  [(key "title", .string e.title),
    (key "description", .string e.description),
    (⟨"starterCode", "starter_code"⟩, .string e.starterCode),
    (key "solution", .string e.solution),
    (key "hints", .strings e.hints),
    (key "language", .string e.language),
    (⟨"testCases", "test_cases"⟩,
      .ofOption ((n.within ["testCases"]).list TestCase.writeAs) e.testCases),
    (⟨"schema", "table_schema"⟩, .ofOption (writeTablesAs (n.within ["schema"])) e.tables),
    (⟨"requiredClauses", "required_clauses"⟩, writeTexts e.requiredClauses),
    (⟨"forbiddenPatterns", "forbidden_patterns"⟩, writeTexts e.forbiddenPatterns),
    (⟨"expectedTables", "expected_tables"⟩, writeTexts e.expectedTables),
    (⟨"expectedColumns", "expected_columns"⟩, writeTexts e.expectedColumns),
    (⟨"enabledChecks", "enabled_checks"⟩, writeTexts e.enabledChecks)]

/-- An exercise as an object under the chosen names. -/
def writeAs (n : Naming) (e : Exercise) : Value :=
  n.object (e.entries n)

section Writing

variable (n : Naming)

lemma restores_column : Restores (Column.writeAs n) readColumn where
  read_eq c := by
    have hkeys : (c.entries.map (·.1)).Pairwise Apart :=
      show [key "name", key "type", key "nullable"].Pairwise Apart by decide
    have hname := required_fields n hkeys 0 rfl (restores_string.read_eq c.name)
    have htype := required_fields n hkeys 1 rfl (restores_string.read_eq c.type)
    have hnullable : optionally (n.fields c.entries) (key "nullable") Reading.bool = _ :=
      withDefault_fields n hkeys 2 rfl (restores_bool.nullable c.nullable)
    rw [Column.writeAs, Naming.object, readColumn, object, hname, htype, hnullable]
    rfl
  ne_null _ := nofun

lemma restores_table : Restores (Table.writeAs n) readTable where
  read_eq t := by
    have hkeys : ((t.entries n).map (·.1)).Pairwise Apart :=
      show [key "name", key "columns"].Pairwise Apart by decide
    have hname := required_fields n hkeys 0 rfl (restores_string.read_eq t.name)
    have hcolumns := withDefault_fields (d := []) n hkeys 1 rfl
      ((Restores.list restores_column _).read_eq t.columns)
    rw [Table.writeAs, Naming.object, readTable, object, hname, hcolumns]
    rfl
  ne_null _ := nofun

lemma restores_tables : Restores (writeTablesAs n) readTables where
  read_eq ts := withDefault_fields n (List.pairwise_singleton _ _) 0 rfl
    ((Restores.list restores_table _).read_eq ts)
  ne_null _ := nofun

/-- Texts that may be absent are read back. -/
lemma texts_fields {entries : List (Key × Value)} (hkeys : (entries.map (·.1)).Pairwise Apart)
    (i : Nat) {k : Key} {ss : Option (List String)} (h : entries[i]? = some (k, writeTexts ss)) :
    texts (n.fields entries) k = .ok ss :=
  withDefault_fields n hkeys i h (Restores.strings.nullable ss)

lemma restores_testCase : Restores (TestCase.writeAs n) readTestCase where
  read_eq t := by
    have hkeys : (t.entries.map (·.1)).Pairwise Apart :=
      show [key "name", ⟨"shouldContain", "should_contain"⟩,
        ⟨"shouldNotContain", "should_not_contain"⟩, ⟨"expectedColumns", "expected_columns"⟩,
        key "weight"].Pairwise Apart by decide
    have hname := required_fields n hkeys 0 rfl (restores_string.read_eq t.name)
    have hcontain := texts_fields n hkeys 1 rfl
    have hnotContain := texts_fields n hkeys 2 rfl
    have hcolumns := texts_fields n hkeys 3 rfl
    have hweight : optionally (n.fields t.entries) (key "weight") real = _ :=
      withDefault_fields n hkeys 4 rfl (restores_real.nullable t.weight)
    rw [TestCase.writeAs, Naming.object, readTestCase, object, hname, hcontain, hnotContain,
      hcolumns, hweight]
    rfl
  ne_null _ := nofun

/-- The exercise has a solution, and its forbidden patterns can be searched for. -/
structure Admissible (e : Exercise) : Prop where
  solution : refuseSolution e.solution = none
  patterns : refusePatterns e.forbiddenPatterns = none

/-- An admissible exercise is read back. -/
lemma read_writeAs {e : Exercise} (h : e.Admissible) : read (e.writeAs n) = .ok e := by
  have hkeys : ((e.entries n).map (·.1)).Pairwise Apart :=
    show [key "title", key "description", ⟨"starterCode", "starter_code"⟩, key "solution",
      key "hints", key "language", ⟨"testCases", "test_cases"⟩, ⟨"schema", "table_schema"⟩,
      ⟨"requiredClauses", "required_clauses"⟩, ⟨"forbiddenPatterns", "forbidden_patterns"⟩,
      ⟨"expectedTables", "expected_tables"⟩, ⟨"expectedColumns", "expected_columns"⟩,
      ⟨"enabledChecks", "enabled_checks"⟩].Pairwise Apart by decide
  have htitle := withDefault_fields (d := "") n hkeys 0 rfl (restores_string.read_eq e.title)
  have hdescription := withDefault_fields (d := "") n hkeys 1 rfl
    (restores_string.read_eq e.description)
  have hstarter := withDefault_fields (d := "") n hkeys 2 rfl
    (restores_string.read_eq e.starterCode)
  have hsolution := required_fields (f := fun v => (string v).check refuseSolution) n hkeys 3 rfl
    (check_eq_ok_iff.2 ⟨restores_string.read_eq e.solution, h.solution⟩)
  have hhints := withDefault_fields (d := []) n hkeys 4 rfl (Restores.strings.read_eq e.hints)
  have hlanguage := withDefault_fields (d := "sql") n hkeys 5 rfl
    (restores_string.read_eq e.language)
  have htests : optionally (n.fields (e.entries n)) ⟨"testCases", "test_cases"⟩
      (list readTestCase) = _ :=
    withDefault_fields n hkeys 6 rfl ((Restores.list restores_testCase _).nullable e.testCases)
  have htables : optionally (n.fields (e.entries n)) ⟨"schema", "table_schema"⟩ readTables = _ :=
    withDefault_fields n hkeys 7 rfl ((restores_tables _).nullable e.tables)
  have hrequired := texts_fields n hkeys 8 rfl
  have hforbidden := withDefault_fields (d := none)
    (f := fun v => (nullable (list string) v).check refusePatterns) n hkeys 9 rfl
    (check_eq_ok_iff.2 ⟨Restores.strings.nullable e.forbiddenPatterns, h.patterns⟩)
  have hexpectedTables := texts_fields n hkeys 10 rfl
  have hexpectedColumns := texts_fields n hkeys 11 rfl
  have hchecks := texts_fields n hkeys 12 rfl
  rw [writeAs, Naming.object, read, object]
  dsimp only
  rw [htitle, hdescription, hstarter, hsolution, hhints, hlanguage, htests, htables, hrequired,
    hforbidden, hexpectedTables, hexpectedColumns, hchecks]
  rfl

end Writing

/-- The choice of the outer name of every key. -/
def outerNames : Naming where
  name _ k := k.outer
  name_eq _ _ := .inl rfl

lemma list_outerNames {α : Type} (write : Naming → α → Value) (items : List α) :
    outerNames.list write items = .list (items.map (write outerNames)) := by
  rw [Naming.list, Value.list.injEq]
  exact List.ext_getElem (by simp) fun i _ _ => by
    rw [List.getElem_mapIdx, List.getElem_map]
    rfl

lemma writeTablesAs_outerNames : writeTablesAs outerNames = writeTables := by
  have htable : Table.writeAs outerNames = Table.write := by
    funext t
    have hcolumns := list_outerNames Column.writeAs t.columns
    rw [Table.writeAs, Table.entries]
    change outerNames.object [(_, _), (_, outerNames.list _ _)] = _
    rw [hcolumns]
    rfl
  funext ts
  have htables := list_outerNames Table.writeAs ts
  change outerNames.object [(_, outerNames.list _ _)] = _
  rw [htables, htable]
  rfl

/-- An exercise is told to others under the outer names. -/
lemma writeAs_outerNames (e : Exercise) : e.writeAs outerNames = e.write := by
  have htests : outerNames.list TestCase.writeAs = fun ts => .list (ts.map TestCase.write) :=
    funext fun ts => list_outerNames TestCase.writeAs ts
  rw [write, ← htests, ← writeTablesAs_outerNames]
  rfl

lemma check_of_withDefault {α : Type} {fields : List (String × Value)} {k : Key} {d a : α}
    {f : Value → Reading α} {g : α → Option Refusal} (hd : g d = none)
    (h : withDefault fields k d (fun v => (f v).check g) = .ok a) : g a = none := by
  rw [withDefault] at h
  cases hfind : find? fields k with
  | none =>
    rw [hfind] at h
    cases h
    exact hd
  | some entry =>
    rw [hfind] at h
    exact (check_eq_ok_iff.1 (under_eq_ok_iff.1 h)).2

lemma check_of_required {α : Type} {fields : List (String × Value)} {k : Key} {a : α}
    {f : Value → Reading α} {g : α → Option Refusal}
    (h : required fields k (fun v => (f v).check g) = .ok a) : g a = none := by
  rw [required] at h
  cases hfind : find? fields k with
  | none =>
    rw [hfind] at h
    cases h
  | some entry =>
    rw [hfind] at h
    exact (check_eq_ok_iff.1 (under_eq_ok_iff.1 h)).2

/-- Every exercise that is read is admissible. -/
lemma admissible_of_read {v : Value} {e : Exercise} (h : read v = .ok e) : e.Admissible := by
  cases v with
  | object fields =>
    obtain ⟨_, checks, h12, -, rfl⟩ := seq_eq_ok_iff.1 h
    obtain ⟨_, columns, h11, -, rfl⟩ := seq_eq_ok_iff.1 h12
    obtain ⟨_, tables, h10, -, rfl⟩ := seq_eq_ok_iff.1 h11
    obtain ⟨_, forbidden, h9, hforbidden, rfl⟩ := seq_eq_ok_iff.1 h10
    obtain ⟨_, required, h8, -, rfl⟩ := seq_eq_ok_iff.1 h9
    obtain ⟨_, schema, h7, -, rfl⟩ := seq_eq_ok_iff.1 h8
    obtain ⟨_, tests, h6, -, rfl⟩ := seq_eq_ok_iff.1 h7
    obtain ⟨_, language, h5, -, rfl⟩ := seq_eq_ok_iff.1 h6
    obtain ⟨_, hints, h4, -, rfl⟩ := seq_eq_ok_iff.1 h5
    obtain ⟨_, solution, h3, hsolution, rfl⟩ := seq_eq_ok_iff.1 h4
    obtain ⟨_, starter, h2, -, rfl⟩ := seq_eq_ok_iff.1 h3
    obtain ⟨_, description, h1, -, rfl⟩ := seq_eq_ok_iff.1 h2
    obtain ⟨title, -, rfl⟩ := map_eq_ok_iff.1 h1
    exact ⟨check_of_required hsolution, check_of_withDefault rfl hforbidden⟩
  | _ => cases h

/-! ## Exercises that read alike -/

/-- The objects agree on what is read of a column. -/
inductive Column.Alike : Value → Value → Prop
  | refl (v : Value) : Alike v v
  | object {fields fields' : List (String × Value)} (name : AgreeOn Eq fields fields' (key "name"))
      (type : AgreeOn Eq fields fields' (key "type"))
      (nullable : AgreeOn Eq fields fields' (key "nullable")) :
      Alike (.object fields) (.object fields')

/-- The objects agree on what is read of a table. -/
inductive Table.Alike : Value → Value → Prop
  | refl (v : Value) : Alike v v
  | object {fields fields' : List (String × Value)} (name : AgreeOn Eq fields fields' (key "name"))
      (columns : AgreeOn (ListAlike Column.Alike) fields fields' (key "columns")) :
      Alike (.object fields) (.object fields')

/-- The objects agree on what is read of the tables of an exercise. -/
inductive TablesAlike : Value → Value → Prop
  | refl (v : Value) : TablesAlike v v
  | object {fields fields' : List (String × Value)}
      (tables : AgreeOn (ListAlike Table.Alike) fields fields' (key "tables")) :
      TablesAlike (.object fields) (.object fields')

/-- The objects agree on what is read of a test case. -/
inductive TestCase.Alike : Value → Value → Prop
  | refl (v : Value) : Alike v v
  | object {fields fields' : List (String × Value)} (name : AgreeOn Eq fields fields' (key "name"))
      (shouldContain : AgreeOn Eq fields fields' ⟨"shouldContain", "should_contain"⟩)
      (shouldNotContain : AgreeOn Eq fields fields' ⟨"shouldNotContain", "should_not_contain"⟩)
      (expectedColumns : AgreeOn Eq fields fields' ⟨"expectedColumns", "expected_columns"⟩)
      (weight : AgreeOn Eq fields fields' (key "weight")) :
      Alike (.object fields) (.object fields')

/-- The objects agree on what is read of an exercise: of each key they have the same under its outer
name, or else under its plain one, and so in all objects further in. -/
inductive Alike : Value → Value → Prop
  | refl (v : Value) : Alike v v
  | object {fields fields' : List (String × Value)}
      (title : AgreeOn Eq fields fields' (key "title"))
      (description : AgreeOn Eq fields fields' (key "description"))
      (starterCode : AgreeOn Eq fields fields' ⟨"starterCode", "starter_code"⟩)
      (solution : AgreeOn Eq fields fields' (key "solution"))
      (hints : AgreeOn Eq fields fields' (key "hints"))
      (language : AgreeOn Eq fields fields' (key "language"))
      (testCases : AgreeOn (ListAlike TestCase.Alike) fields fields' ⟨"testCases", "test_cases"⟩)
      (tables : AgreeOn TablesAlike fields fields' ⟨"schema", "table_schema"⟩)
      (requiredClauses : AgreeOn Eq fields fields' ⟨"requiredClauses", "required_clauses"⟩)
      (forbiddenPatterns : AgreeOn Eq fields fields' ⟨"forbiddenPatterns", "forbidden_patterns"⟩)
      (expectedTables : AgreeOn Eq fields fields' ⟨"expectedTables", "expected_tables"⟩)
      (expectedColumns : AgreeOn Eq fields fields' ⟨"expectedColumns", "expected_columns"⟩)
      (enabledChecks : AgreeOn Eq fields fields' ⟨"enabledChecks", "enabled_checks"⟩) :
      Alike (.object fields) (.object fields')

lemma respects_column : Respects Column.Alike readColumn where
  read_eq h := by
    cases h with
    | refl => rfl
    | object name type nullable =>
      rw [readColumn, object, object, name.required (respects_eq _), type.required (respects_eq _),
        nullable.optionally (respects_eq _)]
  null_iff h := by
    cases h with
    | refl => rfl
    | object => constructor <;> rintro ⟨⟩

lemma respects_table : Respects Table.Alike readTable where
  read_eq h := by
    cases h with
    | refl => rfl
    | object name columns =>
      rw [readTable, object, object, name.required (respects_eq _),
        columns.withDefault respects_column.list]
  null_iff h := by
    cases h with
    | refl => rfl
    | object => constructor <;> rintro ⟨⟩

lemma respects_tables : Respects TablesAlike readTables where
  read_eq h := by
    cases h with
    | refl => rfl
    | object tables => rw [readTables, object, object, tables.withDefault respects_table.list]
  null_iff h := by
    cases h with
    | refl => rfl
    | object => constructor <;> rintro ⟨⟩

lemma texts_congr {fields fields' : List (String × Value)} {k : Key}
    (h : AgreeOn Eq fields fields' k) : texts fields k = texts fields' k :=
  h.optionally (respects_eq _)

lemma respects_testCase : Respects TestCase.Alike readTestCase where
  read_eq h := by
    cases h with
    | refl => rfl
    | object name shouldContain shouldNotContain expectedColumns weight =>
      rw [readTestCase, object, object, name.required (respects_eq _), texts_congr shouldContain,
        texts_congr shouldNotContain, texts_congr expectedColumns,
        weight.optionally (respects_eq _)]
  null_iff h := by
    cases h with
    | refl => rfl
    | object => constructor <;> rintro ⟨⟩

lemma read_congr {v v' : Value} (h : Alike v v') : read v = read v' := by
  cases h with
  | refl => rfl
  | object title description starterCode solution hints language testCases tables requiredClauses
      forbiddenPatterns expectedTables expectedColumns enabledChecks =>
    rw [read, object, object]
    dsimp only
    rw [title.withDefault (respects_eq _), description.withDefault (respects_eq _),
      starterCode.withDefault (respects_eq _), solution.required (respects_eq _),
      hints.withDefault (respects_eq _), language.withDefault (respects_eq _),
      testCases.optionally respects_testCase.list, tables.optionally respects_tables,
      texts_congr requiredClauses, forbiddenPatterns.withDefault (respects_eq _),
      texts_congr expectedTables, texts_congr expectedColumns, texts_congr enabledChecks]

/-- An exercise that has been read is read back from an object with all its fields, each under
either of its names, at each level.  Objects that differ in nothing but fields of other names, and
fields under a plain name where there is one under the outer name, are read alike. -/
theorem read_encoding :
    (∀ v e, read v = .ok e → ∀ n : Naming, read (e.writeAs n) = .ok e) ∧
      ∀ v v', Alike v v' → read v = read v' :=
  ⟨fun _ _ h n => read_writeAs n (admissible_of_read h), fun _ _ => read_congr⟩

/-- The choice of plain names in the exercise itself, and of outer names further in. -/
def plainOutside : Naming where
  name path k := if path.isEmpty then k.plain else k.outer
  name_eq path k := by
    cases path with
    | nil => exact .inr rfl
    | cons => exact .inl rfl

theorem read_selectColumns :
    read Sample.selectColumns.write = .ok Sample.selectColumns ∧
      read (Sample.selectColumns.writeAs plainOutside) = .ok Sample.selectColumns ∧
        Alike (.object [("solution", .string "SELECT 1"), ("starterCode", .string "--")])
          (.object [("starterCode", .string "--"), ("author", .null), ("starter_code", .whole 3),
            ("solution", .string "SELECT 1")]) := by
  have hread : read Sample.selectColumns.write = .ok Sample.selectColumns := by
    rw [← writeAs_outerNames]
    exact read_writeAs outerNames ⟨by decide +kernel, by decide +kernel⟩
  refine ⟨hread, read_encoding.1 _ _ hread plainOutside, ?_⟩
  apply Alike.object
  case starterCode => exact ⟨.some rfl, nofun⟩
  case solution => exact ⟨.some rfl, nofun⟩
  all_goals exact ⟨.none, fun _ => .none⟩

end QueryTutor.Exercise
