import JsonSeek.Report.Export

/-!
# Exported tables are read back

A reader of comma-separated values goes through a text character by character. Outside of quotes a
comma ends a field and a line feed ends a record; within quotes every character stands for itself,
and a quote is written twice. What it reads from written records are these records
(`read_write`), and it reads the same from an exported table, which lacks the last line feed
(`read_exportResults_csv`).
-/

namespace JsonSeek.Report

namespace Csv

/-! ## Reading -/

/-- Where a reader stands: in front of a field, in one without quotes, within quotes, or behind a
quote that closes them unless another one follows. -/
inductive Position
  | start
  | plain
  | quoted
  | closed
deriving DecidableEq

/-- What has been read: whole records, whole fields of the next one, and a part of the next
field. -/
structure Reader where
  records : List (List String)
  fields : List String
  field : List Char
  position : Position

namespace Reader

/-- Nothing has been read of a record, or of anything behind the given ones. -/
def behind (records : List (List String)) : Reader := ⟨records, [], [], .start⟩

/-- The reader in front of the next field of a record. -/
def endField (r : Reader) : Reader := ⟨r.records, r.fields ++ [String.ofList r.field], [], .start⟩

/-- The reader in front of the next record. -/
def endRecord (r : Reader) : Reader := .behind (r.records ++ [r.endField.fields])

/-- The reader behind one more character of a field. -/
def push (r : Reader) (c : Char) (position : Position) : Reader :=
  { r with field := r.field ++ [c], position }

/-- Reads a character outside of quotes. -/
def stepPlain (r : Reader) (c : Char) : Reader :=
  if c = ',' then r.endField else if c = '\n' then r.endRecord else r.push c .plain

/-- Reads a character. -/
def step (r : Reader) (c : Char) : Reader :=
  match r.position with
  | .start => if c = '"' then { r with position := .quoted } else r.stepPlain c
  | .plain => r.stepPlain c
  | .quoted => if c = '"' then { r with position := .closed } else r.push c .quoted
  | .closed => if c = '"' then r.push c .quoted else r.stepPlain c

/-- The records that have been read at the end of a text. The last one may lack its line feed. -/
def finish (r : Reader) : List (List String) :=
  if r.position = .start ∧ r.fields = [] then r.records else r.endRecord.records

end Reader

/-- The records of a text. -/
def read (text : List Char) : List (List String) := (text.foldl Reader.step (.behind [])).finish

/-! ## One field -/

section

variable (records : List (List String)) (fields : List String)

theorem foldl_step_escapeChar (read : List Char) (c : Char) :
    (escapeChar c).foldl Reader.step ⟨records, fields, read, .quoted⟩ =
      ⟨records, fields, read ++ [c], .quoted⟩ := by
  unfold escapeChar
  by_cases quote : c = '"'
  · subst quote
    rfl
  · rw [if_neg (by simpa using quote)]
    exact if_neg quote

/-- Within quotes a field is read as it was before its quotes were doubled. -/
theorem foldl_step_quoted (read field : List Char) :
    (field.flatMap escapeChar).foldl Reader.step ⟨records, fields, read, .quoted⟩ =
      ⟨records, fields, read ++ field, .quoted⟩ := by
  induction field generalizing read with
  | nil => simp
  | cons c field ih =>
      rw [List.flatMap_cons, List.foldl_append, foldl_step_escapeChar, ih, List.append_assoc,
        List.singleton_append]

theorem step_of_ordinary {c : Char} (ordinary : isSpecial c = false) (read : List Char)
    {position : Position} (outside : position = .start ∨ position = .plain) :
    Reader.step ⟨records, fields, read, position⟩ c = ⟨records, fields, read ++ [c], .plain⟩ := by
  -- only that these three are special counts, so that a writer may quote more fields
  have differs {d : Char} (special : isSpecial d = true) : c ≠ d := by
    rintro rfl
    cases ordinary.symm.trans special
  have comma : c ≠ ',' := differs (by decide)
  have quote : c ≠ '"' := differs (by decide)
  have newline : c ≠ '\n' := differs (by decide)
  have pushed : Reader.stepPlain ⟨records, fields, read, position⟩ c =
      ⟨records, fields, read ++ [c], .plain⟩ := by
    rw [Reader.stepPlain, if_neg comma, if_neg newline]
    rfl
  obtain rfl | rfl := outside
  · exact (if_neg quote).trans pushed
  · exact pushed

/-- Without quotes a field is read as it stands. -/
theorem foldl_step_plain (read : List Char) {field : List Char}
    (ordinary : ∀ c ∈ field, isSpecial c = false) :
    field.foldl Reader.step ⟨records, fields, read, .plain⟩ =
      ⟨records, fields, read ++ field, .plain⟩ := by
  induction field generalizing read with
  | nil => simp
  | cons c field ih =>
      obtain ⟨first, others⟩ := List.forall_mem_cons.mp ordinary
      rw [List.foldl_cons, step_of_ordinary records fields first read (Or.inr rfl), ih _ others,
        List.append_assoc, List.singleton_append]

/-- A written field is read in full, and the reader does not take it to go on within quotes. -/
theorem foldl_step_writeField (field : List Char) :
    ∃ position, position ≠ .quoted ∧
      (writeField field).foldl Reader.step ⟨records, fields, [], .start⟩ =
        ⟨records, fields, field, position⟩ := by
  unfold writeField
  by_cases special : field.any isSpecial = true
  · refine ⟨.closed, Position.noConfusion, ?_⟩
    have opened : Reader.step ⟨records, fields, [], .start⟩ '"' =
        ⟨records, fields, [], .quoted⟩ := rfl
    rw [if_pos special, List.foldl_cons, opened, List.foldl_append, foldl_step_quoted]
    rfl
  · have ordinary : ∀ c ∈ field, isSpecial c = false := by simpa using special
    rw [if_neg special]
    cases field with
    | nil => exact ⟨.start, Position.noConfusion, rfl⟩
    | cons c field =>
        obtain ⟨first, others⟩ := List.forall_mem_cons.mp ordinary
        refine ⟨.plain, Position.noConfusion, ?_⟩
        rw [List.foldl_cons, step_of_ordinary records fields first [] (Or.inl rfl),
          foldl_step_plain records fields _ others]
        rfl

end

/-! ## Records -/

section

variable {r : Reader} (outside : r.position ≠ .quoted)

include outside

theorem step_comma : r.step ',' = r.endField := by
  obtain ⟨records, fields, field, position⟩ := r
  cases position with
  | quoted => contradiction
  | _ => rfl

theorem step_newline : r.step '\n' = r.endRecord := by
  obtain ⟨records, fields, field, position⟩ := r
  cases position with
  | quoted => contradiction
  | _ => rfl

end

/-- A written field and the comma behind it are read as that field. -/
theorem foldl_step_writeField_comma (records : List (List String)) (fields : List String)
    (field : String) :
    (writeField field.toList ++ [',']).foldl Reader.step ⟨records, fields, [], .start⟩ =
      ⟨records, fields ++ [field], [], .start⟩ := by
  obtain ⟨position, outside, read⟩ := foldl_step_writeField records fields field.toList
  rw [List.foldl_append, read, List.foldl_cons, step_comma outside, Reader.endField,
    String.ofList_toList]
  rfl

theorem writeRecord_singleton (field : String) :
    writeRecord [field] = writeField field.toList := List.intercalate_singleton

theorem writeRecord_cons_cons (field next : String) (rest : List String) :
    writeRecord (field :: next :: rest) =
      writeField field.toList ++ [','] ++ writeRecord (next :: rest) := List.intercalate_cons_cons

/-- A written record is read in full. -/
theorem foldl_step_writeRecord (records : List (List String)) (before : List String)
    {fields : List String} (some_field : fields ≠ []) :
    (writeRecord fields ++ ['\n']).foldl Reader.step ⟨records, before, [], .start⟩ =
      .behind (records ++ [before ++ fields]) := by
  induction fields generalizing before with
  | nil => contradiction
  | cons field fields ih =>
      cases fields with
      | nil =>
          obtain ⟨position, outside, read⟩ := foldl_step_writeField records before field.toList
          rw [writeRecord_singleton, List.foldl_append, read, List.foldl_cons, step_newline outside,
            Reader.endRecord, Reader.endField, String.ofList_toList]
          rfl
      | cons next rest =>
          rw [writeRecord_cons_cons, List.append_assoc, List.foldl_append,
            foldl_step_writeField_comma, ih _ (List.cons_ne_nil _ _), List.append_assoc,
            List.singleton_append]

/-- Written records are read in order. -/
theorem foldl_step_write (before : List (List String)) {records : List (List String)}
    (some_field : ∀ fields ∈ records, fields ≠ []) :
    (write records).foldl Reader.step (.behind before) = .behind (before ++ records) := by
  induction records generalizing before with
  | nil => simp [write]
  | cons fields records ih =>
      obtain ⟨first, others⟩ := List.forall_mem_cons.mp some_field
      have split : write (fields :: records) =
          writeRecord fields ++ ['\n'] ++ write records := List.flatMap_cons
      have read := foldl_step_writeRecord before [] first
      rw [List.nil_append] at read
      rw [split, List.foldl_append, Reader.behind, read, ih _ others, List.append_assoc,
        List.singleton_append]

/-- What is read from written records are these records. -/
theorem read_write {records : List (List String)} (some_field : ∀ fields ∈ records, fields ≠ []) :
    read (write records) = records := by
  rw [read, foldl_step_write [] some_field]
  rfl

example : read "a,\"b,\"\"\n\",\r\n,\n".toList = [["a", "b,\"\n", "\r"], ["", ""]] := by
  decide +kernel

/-! ## Without the last line feed -/

/-- A record of several fields that a line feed would end is also ended by the end of the text. -/
theorem finish_eq_of_step_newline {r : Reader} {records : List (List String)}
    {record : List String} (read : r.step '\n' = .behind (records ++ [record]))
    (several : 2 ≤ record.length) : r.finish = records ++ [record] := by
  have outside : r.position ≠ .quoted := by
    intro quoted
    have pushed : r.step '\n' = r.push '\n' .quoted := by
      rw [Reader.step, quoted]
      rfl
    have field : r.field ++ ['\n'] = [] := congrArg Reader.field (pushed.symm.trans read)
    simp at field
  have ended : r.endRecord.records = records ++ [record] := by
    rw [← step_newline outside, read]
    rfl
  have fields : r.fields ≠ [] := by
    intro none
    have last := congrArg List.getLast? ended
    simp only [Reader.endRecord, Reader.behind, Reader.endField, none, List.nil_append,
      List.getLast?_concat, Option.some.injEq] at last
    rw [← last] at several
    contradiction
  rw [Reader.finish, if_neg fun both => fields both.2, ended]

theorem getLast?_writeField_ne (field : List Char) : (writeField field).getLast? ≠ some '\n' := by
  unfold writeField
  by_cases special : field.any isSpecial = true
  · rw [if_pos special, ← List.cons_append, List.getLast?_concat]
    decide
  · rw [if_neg special]
    intro last
    have ordinary : ∀ c ∈ field, isSpecial c = false := by simpa using special
    exact absurd (ordinary _ (List.mem_of_getLast? last)) (by decide)

/-- No record ends with a line feed of its own. -/
theorem getLast?_writeRecord_ne (fields : List String) :
    (writeRecord fields).getLast? ≠ some '\n' := by
  induction fields with
  | nil => decide
  | cons field fields ih =>
      cases fields with
      | nil =>
          rw [writeRecord_singleton]
          exact getLast?_writeField_ne _
      | cons next rest =>
          rw [writeRecord_cons_cons, List.getLast?_append]
          cases last : (writeRecord (next :: rest)).getLast? with
          | none => simp
          | some c => simpa [last] using ih

theorem writeRecord_ne_nil {fields : List String} (several : 2 ≤ fields.length) :
    writeRecord fields ≠ [] := by
  match fields, several with
  | field :: next :: rest, _ => simp [writeRecord_cons_cons]

theorem dropFinalNewlines_concat {text : List Char} (ends : text.getLast? ≠ some '\n') :
    dropFinalNewlines (text ++ ['\n']) = text := by
  have kept : text.reverse.dropWhile (· == '\n') = text.reverse := by
    cases reversed : text.reverse with
    | nil => rfl
    | cons c rest =>
        rw [← List.head?_reverse, reversed, List.head?_cons] at ends
        exact List.dropWhile_cons_of_neg (by simpa using ends)
  have front : (text ++ ['\n']).reverse = '\n' :: text.reverse := List.reverse_concat
  rw [dropFinalNewlines, front, List.dropWhile_cons_of_pos rfl, kept, List.reverse_reverse]

section

variable {records : List (List String)} (several : ∀ fields ∈ records, 2 ≤ fields.length)

include several

/-- Of records with several fields only the last line feed is taken away. -/
theorem dropFinalNewlines_write (some_record : records ≠ []) :
    dropFinalNewlines (write records) ++ ['\n'] = write records := by
  obtain ⟨before, last, rfl⟩ : ∃ before last, records = before ++ [last] :=
    ⟨_, _, (List.dropLast_concat_getLast some_record).symm⟩
  have split : write (before ++ [last]) = write before ++ writeRecord last ++ ['\n'] := by
    simp [write]
  have filled : writeRecord last ≠ [] :=
    writeRecord_ne_nil (several last (List.mem_append_right _ List.mem_cons_self))
  have ends : (write before ++ writeRecord last).getLast? ≠ some '\n' := by
    rw [List.getLast?_append, ne_eq, Option.or_eq_some_iff, not_or]
    exact ⟨getLast?_writeRecord_ne last, fun both => filled (List.getLast?_eq_none_iff.mp both.1)⟩
  rw [split, dropFinalNewlines_concat ends]

/-- Records with several fields are read back although the last line feed is missing. -/
theorem read_dropFinalNewlines_write (some_record : records ≠ []) :
    read (dropFinalNewlines (write records)) = records := by
  have whole := foldl_step_write [] fun fields inside =>
    List.ne_nil_of_length_pos (Nat.lt_of_lt_of_le Nat.two_pos (several fields inside))
  rw [← dropFinalNewlines_write several some_record, List.foldl_append, List.nil_append] at whole
  obtain ⟨before, last, rfl⟩ : ∃ before last, records = before ++ [last] :=
    ⟨_, _, (List.dropLast_concat_getLast some_record).symm⟩
  exact finish_eq_of_step_newline whole
    (several last (List.mem_append_right _ List.mem_cons_self))

end

end Csv

/-- An exported table is read back as its header and one record for each result, field for field and
character for character. It is what is written, without the last line feed, and that makes no
difference to a reader. -/
theorem read_exportResults_csv (indent : Option Int) (results : List Search.Result) :
    let table := ["Path", "Key", "Type", "Value", "Score"] :: results.map fun r =>
      [r.jsonPath, r.key, r.kind, r.value.write .spaced, r.score.generalText]
    Csv.read (exportResults .csv indent results).toList = table ∧
      (exportResults .csv indent results).toList ++ ['\n'] = Csv.write table ∧
      Csv.read (Csv.write table) = table := by
  intro table
  have several : ∀ fields ∈ table, 2 ≤ fields.length := by
    refine List.forall_mem_cons.mpr ⟨by decide, fun fields inside => ?_⟩
    obtain ⟨r, -, rfl⟩ := List.mem_map.mp inside
    exact Nat.le_add_left 2 3
  have exported : (exportResults .csv indent results).toList =
      dropFinalNewlines (Csv.write table) := String.toList_ofList
  rw [exported]
  exact ⟨Csv.read_dropFinalNewlines_write several (List.cons_ne_nil _ _),
    Csv.dropFinalNewlines_write several (List.cons_ne_nil _ _),
    Csv.read_write fun fields inside =>
      List.ne_nil_of_length_pos (Nat.lt_of_lt_of_le Nat.two_pos (several fields inside))⟩

end JsonSeek.Report
