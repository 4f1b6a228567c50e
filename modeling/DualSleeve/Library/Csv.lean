import Mathlib.Data.List.Basic

namespace DualSleeve.Library.Csv

-- Records of fields with commas between them, a line each. A field in quotes may hold
-- commas, line ends and doubled quotes.

inductive Place where
  | startRecord
  | startField
  | inField
  | inQuotes
  | afterQuote
  | afterReturn
  deriving DecidableEq

-- What a reader knows: the field and the record it is in, and the records before.
structure Reader where
  place : Place := .startRecord
  field : List Char := []
  record : List (List Char) := []
  records : List (List (List Char)) := []
  deriving DecidableEq

def quote : Char := '\x22'

def isLineEnd (c : Char) : Bool := c = '\n' || c = '\r'

namespace Reader

def add (reader : Reader) (c : Char) : Reader :=
  { reader with place := .inField, field := reader.field ++ [c] }

def save (reader : Reader) : Reader :=
  { reader with place := .startField, field := [], record := reader.record ++ [reader.field] }

-- A record ends; of a return and a new line together the second says nothing more.
def close (reader : Reader) (c : Char) : Reader :=
  { reader with
    place := if c = '\r' then .afterReturn else .startRecord
    record := []
    records := reader.records ++ [reader.record] }

def onField (reader : Reader) (c : Char) : Reader :=
  if isLineEnd c then reader.save.close c
  else if c = quote then { reader with place := .inQuotes }
  else if c = ',' then reader.save
  else reader.add c

-- An empty line is a record without fields.
def onRecord (reader : Reader) (c : Char) : Reader :=
  if isLineEnd c then reader.close c else reader.onField c

def step (reader : Reader) (c : Char) : Reader :=
  match reader.place with
  | .startRecord => reader.onRecord c
  | .afterReturn => if c = '\n' then { reader with place := .startRecord } else reader.onRecord c
  | .startField => reader.onField c
  | .inField =>
    if isLineEnd c then reader.save.close c
    else if c = ',' then reader.save
    else reader.add c
  | .inQuotes =>
    if c = quote then { reader with place := .afterQuote }
    else { reader with field := reader.field ++ [c] }
  | .afterQuote =>
    if c = quote then { reader with place := .inQuotes, field := reader.field ++ [c] }
    else if c = ',' then reader.save
    else if isLineEnd c then reader.save.close c
    else reader.add c

-- A record that the end of the text cuts off counts as it is.
def finish (reader : Reader) : List (List (List Char)) :=
  match reader.place with
  | .startRecord => reader.records
  | .afterReturn => reader.records
  | _ => reader.records ++ [reader.record ++ [reader.field]]

end Reader

def parse (text : List Char) : List (List (List Char)) := (text.foldl Reader.step {}).finish

-- A field as a writer puts it, in quotes or plain.
structure Cell where
  text : List Char
  quoted : Bool
  deriving DecidableEq

def escape (c : Char) : List Char := if c = quote then [quote, quote] else [c]

def Cell.encode (cell : Cell) : List Char :=
  if cell.quoted then quote :: (cell.text.flatMap escape ++ [quote]) else cell.text

-- A plain field holds no comma and no line end and starts with no quote.
def Cell.Valid (cell : Cell) : Prop :=
  cell.quoted = false → (∀ c ∈ cell.text, c ≠ ',' ∧ isLineEnd c = false) ∧ cell.text.head? ≠ some quote

-- Goes through the characters of the text, not through all there are.
instance (cell : Cell) : Decidable cell.Valid :=
  have := List.decidableBAll (fun c => c ≠ ',' ∧ isLineEnd c = false) cell.text
  inferInstanceAs (Decidable (cell.quoted = false → _))

def encodeCells : List Cell → List Char
  | [] => []
  | [cell] => cell.encode
  | cell :: next :: rest => cell.encode ++ ',' :: encodeCells (next :: rest)

-- A single empty field has to be quoted, not to look like an empty line.
def ValidRecord (cells : List Cell) : Prop := (∀ cell ∈ cells, cell.Valid) ∧ cells ≠ [⟨[], false⟩]

instance (cells : List Cell) : Decidable (ValidRecord cells) := inferInstanceAs (Decidable (_ ∧ _))

def lineEnds : List (List Char) := [['\n'], ['\r', '\n'], ['\r']]

def encode (lineEnd : List Char) (records : List (List Cell)) : List Char :=
  records.flatMap fun cells => encodeCells cells ++ lineEnd

-- The text of a table, whose last line need not end.
def Written (lineEnd : List Char) (table : List (List Cell)) (text : List Char) : Prop :=
  text = encode lineEnd table ∨
    ∃ before last, table = before ++ [last] ∧ last ≠ [] ∧ text = encode lineEnd before ++ encodeCells last

-- What the reader makes of each part of a written table.

variable {place : Place} {field : List Char} {record : List (List Char)} {records : List (List (List Char))}

theorem foldl_escape (text : List Char) :
    (text.flatMap escape).foldl Reader.step ⟨.inQuotes, field, record, records⟩ =
      ⟨.inQuotes, field ++ text, record, records⟩ := by
  induction text generalizing field with
  | nil => rw [List.append_nil]; rfl
  | cons c text ih =>
    rw [List.flatMap_cons, List.foldl_append]
    have hchar : (escape c).foldl Reader.step ⟨.inQuotes, field, record, records⟩ =
        ⟨.inQuotes, field ++ [c], record, records⟩ := by
      unfold escape
      by_cases hquote : c = quote
      · rw [if_pos hquote, hquote]
        rfl
      · rw [if_neg hquote, List.foldl_cons, List.foldl_nil, Reader.step]
        exact if_neg hquote
    rw [hchar, ih, List.append_assoc, List.singleton_append]

theorem foldl_plain {text : List Char} (h : ∀ c ∈ text, c ≠ ',' ∧ isLineEnd c = false) :
    text.foldl Reader.step ⟨.inField, field, record, records⟩ = ⟨.inField, field ++ text, record, records⟩ := by
  induction text generalizing field with
  | nil => rw [List.append_nil]; rfl
  | cons c text ih =>
    obtain ⟨hcomma, hline⟩ := h c List.mem_cons_self
    have hstep : Reader.step ⟨.inField, field, record, records⟩ c = ⟨.inField, field ++ [c], record, records⟩ := by
      simp [Reader.step, hline, hcomma, Reader.add]
    rw [List.foldl_cons, hstep, ih fun later hlater => h later (List.mem_cons_of_mem c hlater), List.append_assoc,
      List.singleton_append]

-- Where a reader may be at the end of a field.
def Place.EndsField (place : Place) : Prop := place = .startField ∨ place = .inField ∨ place = .afterQuote

theorem foldl_cell {cell : Cell} (h : cell.Valid) (record : List (List Char)) (records : List (List (List Char))) :
    ∃ place : Place, place.EndsField ∧ cell.encode.foldl Reader.step ⟨.startField, [], record, records⟩ =
      ⟨place, cell.text, record, records⟩ := by
  obtain ⟨text, quoted⟩ := cell
  cases quoted with
  | true =>
    refine ⟨.afterQuote, .inr (.inr rfl), ?_⟩
    change ((quote :: (text.flatMap escape ++ [quote])).foldl Reader.step _) = _
    have hopen : Reader.step ⟨.startField, [], record, records⟩ quote = ⟨.inQuotes, [], record, records⟩ := rfl
    rw [List.foldl_cons, hopen, List.foldl_append, foldl_escape]
    rfl
  | false =>
    obtain ⟨hplain, hhead⟩ := h rfl
    cases text with
    | nil => exact ⟨.startField, .inl rfl, rfl⟩
    | cons c text =>
      refine ⟨.inField, .inr (.inl rfl), ?_⟩
      obtain ⟨hcomma, hline⟩ := hplain c List.mem_cons_self
      have hquote : c ≠ quote := fun he => hhead (congrArg some he)
      have hstep : Reader.step ⟨.startField, [], record, records⟩ c = ⟨.inField, [c], record, records⟩ := by
        simp [Reader.step, Reader.onField, hline, hcomma, hquote, Reader.add]
      change (c :: text).foldl Reader.step _ = _
      rw [List.foldl_cons, hstep, foldl_plain fun later hlater => hplain later (List.mem_cons_of_mem c hlater)]
      rfl

theorem step_comma (h : place.EndsField) :
    Reader.step ⟨place, field, record, records⟩ ',' = ⟨.startField, [], record ++ [field], records⟩ := by
  rcases h with rfl | rfl | rfl <;> rfl

-- The reader between two records, where it does not wait for the rest of a line end.
def Idle (lineEnd : List Char) (place : Place) : Prop :=
  place = .startRecord ∨ place = .afterReturn ∧ lineEnd = ['\r']

theorem foldl_lineEnd {lineEnd : List Char} (hend : lineEnd ∈ lineEnds) (h : place.EndsField) (field : List Char)
    (record : List (List Char)) (records : List (List (List Char))) :
    ∃ next, Idle lineEnd next ∧ lineEnd.foldl Reader.step ⟨place, field, record, records⟩ =
      ⟨next, [], [], records ++ [record ++ [field]]⟩ := by
  simp only [lineEnds, List.mem_cons, List.not_mem_nil, or_false] at hend
  rcases hend with rfl | rfl | rfl
  · exact ⟨.startRecord, .inl rfl, by rcases h with rfl | rfl | rfl <;> rfl⟩
  · exact ⟨.startRecord, .inl rfl, by rcases h with rfl | rfl | rfl <;> rfl⟩
  · exact ⟨.afterReturn, .inr ⟨rfl, rfl⟩, by rcases h with rfl | rfl | rfl <;> rfl⟩

theorem foldl_blank {lineEnd : List Char} (hend : lineEnd ∈ lineEnds) (h : Idle lineEnd place)
    (records : List (List (List Char))) :
    ∃ next, Idle lineEnd next ∧ lineEnd.foldl Reader.step ⟨place, [], [], records⟩ =
      ⟨next, [], [], records ++ [[]]⟩ := by
  simp only [lineEnds, List.mem_cons, List.not_mem_nil, or_false] at hend
  rcases h with rfl | ⟨rfl, rfl⟩
  · rcases hend with rfl | rfl | rfl
    · exact ⟨.startRecord, .inl rfl, rfl⟩
    · exact ⟨.startRecord, .inl rfl, rfl⟩
    · exact ⟨.afterReturn, .inr ⟨rfl, rfl⟩, rfl⟩
  · exact ⟨.afterReturn, .inr ⟨rfl, rfl⟩, rfl⟩

theorem foldl_cells {cells : List Cell} (hne : cells ≠ []) (h : ∀ cell ∈ cells, cell.Valid)
    (record : List (List Char)) (records : List (List (List Char))) :
    ∃ (place : Place) (field : List Char) (fields : List (List Char)), place.EndsField ∧
      fields ++ [field] = record ++ cells.map Cell.text ∧
      (encodeCells cells).foldl Reader.step ⟨.startField, [], record, records⟩ = ⟨place, field, fields, records⟩ := by
  induction cells generalizing record with
  | nil => exact absurd rfl hne
  | cons cell cells ih =>
    obtain ⟨place, hplace, hcell⟩ := foldl_cell (h cell List.mem_cons_self) record records
    cases cells with
    | nil => exact ⟨place, cell.text, record, hplace, rfl, hcell⟩
    | cons next rest =>
      obtain ⟨last, field, fields, hlast, hfields, hrest⟩ := ih (List.cons_ne_nil next rest)
        (fun later hlater => h later (List.mem_cons_of_mem cell hlater)) (record ++ [cell.text])
      refine ⟨last, field, fields, hlast, ?_, ?_⟩
      · rw [hfields, List.append_assoc]
        rfl
      · rw [encodeCells, List.foldl_append, hcell, List.foldl_cons, step_comma hplace, hrest]

-- A written record starts with neither nothing nor a line end.
theorem encodeCells_start {cells : List Cell} (hne : cells ≠ []) (h : ValidRecord cells) :
    ∃ c rest, encodeCells cells = c :: rest ∧ isLineEnd c = false := by
  cases cells with
  | nil => exact absurd rfl hne
  | cons cell cells =>
    obtain ⟨text, quoted⟩ := cell
    have hcell := h.1 _ List.mem_cons_self
    cases quoted with
    | true => cases cells <;> exact ⟨quote, _, rfl, rfl⟩
    | false =>
      cases text with
      | nil =>
        cases cells with
        | nil => exact absurd rfl h.2
        | cons next rest => exact ⟨',', _, rfl, rfl⟩
      | cons c text => cases cells <;> exact ⟨c, _, rfl, ((hcell rfl).1 c List.mem_cons_self).2⟩

theorem step_idle {lineEnd : List Char} (hidle : Idle lineEnd place) {c : Char} (h : isLineEnd c = false) :
    Reader.step ⟨place, [], [], records⟩ c = Reader.step ⟨.startField, [], [], records⟩ c := by
  have hnewline : c ≠ '\n' := by
    rintro rfl
    cases h
  have hfield : Reader.onField ⟨place, [], [], records⟩ c = Reader.onField ⟨.startField, [], [], records⟩ c := by
    unfold Reader.onField
    rw [h]
    split_ifs <;> rfl
  rcases hidle with rfl | ⟨rfl, -⟩
  · simpa [Reader.step, Reader.onRecord, h] using hfield
  · simpa [Reader.step, Reader.onRecord, h, hnewline] using hfield

theorem foldl_idle {lineEnd : List Char} (hidle : Idle lineEnd place) {cells : List Cell} (hne : cells ≠ [])
    (h : ValidRecord cells) (records : List (List (List Char))) :
    ∃ (last : Place) (field : List Char) (fields : List (List Char)), last.EndsField ∧
      fields ++ [field] = cells.map Cell.text ∧
      (encodeCells cells).foldl Reader.step ⟨place, [], [], records⟩ = ⟨last, field, fields, records⟩ := by
  obtain ⟨last, field, fields, hlast, hfields, hcells⟩ := foldl_cells hne h.1 [] records
  obtain ⟨c, rest, hstart, hline⟩ := encodeCells_start hne h
  refine ⟨last, field, fields, hlast, hfields, ?_⟩
  rw [hstart, List.foldl_cons] at hcells ⊢
  rw [step_idle hidle hline, hcells]

theorem foldl_record {lineEnd : List Char} (hend : lineEnd ∈ lineEnds) (hidle : Idle lineEnd place)
    {cells : List Cell} (h : ValidRecord cells) (records : List (List (List Char))) :
    ∃ next, Idle lineEnd next ∧ (encodeCells cells ++ lineEnd).foldl Reader.step ⟨place, [], [], records⟩ =
      ⟨next, [], [], records ++ [cells.map Cell.text]⟩ := by
  by_cases hne : cells = []
  · subst hne
    exact foldl_blank hend hidle records
  · obtain ⟨last, field, fields, hlast, hfields, hcells⟩ := foldl_idle hidle hne h records
    obtain ⟨next, hnext, hline⟩ := foldl_lineEnd hend hlast field fields records
    refine ⟨next, hnext, ?_⟩
    rw [List.foldl_append, hcells, hline, hfields]

theorem foldl_encode {lineEnd : List Char} (hend : lineEnd ∈ lineEnds) (hidle : Idle lineEnd place)
    {table : List (List Cell)} (h : ∀ cells ∈ table, ValidRecord cells) (records : List (List (List Char))) :
    ∃ next, Idle lineEnd next ∧ (encode lineEnd table).foldl Reader.step ⟨place, [], [], records⟩ =
      ⟨next, [], [], records ++ table.map (List.map Cell.text)⟩ := by
  induction table generalizing place records with
  | nil => exact ⟨place, hidle, by rw [List.map_nil, List.append_nil]; rfl⟩
  | cons cells table ih =>
    obtain ⟨next, hnext, hrecord⟩ := foldl_record hend hidle (h cells List.mem_cons_self) records
    obtain ⟨last, hlast, htable⟩ := ih hnext
      (fun later hlater => h later (List.mem_cons_of_mem cells hlater)) (records ++ [cells.map Cell.text])
    refine ⟨last, hlast, ?_⟩
    unfold encode at htable ⊢
    rw [List.flatMap_cons, List.foldl_append, hrecord, htable, List.map_cons, List.append_assoc,
      List.singleton_append]

-- A written table is read back, whatever of it is in quotes and whichever way its lines end.
theorem parse_written {lineEnd : List Char} (hend : lineEnd ∈ lineEnds) {table : List (List Cell)}
    {text : List Char} (h : ∀ cells ∈ table, ValidRecord cells) (hwritten : Written lineEnd table text) :
    parse text = table.map (List.map Cell.text) := by
  unfold parse
  rcases hwritten with rfl | ⟨before, last, rfl, hne, rfl⟩
  · obtain ⟨next, hnext, htable⟩ := foldl_encode hend (.inl rfl) h []
    refine (congrArg Reader.finish htable).trans ?_
    rcases hnext with rfl | ⟨rfl, -⟩ <;> rfl
  · obtain ⟨next, hnext, hbefore⟩ := foldl_encode hend (.inl rfl)
      (fun cells hcells => h cells (List.mem_append_left _ hcells)) []
    obtain ⟨place, field, fields, hplace, hfields, hlast⟩ :=
      foldl_idle hnext hne (h last (List.mem_append_right _ (List.mem_singleton_self last)))
        ([] ++ before.map (List.map Cell.text))
    rw [List.foldl_append, List.map_append, List.map_singleton, ← hfields]
    refine (congrArg (fun reader => Reader.finish (List.foldl Reader.step reader (encodeCells last))) hbefore).trans ?_
    rw [hlast]
    rcases hplace with rfl | rfl | rfl <;> rfl

end DualSleeve.Library.Csv
