import DualSleeve.Exchange.Http
import DualSleeve.Library.Csv
import DualSleeve.Strategies.SleeveBReplay.Theorems

namespace DualSleeve

open Library Library.Raise

-- What stops the loading of a file of bars.
inductive CsvLoadError where
  | fieldLimit
  | keyError (column : String)
  | invalidOperation
  deriving DecidableEq

-- The limit of the `csv` module for the length of a field.
def csvFieldLimit : ℕ := 131072

-- `next(reader)`
def csvRecord (fields : List (List Char)) : Except CsvLoadError (List String) :=
  if ∀ field ∈ fields, field.length ≤ csvFieldLimit then .ok (fields.map String.ofList) else .error .fieldLimit

-- `row[column]` of a `csv.DictReader`: the last column of a name counts, and a short row has
-- nothing in the columns it lacks.
def rowItem (columns row : List String) (column : String) : Except CsvLoadError (Option String) :=
  match (columns.zip (row.map some ++ List.replicate columns.length none)).reverse.lookup column with
  | some item => .ok item
  | none => .error (.keyError column)

-- `str(item)`
def itemText (item : Option String) : String := item.getD "None"

-- `Decimal(str(row[column]))`
def rowDecimal (columns row : List String) (column : String) : Except CsvLoadError ℚ := do
  let item ← rowItem columns row column
  match decimal (itemText item) with
  | .ok value => return value
  | .error _ => throw .invalidOperation

def ohlcRow (columns row : List String) : Except CsvLoadError OhlcBar := do
  let timestamp ← rowItem columns row "timestamp"
  let openPrice ← rowDecimal columns row "open"
  let high ← rowDecimal columns row "high"
  let low ← rowDecimal columns row "low"
  let close ← rowDecimal columns row "close"
  return ⟨itemText timestamp, openPrice, high, low, close⟩

-- `load_ohlc_csv`, on the text of the file. Its blank lines after the first line are skipped.
def loadOhlcCsv (text : String) : Except CsvLoadError (List OhlcBar) :=
  match Csv.parse text.toList with
  | [] => .ok []
  | header :: records => do
    let columns ← csvRecord header
    (records.filter (· ≠ [])).mapM fun fields => do
      let row ← csvRecord fields
      ohlcRow columns row

-- The texts of a written record.
def cellTexts (cells : List Csv.Cell) : List String := cells.map fun cell => String.ofList cell.text

-- A record says of the named columns what the bar is.
structure Spells (columns : List String) (cells : List Csv.Cell) (bar : OhlcBar) : Prop where
  timestamp : (columns.zip (cellTexts cells)).lookup "timestamp" = some bar.timestamp
  openPrice : ∃ text, (columns.zip (cellTexts cells)).lookup "open" = some text ∧ decimal text = .ok bar.openPrice
  high : ∃ text, (columns.zip (cellTexts cells)).lookup "high" = some text ∧ decimal text = .ok bar.high
  low : ∃ text, (columns.zip (cellTexts cells)).lookup "low" = some text ∧ decimal text = .ok bar.low
  close : ∃ text, (columns.zip (cellTexts cells)).lookup "close" = some text ∧ decimal text = .ok bar.close

def Fits (cells : List Csv.Cell) : Prop := ∀ cell ∈ cells, cell.text.length ≤ csvFieldLimit

instance (cells : List Csv.Cell) : Decidable (Fits cells) := inferInstanceAs (Decidable (∀ cell ∈ cells, _))

theorem csvRecord_texts {cells : List Csv.Cell} (h : Fits cells) :
    csvRecord (cells.map Csv.Cell.text) = .ok (cellTexts cells) := by
  rw [csvRecord, if_pos fun field hfield => ?_, List.map_map]
  · rfl
  · obtain ⟨cell, hcell, rfl⟩ := List.mem_map.mp hfield
    exact h cell hcell

-- Of columns with different names the last is the first; by induction on the columns.
theorem lookup_reverse_zip {columns row : List String} (hcolumns : columns.Nodup) {column text : String}
    (h : (columns.zip row).lookup column = some text) (missing : ℕ) :
    (columns.zip (row.map some ++ List.replicate missing none)).reverse.lookup column = some (some text) := by
  induction columns generalizing row with
  | nil => cases h
  | cons first columns ih =>
    obtain ⟨hfirst, hcolumns⟩ := List.nodup_cons.mp hcolumns
    cases row with
    | nil => cases h
    | cons item row =>
      rw [List.zip_cons_cons, List.lookup_cons] at h
      rw [List.map_cons, List.cons_append, List.zip_cons_cons, List.reverse_cons, List.lookup_append]
      by_cases heq : column = first
      · subst heq
        rw [beq_self_eq_true] at h
        obtain rfl := Option.some.inj h
        have hnone : (columns.zip (row.map some ++ List.replicate missing none)).reverse.lookup column = none := by
          rw [List.lookup_eq_none_iff]
          intro pair hpair
          have hmem := (List.of_mem_zip (List.mem_reverse.mp hpair)).1
          exact bne_iff_ne.mpr fun he => hfirst (he ▸ hmem)
        rw [hnone]
        simp
      · rw [beq_eq_false_iff_ne.mpr heq] at h
        rw [ih hcolumns h]
        rfl

variable {columns : List String} {cells : List Csv.Cell} {bar : OhlcBar}

theorem rowItem_of_lookup (hcolumns : columns.Nodup) {row : List String} {column text : String}
    (h : (columns.zip row).lookup column = some text) : rowItem columns row column = .ok (some text) := by
  rw [rowItem, lookup_reverse_zip hcolumns h]

theorem rowDecimal_of_lookup (hcolumns : columns.Nodup) {row : List String} {column : String} {value : ℚ}
    (h : ∃ text, (columns.zip row).lookup column = some text ∧ decimal text = .ok value) :
    rowDecimal columns row column = .ok value := by
  obtain ⟨text, htext, hvalue⟩ := h
  rw [rowDecimal, rowItem_of_lookup hcolumns htext, ok_bind, itemText, Option.getD_some, hvalue]
  rfl

theorem ohlcRow_of_spells (hcolumns : columns.Nodup) (h : Spells columns cells bar) :
    ohlcRow columns (cellTexts cells) = .ok bar := by
  rw [ohlcRow, rowItem_of_lookup hcolumns h.timestamp, ok_bind, rowDecimal_of_lookup hcolumns h.openPrice, ok_bind,
    rowDecimal_of_lookup hcolumns h.high, ok_bind, rowDecimal_of_lookup hcolumns h.low, ok_bind,
    rowDecimal_of_lookup hcolumns h.close, ok_bind]
  rfl

theorem mapM_of_spells {records : List (List Csv.Cell)} {bars : List OhlcBar} (hcolumns : columns.Nodup)
    (hfits : ∀ cells ∈ records, Fits cells) (hspells : List.Forall₂ (Spells columns) records bars) :
    (records.map (List.map Csv.Cell.text)).mapM (fun fields => do
      let row ← csvRecord fields
      ohlcRow columns row) = .ok bars := by
  induction hspells with
  | nil => rfl
  | cons hspell _ ih =>
    rw [List.map_cons, List.mapM_cons, csvRecord_texts (hfits _ List.mem_cons_self), ok_bind,
      ohlcRow_of_spells hcolumns hspell, ok_bind, ih fun later hlater => hfits later (List.mem_cons_of_mem _ hlater),
      ok_bind]
    rfl

-- A file in which every record but the blank ones spells a bar is loaded as these bars, in
-- whatever order its columns stand, whatever other columns it has, however its fields are
-- quoted and its lines end.
theorem loadOhlcCsv_written {lineEnd : List Char} (hend : lineEnd ∈ Csv.lineEnds) {header : List Csv.Cell}
    {records : List (List Csv.Cell)} {bars : List OhlcBar} {text : String}
    (hwritten : Csv.Written lineEnd (header :: records) text.toList)
    (hvalid : ∀ cells ∈ header :: records, Csv.ValidRecord cells) (hfits : ∀ cells ∈ header :: records, Fits cells)
    (hcolumns : (cellTexts header).Nodup)
    (hspells : List.Forall₂ (Spells (cellTexts header)) (records.filter (· ≠ [])) bars) :
    loadOhlcCsv text = .ok bars := by
  have hfilter : (records.map (List.map Csv.Cell.text)).filter (· ≠ []) =
      (records.filter (· ≠ [])).map (List.map Csv.Cell.text) := by
    rw [List.filter_map]
    congr 1
    refine List.filter_congr fun cells _ => ?_
    simp
  rw [loadOhlcCsv, Csv.parse_written hend hvalid hwritten, List.map_cons]
  dsimp only
  rw [csvRecord_texts (hfits _ List.mem_cons_self), ok_bind, hfilter]
  exact mapM_of_spells hcolumns (fun cells hcells =>
    hfits cells (List.mem_cons_of_mem _ (List.mem_filter.mp hcells).1)) hspells

-- Two bars under columns in another order, with a volume, a time that holds a comma and a
-- quote, and a blank line.
theorem loadOhlcCsv_written_sample :
    loadOhlcCsv ("close,volume,timestamp,low,high,open\r\n" ++
        "13,7,\x22Mon, \x22\x22open\x22\x22\x22,9,14,10\r\n\r\n12.5,,2024-01-02,8,13,1e1") =
      .ok [⟨"Mon, \x22open\x22", 10, 14, 9, 13⟩, ⟨"2024-01-02", 10, 13, 8, 25 / 2⟩] := by
  let plain (text : String) : Csv.Cell := ⟨text.toList, false⟩
  let header := ["close", "volume", "timestamp", "low", "high", "open"].map plain
  let first := [plain "13", plain "7", ⟨"Mon, \x22open\x22".toList, true⟩, plain "9", plain "14", plain "10"]
  let second := ["12.5", "", "2024-01-02", "8", "13", "1e1"].map plain
  have hwritten : Csv.Written ['\r', '\n'] (header :: [first, [], second]) _ :=
    .inr ⟨[header, first, []], second, rfl, by decide, rfl⟩
  refine loadOhlcCsv_written (by decide) hwritten (by decide +kernel) (by decide +kernel) (by decide +kernel) ?_
  refine .cons ?_ (.cons ?_ .nil)
  · exact ⟨by decide +kernel, ⟨"10", by decide +kernel, by decide +kernel⟩,
      ⟨"14", by decide +kernel, by decide +kernel⟩, ⟨"9", by decide +kernel, by decide +kernel⟩, ⟨"13", by decide +kernel, by decide +kernel⟩⟩
  · exact ⟨by decide +kernel, ⟨"1e1", by decide +kernel, by decide +kernel⟩,
      ⟨"13", by decide +kernel, by decide +kernel⟩, ⟨"8", by decide +kernel, by decide +kernel⟩,
      ⟨"12.5", by decide +kernel, by decide +kernel⟩⟩

end DualSleeve
